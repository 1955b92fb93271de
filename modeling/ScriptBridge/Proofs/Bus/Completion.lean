import ScriptBridge.Host.Simulated
import ScriptBridge.Proofs.Bus.Schedules

/-!
# Runs of a bridge to their end

A run returns once a shutdown was sent and every pump has stopped. From wherever a schedule has led, going on one after
another makes the run return; and when it has returned, every script has been given its account of all events.
-/
namespace ScriptBridge

/-- So many receives at most are left for a subscriber at the position: one for a loss, and one for each event kept. -/
def Broadcast.remaining (bus : Broadcast) (position : Nat) : Nat :=
  if position < bus.overwritten then bus.kept.length + 1 else bus.tail - position

theorem Broadcast.remaining_le (bus : Broadcast) (position : Nat) : bus.remaining position ≤ bus.kept.length + 1 := by
  rw [remaining, tail]
  split <;> omega

/-- A step of a pump leaves less to receive, unless nothing was left. -/
theorem Pump.Step.remaining_le {host : Host} {bus : Broadcast} {sent : List Event} {pump next : Pump}
    {position moved : Nat} {taken : Option Event} (step : pump.Step host bus sent position next moved taken)
    (carries : bus.Carries sent) (done : pump.stopped = true → position = sent.length) :
    bus.remaining moved ≤ bus.remaining position - 1 := by
  have overwritten := carries.overwritten_eq
  have kept := carries.length_kept
  have atEnd : bus.remaining sent.length = 0 := by
    rw [Broadcast.remaining, if_neg (by omega), Broadcast.tail]
    omega
  cases step with
  | rest stopped =>
    rw [done stopped, atEnd]
  | wait running last =>
    rw [last, atEnd]
  | lose running behind =>
    rw [Broadcast.remaining, if_neg (Nat.lt_irrefl _), Broadcast.remaining, if_pos behind, Broadcast.tail]
    omega
  | answer running oldest there state =>
    rw [Broadcast.remaining, if_neg (by omega), Broadcast.remaining, if_neg (by omega)]
    omega

namespace Bridge

/-- A run has returned: a shutdown was sent, and every pump has stopped. -/
def Returned (bridge : Bridge) : Prop :=
  bridge.finished = true ∧ ∀ pump ∈ bridge.pumps, pump.stopped = true

section Lasting
variable {bridge : Bridge} {host : Host}

theorem follow_append_value (first second : List Turn) (state : host.State) :
    ((bridge.follow (first ++ second)).run host state).value =
      ((((bridge.follow first).run host state).value.follow second).run host
        ((bridge.follow first).run host state).state).value := by
  induction first generalizing bridge state with
  | nil => rfl
  | cons next rest ih => simp only [List.cons_append, follow, Program.run_bind, ih]

/-- No turn takes the shutdown back. -/
theorem finished_turn (finished : bridge.finished = true) (next : Turn) (state : host.State) :
    ((bridge.turn next).run host state).value.finished = true := by
  cases next with
  | forward =>
    rw [turn, forward_of_finished finished]
    exact finished
  | pump index =>
    rw [turn]
    cases bridge.pumps[index]? with
    | none => exact finished
    | some pump => simpa only [Program.run_bind, Program.run_pure] using finished

theorem finished_follow (finished : bridge.finished = true) (schedule : List Turn) (state : host.State) :
    ((bridge.follow schedule).run host state).value.finished = true := by
  induction schedule generalizing bridge state with
  | nil => exact finished
  | cons next rest ih =>
    simp only [follow, Program.run_bind]
    exact ih (finished_turn finished next state) _

/-- A pump that has stopped stays as it is. -/
theorem getElem?_pumps_turn {index : Nat} {pump : Pump} (present : bridge.pumps[index]? = some pump)
    (stopped : pump.stopped = true) (next : Turn) (state : host.State) :
    ((bridge.turn next).run host state).value.pumps[index]? = some pump := by
  cases next with
  | forward => simpa only [turn, Program.run_pure, pumps_forward] using present
  | pump other =>
    rw [turn]
    cases found : bridge.pumps[other]? with
    | none => exact present
    | some taking =>
      simp only [Program.run_bind, Program.run_pure]
      by_cases same : other = index
      · subst same
        rw [present, Option.some.injEq] at found
        subst found
        rw [List.getElem?_set_self (List.getElem?_eq_some_iff.mp present).1, Pump.turn, if_pos stopped]
        rfl
      · rw [List.getElem?_set_ne same]
        exact present

/-- A pump that has stopped stays as it is, whatever turns are taken. -/
theorem getElem?_pumps_follow {index : Nat} {pump : Pump} (present : bridge.pumps[index]? = some pump)
    (stopped : pump.stopped = true) (schedule : List Turn) (state : host.State) :
    ((bridge.follow schedule).run host state).value.pumps[index]? = some pump := by
  induction schedule generalizing bridge state with
  | nil => exact present
  | cons next rest ih =>
    simp only [follow, Program.run_bind]
    exact ih (getElem?_pumps_turn present stopped next state) _

/-- One turn for each pending event, and one more for a shutdown, are enough. -/
theorem finished_forwards {count : Nat} (enough : bridge.pending.length < count) (state : host.State) :
    ((bridge.follow (List.replicate count .forward)).run host state).value.finished = true := by
  induction count generalizing bridge state with
  | zero => omega
  | succ count ih =>
    simp only [List.replicate_succ, follow, Program.run_bind, turn, Program.run_pure]
    cases running : bridge.finished with
    | true =>
      rw [forward_of_finished running]
      exact finished_follow running _ _
    | false =>
      cases waiting : bridge.pending with
      | nil =>
        have finished : bridge.forward.finished = true := by simp [forward, running, waiting, shutdown]
        exact finished_follow finished _ _
      | cons event rest =>
        have fewer : bridge.forward.pending = rest := by simp [forward, running, waiting, publish]
        rw [waiting, List.length_cons] at enough
        exact ih (by rw [fewer]; omega) _

end Lasting

section Ends
variable {host : Host} {script : ScriptState} {scripts : List ScriptState} {whole sent handled : List Event}
  {room index position : Nat} {bridge : Bridge} {pump : Pump}

/-- After a shutdown nothing is outstanding. -/
theorem Feeds.sent_eq (feeds : bridge.Feeds host script whole room index pump sent position handled)
    (finished : bridge.finished = true) : sent = whole := by
  have sending := feeds.sending
  rw [outstanding, if_pos finished, List.append_nil] at sending
  exact sending

/-- After a shutdown a pump stops when it is given a turn for all that it has left to receive. -/
theorem Feeds.exists_stopped (feeds : bridge.Feeds host script whole room index pump sent position handled)
    (ends : EndsInShutdown whole) (finished : bridge.finished = true) {count : Nat}
    (enough : bridge.bus.remaining position ≤ count) (state : host.State) :
    ∃ last, ((bridge.follow (List.replicate count (.pump index))).run host state).value.pumps[index]? = some last ∧
      last.stopped = true := by
  have all := feeds.sent_eq finished
  induction count generalizing bridge pump position handled state with
  | zero =>
    refine ⟨pump, feeds.present, feeds.fed.stopped_iff.mpr ?_⟩
    have overwritten := feeds.carries.overwritten_eq
    have kept := feeds.carries.length_kept
    have reached := feeds.reached
    rw [Broadcast.remaining, Broadcast.tail] at enough
    rw [← all]
    split at enough <;> omega
  | succ count ih =>
    obtain ⟨next, moved, ran, step⟩ := feeds.exists_step state
    have less := step.remaining_le feeds.carries fun stopped => by
      rw [all]
      exact feeds.fed.stopped_iff.mp stopped
    have after := feeds.step ends step
    rw [← ran] at after
    have finishedAfter := finished_turn finished (.pump index) state
    simp only [List.replicate_succ, follow, Program.run_bind]
    refine ih after finishedAfter ?_ _
    rw [ran]
    exact Nat.le_trans less (by omega)

/-- Between two times of a run the bus grows by what was pending, and by one shutdown. -/
theorem Feeds.length_kept_le {later : Bridge} {laterPump : Pump} {laterSent laterHandled : List Event}
    {laterPosition : Nat} (feeds : bridge.Feeds host script whole room index pump sent position handled)
    (laterFeeds : later.Feeds host script whole room index laterPump laterSent laterPosition laterHandled) :
    later.bus.kept.length ≤ bridge.bus.kept.length + bridge.pending.length + 1 := by
  have kept := feeds.carries.length_kept
  have overwritten := feeds.carries.overwritten_eq
  have laterKept := laterFeeds.carries.length_kept
  have laterOverwritten := laterFeeds.carries.overwritten_eq
  rw [feeds.size_eq] at overwritten
  rw [laterFeeds.size_eq] at laterOverwritten
  have total := congrArg List.length feeds.sending
  have laterTotal := congrArg List.length laterFeeds.sending
  rw [List.length_append] at total laterTotal
  have left := bridge.length_outstanding_le
  omega

/-- From wherever a run has come to, forwarding all that is left and then running the pumps one after another makes it
return. -/
theorem Progress.returns {handled : Nat → List Event} (progress : bridge.Progress host scripts whole room handled)
    (ends : EndsInShutdown whole) (state : host.State) :
    ((bridge.follow bridge.sequentialSchedule).run host state).value.Returned := by
  let forwards := List.replicate (bridge.pending.length + 1) Turn.forward
  let turns := fun index => List.replicate (bridge.bus.kept.length + bridge.pending.length + 3) (Turn.pump index)
  have forwarded : ((bridge.follow forwards).run host state).value.finished = true :=
    finished_forwards (Nat.lt_succ_self _) state
  refine ⟨?_, ?_⟩
  · rw [sequentialSchedule, follow_append_value]
    exact finished_follow forwarded _ _
  · intro pump present
    obtain ⟨index, found⟩ := List.mem_iff_getElem?.mp present
    have within : index < bridge.pumps.length := by
      rw [progress.length_eq, ← (progress.follow ends bridge.sequentialSchedule state).length_eq]
      exact (List.getElem?_eq_some_iff.mp found).1
    obtain ⟨before, after, order⟩ := List.append_of_mem (List.mem_range.mpr within)
    have schedule : bridge.sequentialSchedule =
        (forwards ++ before.flatMap turns) ++ (turns index ++ after.flatMap turns) := by
      rw [sequentialSchedule, order, List.flatMap_append, List.flatMap_cons, List.append_assoc]
    -- The pump is fed when its turns come, and these are enough for it.
    let middle := (bridge.follow (forwards ++ before.flatMap turns)).run host state
    have reached : middle.value.Progress host scripts whole room _ :=
      progress.follow ends (forwards ++ before.flatMap turns) state
    have finished : middle.value.finished = true := by
      simp only [middle, follow_append_value]
      exact finished_follow forwarded _ _
    have listed : index < scripts.length := progress.length_eq ▸ within
    obtain ⟨_, _, _, feedsNow⟩ := progress.feeds index _ (List.getElem?_eq_getElem listed)
    obtain ⟨_, _, position, feeds⟩ := reached.feeds index _ (List.getElem?_eq_getElem listed)
    have enough : middle.value.bus.remaining position ≤ bridge.bus.kept.length + bridge.pending.length + 3 := by
      have most := middle.value.bus.remaining_le position
      have bound := feedsNow.length_kept_le feeds
      omega
    obtain ⟨last, lastPresent, stopped⟩ := feeds.exists_stopped ends finished enough middle.state
    rw [schedule, follow_append_value, follow_append_value, getElem?_pumps_follow lastPresent stopped,
      Option.some.injEq] at found
    rw [← found]
    exact stopped

/-- What a run that has returned comes to: one report for each script, in their order, and every script has been given
account of all events that were sent. -/
structure Concluded (host : Host) (scripts : List ScriptState) (sent : List Event) (room : Nat) (bridge : Bridge)
    (handled : Nat → List Event) : Prop where
  identities : (bridge.pumps.map Pump.report).map PumpReport.identity = scripts.map ScriptState.identity
  accounts : ∀ (index : Nat) (script : ScriptState), scripts[index]? = some script →
    ∃ pump, bridge.pumps[index]? = some pump ∧ pump.Accounted host script sent room (handled index)

/-- Every pump of a run that has returned has stopped, and accounts for all events. -/
theorem Progress.concluded {handled : Nat → List Event} (progress : bridge.Progress host scripts whole room handled)
    (ends : EndsInShutdown whole) (returned : bridge.Returned) :
    bridge.Concluded host scripts whole room handled := by
  have accounts : ∀ (index : Nat) (script : ScriptState), scripts[index]? = some script →
      ∃ pump, bridge.pumps[index]? = some pump ∧ pump.Accounted host script whole room (handled index) := by
    intro index script listed
    obtain ⟨pump, sent, position, feeds⟩ := progress.feeds index script listed
    have roomy := feeds.carries.roomy
    rw [feeds.size_eq] at roomy
    have stopped := returned.2 pump (List.mem_of_getElem? feeds.present)
    exact ⟨pump, feeds.present, feeds.fed.accounted roomy ends stopped⟩
  refine ⟨List.ext_getElem? fun index => ?_, accounts⟩
  rw [List.map_map, List.getElem?_map, List.getElem?_map]
  cases listed : scripts[index]? with
  | none =>
    rw [progress.getElem?_eq_none listed]
    rfl
  | some script =>
    obtain ⟨pump, present, accounted⟩ := accounts index script listed
    obtain ⟨answers, _, report⟩ := accounted.answered
    rw [present, Option.map_some, Option.map_some, Function.comp_apply, report]
    rfl

end Ends

/-- A bridge opens for every capacity within the bounds, on an empty bus to which one pump for each script subscribes. -/
theorem ofScripts_eq_ok_iff {scripts : List ScriptState} {capacity : Nat} {opened : Bridge} :
    ofScripts scripts capacity = .ok opened ↔ 1 ≤ capacity ∧ capacity ≤ Broadcast.maxCapacity ∧
      opened =
        { bus :=
            { size := Broadcast.ringSize capacity
              cursors := List.replicate scripts.length (some 0)
              senders := [some .host] }
          pumps := scripts.zipIdx.map fun (script, index) => Pump.start script index } := by
  have subscribed := Broadcast.foldl_subscribe scripts { size := Broadcast.ringSize capacity }
  constructor
  · intro started
    cases created : Broadcast.create capacity with
    | error cause => simp only [ofScripts, created, bind, Except.bind, reduceCtorEq] at started
    | ok bus =>
      obtain ⟨low, high, rfl⟩ := Broadcast.create_eq_ok_iff.mp created
      simp only [ofScripts, created, bind, Except.bind, pure, Except.pure, Except.ok.injEq, subscribed] at started
      exact ⟨low, high, started.symm⟩
  · rintro ⟨low, high, rfl⟩
    have created := Broadcast.create_eq_ok_iff.mpr ⟨low, high, rfl⟩
    simp only [ofScripts, created, bind, Except.bind, pure, Except.pure, subscribed]
    rfl

/-- A bridge that was just opened has sent nothing, and all its pumps stand at the start. -/
theorem progress_of_ofScripts {scripts : List ScriptState} {capacity : Nat} {opened : Bridge}
    (started : ofScripts scripts capacity = .ok opened) (events : List Event) (host : Host) :
    ({ opened with pending := events } : Bridge).Progress host scripts (broadcasts events)
      (2 ^ Nat.clog 2 capacity) fun _ => [] := by
  obtain ⟨_, _, rfl⟩ := ofScripts_eq_ok_iff.mp started
  refine ⟨by simp, ?_⟩
  intro index script listed
  have within := (List.getElem?_eq_some_iff.mp listed).1
  have roomy : 0 < Broadcast.ringSize capacity := by
    rw [Broadcast.ringSize_eq]
    exact Nat.two_pow_pos _
  refine ⟨Pump.start script index, [], 0, ?_, rfl, ?_, rfl, Broadcast.ringSize_eq capacity,
    .nil roomy rfl rfl, rfl, Nat.le_refl 0, .start (broadcasts_endsInShutdown events) host script _ index⟩
  · simp only [List.getElem?_map, List.getElem?_zipIdx, listed, Option.map_some, Nat.zero_add]
  · rw [List.getElem?_replicate, if_pos within]

/-- A run of the bridge gives the reports of a schedule after which it has returned. -/
theorem exists_schedule_run {scripts : List ScriptState} {capacity : Nat} {opened : Bridge}
    (started : ofScripts scripts capacity = .ok opened) (events : List Event) (host : Host) (state : host.State) :
    ∃ schedule, let last := ((({ opened with pending := events } : Bridge).follow schedule).run host state).value
      last.Returned ∧ ((opened.run events).run host state).value = last.pumps.map Pump.report := by
  have progress := progress_of_ofScripts started events host
  refine ⟨_, progress.returns (broadcasts_endsInShutdown events) state, ?_⟩
  simp only [run, runToEnd, Program.run_bind, Program.run_pure]

/-- However the turns of forwarding and of the pumps are mixed, nothing keeps the run from returning. When it has
returned, each script's report accounts for every event up to the first shutdown: the script was given the latest of
them, as many as the bus has room for, in order and with the shutdown last, and the others are counted as skipped. -/
theorem run_accounts_for_every_event (scripts : List ScriptState) {capacity : Nat} (positive : 1 ≤ capacity)
    (events : List Event) :
    ((∃ opened, ofScripts scripts capacity = .ok opened) ↔ capacity ≤ Broadcast.maxCapacity) ∧
    (broadcasts events).length = events.findIdx Event.isShutdown + 1 ∧
    ∀ opened, ofScripts scripts capacity = .ok opened → ∀ (host : Host) (state : host.State),
      let start : Bridge := { opened with pending := events }
      let after := fun schedule => ((start.follow schedule).run host state).value
      (∃ schedule, (after schedule).Returned ∧
        ((opened.run events).run host state).value = (after schedule).pumps.map Pump.report) ∧
      ∀ schedule, (∃ more, (after (schedule ++ more)).Returned) ∧
        ((after schedule).Returned →
          (after schedule).Concluded host scripts (broadcasts events) (2 ^ Nat.clog 2 capacity)
            fun index => handledBy host index start state schedule) := by
  refine ⟨⟨?_, ?_⟩, length_broadcasts events, ?_⟩
  · rintro ⟨opened, started⟩
    exact (ofScripts_eq_ok_iff.mp started).2.1
  · intro fits
    exact ⟨_, ofScripts_eq_ok_iff.mpr ⟨positive, fits, rfl⟩⟩
  · intro opened started host state start after
    refine ⟨exists_schedule_run started events host state, ?_⟩
    intro schedule
    have ends := broadcasts_endsInShutdown events
    have progress := (progress_of_ofScripts started events host).follow ends schedule state
    refine ⟨⟨(after schedule).sequentialSchedule, ?_⟩, ?_⟩
    · simp only [after, follow_append_value]
      exact progress.returns ends _
    · intro returned
      simpa only [List.nil_append] using progress.concluded ends returned

/-- With three events to send, the host's two and a shutdown, a bus of capacity three loses none of them. -/
theorem run_accounts_for_three_events :
    let scripts : List ScriptState := [.fresh ⟨"demo"⟩]
    let events : List Event := [.ofKind .seek .none, .ofKind .seek .none]
    ∃ opened schedule, ofScripts scripts 3 = .ok opened ∧
      let start : Bridge := { opened with pending := events }
      let last := ((start.follow schedule).run SimulatedHost.host ({} : SimulatedHost)).value
      last.Returned ∧ ∃ pump, last.pumps[0]? = some pump ∧ pump.report.events = 3 ∧ pump.report.skipped = 0 := by
  intro scripts events
  obtain ⟨opens, length, accounts⟩ := run_accounts_for_every_event scripts (by decide : 1 ≤ 3) events
  obtain ⟨opened, started⟩ := opens.mpr (by decide)
  obtain ⟨⟨schedule, returned, _⟩, concludes⟩ := accounts opened started SimulatedHost.host ({} : SimulatedHost)
  have concluded := (concludes schedule).2 returned
  obtain ⟨pump, present, accounted⟩ := concluded.accounts 0 (.fresh ⟨"demo"⟩) rfl
  have three : (broadcasts events).length = 3 := by rw [length]; rfl
  have room : 2 ^ Nat.clog 2 3 = 4 := by rw [← Broadcast.ringSize_eq]; rfl
  obtain ⟨lossless, _⟩ := accounted.lossless (by omega)
  have total := accounted.total
  exact ⟨opened, schedule, started, returned, pump, present, by omega, lossless⟩

end Bridge
end ScriptBridge
