import ScriptBridge.Bus.Bridge
import ScriptBridge.Proofs.Bus.Feeding

/-!
# Schedules of a bridge

A run of the bridge sends the events of the host up to the first shutdown, or all of them and a shutdown of its own. What
was sent and what is outstanding always make up this list, and every pump stays fed from it, whichever turn is taken
next. By induction this holds after every schedule.
-/
namespace ScriptBridge
namespace Bridge

/-- The events that a run sends when the host gives these: up to the first shutdown, or with one at the end. -/
def broadcasts (events : List Event) : List Event :=
  (events ++ [Event.shutdown]).take (events.findIdx Event.isShutdown + 1)

theorem broadcasts_cons (event : Event) (rest : List Event) :
    broadcasts (event :: rest) = event :: if event.isShutdown then [] else broadcasts rest := by
  cases shutdown : event.isShutdown <;> simp [broadcasts, List.findIdx_cons, shutdown]

/-- Everything up to the first shutdown is sent, and a shutdown when there is none. -/
theorem length_broadcasts (events : List Event) :
    (broadcasts events).length = events.findIdx Event.isShutdown + 1 := by
  have bound : events.findIdx Event.isShutdown ≤ events.length := List.findIdx_le_length
  rw [broadcasts, List.length_take, List.length_append, List.length_singleton]
  omega

theorem broadcasts_endsInShutdown (events : List Event) : EndsInShutdown (broadcasts events) := by
  induction events with
  | nil => exact ⟨[], .shutdown, rfl, rfl, by simp⟩
  | cons event rest ih =>
    rw [broadcasts_cons]
    cases shutdown : event.isShutdown with
    | true => exact ⟨[], event, rfl, shutdown, by simp⟩
    | false =>
      obtain ⟨earlier, last, same, ended, others⟩ := ih
      refine ⟨event :: earlier, last, ?_, ended, ?_⟩
      · simp only [Bool.false_eq_true, ↓reduceIte, same, List.cons_append]
      · intro other present
        rcases List.mem_cons.mp present with rfl | inside
        · exact shutdown
        · exact others other inside

def outstanding (bridge : Bridge) : List Event :=
  if bridge.finished then [] else broadcasts bridge.pending

theorem length_outstanding_le (bridge : Bridge) : bridge.outstanding.length ≤ bridge.pending.length + 1 := by
  rw [outstanding]
  split
  · exact Nat.zero_le _
  · rw [length_broadcasts]
    exact Nat.succ_le_succ List.findIdx_le_length

theorem forward_of_finished {bridge : Bridge} (finished : bridge.finished = true) : bridge.forward = bridge := by
  rw [forward, if_pos finished]

@[simp] theorem pumps_forward (bridge : Bridge) : bridge.forward.pumps = bridge.pumps := by
  rw [forward]
  split
  · rfl
  · split <;> rfl

/-- Until a shutdown was sent, forwarding publishes the first of the outstanding events. -/
theorem exists_forward_eq {bridge : Bridge} (running : bridge.finished = false) :
    ∃ source event, bridge.outstanding = event :: bridge.forward.outstanding ∧
      bridge.forward.bus = (bridge.bus.publish source event).2 := by
  cases waiting : bridge.pending with
  | nil =>
    refine ⟨.runner, .shutdown, ?_, ?_⟩ <;>
      simp [outstanding, forward, running, waiting, shutdown, broadcasts]
  | cons event rest =>
    refine ⟨.host, event, ?_, ?_⟩ <;>
      simp [outstanding, forward, running, waiting, publish, broadcasts_cons]

/-- The event that a turn hands to the script of the pump with an index. -/
def intake? (bridge : Bridge) (index : Nat) : Turn → Option Event
  | .forward => none
  | .pump other =>
    if other = index then bridge.pumps[index]?.bind fun pump => pump.intake? bridge.bus else none

/-- The events that the turns of a schedule hand to the script of the pump with an index. -/
def handledBy (host : Host) (index : Nat) (bridge : Bridge) (state : host.State) : List Turn → List Event
  | [] => []
  | next :: rest =>
    let ran := (bridge.turn next).run host state
    (bridge.intake? index next).toList ++ handledBy host index ran.value ran.state rest

/-- The bridge keeps the pump with an index fed: of all events of the run, those that the bus carries were sent, the pump
subscribes to them and stands at the position, and it has handed the given ones to its script. -/
structure Feeds (host : Host) (script : ScriptState) (whole : List Event) (room : Nat) (bridge : Bridge) (index : Nat)
    (pump : Pump) (sent : List Event) (position : Nat) (handled : List Event) : Prop where
  present : bridge.pumps[index]? = some pump
  subscribed : pump.subscriber = index
  cursor : bridge.bus.cursors[index]? = some (some position)
  isOpen : bridge.bus.isOpen = true
  size_eq : bridge.bus.size = room
  carries : bridge.bus.Carries sent
  sending : sent ++ bridge.outstanding = whole
  reached : position ≤ sent.length
  fed : pump.Fed host script whole room position handled

/-- There is one pump for each script, and the bridge keeps it fed. -/
structure Progress (host : Host) (scripts : List ScriptState) (whole : List Event) (room : Nat) (bridge : Bridge)
    (handled : Nat → List Event) : Prop where
  length_eq : bridge.pumps.length = scripts.length
  feeds : ∀ (index : Nat) (script : ScriptState), scripts[index]? = some script →
    ∃ pump sent position, bridge.Feeds host script whole room index pump sent position (handled index)

section Turns
variable {host : Host} {script : ScriptState} {whole sent handled : List Event} {room index position : Nat}
  {bridge : Bridge} {pump : Pump}

/-- Forwarding leaves the pumps as they are, and they lie farther behind. -/
theorem Feeds.forward (feeds : bridge.Feeds host script whole room index pump sent position handled) :
    ∃ later, bridge.forward.Feeds host script whole room index pump later position handled := by
  cases running : bridge.finished with
  | true =>
    rw [forward_of_finished running]
    exact ⟨sent, feeds⟩
  | false =>
    obtain ⟨source, event, next, bus⟩ := exists_forward_eq running
    obtain ⟨size, cursors, isOpen⟩ := bridge.bus.publish_frame source event
    have published := feeds.carries.publish (Broadcast.subscriberCount_ne_zero feeds.cursor) source event
    have sending := feeds.sending
    have reached := feeds.reached
    rw [next] at sending
    rw [← bus] at size cursors isOpen published
    refine ⟨sent ++ [event], ?_, feeds.subscribed, ?_, ?_, ?_, published, ?_, ?_, feeds.fed⟩
    · rw [pumps_forward]
      exact feeds.present
    · rw [cursors]
      exact feeds.cursor
    · rw [isOpen]
      exact feeds.isOpen
    · rw [size]
      exact feeds.size_eq
    · rw [List.append_assoc]
      exact sending
    · rw [List.length_append]
      omega

/-- A turn of a pump that is kept fed is a step of this pump, which moves its own position and nothing else. -/
theorem Feeds.exists_step (feeds : bridge.Feeds host script whole room index pump sent position handled)
    (state : host.State) :
    ∃ next moved, ((bridge.turn (.pump index)).run host state).value =
        { bridge with
          bus := { bridge.bus with cursors := bridge.bus.cursors.set index (some moved) }
          pumps := bridge.pumps.set index next } ∧
      pump.Step host bridge.bus sent position next moved (bridge.intake? index (.pump index)) := by
  have cursor := feeds.cursor
  rw [← feeds.subscribed] at cursor
  obtain ⟨next, moved, ran, step⟩ := Pump.exists_step feeds.carries feeds.isOpen cursor feeds.reached host state
  refine ⟨next, moved, ?_, ?_⟩
  · simp only [turn, feeds.present, Program.run_bind, Program.run_pure, ran, feeds.subscribed]
  · simpa only [intake?, ↓reduceIte, feeds.present, Option.bind_some] using step

theorem Feeds.step (feeds : bridge.Feeds host script whole room index pump sent position handled)
    (ends : EndsInShutdown whole) {next : Pump} {moved : Nat} {taken : Option Event}
    (step : pump.Step host bridge.bus sent position next moved taken) :
    ({ bridge with
        bus := { bridge.bus with cursors := bridge.bus.cursors.set index (some moved) }
        pumps := bridge.pumps.set index next } : Bridge).Feeds
      host script whole room index next sent moved (handled ++ taken.toList) := by
  have fed := feeds.fed
  rw [← feeds.size_eq] at fed
  obtain ⟨kept, reached⟩ := fed.step feeds.carries ⟨_, feeds.sending⟩ ends feeds.reached step
  rw [feeds.size_eq] at kept
  have within := (List.getElem?_eq_some_iff.mp feeds.present).1
  have subscribed := (List.getElem?_eq_some_iff.mp feeds.cursor).1
  refine ⟨?_, ?_, ?_, feeds.isOpen, feeds.size_eq, feeds.carries.move _, feeds.sending, reached, kept⟩
  · rw [List.getElem?_set_self within]
  · rw [step.subscriber_eq]
    exact feeds.subscribed
  · rw [List.getElem?_set_self subscribed]

/-- A step of one pump leaves the others fed as they are. -/
theorem Feeds.step_other (feeds : bridge.Feeds host script whole room index pump sent position handled)
    {other : Nat} (different : other ≠ index) (next : Pump) (moved : Nat) :
    ({ bridge with
        bus := { bridge.bus with cursors := bridge.bus.cursors.set other (some moved) }
        pumps := bridge.pumps.set other next } : Bridge).Feeds
      host script whole room index pump sent position handled := by
  refine ⟨?_, feeds.subscribed, ?_, feeds.isOpen, feeds.size_eq, feeds.carries.move _, feeds.sending, feeds.reached,
    feeds.fed⟩
  · rw [List.getElem?_set_ne different]
    exact feeds.present
  · rw [List.getElem?_set_ne different]
    exact feeds.cursor

end Turns

section Runs
variable {host : Host} {scripts : List ScriptState} {whole : List Event} {room : Nat} {bridge : Bridge}
  {handled : Nat → List Event}

/-- There are no pumps but those for the scripts. -/
theorem Progress.getElem?_eq_none (progress : bridge.Progress host scripts whole room handled) {index : Nat}
    (unlisted : scripts[index]? = none) : bridge.pumps[index]? = none := by
  rw [List.getElem?_eq_none_iff, progress.length_eq]
  exact List.getElem?_eq_none_iff.mp unlisted

/-- Every turn keeps all pumps fed. -/
theorem Progress.turn (progress : bridge.Progress host scripts whole room handled) (ends : EndsInShutdown whole)
    (next : Turn) (state : host.State) :
    ((bridge.turn next).run host state).value.Progress host scripts whole room
      fun index => handled index ++ (bridge.intake? index next).toList := by
  cases next with
  | forward =>
    simp only [Bridge.turn, Program.run_pure, intake?, Option.toList_none, List.append_nil]
    refine ⟨?_, ?_⟩
    · rw [pumps_forward]
      exact progress.length_eq
    · intro index script listed
      obtain ⟨pump, sent, position, feeds⟩ := progress.feeds index script listed
      obtain ⟨later, after⟩ := feeds.forward
      exact ⟨pump, later, position, after⟩
  | pump index =>
    cases listed : scripts[index]? with
    | none =>
      have absent := progress.getElem?_eq_none listed
      have untaken : ∀ other, bridge.intake? other (.pump index) = none := by
        intro other
        rw [intake?]
        split
        next same => rw [← same, absent, Option.bind_none]
        · rfl
      simpa only [Bridge.turn, absent, Program.run_pure, untaken, Option.toList_none, List.append_nil] using progress
    | some script =>
      obtain ⟨pump, sent, position, feeds⟩ := progress.feeds index script listed
      obtain ⟨next, moved, ran, step⟩ := feeds.exists_step state
      rw [ran]
      refine ⟨?_, ?_⟩
      · rw [List.length_set]
        exact progress.length_eq
      · intro other otherScript otherListed
        by_cases same : index = other
        · subst same
          rw [listed, Option.some.injEq] at otherListed
          subst otherListed
          exact ⟨next, sent, moved, feeds.step ends step⟩
        · obtain ⟨otherPump, otherSent, otherPosition, otherFeeds⟩ := progress.feeds other otherScript otherListed
          simp only [intake?, same, ↓reduceIte, Option.toList_none, List.append_nil]
          exact ⟨otherPump, otherSent, otherPosition, otherFeeds.step_other same next moved⟩

/-- Every schedule keeps all pumps fed. -/
theorem Progress.follow (progress : bridge.Progress host scripts whole room handled) (ends : EndsInShutdown whole)
    (schedule : List Turn) (state : host.State) :
    ((bridge.follow schedule).run host state).value.Progress host scripts whole room
      fun index => handled index ++ handledBy host index bridge state schedule := by
  induction schedule generalizing bridge handled state with
  | nil => simpa only [Bridge.follow, Program.run_pure, handledBy, List.append_nil] using progress
  | cons next rest ih =>
    have after := ih (progress.turn ends next state) ((bridge.turn next).run host state).state
    simpa only [Bridge.follow, Program.run_bind, handledBy, List.append_assoc] using after

end Runs
end Bridge
end ScriptBridge
