import ScriptBridge.Proofs.Bus.Agreement
import ScriptBridge.Proofs.Manifests

/-!
# One script on the bus

A bridge that drives a single script makes no host calls but those of the script's answers, in the order in which the
events are handed to it. So when its callbacks log that they fired, the host log tells from the events alone which of
them fired, whatever turns were taken.
-/
namespace ScriptBridge

/-! ### The calls of a turn -/

namespace Pump

/-- A turn of a pump calls the host in the answer to the event that it hands on, and not at all when there is none. -/
theorem calls_turn (pump : Pump) (bus : Broadcast) (host : Host) (state : host.State) :
    ((pump.turn bus).run host state).calls =
      (pump.intake? bus).toList.flatMap fun event => ((pump.script.answer event).run host state).calls := by
  unfold turn intake?
  cases pump.stopped with
  | true => rfl
  | false =>
    simp only [Bool.false_eq_true, ↓reduceIte, Program.run_bind, Program.run_pure, List.append_nil]
    cases (bus.receive pump.subscriber).1 with
    | envelope envelope => simp [handle, Receipt.event?, Program.run_bind]
    | lagged | empty | closed => rfl

/-- The script is left as the answer to this event leaves it. -/
theorem script_turn (pump : Pump) (bus : Broadcast) (host : Host) (state : host.State) :
    ScriptState.SameRegistrations pump.script ((pump.turn bus).run host state).value.1.script := by
  unfold turn
  cases pump.stopped with
  | true => exact .refl _
  | false =>
    simp only [Bool.false_eq_true, ↓reduceIte, Program.run_bind, Program.run_pure]
    cases (bus.receive pump.subscriber).1 with
    | envelope envelope =>
      simp only [handle, Program.run_bind, Program.run_pure]
      exact pump.script.answer_sameRegistrations envelope.event host state
    | lagged | empty | closed => exact .refl _

end Pump

/-! ### The calls of a run -/

/-- The log entries with which a script answers an event when its callbacks log that they fired. -/
def ScriptState.firingLog (script : ScriptState) (names : List String) (event : Event) : List HostRequest :=
  script.receivedLog event ::
    (firedName? script.identity names event).toList.map fun name => .log .info (firedText script.identity name)

theorem ScriptState.SameRegistrations.firingLog {before after : ScriptState}
    (same : ScriptState.SameRegistrations before after) (names : List String) :
    after.firingLog names = before.firingLog names := by
  funext event
  unfold ScriptState.firingLog ScriptState.receivedLog
  rw [same.identity]

namespace Bridge
open ScriptState

/-- Such a script answers an event with these log entries. -/
theorem calls_answer {script current : ScriptState} {names : List String} (logs : script.LogsFirings names)
    (same : SameRegistrations script current) (event : Event) (host : Host) (state : host.State) :
    ((current.answer event).run host state).calls = script.firingLog names event := by
  rw [((logs.of_sameRegistrations same).answer event host state).1, ← same.firingLog names]
  rfl

theorem run_turn_alone {bridge : Bridge} {pump : Pump} (alone : bridge.pumps = [pump]) (host : Host)
    (state : host.State) :
    let turned := (pump.turn bridge.bus).run host state
    (bridge.turn (.pump 0)).run host state =
      ⟨{ bridge with bus := turned.value.2, pumps := [turned.value.1] }, turned.calls, turned.state⟩ := by
  have present : bridge.pumps[0]? = some pump := by rw [alone]; rfl
  simp only [turn, present, Program.run_bind, Program.run_pure, List.append_nil]
  rw [alone, List.set_cons_zero]

/-- A turn for a pump that is not there changes nothing. -/
theorem turn_beyond {bridge : Bridge} {pump : Pump} (alone : bridge.pumps = [pump]) (index : Nat) :
    bridge.turn (.pump (index + 1)) = pure bridge := by
  have absent : bridge.pumps[index + 1]? = none := by rw [alone]; rfl
  rw [turn, absent]

/-- Over every schedule, the calls are the log entries for the events that were handed to the script. -/
theorem calls_follow {script : ScriptState} {names : List String} (logs : script.LogsFirings names) {bridge : Bridge}
    {pump : Pump} (alone : bridge.pumps = [pump]) (same : SameRegistrations script pump.script) (schedule : List Turn)
    (host : Host) (state : host.State) :
    ((bridge.follow schedule).run host state).calls =
      (handledBy host 0 bridge state schedule).flatMap (script.firingLog names) := by
  induction schedule generalizing bridge pump state with
  | nil => rfl
  | cons next rest ih =>
    simp only [follow, Program.run_bind, handledBy, List.flatMap_append]
    cases next with
    | forward =>
      rw [ih (by rw [turn, Program.run_pure, pumps_forward]; exact alone) same]
      rfl
    | pump index =>
      cases index with
      | zero =>
        have kept := same.trans (pump.script_turn bridge.bus host state)
        have taken : bridge.intake? 0 (.pump 0) = pump.intake? bridge.bus := by
          rw [intake?, if_pos rfl, alone]
          rfl
        rw [run_turn_alone alone, taken]
        dsimp only
        rw [ih rfl kept, pump.calls_turn]
        congr 2
        funext event
        exact calls_answer logs same event host state
      | succ index =>
        have untaken : bridge.intake? 0 (.pump (index + 1)) = none := by
          rw [intake?, if_neg (Nat.succ_ne_zero index)]
        rw [turn_beyond alone, untaken]
        exact ih alone same state

end Bridge

namespace ScriptState

/-- Such a script names in its answers the callbacks that the events run, and none of them fails. -/
theorem LogsFirings.answers {script last : ScriptState} {names : List String} (logs : script.LogsFirings names)
    {host : Host} {events : List Event} {answers : List EventAnswer}
    (answered : script.Answers host events answers last) :
    answers.map EventAnswer.callback? = events.map (firedName? script.identity names) ∧
    ∀ answer ∈ answers, answer.isFailed = false := by
  induction answered with
  | none => exact ⟨rfl, by simp⟩
  | next before event state ih =>
    obtain ⟨named, succeeded⟩ := ih
    have same := before.sameRegistrations
    obtain ⟨_, callback, kept⟩ := (logs.of_sameRegistrations same).answer event host state
    rw [same.identity] at callback
    refine ⟨?_, ?_⟩
    · rw [List.map_append, List.map_append, named, List.map_singleton, List.map_singleton, callback]
    · intro answer member
      rcases List.mem_append.mp member with earlier | last
      · exact succeeded answer earlier
      · rw [List.mem_singleton.mp last]
        exact kept

/-- With nothing lost, the report counts every event and every callback that an event runs, and no failure. -/
theorem LogsFirings.ofAnswers {script last : ScriptState} {names : List String} (logs : script.LogsFirings names)
    {host : Host} {events : List Event} {answers : List EventAnswer}
    (answered : script.Answers host events answers last) :
    PumpReport.ofAnswers script.identity answers 0 =
      { identity := script.identity
        events := events.length
        invoked := (events.filterMap (firedName? script.identity names)).length } := by
  obtain ⟨named, succeeded⟩ := logs.answers answered
  have failed : answers.countP EventAnswer.isFailed = 0 := by
    rw [List.countP_eq_zero]
    intro answer member
    rw [succeeded answer member]
    exact Bool.false_ne_true
  have invoked : answers.countP EventAnswer.isInvoked =
      (events.filterMap (firedName? script.identity names)).length := by
    have ran := EventAnswer.countP_callback? answers
    have counted := congrArg (List.countP Option.isSome) named
    rw [List.countP_map, List.countP_map] at counted
    rw [List.length_filterMap_eq_countP]
    simp only [Function.comp_def] at counted
    omega
  unfold PumpReport.ofAnswers
  rw [failed, invoked, answered.length_eq]

end ScriptState

namespace Bridge

/-- What has come of a bridge with this script alone when it has returned: the report counts the events that were sent
and the callbacks that they run, and the host heard of nothing else. -/
structure RanAlone {host : Host} (script : ScriptState) (names : List String) (sent : List Event)
    (ran : Run host.State Bridge) : Prop where
  reports : ran.value.pumps.map Pump.report =
    [{ identity := script.identity
       events := sent.length
       invoked := (sent.filterMap (firedName? script.identity names)).length }]
  calls : ran.calls = sent.flatMap (script.firingLog names)

section Alone
variable {script : ScriptState} {names : List String} {capacity : Nat} {opened : Bridge} {events : List Event}

/-- However the turns are mixed, a run with one script can return, and whenever it has, it has come to this. -/
theorem runs_alone (logs : script.LogsFirings names) (started : ofScripts [script] capacity = .ok opened)
    (fits : (broadcasts events).length ≤ 2 ^ Nat.clog 2 capacity) (host : Host) (state : host.State)
    (schedule : List Turn) :
    let after := fun schedule => (({ opened with pending := events } : Bridge).follow schedule).run host state
    (∃ more, (after (schedule ++ more)).value.Returned) ∧
    ((after schedule).value.Returned → RanAlone script names (broadcasts events) (after schedule)) := by
  intro after
  have ends := broadcasts_endsInShutdown events
  have progress := (progress_of_ofScripts started events host).follow ends schedule state
  simp only [List.nil_append] at progress
  constructor
  · refine ⟨(after schedule).value.sequentialSchedule, ?_⟩
    simp only [after, follow_append_value]
    exact progress.returns ends _
  · intro returned
    obtain ⟨pump, present, accounted⟩ := (progress.concluded ends returned).accounts 0 script rfl
    obtain ⟨skipped, handled⟩ := accounted.lossless fits
    obtain ⟨answers, answered, report⟩ := accounted.answered
    rw [handled] at answered
    rw [skipped, logs.ofAnswers answered] at report
    constructor
    · obtain ⟨only, one⟩ := List.length_eq_one_iff.mp progress.length_eq
      rw [one] at present
      rw [one, Option.some.inj present, List.map_singleton, report]
    · have alone : ({ opened with pending := events } : Bridge).pumps = [Pump.start script 0] := by
        obtain ⟨_, _, rfl⟩ := ofScripts_eq_ok_iff.mp started
        rfl
      rw [← handled]
      exact calls_follow logs alone (.refl script) schedule host state

/-- So has the run that takes the turns one kind after another. -/
theorem run_alone (logs : script.LogsFirings names) (started : ofScripts [script] capacity = .ok opened)
    (fits : (broadcasts events).length ≤ 2 ^ Nat.clog 2 capacity) (host : Host) (state : host.State) :
    ∃ ran : Run host.State Bridge, RanAlone script names (broadcasts events) ran ∧
      ((opened.run events).run host state).value = ran.value.pumps.map Pump.report ∧
      ((opened.run events).run host state).calls = ran.calls := by
  let start : Bridge := { opened with pending := events }
  have returned := (progress_of_ofScripts started events host).returns (broadcasts_endsInShutdown events) state
  refine ⟨_, (runs_alone logs started fits host state start.sequentialSchedule).2 returned, ?_, ?_⟩
  · rw [run, runToEnd, Program.run_bind]
    rfl
  · rw [run, runToEnd, Program.run_bind]
    exact List.append_nil _

end Alone
end Bridge
end ScriptBridge
