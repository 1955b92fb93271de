import ScriptBridge.Proofs.ScriptSets
import ScriptBridge.Proofs.Bus.Completion

/-!
# The two ways of driving scripts agree

Scripts are driven either by a set, which lets all of them answer an event before the next one comes, or by a bridge,
whose pumps take turns in any order. A script cannot tell: how it goes on after an event depends on the event alone, and
which callback an event runs on what was registered. So, when no event is lost, both ways run the same callbacks, and
where a callback's outcome hangs on the number of its runs only, both count the same outcomes.
-/
namespace ScriptBridge

namespace EventAnswer

@[simp] theorem isSome_callback?_decision (answer : EventAnswer) :
    answer.decision.callback?.isSome = answer.callback?.isSome := by
  cases answer <;> rfl

/-- An answer tells that a callback failed, and not how. -/
theorem ofOutcome_congr (name : String) {first second : Except CallbackFailure Unit}
    (same : first.isOk = second.isOk) : ofOutcome name first = ofOutcome name second := by
  cases first <;> cases second <;> first | rfl | cases same

/-- The answers that name a callback are those that were invoked and those that failed. -/
theorem countP_callback? (answers : List EventAnswer) :
    answers.countP (·.callback?.isSome) = answers.countP isInvoked + answers.countP isFailed := by
  induction answers with
  | nil => rfl
  | cons answer rest ih =>
    simp only [List.countP_cons, ih]
    cases answer <;> simp [callback?, isInvoked, isFailed] <;> omega

end EventAnswer

namespace ScriptState

def following (script : ScriptState) (event : Event) : ScriptState :=
  match script.route event with
  | .settled _ => script
  | .run name callback => script.advance name callback

/-- Neither the host nor the outcome of a callback matters to how a script goes on. -/
theorem state_answer (script : ScriptState) (event : Event) (host : Host) (state : host.State) :
    ((script.answer event).run host state).value.2 = script.following event := by
  rw [following]
  cases routed : script.route event with
  | settled answer => rw [(settles_of_route routed host state).1]
  | run name callback => rw [(fires_of_route routed host state).1]

/-- Whether a run of one of the script's callbacks succeeds depends on the number of its earlier runs only. -/
def DecidedByCount (script : ScriptState) (host : Host) : Prop :=
  ∀ (name : String) (callback : Callback), script.keymap.callback? name = some callback →
    ∀ (count : Nat) (state other : host.State),
      ((callback.body count).run host state).value.isOk = ((callback.body count).run host other).value.isOk

theorem DecidedByCount.of_sameRegistrations {before after : ScriptState} {host : Host}
    (decided : before.DecidedByCount host) (same : SameRegistrations before after) : after.DecidedByCount host := by
  intro name callback filed
  have bodies := same.callbacks name
  rw [filed, Option.map_some] at bodies
  obtain ⟨earlier, earlierFiled, body⟩ := Option.map_eq_some_iff.mp bodies.symm
  rw [← body]
  exact decided name earlier earlierFiled

/-- Then the answer to an event is the same in every state of the host. -/
theorem answer_eq_of_decidedByCount {script : ScriptState} {host : Host} (decided : script.DecidedByCount host)
    (event : Event) (state other : host.State) :
    ((script.answer event).run host state).value.1 = ((script.answer event).run host other).value.1 := by
  cases routed : script.route event with
  | settled answer =>
    rw [(settles_of_route routed host state).1, (settles_of_route routed host other).1]
  | run name callback =>
    have filed := (route_eq_run_iff.mp routed).2.2
    rw [(fires_of_route routed host state).1, (fires_of_route routed host other).1]
    exact EventAnswer.ofOutcome_congr name (decided name callback filed callback.runs _ _)

section Answers
variable {host : Host} {script last : ScriptState} {events : List Event} {answers : List EventAnswer}

theorem Answers.sameRegistrations (answered : script.Answers host events answers last) :
    SameRegistrations script last := by
  induction answered with
  | none => exact .refl script
  | next _ event state ih => exact ih.trans (answer_sameRegistrations _ event host state)

theorem Answers.of_nil (answered : script.Answers host [] answers last) : answers = [] ∧ last = script := by
  generalize events : [] = handled at answered
  cases answered with
  | none => exact ⟨rfl, rfl⟩
  | next before event state => simp at events

/-- The last of the answers was given by the script as the earlier events left it. -/
theorem Answers.of_concat {event : Event} (answered : script.Answers host (events ++ [event]) answers last) :
    ∃ (earlier : List EventAnswer) (current : ScriptState) (state : host.State),
      script.Answers host events earlier current ∧
      answers = earlier ++ [((current.answer event).run host state).value.1] ∧
      last = ((current.answer event).run host state).value.2 := by
  generalize whole : events ++ [event] = handled at answered
  cases answered with
  | none => simp at whole
  | next before other state =>
    obtain ⟨rfl, same⟩ := List.append_inj' whole rfl
    cases same
    exact ⟨_, _, state, before, rfl, rfl⟩

/-- Two runs of a script over the same events, whatever became of the host in them, leave the script in one state and
decide every event alike. They end alike, too, where the number of runs decides the outcome of a callback. -/
theorem Answers.agree {other : ScriptState} {others : List EventAnswer}
    (answered : script.Answers host events answers last) (again : script.Answers host events others other) :
    other = last ∧ others.map EventAnswer.decision = answers.map EventAnswer.decision ∧
      (script.DecidedByCount host → others = answers) := by
  -- A run grows at its end, so the second one is taken apart at the event that the first one answered last.
  induction answered generalizing other others with
  | none =>
    obtain ⟨rfl, rfl⟩ := again.of_nil
    exact ⟨rfl, rfl, fun _ => rfl⟩
  | @next events answers current before event state ih =>
    obtain ⟨earlier, same, start, againBefore, rfl, rfl⟩ := again.of_concat
    obtain ⟨rfl, decisions, outcomes⟩ := ih againBefore
    refine ⟨by rw [state_answer, state_answer], ?_, fun decided => ?_⟩
    · simp only [List.map_append, List.map_cons, List.map_nil, decisions, answer_decision]
    · rw [outcomes decided]
      rw [answer_eq_of_decidedByCount (decided.of_sameRegistrations before.sameRegistrations) event start state]

/-- How many callbacks ran is the same in any two such runs over the same events. -/
theorem Answers.countP_callback?_eq {other : ScriptState} {others : List EventAnswer}
    (answered : script.Answers host events answers last) (again : script.Answers host events others other) :
    others.countP (·.callback?.isSome) = answers.countP (·.callback?.isSome) := by
  have decisions := congrArg (List.countP (·.callback?.isSome)) (answered.agree again).2.1
  simpa only [List.countP_map, Function.comp_def, EventAnswer.isSome_callback?_decision] using decisions

end Answers

end ScriptState

namespace ScriptSet

/-- Lets the scripts answer events one after another. Gives a row of answers for each event. -/
def answerEach (set : ScriptSet) : List Event → Program (List (List (ScriptId × EventAnswer)) × ScriptSet)
  | [] => pure ([], set)
  | event :: rest => do
    let (row, after) ← set.answerEvent event
    let (rows, last) ← after.answerEach rest
    pure (row :: rows, last)

/-- The answers of the script with an index, among rows of answers. -/
def column (index : Nat) (rows : List (List (ScriptId × EventAnswer))) : List EventAnswer :=
  rows.filterMap fun row => row[index]?.map Prod.snd

/-- The script with an index answers in its column as it does alone. -/
theorem answers_column {host : Host} {script current : ScriptState} {before : List Event} {answers : List EventAnswer}
    (answered : script.Answers host before answers current) {set : ScriptSet} {index : Nat} {path : Path}
    (present : set.scripts[index]? = some ⟨path, current⟩) (events : List Event) (state : host.State) :
    ∃ last, script.Answers host (before ++ events)
      (answers ++ column index ((set.answerEach events).run host state).value.1) last := by
  -- What the script answered before these events goes along, because each event adds one answer behind it.
  induction events generalizing current before answers set state with
  | nil =>
    refine ⟨current, ?_⟩
    simpa only [answerEach, Program.run_pure, column, List.filterMap_nil, List.append_nil] using answered
  | cons event rest ih =>
    let first := (set.answerEvent event).run host state
    obtain ⟨begun, row, after⟩ := answerEvent_getElem? event present host state
    obtain ⟨last, whole⟩ := ih (answered.next event begun) after first.state
    refine ⟨last, ?_⟩
    rw [List.append_assoc, List.append_assoc, List.singleton_append, List.singleton_append] at whole
    have rows : column index ((set.answerEach (event :: rest)).run host state).value.1 =
        ((current.answer event).run host begun).value.1 ::
          column index ((first.value.2.answerEach rest).run host first.state).value.1 := by
      simp only [answerEach, Program.run_bind, Program.run_pure, column]
      exact List.filterMap_cons_some (by rw [row]; rfl)
    rw [rows]
    exact whole

end ScriptSet

/-- A report on so many events, none of them lost, that counts the callbacks that ran as other answers of the script do;
each outcome is counted alike when it is decided by the count of runs. -/
structure PumpReport.AgreesWith (report : PumpReport) (script : ScriptState) (host : Host) (sent : List Event)
    (answers : List EventAnswer) : Prop where
  identity : report.identity = script.identity
  events : report.events = sent.length
  skipped : report.skipped = 0
  answered : answers.length = sent.length
  callbacks : report.invoked + report.failed = answers.countP (·.callback?.isSome)
  outcomes : script.DecidedByCount host →
    report.invoked = answers.countP EventAnswer.isInvoked ∧ report.failed = answers.countP EventAnswer.isFailed

/-- A pump that lost no event has counted what its script answers to the same events elsewhere. -/
theorem Pump.Accounted.agreesWith {host : Host} {script last : ScriptState} {events handled : List Event} {room : Nat}
    {pump : Pump} (accounted : pump.Accounted host script events room handled) (fits : events.length ≤ room)
    {answers : List EventAnswer} (answered : script.Answers host events answers last) :
    pump.report.AgreesWith script host events answers := by
  obtain ⟨lossless, all⟩ := accounted.lossless fits
  obtain ⟨given, own, report⟩ := accounted.answered
  rw [all] at own
  rw [lossless] at report
  rw [report]
  refine ⟨rfl, own.length_eq, rfl, answered.length_eq, ?_, fun decided => ?_⟩
  · rw [own.countP_callback?_eq answered, EventAnswer.countP_callback?]
    rfl
  · rw [(own.agree answered).2.2 decided]
    exact ⟨rfl, rfl⟩

namespace Bridge

/-- Events that end in a shutdown already are sent as they are. -/
theorem broadcasts_eq_self {events : List Event} (ends : EndsInShutdown events) : broadcasts events = events := by
  obtain ⟨earlier, last, rfl, shutdown, others⟩ := ends
  induction earlier with
  | nil => rw [List.nil_append, broadcasts_cons, if_pos shutdown]
  | cons event rest ih =>
    have running : event.isShutdown = false := others event (List.mem_cons_self ..)
    rw [List.cons_append, broadcasts_cons, running,
      ih fun other later => others other (List.mem_cons_of_mem _ later)]
    rfl

/-- From one on, every capacity up to the greatest one opens a bridge. -/
theorem exists_ofScripts_iff (scripts : List ScriptState) {capacity : Nat} (positive : 1 ≤ capacity) :
    (∃ opened, ofScripts scripts capacity = .ok opened) ↔ capacity ≤ Broadcast.maxCapacity := by
  constructor
  · rintro ⟨opened, started⟩
    exact (ofScripts_eq_ok_iff.mp started).2.1
  · intro fits
    exact ⟨_, ofScripts_eq_ok_iff.mpr ⟨positive, fits, rfl⟩⟩

/-- The two ways of driving scripts agree. When the bus has room for all events, of which the last one and no other is a
shutdown, then however the turns are mixed the run can return, and whenever it has, the report on each script counts the
callbacks that ran as the set does that lets its scripts answer the events one after another. -/
theorem run_agrees_with_answerEach (set : ScriptSet) {capacity : Nat} (positive : 1 ≤ capacity) {events : List Event}
    (ends : EndsInShutdown events) (fits : events.length ≤ 2 ^ Nat.clog 2 capacity) (host : Host)
    (state start : host.State) :
    let rows := ((set.answerEach events).run host start).value.1
    ((∃ opened, ofScripts set.states capacity = .ok opened) ↔ capacity ≤ Broadcast.maxCapacity) ∧
    ∀ opened, ofScripts set.states capacity = .ok opened →
      let after := fun schedule => ((({ opened with pending := events } : Bridge).follow schedule).run host state).value
      (∃ schedule, (after schedule).Returned ∧
        ((opened.run events).run host state).value = (after schedule).pumps.map Pump.report) ∧
      ∀ schedule, (∃ more, (after (schedule ++ more)).Returned) ∧
        ((after schedule).Returned →
          (after schedule).pumps.length = set.scripts.length ∧
          ∀ (index : Nat) (loaded : LoadedScript), set.scripts[index]? = some loaded →
            ∃ pump, (after schedule).pumps[index]? = some pump ∧
              pump.report.AgreesWith loaded.state host events (ScriptSet.column index rows)) := by
  intro rows
  refine ⟨exists_ofScripts_iff set.states positive, ?_⟩
  intro opened started after
  have whole := broadcasts_eq_self ends
  refine ⟨exists_schedule_run started events host state, fun schedule => ?_⟩
  have progress := (progress_of_ofScripts started events host).follow (broadcasts_endsInShutdown events) schedule state
  rw [whole] at progress
  refine ⟨⟨(after schedule).sequentialSchedule, ?_⟩, fun returned => ⟨?_, ?_⟩⟩
  · simp only [after, follow_append_value]
    exact progress.returns ends _
  · rw [progress.length_eq, ScriptSet.states, List.length_map]
  · intro index loaded present
    have listed : set.states[index]? = some loaded.state := by
      rw [ScriptSet.states, List.getElem?_map, present, Option.map_some]
    obtain ⟨pump, found, accounted⟩ := (progress.concluded ends returned).accounts index loaded.state listed
    obtain ⟨_, answered⟩ := ScriptSet.answers_column .none present events start
    exact ⟨pump, found, accounted.agreesWith fits answered⟩

/-- A callback that fails at its first run only: on a bus of capacity three its two key messages count as one failure
and one success, and another script counts nothing, whatever the order of the turns was. -/
theorem run_agrees_with_answerEach_twice :
    let wavering : Callback := { body := fun count => pure (if count = 0 then .error (.abort none) else .ok ()) }
    let busy : ScriptState := (ScriptState.fresh ⟨"busy"⟩).register { name := some "go" } (some wavering)
    let idle : ScriptState := .fresh ⟨"idle"⟩
    let set : ScriptSet := ⟨{}, [⟨.ofString "busy.py", busy⟩, ⟨.ofString "idle.py", idle⟩]⟩
    let key : Event := .ofKey ⟨⟨"busy"⟩, "go"⟩ "u-"
    ∃ opened schedule, ofScripts set.states 3 = .ok opened ∧
      let last := ((({ opened with pending := [key, key, .shutdown] } : Bridge).follow schedule).run
        SimulatedHost.host ({} : SimulatedHost)).value
      last.Returned ∧
      (∃ pump, last.pumps[0]? = some pump ∧ pump.report.events = 3 ∧ pump.report.invoked = 1 ∧
        pump.report.failed = 1) ∧
      ∃ pump, last.pumps[1]? = some pump ∧ pump.report.events = 3 ∧ pump.report.invoked + pump.report.failed = 0 := by
  intro wavering busy idle set key
  have ends : EndsInShutdown [key, key, .shutdown] := ⟨[key, key], .shutdown, rfl, rfl, by simp [key]; rfl⟩
  have room : 2 ^ Nat.clog 2 3 = 4 := by rw [← Broadcast.ringSize_eq]; rfl
  obtain ⟨opens, agree⟩ := run_agrees_with_answerEach set (by decide : 1 ≤ 3) ends (by simp [room]) SimulatedHost.host
    ({} : SimulatedHost) ({} : SimulatedHost)
  obtain ⟨opened, started⟩ := opens.mpr (by decide)
  obtain ⟨⟨schedule, returned, _⟩, concludes⟩ := agree opened started
  obtain ⟨_, reports⟩ := (concludes schedule).2 returned
  have decided : busy.DecidedByCount SimulatedHost.host := by
    intro name callback filed count state other
    have filedHere : (if name = "go" then some wavering else none) = some callback := filed
    split at filedHere
    · cases filedHere
      rfl
    · cases filedHere
  obtain ⟨busyPump, busyPresent, busyAgrees⟩ := reports 0 _ rfl
  obtain ⟨idlePump, idlePresent, idleAgrees⟩ := reports 1 _ rfl
  have busyColumn : ScriptSet.column 0 ((set.answerEach [key, key, .shutdown]).run SimulatedHost.host
      ({} : SimulatedHost)).value.1 = [.failed "go", .invoked "go", .ignored] := by
    decide +kernel
  have idleColumn : ScriptSet.column 1 ((set.answerEach [key, key, .shutdown]).run SimulatedHost.host
      ({} : SimulatedHost)).value.1 = [.foreign, .foreign, .ignored] := by
    decide +kernel
  rw [busyColumn] at busyAgrees
  rw [idleColumn] at idleAgrees
  obtain ⟨invoked, failed⟩ := busyAgrees.outcomes decided
  exact ⟨opened, schedule, started, returned, ⟨busyPump, busyPresent, busyAgrees.events, invoked, failed⟩,
    idlePump, idlePresent, idleAgrees.events, idleAgrees.callbacks⟩

end Bridge
end ScriptBridge
