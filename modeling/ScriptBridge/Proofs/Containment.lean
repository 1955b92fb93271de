import ScriptBridge.Proofs.Registration

/-!
# Failures stay where they happen

A script answers events one after another while its callbacks fail as they like. One answered event keeps everything
that was registered and changes no later decision; by induction the same holds of every sequence of events, and its host
calls are, event by event, the log entry of the receipt, the calls of the callback that ran, and the report if it failed.
-/
namespace ScriptBridge

structure Firing where
  name : String
  outcome : Except CallbackFailure Unit
  /-- The calls that the callback made itself. -/
  calls : List HostRequest

def HostRequest.isErrorLog (request : HostRequest) : Bool := (request.loggedAt? .error).isSome

/-- The decision in a routing: its answer up to how a callback ends. -/
def ScriptState.Routing.decision : ScriptState.Routing → EventAnswer
  | .settled answer => answer
  | .run name _ => .invoked name

namespace ScriptState

def answerEach (script : ScriptState) : List Event → Program (List EventAnswer × ScriptState)
  | [] => pure ([], script)
  | event :: rest => do
    let (answer, after) ← script.answer event
    let (answers, last) ← after.answerEach rest
    pure (answer :: answers, last)

/-- The callback run in the answer to an event, if one runs. -/
def firing? (host : Host) (script : ScriptState) (state : host.State) (event : Event) : Option Firing :=
  match script.route event with
  | .settled _ => none
  | .run name callback =>
    let ran := callback.invoke.run host (host.answer state (script.receivedLog event)).2
    some ⟨name, ran.value, ran.calls⟩

/-- The callback runs in the answers to a sequence of events, a place for each event. -/
def firings (host : Host) (script : ScriptState) (state : host.State) : List Event → List (Option Firing)
  | [] => []
  | event :: rest =>
    let step := (script.answer event).run host state
    script.firing? host state event :: step.value.2.firings host step.state rest

/-- The calls around a callback run: the receipt of the event before it and the report of a failure behind it. -/
def callsAround (script : ScriptState) (event : Event) : Option Firing → List HostRequest
  | none => [script.receivedLog event]
  | some firing =>
    script.receivedLog event :: (firing.calls ++ script.outcomeReport firing.name firing.outcome)

/-- How often the callback under a name has run. -/
def runsOf (script : ScriptState) (name : String) : Nat :=
  ((script.keymap.callback? name).map Callback.runs).getD 0

/-- Two states with the same registrations: only how often callbacks have run may differ. -/
structure SameRegistrations (before after : ScriptState) : Prop where
  identity : after.identity = before.identity
  records : after.keymap.records = before.keymap.records
  lastId : after.keymap.lastId = before.keymap.lastId
  observed : after.observed = before.observed
  callbacks : ∀ name, (after.keymap.callback? name).map Callback.body = (before.keymap.callback? name).map Callback.body

theorem SameRegistrations.refl (script : ScriptState) : SameRegistrations script script :=
  ⟨rfl, rfl, rfl, rfl, fun _ => rfl⟩

theorem SameRegistrations.trans {first second third : ScriptState} (front : SameRegistrations first second)
    (back : SameRegistrations second third) : SameRegistrations first third :=
  ⟨back.identity.trans front.identity, back.records.trans front.records, back.lastId.trans front.lastId,
    back.observed.trans front.observed, fun name => (back.callbacks name).trans (front.callbacks name)⟩

theorem SameRegistrations.hasCallback {before after : ScriptState} (same : SameRegistrations before after)
    (name : String) : after.keymap.hasCallback name = before.keymap.hasCallback name := by
  have bodies := congrArg Option.isSome (same.callbacks name)
  simpa only [Option.isSome_map, Keymap.hasCallback] using bodies

/-- A run of a callback that is filed registers nothing. -/
theorem sameRegistrations_advance {script : ScriptState} {name : String} {callback : Callback}
    (filed : script.keymap.callback? name = some callback) :
    SameRegistrations script (script.advance name callback) := by
  refine ⟨rfl, rfl, rfl, rfl, fun other => ?_⟩
  rw [callback?_advance]
  split
  next same =>
    subst same
    rw [filed]
    rfl
  · rfl

/-- One answered event keeps what is registered, however its callback ends. -/
theorem answer_sameRegistrations (script : ScriptState) (event : Event) (host : Host) (state : host.State) :
    SameRegistrations script ((script.answer event).run host state).value.2 := by
  rcases script.answer_state event host state with same | ⟨name, callback, filed, advanced⟩
  · rw [same]
    exact .refl script
  · rw [advanced]
    exact sameRegistrations_advance filed

/-- Which answer is decided for an event depends on the registrations only. -/
theorem SameRegistrations.route_decision {before after : ScriptState} (same : SameRegistrations before after)
    (event : Event) : (after.route event).decision = (before.route event).decision := by
  have names := same.hasCallback
  simp only [route, same.identity]
  split
  · rfl
  · split
    · rfl
    next message _ =>
      split
      · rfl
      · split
        · rfl
        · have name := names message.target.name
          simp only [Keymap.hasCallback] at name
          split <;> split <;> simp_all [Routing.decision]

/-- The answer to an event is the one decided, up to how the callback ends. -/
theorem answer_decision (script : ScriptState) (event : Event) (host : Host) (state : host.State) :
    ((script.answer event).run host state).value.1.decision = (script.route event).decision := by
  cases routed : script.route event with
  | settled answer =>
    rw [(settles_of_route routed host state).1]
    have quiet := callback?_of_settled routed
    cases answer <;> first | rfl | cases quiet
  | run name callback =>
    rw [(fires_of_route routed host state).1]
    exact EventAnswer.decision_ofOutcome name _

/-- An answer makes the calls of the callback that it fires, between the log entries about it. -/
theorem answer_calls (script : ScriptState) (event : Event) (host : Host) (state : host.State) :
    ((script.answer event).run host state).calls =
      script.callsAround event (script.firing? host state event) := by
  cases routed : script.route event with
  | settled answer =>
    rw [(settles_of_route routed host state).2]
    simp only [firing?, routed, callsAround]
  | run name callback =>
    rw [(fires_of_route routed host state).2]
    simp only [firing?, routed, callsAround]

theorem answer_callback? (script : ScriptState) (event : Event) (host : Host) (state : host.State) :
    ((script.answer event).run host state).value.1.callback? =
      (script.firing? host state event).map Firing.name := by
  cases routed : script.route event with
  | settled answer =>
    rw [(settles_of_route routed host state).1]
    simp only [firing?, routed, callback?_of_settled routed, Option.map_none]
  | run name callback =>
    rw [(fires_of_route routed host state).1]
    simp only [firing?, routed, EventAnswer.callback?_ofOutcome, Option.map_some]

/-- When a callback ran, its outcome alone decides between the two answers. -/
theorem answer_of_firing {script : ScriptState} {event : Event} {host : Host} {state : host.State} {firing : Firing}
    (fired : script.firing? host state event = some firing) :
    ((script.answer event).run host state).value.1 = .ofOutcome firing.name firing.outcome := by
  cases routed : script.route event with
  | settled answer => simp only [firing?, routed, reduceCtorEq] at fired
  | run name callback =>
    simp only [firing?, routed, Option.some.injEq] at fired
    subst fired
    exact congrArg Prod.fst (fires_of_route routed host state).1

/-- An answer counts one more run of the callback that it names, and of no other. -/
theorem answer_runsOf (script : ScriptState) (event : Event) (host : Host) (state : host.State) (name : String) :
    ((script.answer event).run host state).value.2.runsOf name = script.runsOf name +
      if ((script.answer event).run host state).value.1.callback? = some name then 1 else 0 := by
  cases routed : script.route event with
  | settled answer =>
    rw [(settles_of_route routed host state).1]
    simp only [callback?_of_settled routed, reduceCtorEq, ↓reduceIte, Nat.add_zero]
  | run ranName callback =>
    have filed := (route_eq_run_iff.mp routed).2.2
    rw [(fires_of_route routed host state).1]
    simp only [EventAnswer.callback?_ofOutcome, Option.some.injEq, runsOf, callback?_advance]
    by_cases same : name = ranName
    · subst same
      simp only [filed, ↓reduceIte, Option.map_some, Option.getD_some, Callback.next]
    · simp only [same, Ne.symm same, ↓reduceIte, Nat.add_zero]

/-- Of the error log entries around a callback run, all but the report of its failure are the callback's own. -/
theorem countP_callsAround (script : ScriptState) (event : Event) (host : Host) (state : host.State) :
    (script.callsAround event (script.firing? host state event)).countP HostRequest.isErrorLog =
      (((script.firing? host state event).toList.flatMap Firing.calls).countP HostRequest.isErrorLog) +
        if ((script.answer event).run host state).value.1.isFailed then 1 else 0 := by
  cases fired : script.firing? host state event with
  | none =>
    have quiet := script.answer_callback? event host state
    rw [fired, Option.map_none] at quiet
    have kept : ((script.answer event).run host state).value.1.isFailed = false := by
      revert quiet
      cases ((script.answer event).run host state).value.1 <;> simp [EventAnswer.callback?, EventAnswer.isFailed]
    simp [callsAround, kept, receivedLog, HostRequest.isErrorLog, HostRequest.loggedAt?]
  | some firing =>
    rw [answer_of_firing fired]
    cases outcome : firing.outcome with
    | ok done =>
      simp [callsAround, outcome, outcomeReport, EventAnswer.ofOutcome, EventAnswer.isFailed, receivedLog,
        HostRequest.isErrorLog, HostRequest.loggedAt?]
    | error failure =>
      simp [callsAround, outcome, outcomeReport, EventAnswer.ofOutcome, EventAnswer.isFailed, receivedLog, failureLog,
        HostRequest.isErrorLog, HostRequest.loggedAt?]

theorem SameRegistrations.callsAround {before after : ScriptState} (same : SameRegistrations before after) :
    after.callsAround = before.callsAround := by
  funext event firing
  cases firing with
  | none => simp only [ScriptState.callsAround, receivedLog, same.identity]
  | some firing =>
    cases outcome : firing.outcome with
    | ok done => simp only [ScriptState.callsAround, receivedLog, outcome, outcomeReport, same.identity]
    | error failure =>
      simp only [ScriptState.callsAround, receivedLog, outcome, outcomeReport, failureLog, same.identity]

theorem run_answerEach_cons (script : ScriptState) (event : Event) (rest : List Event) (host : Host)
    (state : host.State) :
    (script.answerEach (event :: rest)).run host state =
      let step := (script.answer event).run host state
      let later := (step.value.2.answerEach rest).run host step.state
      ⟨(step.value.1 :: later.value.1, later.value.2), step.calls ++ later.calls, later.state⟩ := by
  simp only [answerEach, Program.run_bind, Program.run_pure, List.append_nil]

section Runs
variable (script : ScriptState) (events : List Event) (host : Host) (state : host.State)

theorem length_answerEach : ((script.answerEach events).run host state).value.1.length = events.length := by
  induction events generalizing script state with
  | nil => rfl
  | cons event rest ih =>
    rw [run_answerEach_cons]
    exact congrArg (· + 1) (ih _ _)

/-- Over any events the registrations stay the same. -/
theorem answerEach_sameRegistrations :
    SameRegistrations script ((script.answerEach events).run host state).value.2 := by
  induction events generalizing script state with
  | nil => exact .refl script
  | cons event rest ih =>
    rw [run_answerEach_cons]
    exact (script.answer_sameRegistrations event host state).trans (ih _ _)

/-- Every decision in a run is the one that routing takes in the first state. -/
theorem decision_answerEach {index : Nat} {event : Event} {answer : EventAnswer} (asked : events[index]? = some event)
    (given : ((script.answerEach events).run host state).value.1[index]? = some answer) :
    answer.decision = (script.route event).decision := by
  induction events generalizing script state index with
  | nil => simp at asked
  | cons head rest ih =>
    rw [run_answerEach_cons] at given
    cases index with
    | zero =>
      simp only [List.getElem?_cons_zero, Option.some.injEq] at asked given
      rw [← asked, ← given]
      exact script.answer_decision head host state
    | succ index =>
      simp only [List.getElem?_cons_succ] at asked given
      rw [ih _ _ asked given]
      exact (script.answer_sameRegistrations head host state).route_decision event

theorem answerEach_of_firing {index : Nat} {firing : Firing}
    (fired : (script.firings host state events)[index]? = some (some firing)) :
    ((script.answerEach events).run host state).value.1[index]? = some (.ofOutcome firing.name firing.outcome) := by
  induction events generalizing script state index with
  | nil => simp [firings] at fired
  | cons event rest ih =>
    rw [run_answerEach_cons]
    cases index with
    | zero =>
      simp only [firings, List.getElem?_cons_zero, Option.some.injEq] at fired
      simp only [List.getElem?_cons_zero, answer_of_firing fired]
    | succ index =>
      simp only [firings, List.getElem?_cons_succ] at fired
      simp only [List.getElem?_cons_succ]
      exact ih _ _ fired

theorem callback?_answerEach :
    ((script.answerEach events).run host state).value.1.map EventAnswer.callback? =
      (script.firings host state events).map (Option.map Firing.name) := by
  induction events generalizing script state with
  | nil => rfl
  | cons event rest ih =>
    rw [run_answerEach_cons]
    simp only [firings, List.map_cons, answer_callback?, ih]

/-- A callback has run once more for every answer that names it. -/
theorem answerEach_runsOf (name : String) :
    ((script.answerEach events).run host state).value.2.runsOf name = script.runsOf name +
      ((script.answerEach events).run host state).value.1.countP (·.callback? = some name) := by
  induction events generalizing script state with
  | nil => rfl
  | cons event rest ih =>
    rw [run_answerEach_cons]
    simp only [ih, answer_runsOf, List.countP_cons, decide_eq_true_eq]
    omega

/-- The calls of a run are those of its answers, one event after another. -/
theorem answerEach_calls :
    ((script.answerEach events).run host state).calls =
      (List.zipWith script.callsAround events (script.firings host state events)).flatten := by
  induction events generalizing script state with
  | nil => rfl
  | cons event rest ih =>
    rw [run_answerEach_cons]
    simp only [firings, List.zipWith_cons_cons, List.flatten_cons, answer_calls, ih,
      (script.answer_sameRegistrations event host state).callsAround]

/-- Besides what callbacks log themselves, there is one error entry for every failure. -/
theorem answerEach_errors :
    ((script.answerEach events).run host state).calls.countP HostRequest.isErrorLog =
      ((script.firings host state events).flatMap (·.toList.flatMap Firing.calls)).countP HostRequest.isErrorLog +
        ((script.answerEach events).run host state).value.1.countP EventAnswer.isFailed := by
  induction events generalizing script state with
  | nil => rfl
  | cons event rest ih =>
    rw [run_answerEach_cons]
    simp only [firings, List.countP_append, answer_calls, countP_callsAround, ih, List.flatMap_cons, List.countP_cons]
    omega

end Runs

/-- What a run over events comes to, whichever of its callbacks fail and however they do. -/
structure FailuresContained (script : ScriptState) (events : List Event) (host : Host) (state : host.State) :
    Prop where
  /-- Every event is answered. -/
  answered : ((script.answerEach events).run host state).value.1.length = events.length
  /-- Records, ids, the id counter, callbacks and observed properties are those of before. -/
  registrations : SameRegistrations script ((script.answerEach events).run host state).value.2
  names : ∀ name, ((script.answerEach events).run host state).value.2.keymap.hasCallback name =
    script.keymap.hasCallback name
  /-- Each event is answered as if it were the first, against whatever host, but for how its callback ends. -/
  decisions : ∀ (index : Nat) (event : Event) (answer : EventAnswer), events[index]? = some event →
    ((script.answerEach events).run host state).value.1[index]? = some answer →
    ∀ (other : Host) (start : other.State),
      answer.decision = ((script.answer event).run other start).value.1.decision
  /-- A callback that ran decides by its own outcome whether the event counts as failed. -/
  outcomes : ∀ (index : Nat) (firing : Firing), (script.firings host state events)[index]? = some (some firing) →
    ((script.answerEach events).run host state).value.1[index]? = some (.ofOutcome firing.name firing.outcome)
  /-- There are as many callback runs as answers that name a callback, -/
  firings : (script.firings host state events).countP Option.isSome =
    ((script.answerEach events).run host state).value.1.countP (·.callback?.isSome)
  /-- and each callback has run as often as it is named. -/
  runs : ∀ name, ((script.answerEach events).run host state).value.2.runsOf name =
    script.runsOf name + ((script.answerEach events).run host state).value.1.countP (·.callback? = some name)
  /-- The host calls are, event by event, the receipt, the calls of the callback that ran and the report if it failed. -/
  calls : ((script.answerEach events).run host state).calls =
    (List.zipWith script.callsAround events (script.firings host state events)).flatten
  /-- Besides the errors that the callbacks log themselves, one is logged for each failed event and no other. -/
  errors : ((script.answerEach events).run host state).calls.countP HostRequest.isErrorLog =
    ((script.firings host state events).flatMap (·.toList.flatMap Firing.calls)).countP HostRequest.isErrorLog +
      ((script.answerEach events).run host state).value.1.countP EventAnswer.isFailed

/-- The failures of callbacks stay contained over every sequence of events, in every state and against every host. -/
theorem failures_contained (script : ScriptState) (events : List Event) (host : Host) (state : host.State) :
    FailuresContained script events host state where
  answered := script.length_answerEach events host state
  registrations := script.answerEach_sameRegistrations events host state
  names := (script.answerEach_sameRegistrations events host state).hasCallback
  decisions := by
    intro index event answer asked given other start
    rw [script.answer_decision event other start]
    exact script.decision_answerEach events host state asked given
  outcomes := fun _ _ fired => script.answerEach_of_firing events host state fired
  firings := by
    have named := congrArg (List.countP Option.isSome) (script.callback?_answerEach events host state)
    simpa only [List.countP_map, Function.comp_def, Option.isSome_map] using named.symm
  runs := script.answerEach_runsOf events host state
  calls := script.answerEach_calls events host state
  errors := script.answerEach_errors events host state

end ScriptState
end ScriptBridge
