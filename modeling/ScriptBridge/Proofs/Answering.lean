import ScriptBridge.Routing

/-!
# What answering an event does

A script answers an event in one of two ways. Either the answer is settled: then only the receipt of the event is
logged and the script stays as it is. Or one callback runs: then its calls follow that log entry, a failure is reported
behind them, and of the script only the number of runs of that callback changes. Everything that is proved about
events further on rests on these two descriptions, `Settles` and `Fires`.
-/
namespace ScriptBridge

namespace EventAnswer

def callback? : EventAnswer → Option String
  | .invoked name | .failed name => some name
  | _ => none

def isFailed : EventAnswer → Bool
  | .failed _ => true
  | _ => false

/-- The answer without regard to how the callback ended. -/
def decision : EventAnswer → EventAnswer
  | .failed name => .invoked name
  | answer => answer

/-- The answer when a callback has run to this outcome. -/
def ofOutcome (name : String) : Except CallbackFailure Unit → EventAnswer
  | .ok () => .invoked name
  | .error _ => .failed name

@[simp] theorem callback?_ofOutcome (name : String) (outcome : Except CallbackFailure Unit) :
    (ofOutcome name outcome).callback? = some name := by
  cases outcome <;> rfl

@[simp] theorem decision_ofOutcome (name : String) (outcome : Except CallbackFailure Unit) :
    (ofOutcome name outcome).decision = .invoked name := by
  cases outcome <;> rfl

end EventAnswer

/-- A text that is not empty goes to the host log behind the script's name. -/
theorem HostAccess.log_eq_ask (access : HostAccess) (level : LogLevel) {message : String} (present : message ≠ "") :
    access.log level message = Program.ask (.log level ("(" ++ access.identity.name ++ ") " ++ message)) := by
  rw [HostAccess.log, if_neg present]

namespace ScriptState

def outcomeReport (script : ScriptState) (name : String) : Except CallbackFailure Unit → List HostRequest
  | .ok () => []
  | .error failure => [script.failureLog name failure]

/-- The event is answered so, and nothing happens but the log entry of its receipt. -/
def Settles (script : ScriptState) (event : Event) (answer : EventAnswer) : Prop :=
  ∀ (host : Host) (state : host.State),
    ((script.answer event).run host state).value = (answer, script) ∧
    ((script.answer event).run host state).calls = [script.receivedLog event]

/-- The callback, filed under the name, runs exactly once for the event: apart from the log entry of the receipt and the
report of a failure all calls are those of its next run, and it has run once more afterwards. -/
def Fires (script : ScriptState) (event : Event) (name : String) (callback : Callback) : Prop :=
  ∀ (host : Host) (state : host.State),
    let ran := callback.invoke.run host (host.answer state (script.receivedLog event)).2
    ((script.answer event).run host state).value =
      (.ofOutcome name ran.value, script.advance name callback) ∧
    ((script.answer event).run host state).calls =
      script.receivedLog event :: (ran.calls ++ script.outcomeReport name ran.value)

/-- A run moves the callback under its own name on, and no other. -/
theorem callback?_advance (script : ScriptState) (name : String) (callback : Callback) (other : String) :
    (script.advance name callback).keymap.callback? other =
      if other = name then some callback.next else script.keymap.callback? other :=
  script.keymap.callback?_bind name other callback.next

/-- What is left to do when a callback has run to an outcome. -/
def conclude (script : ScriptState) (name : String) (callback : Callback) :
    Except CallbackFailure Unit → Program (EventAnswer × ScriptState)
  | .ok () => pure (.invoked name, script.advance name callback)
  | .error failure => .call (script.failureLog name failure) fun _ => pure (.failed name, script.advance name callback)

/-- However the callback ended, its next run is filed, and only a failure is reported to the host. -/
theorem run_conclude (script : ScriptState) (name : String) (callback : Callback)
    (outcome : Except CallbackFailure Unit) (host : Host) (state : host.State) :
    ((script.conclude name callback outcome).run host state).value =
      (.ofOutcome name outcome, script.advance name callback) ∧
    ((script.conclude name callback outcome).run host state).calls = script.outcomeReport name outcome := by
  cases outcome with
  | ok done => exact ⟨rfl, rfl⟩
  | error failure => exact ⟨rfl, rfl⟩

/-- An answer logs the event, and then does what routing asks for. -/
theorem answer_eq (script : ScriptState) (event : Event) :
    script.answer event = .call (script.receivedLog event) fun _ =>
      match script.route event with
      | .settled answer => pure (answer, script)
      | .run name callback => callback.invoke >>= script.conclude name callback := by
  have received : "received event: " ++ Numeral.ofInt event.id.toInt ++ ", " ++ event.data.text ≠ "" := by
    simp [← String.toList_inj]
  rw [answer, HostAccess.log_eq_ask _ _ received]
  refine congrArg (Program.call (script.receivedLog event)) (funext fun _ => ?_)
  cases script.route event with
  | settled answer => rfl
  | run name callback =>
    refine congrArg (callback.invoke >>= ·) (funext fun outcome => ?_)
    cases outcome with
    | ok done => rfl
    | error failure =>
      have reported : "callback " ++ name ++ " failed: " ++ failure.reason ≠ "" := by
        simp [← String.toList_inj]
      dsimp only
      rw [HostAccess.log_eq_ask _ _ reported]
      rfl

theorem settles_of_route {script : ScriptState} {event : Event} {answer : EventAnswer}
    (settled : script.route event = .settled answer) : script.Settles event answer := by
  intro host state
  simp only [answer_eq, settled, Program.run, Program.run_pure, and_self]

theorem fires_of_route {script : ScriptState} {event : Event} {name : String} {callback : Callback}
    (routed : script.route event = .run name callback) : script.Fires event name callback := by
  intro host state ran
  obtain ⟨value, calls⟩ := script.run_conclude name callback ran.value host ran.state
  simp only [answer_eq, routed, Program.run, Program.run_bind]
  exact ⟨value, congrArg (fun later => script.receivedLog event :: (ran.calls ++ later)) calls⟩

/-- Routing leads to a callback exactly for a client message that reports a key release under one of the script's own
names, and then to the callback that is filed under that name. -/
theorem route_eq_run_iff {script : ScriptState} {event : Event} {name : String} {callback : Callback} :
    script.route event = .run name callback ↔
      event.isKind .clientMessage = true ∧
      KeyMessage.decode event.data = .ok ⟨⟨script.identity, name⟩, true⟩ ∧
      script.keymap.callback? name = some callback := by
  constructor
  · intro routed
    rw [route] at routed
    split at routed
    · cases routed
    next client =>
      split at routed
      · cases routed
      next message decoded =>
        split at routed
        · cases routed
        next owned =>
          split at routed
          · cases routed
          next released =>
            split at routed
            · cases routed
            next filed =>
              cases routed
              obtain ⟨⟨owner, name⟩, pressed⟩ := message
              simp only [QualifiedName.isOwnedBy, Bool.not_eq_true', Bool.not_eq_false, decide_eq_true_eq]
                at client released owned
              subst owned released
              exact ⟨client, decoded, filed⟩
  · rintro ⟨client, decoded, filed⟩
    simp [route, client, decoded, filed, QualifiedName.isOwnedBy]

/-- A key message for another owner is settled as foreign, pressed or released. -/
theorem route_of_foreign {script : ScriptState} {event : Event} {owner : ScriptId} {name : String} {released : Bool}
    (client : event.isKind .clientMessage = true)
    (decoded : KeyMessage.decode event.data = .ok ⟨⟨owner, name⟩, released⟩) (other : owner ≠ script.identity) :
    script.route event = .settled .foreign := by
  simp [route, client, decoded, QualifiedName.isOwnedBy, other]

theorem route_of_noCallback {script : ScriptState} {event : Event} {name : String}
    (client : event.isKind .clientMessage = true)
    (decoded : KeyMessage.decode event.data = .ok ⟨⟨script.identity, name⟩, true⟩)
    (bare : script.keymap.callback? name = none) : script.route event = .settled (.noCallback name) := by
  simp [route, client, decoded, bare, QualifiedName.isOwnedBy]

theorem callback?_of_settled {script : ScriptState} {event : Event} {answer : EventAnswer}
    (settled : script.route event = .settled answer) : answer.callback? = none := by
  rw [route] at settled
  split at settled
  · cases settled
    rfl
  · split at settled
    · cases settled
      rfl
    · split at settled
      · cases settled
        rfl
      · split at settled
        · cases settled
          rfl
        · split at settled
          · cases settled
            rfl
          · cases settled

end ScriptState
end ScriptBridge
