import ScriptBridge.ScriptState

/-!
# Routing events to callbacks

A script answers every event. Only a client message that is addressed to it and reports a key release runs a callback,
and a callback that fails is reported through the host log: the binding stays, and later events are processed as ever.
-/
namespace ScriptBridge

inductive EventAnswer where
  /-- It is no client message. -/
  | ignored
  /-- It is a client message whose payload cannot be decoded. -/
  | malformed
  /-- It is addressed to another script. -/
  | foreign
  /-- The key was not released. -/
  | notReleased
  /-- No callback has that name. -/
  | noCallback (name : String)
  | invoked (name : String)
  /-- The callback reported an error or broke off. -/
  | failed (name : String)
  deriving DecidableEq, Repr

namespace ScriptState

/-- What an event asks of a script, before any callback runs. -/
inductive Routing where
  /-- The event is answered as it is. -/
  | settled (answer : EventAnswer)
  /-- The callback under this name is to run. -/
  | run (name : String) (callback : Callback)

def route (script : ScriptState) (event : Event) : Routing :=
  if !event.isKind .clientMessage then .settled .ignored
  else
    match KeyMessage.decode event.data with
    | .error _ => .settled .malformed
    | .ok message =>
      if !message.target.isOwnedBy script.identity then .settled .foreign
      else if !message.released then .settled .notReleased
      else
        match script.keymap.callback? message.target.name with
        | none => .settled (.noCallback message.target.name)
        | some callback => .run message.target.name callback

/-- The script after the callback under a name has run once more. -/
def advance (script : ScriptState) (name : String) (callback : Callback) : ScriptState :=
  { script with keymap := script.keymap.bind name callback.next }

/-- The log entry with which a script begins to answer an event. -/
def receivedLog (script : ScriptState) (event : Event) : HostRequest :=
  .log .debug ("(" ++ script.identity.name ++ ") " ++
    ("received event: " ++ Numeral.ofInt event.id.toInt ++ ", " ++ event.data.text))

def failureLog (script : ScriptState) (name : String) (failure : CallbackFailure) : HostRequest :=
  .log .error ("(" ++ script.identity.name ++ ") " ++ ("callback " ++ name ++ " failed: " ++ failure.reason))

def answer (script : ScriptState) (event : Event) : Program (EventAnswer × ScriptState) := do
  script.access.log .debug
    ("received event: " ++ Numeral.ofInt event.id.toInt ++ ", " ++ event.data.text)
  match script.route event with
  | .settled answer => pure (answer, script)
  | .run name callback => do
    let outcome ← callback.invoke
    match outcome with
    | .ok () => pure (.invoked name, script.advance name callback)
    | .error failure => do
      script.access.log .error ("callback " ++ name ++ " failed: " ++ failure.reason)
      pure (.failed name, script.advance name callback)

end ScriptState
end ScriptBridge
