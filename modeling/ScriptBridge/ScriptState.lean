import ScriptBridge.Binding.Section
import ScriptBridge.Watchlist
import ScriptBridge.HostAccess

/-!
# The state of a script

The state that belongs to one loaded script: its bindings and its observed properties. Nothing of it is shared between
scripts.
-/
namespace ScriptBridge

structure ScriptState where
  identity : ScriptId
  keymap : Keymap
  observed : Watchlist

namespace ScriptState

/-- The state of a script that has registered nothing. -/
def fresh (identity : ScriptId) : ScriptState :=
  { identity := identity
    keymap := { identity := identity }
    observed := { identity := identity } }

def access (script : ScriptState) : HostAccess := ⟨script.identity⟩

def register (script : ScriptState) (request : BindingRequest) (callback : Option Callback) : ScriptState :=
  { script with keymap := script.keymap.register request callback }

def observe (script : ScriptState) (name : String) (format : PropertyFormat) (token : UInt64) :
    ScriptState :=
  { script with observed := script.observed.observe name format token }

def hasBindings (script : ScriptState) : Bool := script.keymap.hasBindings

/-- Compiles the bindings and hands the sections to the host. -/
def defineSections (script : ScriptState) : Program SectionPair := do
  let compiled := script.keymap.compile
  compiled.apply
  pure compiled

/-- Asks the host to deliver client messages, if anything is bound. Whether the request was made and accepted. -/
def requestMessages (script : ScriptState) : Program Bool :=
  if script.hasBindings then do
    let reply ← script.access.requestEventKind .clientMessage true
    match reply with
    | .ok () => do
      script.access.log .debug "enabled client-message"
      pure true
    | .error error => do
      script.access.log .error ("failed to enable client-message: " ++ error.message)
      pure false
  else pure false

/-- Brings what the script has registered to the host. -/
def submit (script : ScriptState) (enableMessages : Bool) : Program SectionPair := do
  script.access.log .debug "flushing"
  if enableMessages then
    let _ ← script.requestMessages
  script.defineSections

end ScriptState
end ScriptBridge
