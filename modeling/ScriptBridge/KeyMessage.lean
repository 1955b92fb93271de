import ScriptBridge.Event
import ScriptBridge.Text.Quoted

/-!
# Key messages

The host reports a script's keys by client messages. The payload of one is a list: a kind, the target in wire form, the
key state, and further arguments. Only the target and the state matter here.
-/
namespace ScriptBridge

inductive DecodeError where
  | notAList
  | missingTarget
  | missingSeparator (target : String)
  deriving DecidableEq, Repr

def DecodeError.message : DecodeError → String
  | .notAList => "client message payload is not a list"
  | .missingTarget => "client message has no target element"
  | .missingSeparator target => "client message target " ++ Text.quoted target ++ " has no client separator"

structure KeyMessage where
  target : QualifiedName
  /-- The key was released; only that fires the bound callback. -/
  released : Bool
  deriving DecidableEq, Repr

namespace KeyMessage

def isRelease (state : Node) : Bool :=
  match state.string? with
  | some text => text.toList.head? = some 'u'
  | none => false

def decode (payload : Node) : Except DecodeError KeyMessage :=
  match payload.items? with
  | none => .error .notAList
  | some items =>
    match (items[1]?).bind Node.string? with
    | none => .error .missingTarget
    | some target =>
      match QualifiedName.parse? target with
      | none => .error (.missingSeparator target)
      | some key => .ok ⟨key, (items[2]?).any isRelease⟩

end KeyMessage
end ScriptBridge
