import ScriptBridge.Host.Request
import ScriptBridge.KeyMessage
import ScriptBridge.Files.SystemError

/-!
# Errors of the bridge

What can go wrong between the host and a script, with one text for each cause; and the error that a script itself
reports, a cause with the contexts that were wrapped around it.
-/
namespace ScriptBridge

structure ScriptError where
  /-- The contexts around the cause, the outermost first. -/
  contexts : List String
  cause : String
  deriving DecidableEq, Repr

/-- A script error without contexts. -/
def ScriptError.ofMessage (message : String) : ScriptError := ⟨[], message⟩

/-- The contexts and the cause, separated by colons. -/
def ScriptError.message (error : ScriptError) : String :=
  String.intercalate ": " (error.contexts ++ [error.cause])

inductive BridgeError where
  | invalidFormat (code : Int64)
  | formatMismatch (expected found : PropertyFormat)
  /-- A node of the kind found cannot be read in the target format. -/
  | coercion (target : PropertyFormat) (found : String)
  | scriptNotFound (path : Path)
  | noIdentity (path : Path)
  | scriptLoad (identity : ScriptId) (cause : ScriptError)
  | unknownEvent (name : String)
  | malformedMessage (cause : DecodeError)
  | host (cause : HostError)
  | system (cause : SystemError)
  deriving DecidableEq, Repr

def BridgeError.message : BridgeError → String
  | .invalidFormat code =>
    "invalid property format code " ++ Numeral.ofInt code.toInt ++ ", expected 1..=6"
  | .formatMismatch expected found =>
    "value of format " ++ found.name ++ " does not match requested format " ++ expected.name
  | .coercion target found => "cannot coerce " ++ found ++ " value to " ++ target.name
  | .scriptNotFound path => "script not found: " ++ path.display
  | .noIdentity path => "cannot derive a client identity from " ++ path.display
  | .scriptLoad identity cause => "script " ++ identity.name ++ " failed to load: " ++ cause.message
  | .unknownEvent name => "unknown event: " ++ name
  | .malformedMessage cause => "malformed client message: " ++ cause.message
  | .host cause => cause.message
  | .system cause => cause.message

end ScriptBridge
