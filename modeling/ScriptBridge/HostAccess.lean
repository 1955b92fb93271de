import ScriptBridge.Coercion
import ScriptBridge.Host.Program

/-!
# Access to the host

What a script can ask of the host in its own name: log, run commands, subscribe to events, and read and write
properties. Properties cross in one of two ways. The raw calls take a wire code and check it, and the tag of the value,
before anything reaches the host; a rejected call is logged and gives nothing. The typed calls build a rightly tagged
value first, so that only their coercion can fail.
-/
namespace ScriptBridge

structure HostAccess where
  identity : ScriptId
  deriving DecidableEq, Repr

namespace HostAccess

/-- Logs a message under the script's identity; an empty message is dropped. -/
def log (access : HostAccess) (level : LogLevel) (message : String) : Program Unit :=
  if message = "" then pure ()
  else Program.ask (.log level ("(" ++ access.identity.name ++ ") " ++ message))

def command (_ : HostAccess) (name : String) (arguments : List String) : Program (Except HostError Unit) :=
  Program.ask (.command (name :: arguments))

def commandString (_ : HostAccess) (text : String) : Program (Except HostError Unit) :=
  Program.ask (.commandString text)

def commandNode (_ : HostAccess) (node : Node) : Program (Except HostError Node) :=
  Program.ask (.commandNode node)

/-- Shows a text on the screen, for a number of milliseconds or as long as the host likes. -/
def showText (access : HostAccess) (text : String) (duration : Option Int64) (level : Option UInt8) :
    Program (Except HostError Unit) :=
  access.command "show-text" (text :: Numeral.ofInt ((duration.map Int64.toInt).getD (-1)) ::
    (level.map fun l => Numeral.ofNat l.toNat).toList)

def requestEventKind (_ : HostAccess) (kind : EventKind) (enable : Bool) : Program (Except HostError Unit) :=
  Program.ask (.requestEvent kind.id enable)

def requestEvent (access : HostAccess) (name : String) (enable : Bool) :
    Program (Except BridgeError Unit) :=
  match EventKind.ofName? name with
  | none => pure (.error (.unknownEvent name))
  | some kind => do
    let reply ← access.requestEventKind kind enable
    pure (reply.mapError .host)

def enableMessages (_ : HostAccess) (level : String) : Program (Except HostError Unit) :=
  Program.ask (.enableMessages level)

def findConfigFile (_ : HostAccess) (name : String) : Program (Option Path) :=
  Program.ask (.findConfigFile name)

def extensionOk (_ : HostAccess) : Program Bool := Program.ask .extensionOk

def reject (access : HostAccess) (name : String) (error : BridgeError) : Program Unit :=
  access.log .error ("property " ++ name ++ ": " ++ error.message)

def write (_ : HostAccess) (name : String) (value : PropertyValue) : Program Bool := do
  let reply ← Program.ask (.setProperty name value)
  pure reply.isOk

def read (_ : HostAccess) (name : String) (format : PropertyFormat) : Program (Option PropertyValue) := do
  let reply ← Program.ask (.getProperty name format)
  pure reply.toOption

def formatOfCode (code : Int64) : Except BridgeError PropertyFormat :=
  match PropertyFormat.ofCode? code with
  | some format => .ok format
  | none => .error (.invalidFormat code)

/-- The check that a raw write has to pass. -/
def checkWrite (code : Int64) (value : PropertyValue) : Except BridgeError Unit := do
  let expected ← formatOfCode code
  if value.format = expected then .ok () else .error (.formatMismatch expected value.format)

/-- Writes a property by wire code. Nothing when the code or the tag is wrong, otherwise whether the host accepted. -/
def setProperty (access : HostAccess) (name : String) (code : Int64) (value : PropertyValue) :
    Program (Option Bool) :=
  match checkWrite code value with
  | .ok () => do
    let accepted ← access.write name value
    pure (some accepted)
  | .error error => do
    access.reject name error
    pure none

def getProperty (access : HostAccess) (name : String) (code : Int64) : Program (Option PropertyValue) :=
  match formatOfCode code with
  | .ok format => access.read name format
  | .error error => do
    access.reject name error
    pure none

def deleteProperty (_ : HostAccess) (name : String) : Program Bool := do
  let reply ← Program.ask (.deleteProperty name)
  pure reply.isOk

def setString (access : HostAccess) (name : String) (node : Node) : Program Bool :=
  access.write name (.string node.text)

def setOsdString (access : HostAccess) (name : String) (node : Node) : Program Bool :=
  access.write name (.osdString node.text)

def setFlag (access : HostAccess) (name : String) (node : Node) : Program Bool :=
  access.write name (.flag node.isTruthy)

def setInt (access : HostAccess) (name : String) (node : Node) : Program (Except BridgeError Bool) :=
  match node.requireInt64 with
  | .ok value => do
    let accepted ← access.write name (.int64 value)
    pure (.ok accepted)
  | .error error => pure (.error error)

def setDouble (access : HostAccess) (name : String) (node : Node) : Program (Except BridgeError Bool) :=
  match node.requireDouble with
  | .ok value => do
    let accepted ← access.write name (.double value)
    pure (.ok accepted)
  | .error error => pure (.error error)

def setNode (access : HostAccess) (name : String) (node : Node) : Program Bool :=
  access.write name (.node node)

def getString (access : HostAccess) (name : String) : Program (Option String) := do
  let value ← access.read name .string
  pure (value.map fun v => v.toNode.text)

def getOsdString (access : HostAccess) (name : String) : Program (Option String) := do
  let value ← access.read name .osdString
  pure (value.map fun v => v.toNode.text)

/-- Reads a flag; a missing property reads as false. -/
def getFlag (access : HostAccess) (name : String) : Program Bool := do
  let value ← access.read name .flag
  pure (value.any fun v => v.toNode.isTruthy)

def getInt (access : HostAccess) (name : String) : Program (Option Int64) := do
  let value ← access.read name .int64
  pure (value.bind fun v => v.toNode.toInt64?)

def getDouble (access : HostAccess) (name : String) : Program (Option Double) := do
  let value ← access.read name .double
  pure (value.bind fun v => v.toNode.toDouble?)

def getNode (access : HostAccess) (name : String) : Program (Option Node) := do
  let value ← access.read name .node
  pure (value.map PropertyValue.toNode)

/-- Writes the opposite of what a flag reads. -/
def toggleFlag (access : HostAccess) (name : String) : Program Bool := do
  let value ← access.getFlag name
  access.setFlag name (.flag !value)

end HostAccess
end ScriptBridge
