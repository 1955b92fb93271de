import ScriptBridge.Property
import ScriptBridge.Files.Path

/-!
# Calls to the host

What the bridge can ask of the player host, what the host answers, and how a call fails.
-/
namespace ScriptBridge

inductive HostError where
  | call (code : Int32) (message : String)
  | propertyUnavailable (name : String)
  | invalidParameter (what : String)
  | unsupported (what : String)
  deriving DecidableEq, Repr

def HostError.message : HostError → String
  | .call code message => "host error " ++ Numeral.ofInt code.toInt ++ ": " ++ message
  | .propertyUnavailable name => "property unavailable: " ++ name
  | .invalidParameter what => "invalid parameter: " ++ what
  | .unsupported what => "unsupported request: " ++ what

inductive LogLevel where
  | fatal
  | error
  | warn
  | info
  | debug
  deriving DecidableEq, Repr

namespace LogLevel

def all : List LogLevel := [.fatal, .error, .warn, .info, .debug]

def name : LogLevel → String
  | .fatal => "fatal"
  | .error => "error"
  | .warn => "warn"
  | .info => "info"
  | .debug => "debug"

def ofName? (name : String) : Option LogLevel := all.find? fun level => level.name = name

end LogLevel

/-- How an input section takes part in key lookup. -/
structure SectionFlags where
  /-- Keys that the section does not bind count as unbound. -/
  exclusive : Bool := false
  /-- The section goes before others. -/
  onTop : Bool := false
  /-- Window dragging works inside the mouse area. -/
  allowDragging : Bool := false
  /-- The pointer may hide inside the mouse area. -/
  allowHideCursor : Bool := false
  deriving DecidableEq, Repr

namespace SectionFlags

def bits (flags : SectionFlags) : Nat :=
  flags.exclusive.toNat + 2 * flags.onTop.toNat + 4 * flags.allowDragging.toNat +
    8 * flags.allowHideCursor.toNat

/-- The flags among the bits of a number; unknown bits are dropped. -/
def ofBits (bits : Nat) : SectionFlags :=
  ⟨bits.testBit 0, bits.testBit 1, bits.testBit 2, bits.testBit 3⟩

def top : SectionFlags := { onTop := true }

end SectionFlags

/-- A named group of key bindings in the host's input syntax. -/
structure InputSection where
  name : String
  location : String
  /-- One line for each binding, in final order. -/
  lines : List String
  /-- Builtin sections hold defaults that the user's bindings may override. -/
  builtin : Bool
  owner : String
  deriving DecidableEq, Repr

/-- The body of a section as the host reads it: a line feed, then the lines separated by line feeds. -/
def InputSection.contents (s : InputSection) : String := "\n" ++ String.intercalate "\n" s.lines

inductive HostRequest where
  | log (level : LogLevel) (text : String)
  | command (arguments : List String)
  | commandString (text : String)
  | commandNode (command : Node)
  | getProperty (name : String) (format : PropertyFormat)
  | setProperty (name : String) (value : PropertyValue)
  | deleteProperty (name : String)
  | defineSection (section_ : InputSection)
  | enableSection (name : String) (flags : SectionFlags)
  | requestEvent (id : Int32) (enable : Bool)
  | enableMessages (level : String)
  | findConfigFile (name : String)
  | extensionOk
  deriving Repr

def HostRequest.loggedAt? (request : HostRequest) (level : LogLevel) : Option String :=
  match request with
  | .log l text => if l = level then some text else none
  | _ => none

abbrev HostRequest.Reply : HostRequest → Type
  | .log .. | .defineSection .. | .enableSection .. => Unit
  | .command .. | .commandString .. | .setProperty .. | .deleteProperty .. => Except HostError Unit
  | .requestEvent .. | .enableMessages .. => Except HostError Unit
  | .commandNode .. => Except HostError Node
  | .getProperty .. => Except HostError PropertyValue
  | .findConfigFile .. => Option Path
  | .extensionOk => Bool

end ScriptBridge
