import ScriptBridge.Host.Program
import ScriptBridge.Error

/-!
# Key bindings

A keymap holds the key bindings of one script: a record for each name and, kept apart from the records, a callback for
each name that was given one. Every registration draws a fresh id; ids start at two and are never reused, also when a later
registration takes the place of an earlier one with the same name.
-/
namespace ScriptBridge

inductive CallbackFailure where
  /-- It reports an error. -/
  | error (cause : ScriptError)
  /-- It breaks off with a message, or with something that is none. -/
  | abort (message : Option String)
  deriving DecidableEq, Repr

def CallbackFailure.reason : CallbackFailure → String
  | .error cause => cause.message
  | .abort message => "panicked: " ++ message.getD "unknown panic"

/-- What a binding runs. It talks to the host, may behave differently from run to run, and may fail. -/
structure Callback where
  /-- How many times it has run. -/
  runs : Nat := 0
  /-- What it does, given the number of earlier runs. -/
  body : Nat → Program (Except CallbackFailure Unit)

def Callback.invoke (callback : Callback) : Program (Except CallbackFailure Unit) :=
  callback.body callback.runs

def Callback.next (callback : Callback) : Callback := { callback with runs := callback.runs + 1 }

/-- What a script asks for when it adds a binding. -/
structure BindingRequest where
  key : Option String := none
  name : Option String := none
  builtin : Bool := false
  options : List (String × Node) := []
  deriving Repr

structure Binding where
  id : UInt64
  name : String
  key : Option String
  /-- The line that is handed to the host; present exactly when there is a key. -/
  input : Option String
  builtin : Bool
  options : List (String × Node)
  deriving Repr

structure Keymap where
  identity : ScriptId
  /-- The id drawn last. -/
  lastId : UInt64 := 1
  /-- One record for each name, in the order of their ids. -/
  records : List Binding := []
  /-- The callbacks by name. -/
  callbacks : List (String × Callback) := []

/-- The host command that leads a key back to a binding. -/
def bindingCommand : String := "script-binding python/"

def inputLine (key : String) (target : QualifiedName) : String :=
  key ++ " " ++ bindingCommand ++ target.encode

/-- The name of a binding that was given none. -/
def defaultName (id : UInt64) : String := "__keybinding" ++ Numeral.ofNat id.toNat

namespace Keymap

def nextId (keymap : Keymap) : UInt64 := keymap.lastId + 1

/-- The name under which a registration is filed. -/
def effectiveName (keymap : Keymap) (request : BindingRequest) : String :=
  request.name.getD (defaultName keymap.nextId)

/-- The record that a registration leaves. -/
def recordOf (keymap : Keymap) (request : BindingRequest) : Binding :=
  let name := keymap.effectiveName request
  { id := keymap.nextId
    name := name
    key := request.key
    input := request.key.map fun key => inputLine key ⟨keymap.identity, name⟩
    builtin := request.builtin
    options := request.options }

/-- Registers a binding; a record of the same name gives way. -/
def add (keymap : Keymap) (request : BindingRequest) : Keymap :=
  let record := keymap.recordOf request
  { keymap with
    lastId := keymap.nextId
    records := keymap.records.filter (·.name ≠ record.name) ++ [record] }

def bind (keymap : Keymap) (name : String) (callback : Callback) : Keymap :=
  { keymap with callbacks := Table.insert name callback keymap.callbacks }

def register (keymap : Keymap) (request : BindingRequest) (callback : Option Callback) : Keymap :=
  match callback with
  | some callback => (keymap.add request).bind (keymap.effectiveName request) callback
  | none => keymap.add request

def size (keymap : Keymap) : Nat := keymap.records.length

def isEmpty (keymap : Keymap) : Bool := keymap.records.isEmpty

def hasBindings (keymap : Keymap) : Bool := !keymap.isEmpty

def get? (keymap : Keymap) (name : String) : Option Binding :=
  keymap.records.find? (·.name = name)

/-- The records in the order of their ids. -/
def bindings (keymap : Keymap) : List Binding := keymap.records

def callback? (keymap : Keymap) (name : String) : Option Callback :=
  Table.get? name keymap.callbacks

def hasCallback (keymap : Keymap) (name : String) : Bool := (keymap.callback? name).isSome

/-- To give a name a callback leaves the callbacks of the other names. -/
theorem callback?_bind (keymap : Keymap) (name other : String) (callback : Callback) :
    (keymap.bind name callback).callback? other =
      if other = name then some callback else keymap.callback? other :=
  Table.get?_insert name other callback keymap.callbacks

/-- Adding a record leaves every callback where it is, the one under the record's own name too. -/
@[simp] theorem callback?_add (keymap : Keymap) (request : BindingRequest) (name : String) :
    (keymap.add request).callback? name = keymap.callback? name := rfl

end Keymap
end ScriptBridge
