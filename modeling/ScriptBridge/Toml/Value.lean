import ScriptBridge.Toml.Datetime
import ScriptBridge.Node.Basic

/-!
# Values of a configuration document

A document is a table; the entries of a table stand in ascending order of their keys.
-/
namespace ScriptBridge.Toml

inductive Value where
  | string (value : String)
  | integer (value : Int64)
  | float (value : Double)
  | boolean (value : Bool)
  | datetime (value : Datetime)
  | array (items : List Value)
  | table (entries : List (String × Value))
  deriving Repr, Inhabited

/-- The entries of a table, by ascending keys. -/
abbrev Entries := List (String × Value)

mutual

/-- A value as a node. A date or time becomes its text. -/
def Value.toNode : Value → Node
  | .string value => .string value
  | .integer value => .int64 value
  | .float value => .double value
  | .boolean value => .flag value
  | .datetime value => .string (String.ofList value.text)
  | .array items => .array (nodesOfItems items)
  | .table entries => .map (nodesOfEntries entries)

def nodesOfItems : List Value → List Node
  | [] => []
  | item :: rest => item.toNode :: nodesOfItems rest

def nodesOfEntries : Entries → List (String × Node)
  | [] => []
  | (key, value) :: rest => (key, value.toNode) :: nodesOfEntries rest

end

end ScriptBridge.Toml
