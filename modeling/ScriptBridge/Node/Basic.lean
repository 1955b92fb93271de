import ScriptBridge.Table
import ScriptBridge.Number.Double

/-!
# Nodes

A node is the structured value that the host and its scripts exchange: nothing, a scalar, a list, or a map with
string keys. The entries of a map stand in ascending order of their keys.
-/
namespace ScriptBridge

inductive Node where
  | none
  | flag (value : Bool)
  | int64 (value : Int64)
  | double (value : Double)
  | string (value : String)
  | array (items : List Node)
  | map (entries : List (String × Node))
  deriving Repr, Inhabited

namespace Node

/-- A map node from entries in any order; of two with one key the later counts. -/
def ofEntries (entries : List (String × Node)) : Node := .map (Table.ofList entries)

/-- Empty and zero values are false, all others true. Not-a-number differs from zero and is true. -/
def isTruthy : Node → Bool
  | .none => false
  | .flag value => value
  | .int64 value => value != 0
  | .double value => !value.isZero
  | .string value => value != ""
  | .array items => !items.isEmpty
  | .map entries => !entries.isEmpty

def isNone : Node → Bool
  | .none => true
  | _ => false

def string? : Node → Option String
  | .string value => some value
  | _ => Option.none

def items? : Node → Option (List Node)
  | .array items => some items
  | _ => Option.none

def entries? : Node → Option (List (String × Node))
  | .map entries => some entries
  | _ => Option.none

def get? (node : Node) (index : Nat) : Option Node := node.items?.bind (·[index]?)

/-- The name of the variant, as diagnostics show it. -/
def kind : Node → String
  | .none => "none"
  | .flag _ => "flag"
  | .int64 _ => "int64"
  | .double _ => "double"
  | .string _ => "string"
  | .array _ => "array"
  | .map _ => "map"

end Node
end ScriptBridge
