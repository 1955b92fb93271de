import ScriptBridge.Node.Basic
import ScriptBridge.Number.Shortest
import ScriptBridge.Text.Quoted

/-!
# The text of a node

On its own a flag reads `yes` or `no`, nothing is the empty text and a string stands for itself. Inside a container a
flag reads `true` or `false`, nothing reads `null`, and strings, like all map keys, are quoted.
-/
namespace ScriptBridge.Node

/-- The word for a flag inside a container. -/
def flagWord (value : Bool) : List Char :=
  if value then ['t', 'r', 'u', 'e'] else ['f', 'a', 'l', 's', 'e']

mutual

/-- A node inside a container. -/
def nestedText : Node → List Char
  | .none => ['n', 'u', 'l', 'l']
  | .flag value => flagWord value
  | .int64 value => Numeral.signed value.toInt
  | .double value => value.text
  | .string value => Text.quote value.toList
  | .array items => '[' :: itemsText items ++ [']']
  | .map entries => '\x7b' :: entriesText entries ++ ['\x7d']

def itemsText : List Node → List Char
  | [] => []
  | [item] => nestedText item
  | item :: next :: rest => nestedText item ++ ',' :: itemsText (next :: rest)

def entriesText : List (String × Node) → List Char
  | [] => []
  | [(key, value)] => Text.quote key.toList ++ ':' :: nestedText value
  | (key, value) :: next :: rest =>
    Text.quote key.toList ++ ':' :: nestedText value ++ ',' :: entriesText (next :: rest)

end

/-- A node on its own. -/
def chars : Node → List Char
  | .none => []
  | .flag value => if value then ['y', 'e', 's'] else ['n', 'o']
  | .string value => value.toList
  | node => nestedText node

/-- The text of a node as the host reads and shows it. -/
def text (node : Node) : String := String.ofList node.chars

end ScriptBridge.Node
