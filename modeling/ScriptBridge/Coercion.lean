import ScriptBridge.Error
import ScriptBridge.Number.Reading
import ScriptBridge.Text.Blank

/-!
# Coercion of nodes to numbers

A script may write an integer or a double as another kind of node. Flags count as zero and one, strings are read as
numerals with white space around them, and a double becomes the integer toward zero if that fits into 64 bits.
-/
namespace ScriptBridge

def Node.toInt64? : Node → Option Int64
  | .int64 value => some value
  | .flag value => some (if value then 1 else 0)
  | .double value => value.truncate?.bind Numeral.toInt64?
  | .string value => (Numeral.readInt? (Text.trim value.toList)).bind Numeral.toInt64?
  | _ => Option.none

def Node.toDouble? : Node → Option Double
  | .double value => some value
  | .int64 value => some (Double.ofInt value.toInt)
  | .flag value => some (Double.ofInt (if value then 1 else 0))
  | .string value => Double.read? (Text.trim value.toList)
  | _ => Option.none

/-- A node as an integer, or the error that names its kind. -/
def Node.requireInt64 (node : Node) : Except BridgeError Int64 :=
  match node.toInt64? with
  | some value => .ok value
  | Option.none => .error (.coercion .int64 node.kind)

/-- A node as a double, or the error that names its kind. -/
def Node.requireDouble (node : Node) : Except BridgeError Double :=
  match node.toDouble? with
  | some value => .ok value
  | Option.none => .error (.coercion .double node.kind)

end ScriptBridge
