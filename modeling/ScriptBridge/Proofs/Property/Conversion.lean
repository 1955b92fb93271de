import ScriptBridge.Coercion

/-!
# Conversion of property values

A write coerces a node to a value of its format, and a read converts what is stored to the format it asks for. The two
agree: what a read gives has the format that was asked for, and coercing its content to that format gives it back.
-/
namespace ScriptBridge

/-- The value that the typed write of a format makes of a node. -/
def PropertyFormat.coerce (node : Node) : PropertyFormat → Except BridgeError PropertyValue
  | .string => .ok (.string node.text)
  | .osdString => .ok (.osdString node.text)
  | .flag => .ok (.flag node.isTruthy)
  | .int64 => node.requireInt64.map .int64
  | .double => node.requireDouble.map .double
  | .node => .ok (.node node)

theorem PropertyFormat.ofCode?_code (format : PropertyFormat) : ofCode? format.code = some format := by
  cases format <;> decide

/-- A coercion gives a value of its format. -/
theorem PropertyFormat.format_of_coerce {format : PropertyFormat} {node : Node} {value : PropertyValue}
    (coerced : format.coerce node = .ok value) : value.format = format := by
  cases format with
  | string | osdString | flag | node =>
    cases coerced
    rfl
  | int64 =>
    unfold coerce at coerced
    cases required : node.requireInt64 with
    | ok number => rw [required] at coerced; cases coerced; rfl
    | error error => rw [required] at coerced; cases coerced
  | double =>
    unfold coerce at coerced
    cases required : node.requireDouble with
    | ok number => rw [required] at coerced; cases coerced; rfl
    | error error => rw [required] at coerced; cases coerced

theorem PropertyFormat.toOption_coerce_int64 (node : Node) :
    (coerce node .int64).toOption = node.toInt64?.map .int64 := by
  rw [coerce, Node.requireInt64]
  cases node.toInt64? <;> rfl

theorem PropertyFormat.toOption_coerce_double (node : Node) :
    (coerce node .double).toOption = node.toDouble?.map .double := by
  rw [coerce, Node.requireDouble]
  cases node.toDouble? <;> rfl

theorem Node.text_string (value : String) : (Node.string value).text = value := by
  rw [text, chars, String.ofList_toList]

namespace PropertyValue

/-- A reading has the tag of the format that was asked for. -/
theorem format_of_readAs? {value shown : PropertyValue} {format : PropertyFormat}
    (read : value.readAs? format = some shown) : shown.format = format := by
  rw [readAs?] at read
  split at read
  · cases read; assumption
  · cases format <;> simp only [ofNode?] at read
    case string | osdString | node => cases read; rfl
    case flag | int64 | double => split at read <;> cases read <;> rfl

/-- A value that is handed out as it is would have been made of its content as well. -/
theorem readAs?_eq_ofNode? (value : PropertyValue) (format : PropertyFormat) :
    value.readAs? format = ofNode? value.toNode format := by
  rw [readAs?]
  split
  next tagged =>
    subst tagged
    cases value with
    | string text | osdString text => simp only [PropertyValue.format, toNode, ofNode?, Node.text_string]
    | flag | int64 | double | node => rfl
  next => rfl

/-- A reading depends on the content alone and not on the tag under which it is stored: it is the conversion of the
content, a value that has the format already is handed out as it is, and it makes no difference whether the value is read
as a node first. Contents are the same here to the last bit, since the text of a zero shows its sign. -/
theorem reading_follows_content (value : PropertyValue) (format : PropertyFormat) :
    (∀ other : PropertyValue, other.toNode = value.toNode → other.readAs? format = value.readAs? format) ∧
    ((value.format = format → value.readAs? format = some value) ∧
      value.readAs? format = ofNode? value.toNode format) ∧
    ((value.readAs? .node).bind fun content => content.readAs? format) = value.readAs? format ∧
    ∀ shown, value.readAs? format = some shown → shown.format = format := by
  refine ⟨fun other same => ?_, ⟨fun tagged => ?_, readAs?_eq_ofNode? ..⟩, ?_, fun shown => format_of_readAs?⟩
  · rw [readAs?_eq_ofNode?, readAs?_eq_ofNode?, same]
  · rw [readAs?, if_pos tagged]
  · have content : value.readAs? .node = some (.node value.toNode) := readAs?_eq_ofNode? value .node
    rw [content, Option.bind_some, readAs?_eq_ofNode?, readAs?_eq_ofNode?]
    rfl

/-- A word that two writers stored under different tags. -/
theorem reading_follows_content_tagged_apart :
    let written : PropertyValue := .osdString "yes"
    let other : PropertyValue := .node (.string "yes")
    other.toNode = written.toNode ∧ other.readAs? .string = written.readAs? .string ∧
      written.readAs? .string = some (.string "yes") ∧ written.readAs? .flag = none := by
  intro written other
  have read : written.readAs? .string = some (.string "yes") := by
    rw [readAs?_eq_ofNode?, toNode, ofNode?, Node.text_string]
  exact ⟨rfl, (written.reading_follows_content .string).1 other rfl, read, rfl⟩

/-- Coercing the content of a value to the value's own format gives the value back. -/
theorem coerce_toNode (value : PropertyValue) : value.format.coerce value.toNode = .ok value := by
  cases value with
  | string text | osdString text => simp only [format, toNode, PropertyFormat.coerce, Node.text_string]
  | flag | int64 | double | node => rfl

/-- So coercing what was read in a format to that format changes nothing. -/
theorem bind_coerce_readAs? (value : Option PropertyValue) (format : PropertyFormat) :
    ((value.bind (·.readAs? format)).bind fun shown => (format.coerce shown.toNode).toOption) =
      value.bind (·.readAs? format) := by
  cases read : value.bind (·.readAs? format) with
  | none => rfl
  | some shown =>
    obtain ⟨kept, _, converted⟩ := Option.bind_eq_some_iff.mp read
    rw [Option.bind_some, ← format_of_readAs? converted, coerce_toNode]
    rfl

end PropertyValue

end ScriptBridge
