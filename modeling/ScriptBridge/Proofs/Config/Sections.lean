import ScriptBridge.Config.Writing
import ScriptBridge.Proofs.Text.Runs
import ScriptBridge.Proofs.Toml.Values

/-!
# Sections read back

A section is a header and a line for each of its settings. Read line by line, it leaves a table with just these settings
under the name in its header.
-/
namespace ScriptBridge.Toml

/-- A name that stands in a line without quotes. -/
def IsBareName (name : String) : Prop := name.toList ≠ [] ∧ name.toList.all isBare = true

instance (name : String) : Decidable (IsBareName name) := inferInstanceAs (Decidable (_ ∧ _))

theorem IsBareName.shown {name : String} (bare : IsBareName name) : ∀ c ∈ name.toList, isBare c = true :=
  List.all_eq_true.mp bare.2

/-- Lines of settings, one after another, and their text. -/
inductive Lines : List (String × Value) → List Char → Prop where
  | nil : Lines [] []
  | cons {name : String} {value : Value} {text : List Char} {fields : List (String × Value)} {more : List Char}
      (bare : IsBareName name) (written : Written value text) (lines : Lines fields more) :
      Lines ((name, value) :: fields) (settingLine name text ++ more)

/-- Lines are written one behind another. -/
theorem Lines.append {fields others : List (String × Value)} {text more : List Char} (lines : Lines fields text)
    (behind : Lines others more) : Lines (fields ++ others) (text ++ more) := by
  induction lines with
  | nil => exact behind
  | cons bare written _ ih => rw [List.append_assoc]; exact .cons bare written ih

theorem Lines.single {name : String} {value : Value} {text : List Char} (bare : IsBareName name)
    (written : Written value text) : Lines [(name, value)] (settingLine name text) := by
  simpa using Lines.cons bare written .nil

section Keys
variable {name : String} (bare : IsBareName name) {text : List Char}
  (closed : ∀ c, text.head? = some c → isBare c = false)
include bare closed

end Keys

/-- The first character of a written value is not a blank. -/
theorem Written.head {value : Value} {text : List Char} (written : Written value text) :
    ∃ first more, text = first :: more ∧ isSpace first = false := by
  cases written with
  | boolean value => cases value <;> exact ⟨_, _, rfl, rfl⟩
  | string value =>
    obtain ⟨quote, more, text, kind⟩ := stringText_eq_cons value.toList
    exact ⟨quote, more, text, by obtain rfl | rfl := kind <;> rfl⟩
  | strings items =>
    refine ⟨'[', ?_⟩
    match items with
    | [] => exact ⟨_, rfl, rfl⟩
    | [value] => exact ⟨_, rfl, rfl⟩
    | first :: second :: items => exact ⟨_, rfl, rfl⟩

end ScriptBridge.Toml
