import ScriptBridge.Coercion
import ScriptBridge.Node.Text
import ScriptBridge.Proofs.Number.IntegerNumerals
import ScriptBridge.Proofs.Number.Truncation
import ScriptBridge.Proofs.Text.Runs

/-!
# Nodes as integers

A node that is an integer, a flag, a finite double, or a string with a numeral between white space stands for an integer of
any size. It is read as an integer exactly when that one fits into 64 bits, and then as no other; every other node gives
the error that names its kind.
-/
namespace ScriptBridge

namespace Numeral

theorem isBlank_of_isDigit {c : Char} (digit : c.isDigit = true) : Text.isBlank c = false := by
  have range : 48 ≤ c.toNat ∧ c.toNat ≤ 57 := by
    simp only [Char.isDigit, Bool.and_eq_true, decide_eq_true_eq] at digit
    exact digit
  have apart : ∀ code < 58, 48 ≤ code → Text.inRanges Text.blankRanges code = false := by decide
  exact apart c.toNat (by omega) range.1

/-- There is no white space in a numeral. -/
theorem IsNumeral.isBlank_eq_false {text : List Char} {n : ℤ} (numeral : IsNumeral text n) :
    ∀ c ∈ text, Text.isBlank c = false := by
  cases numeral with
  | unsigned _ decimal => exact fun c member => isBlank_of_isDigit (decimal c member)
  | plus _ decimal | minus _ decimal =>
    exact List.forall_mem_cons.mpr ⟨by decide, fun c member => isBlank_of_isDigit (decimal c member)⟩

end Numeral

namespace Node
open Numeral

/-- The integer, of whatever size, that a node stands for. -/
inductive StandsFor : Node → ℤ → Prop where
  | int64 (value : Int64) : StandsFor (.int64 value) value.toInt
  | flag (value : Bool) : StandsFor (.flag value) (if value then 1 else 0)
  | double {value : Double} (finite : value.isFinite = true) : StandsFor (.double value) (towardZero value.value)
  | string {text : String} {before numeral after : List Char} {n : ℤ}
      (whole : text.toList = before ++ numeral ++ after) (blankBefore : ∀ c ∈ before, Text.isBlank c = true)
      (blankAfter : ∀ c ∈ after, Text.isBlank c = true) (denotes : IsNumeral numeral n) : StandsFor (.string text) n

/-- A string stands for the integer that is read from it between blanks. -/
theorem standsFor_string_iff {text : String} {n : ℤ} :
    StandsFor (.string text) n ↔ readInt? (Text.trim text.toList) = some n := by
  rw [readInt?_eq_some_iff]
  constructor
  · rintro (_ | _ | _ | ⟨whole, blankBefore, blankAfter, denotes⟩)
    rwa [whole, Text.trim_eq blankBefore blankAfter denotes.isBlank_eq_false]
  · intro denotes
    obtain ⟨before, after, whole, blankBefore, blankAfter⟩ := Text.exists_trim text.toList
    exact .string whole blankBefore blankAfter denotes

/-- A node is read as an integer of 64 bits when it stands for it. -/
theorem toInt64?_eq_some_iff_standsFor {node : Node} {i : Int64} :
    node.toInt64? = some i ↔ node.StandsFor i.toInt := by
  generalize stands : i.toInt = n
  cases node with
  | int64 value =>
    rw [toInt64?, Option.some.injEq, ← Int64.toInt_inj, stands]
    constructor
    · rintro rfl
      exact .int64 value
    · rintro ⟨⟩
      rfl
  | flag value =>
    have same : (if value then 1 else 0 : Int64).toInt = if value then 1 else 0 := by cases value <;> rfl
    rw [toInt64?, Option.some.injEq, ← Int64.toInt_inj, stands, same]
    constructor
    · rintro rfl
      exact .flag value
    · rintro ⟨⟩
      rfl
  | double value =>
    rw [toInt64?, Double.truncate?_eq]
    split
    next finite =>
      rw [Option.bind_some, Numeral.toInt64?_eq_some_iff, stands]
      constructor
      · rintro rfl
        exact .double finite
      · rintro ⟨⟩
        rfl
    next infinite =>
      constructor
      · rintro ⟨⟩
      · intro stands
        cases stands with
        | double finite => exact absurd finite infinite
  | string text =>
    rw [toInt64?, Option.bind_eq_some_iff, standsFor_string_iff]
    simp only [Numeral.toInt64?_eq_some_iff, stands]
    exact ⟨fun ⟨m, read, same⟩ => same ▸ read, fun read => ⟨n, read, rfl⟩⟩
  | none | array items | map entries =>
    constructor
    · rintro ⟨⟩
    · rintro ⟨⟩

theorem requireInt64_eq_ok_iff {node : Node} {i : Int64} : node.requireInt64 = .ok i ↔ node.toInt64? = some i := by
  rw [requireInt64]
  cases node.toInt64? <;> simp

theorem requireInt64_eq_error_iff {node : Node} :
    node.requireInt64 = .error (.coercion .int64 node.kind) ↔ ∀ i, node.toInt64? ≠ some i := by
  rw [requireInt64]
  cases node.toInt64? <;> simp

/-- Integer coercion is exact on every node: it gives an integer exactly when the node stands for that one and it fits into 64
bits, and otherwise the error with the node's kind. The text of an integer between white space of any kind and length is
read as that integer. -/
theorem integer_coercion_exact :
    (∀ (node : Node) (i : Int64), node.requireInt64 = .ok i ↔ node.StandsFor i.toInt) ∧
    (∀ node : Node, node.requireInt64 = .error (.coercion .int64 node.kind) ↔
      ∀ n, node.StandsFor n → n < -2 ^ 63 ∨ 2 ^ 63 - 1 < n) ∧
    (∀ (i : Int64) (before after : String), (∀ c ∈ before.toList, Text.isBlank c = true) →
      (∀ c ∈ after.toList, Text.isBlank c = true) →
      (Node.string (before ++ (Node.int64 i).text ++ after)).requireInt64 = .ok i) := by
  have exact : ∀ (node : Node) (i : Int64), node.requireInt64 = .ok i ↔ node.StandsFor i.toInt := fun node i => by
    rw [requireInt64_eq_ok_iff, toInt64?_eq_some_iff_standsFor]
  refine ⟨exact, fun node => ?_, fun i before after blankBefore blankAfter => ?_⟩
  · simp only [requireInt64_eq_error_iff, ne_eq, toInt64?_eq_some_iff_standsFor]
    constructor
    · intro fits n stands
      by_contra range
      have back : (Int64.ofInt n).toInt = n := Int64.toInt_ofInt_of_le (by omega) (by omega)
      exact fits (Int64.ofInt n) (by rwa [back])
    · intro beyond i stands
      have low := i.le_toInt
      have high := i.toInt_lt
      have range := beyond i.toInt stands
      omega
  · rw [exact]
    have whole : (before ++ (Node.int64 i).text ++ after).toList =
        before.toList ++ signed i.toInt ++ after.toList := by
      simp [text, chars, nestedText]
    exact .string whole blankBefore blankAfter (isNumeral_signed i.toInt)

/-- At the ends of the range: the text of the least integer between an ideographic space and a line feed, and its double. The
double of the greatest integer is rounded up to the power of two behind it and is refused, and so is the infinity. -/
theorem integer_coercion_exact_ends :
    (Node.string ("\u3000" ++ (Node.int64 Int64.minValue).text ++ "\n")).requireInt64 = .ok Int64.minValue ∧
    (Node.double ⟨0xC3E0000000000000⟩).requireInt64 = .ok Int64.minValue ∧
    (Node.double ⟨0x43E0000000000000⟩).requireInt64 = .error (.coercion .int64 "double") ∧
    (Node.double ⟨0x7FF0000000000000⟩).requireInt64 = .error (.coercion .int64 "double") := by
  have blankBefore : ∀ c ∈ "\u3000".toList, Text.isBlank c = true := List.forall_mem_singleton.mpr (by decide)
  have blankAfter : ∀ c ∈ "\n".toList, Text.isBlank c = true := List.forall_mem_singleton.mpr (by decide)
  refine ⟨integer_coercion_exact.2.2 _ _ _ blankBefore blankAfter, ?_, ?_, ?_⟩
  · rw [integer_coercion_exact.1]
    have least : towardZero (Double.value ⟨0xC3E0000000000000⟩) = Int64.minValue.toInt :=
      Double.towardZero_value (by decide +kernel)
    rw [← least]
    exact .double (by decide +kernel)
  · refine (integer_coercion_exact.2.1 _).mpr fun n stands => ?_
    cases stands with
    | double finite =>
      have power : towardZero (Double.value ⟨0x43E0000000000000⟩) = 2 ^ 63 :=
        Double.towardZero_value (by decide +kernel)
      omega
  · refine (integer_coercion_exact.2.1 _).mpr fun n stands => ?_
    cases stands with
    | double finite => exact absurd finite (by decide +kernel)

end Node
end ScriptBridge
