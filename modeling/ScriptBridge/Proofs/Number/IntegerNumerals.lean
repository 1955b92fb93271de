import Mathlib.Data.Nat.Digits.Defs
import Mathlib.Data.List.Basic
import ScriptBridge.Proofs.Numerals

/-!
# Which texts denote integers

A numeral is one or more decimal digits with an optional sign in front, and denotes the number that the digits have by
their places. Reading accepts exactly these texts, however long they are, and what is written for an integer is one of
them. The range of 64 bits is looked at afterwards, on the integer that was denoted.
-/
namespace ScriptBridge.Numeral

/-- The number that decimal digits denote by their places, of which the last counts ones. -/
def placeValue (digits : List Char) : ℕ := Nat.ofDigits 10 (digits.map digitValue).reverse

/-- A text is a numeral for an integer. -/
inductive IsNumeral : List Char → ℤ → Prop where
  | unsigned {digits : List Char} (present : digits ≠ []) (decimal : ∀ c ∈ digits, c.isDigit = true) :
      IsNumeral digits (placeValue digits)
  | plus {digits : List Char} (present : digits ≠ []) (decimal : ∀ c ∈ digits, c.isDigit = true) :
      IsNumeral ('+' :: digits) (placeValue digits)
  | minus {digits : List Char} (present : digits ≠ []) (decimal : ∀ c ∈ digits, c.isDigit = true) :
      IsNumeral ('-' :: digits) (-placeValue digits)

theorem IsNumeral.ne_nil {text : List Char} {n : ℤ} (numeral : IsNumeral text n) : text ≠ [] := by
  cases numeral with
  | unsigned present _ => exact present
  | plus _ _ | minus _ _ => exact List.cons_ne_nil _ _

theorem value_eq_placeValue (digits : List Char) : value digits = placeValue digits := by
  rw [value, placeValue, Nat.ofDigits_eq_foldr, List.foldr_reverse, List.foldl_map]
  congr 1
  funext total c
  rw [Nat.mul_comm, Nat.add_comm, Nat.cast_id]

theorem isDigits_iff {text : List Char} : isDigits text = true ↔ text ≠ [] ∧ ∀ c ∈ text, c.isDigit = true := by
  simp [isDigits]

/-- A sign makes an integer of the natural behind it, if that is made of digits. -/
theorem map_readNat?_eq_some_iff {text : List Char} {sign : ℤ → ℤ} {n : ℤ} :
    Option.map sign (do let k ← readNat? text; pure (k : ℤ)) = some n ↔
      (text ≠ [] ∧ ∀ c ∈ text, c.isDigit = true) ∧ sign (placeValue text) = n := by
  rw [readNat?, value_eq_placeValue, ← isDigits_iff]
  by_cases digits : isDigits text = true <;> simp [digits]

/-- Reading accepts the numerals and no other text, and gives the integer that is denoted. -/
theorem readInt?_eq_some_iff {text : List Char} {n : ℤ} : readInt? text = some n ↔ IsNumeral text n := by
  constructor
  · intro read
    unfold readInt? at read
    split at read
    all_goals obtain ⟨⟨present, decimal⟩, rfl⟩ := map_readNat?_eq_some_iff.mp read
    · exact .minus present decimal
    · exact .plus present decimal
    · exact .unsigned present decimal
  · intro numeral
    cases numeral with
    | unsigned present decimal =>
      unfold readInt?
      -- neither sign is a digit
      split
      · cases decimal '-' List.mem_cons_self
      · cases decimal '+' List.mem_cons_self
      · exact map_readNat?_eq_some_iff.mpr ⟨⟨present, decimal⟩, rfl⟩
    | plus present decimal | minus present decimal =>
      exact map_readNat?_eq_some_iff.mpr ⟨⟨present, decimal⟩, rfl⟩

/-- What is written for an integer is a numeral for it. -/
theorem isNumeral_signed (n : ℤ) : IsNumeral (signed n) n := by
  have digits : placeValue (decimal n.natAbs) = n.natAbs := by rw [← value_eq_placeValue, value_decimal]
  have present := decimal_ne_nil n.natAbs
  have decimals := isDigit_of_mem_decimal n.natAbs
  rw [signed]
  split
  next negative =>
    have numeral := IsNumeral.minus present decimals
    rwa [digits, show -(n.natAbs : ℤ) = n by omega] at numeral
  next nonneg =>
    have numeral := IsNumeral.unsigned present decimals
    rwa [digits, show (n.natAbs : ℤ) = n by omega] at numeral

/-- The integers of 64 bits are those in the range, each by its own value. -/
theorem toInt64?_eq_some_iff {n : ℤ} {i : Int64} : toInt64? n = some i ↔ i.toInt = n := by
  have low := i.le_toInt
  have high := i.toInt_lt
  rw [toInt64?, int64Min, int64Max]
  constructor
  · intro fits
    split at fits
    next range =>
      cases fits
      exact Int64.toInt_ofInt_of_le (by omega) (by omega)
    next => cases fits
  · rintro rfl
    rw [if_pos (by omega), Int64.ofInt_toInt]

end ScriptBridge.Numeral
