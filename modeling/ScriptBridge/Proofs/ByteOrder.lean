import Mathlib.Algebra.Group.Nat.Defs
import ScriptBridge.Text.Utf8

/-!
# The order of texts and of their bytes

Texts are compared character by character. UTF-8 keeps that order: where two characters differ, the bytes of the later one
are greater at the first place where the two encodings differ, so comparing the bytes comes to the same.
-/
namespace ScriptBridge.Utf8

theorem encode_eq_flatMap (text : String) : encode text = text.toList.flatMap String.utf8EncodeChar := by
  rw [encode, String.toUTF8_eq_toByteArray, ← String.utf8Encode_toList, List.utf8Encode, List.data_toByteArray]

/-- Bytes are compared as the numbers that they stand for, as long as these fit. -/
theorem cons_lt_cons {low high : Nat} {rest others : List UInt8} (small : high < 256)
    (less : low < high ∨ low = high ∧ rest < others) : UInt8.ofNat low :: rest < UInt8.ofNat high :: others := by
  rw [List.cons_lt_cons_iff]
  rcases less with less | ⟨rfl, less⟩
  · left
    rw [UInt8.lt_iff_toNat_lt, UInt8.toNat_ofNat_of_lt' (Nat.lt_trans less small), UInt8.toNat_ofNat_of_lt' small]
    exact less
  · exact .inr ⟨rfl, less⟩

/-- The continuation bytes for the last groups of six bits of a number, with what follows them. -/
def continued (rest : List UInt8) (value : Nat) : Nat → List UInt8
  | 0 => rest
  | count + 1 => UInt8.ofNat (value / 64 ^ count % 64 + 128) :: continued rest value count

section Groups
variable {low high : Nat} (less : low < high) (rest others : List UInt8)
include less

/-- Of two numbers that agree above these groups, the lower one has the lower continuation bytes. -/
theorem continued_lt (count : Nat) (same : low / 64 ^ count = high / 64 ^ count) :
    continued rest low count < continued others high count := by
  induction count with
  | zero =>
    rw [Nat.pow_zero, Nat.div_one, Nat.div_one] at same
    omega
  | succ count ih =>
    rw [Nat.pow_succ, ← Nat.div_div_eq_div_mul, ← Nat.div_div_eq_div_mul] at same
    apply cons_lt_cons (by omega)
    rcases Nat.lt_or_eq_of_le (Nat.div_le_div_right (c := 64 ^ count) (Nat.le_of_lt less)) with differ | equal
    · exact .inl (by omega)
    · exact .inr ⟨by rw [equal], ih equal⟩

/-- Encodings of one length are compared by the groups of bits in their bytes. -/
theorem lead_lt (count limit mark : Nat) (fits : high / 64 ^ count < limit) (byte : limit + mark ≤ 256) :
    UInt8.ofNat (low / 64 ^ count % limit + mark) :: continued rest low count <
      UInt8.ofNat (high / 64 ^ count % limit + mark) :: continued others high count := by
  have ordered := Nat.div_le_div_right (c := 64 ^ count) (Nat.le_of_lt less)
  rw [Nat.mod_eq_of_lt fits, Nat.mod_eq_of_lt (Nat.lt_of_le_of_lt ordered fits)]
  apply cons_lt_cons (by omega)
  rcases Nat.lt_or_eq_of_le ordered with differ | equal
  · exact .inl (by omega)
  · exact .inr ⟨by rw [equal], continued_lt less rest others count equal⟩

end Groups

/-- Whatever follows them, the bytes of an earlier character come before those of a later one. -/
theorem encodeChar_append_lt {first second : Char} (earlier : first < second) (rest others : List UInt8) :
    String.utf8EncodeChar first ++ rest < String.utf8EncodeChar second ++ others := by
  have less : first.val.toNat < second.val.toNat := earlier
  have bound : second.val.toNat < 0x110000 := by
    have valid := second.valid
    simp only [UInt32.isValidChar, Nat.isValidChar] at valid
    omega
  fun_cases String.utf8EncodeChar first <;> fun_cases String.utf8EncodeChar second <;>
    simp only [List.cons_append, List.nil_append]
  case case1.case1 => exact cons_lt_cons (by omega) (.inl less)
  case case2.case2 low _ _ high _ _ =>
    have groups : low < high := less
    simpa [continued] using lead_lt groups rest others 1 32 192 (by omega) (by decide)
  case case3.case3 low _ _ _ high _ _ _ =>
    have groups : low < high := less
    simpa [continued] using lead_lt groups rest others 2 16 224 (by omega) (by decide)
  case case4.case4 low _ _ _ high _ _ _ =>
    have groups : low < high := less
    simpa [continued] using lead_lt groups rest others 3 8 240 (by omega) (by decide)
  -- A shorter encoding has the smaller leading byte, and belongs to the earlier character.
  all_goals exact cons_lt_cons (by omega) (.inl (by omega))

/-- UTF-8 keeps the order of texts. -/
theorem encode_lt {first second : String} (earlier : first < second) : encode first < encode second := by
  rw [encode_eq_flatMap, encode_eq_flatMap]
  replace earlier : first.toList < second.toList := earlier
  generalize first.toList = front at earlier ⊢
  generalize second.toList = back at earlier ⊢
  induction front generalizing back with
  | nil =>
    cases back with
    | nil => exact absurd earlier (List.lt_irrefl [])
    | cons c rest =>
      obtain ⟨byte, bytes, some⟩ := List.exists_cons_of_ne_nil (String.utf8EncodeChar_ne_nil (c := c))
      rw [List.flatMap_nil, List.flatMap_cons, some, List.cons_append]
      exact List.nil_lt_cons byte _
  | cons c rest ih =>
    cases back with
    | nil => exact absurd earlier (List.not_lt_nil _)
    | cons d others =>
      rw [List.flatMap_cons, List.flatMap_cons]
      rcases List.cons_lt_cons_iff.mp earlier with less | ⟨rfl, less⟩
      · exact encodeChar_append_lt less _ _
      · exact List.append_left_lt (ih _ less)

/-- Texts stand in the same order as their bytes. -/
theorem encode_le_iff {first second : String} : encode first ≤ encode second ↔ first ≤ second := by
  constructor
  · intro ordered later
    exact ordered (encode_lt later)
  · intro ordered later
    by_cases less : first < second
    · exact List.lt_asymm later (encode_lt less)
    · rw [String.le_antisymm ordered less] at later
      exact List.lt_irrefl _ later

end ScriptBridge.Utf8
