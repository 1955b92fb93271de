import ScriptBridge.Binding.Keymap

/-!
# Written numbers

A natural can be read back from its digits in a base, so different naturals are written differently. The names that
bindings are given by default end in their ids, and differ as these do.
-/
namespace ScriptBridge

namespace Numeral

theorem digitValue_digitChar {digit : Nat} (small : digit < 10) : digitValue (digitChar digit) = digit := by
  decide +revert

/-- Reading goes on behind the written digits as if their number had been read already, in every base and for every way
of reading its digits. -/
theorem foldl_digitsOnto {base : Nat} {read : Char → Nat} (two : 2 ≤ base)
    (reads : ∀ digit < base, read (digitChar digit) = digit) (n : Nat) (written : List Char) :
    (digitsOnto base n written).foldl (fun acc c => acc * base + read c) 0 =
      written.foldl (fun acc c => acc * base + read c) n := by
  fun_induction digitsOnto base n written with
  | case1 n written last =>
    have small : n < base := by omega
    rw [List.foldl_cons, Nat.mod_eq_of_lt small, reads n small, Nat.zero_mul, Nat.zero_add]
  | case2 n written more ih =>
    have digit : n % base < base := Nat.mod_lt n (by omega)
    rw [ih, List.foldl_cons, reads _ digit, Nat.div_add_mod']

theorem value_decimal (n : Nat) : value (decimal n) = n :=
  foldl_digitsOnto (by decide) (fun _ => digitValue_digitChar) n []

theorem hexValue?_digitChar {digit : Nat} (small : digit < 16) : hexValue? (digitChar digit) = some digit := by
  decide +revert

/-- Naturals with the same hexadecimal digits are the same. -/
theorem hexadecimal_injective {m n : Nat} (same : hexadecimal m = hexadecimal n) : m = n := by
  have reads : ∀ digit < 16, ((hexValue? (digitChar digit)).getD 0) = digit := fun digit small => by
    rw [hexValue?_digitChar small, Option.getD_some]
  have back : ∀ k, (hexadecimal k).foldl (fun acc c => acc * 16 + (hexValue? c).getD 0) 0 = k :=
    fun k => foldl_digitsOnto (by decide) reads k []
  rw [← back m, ← back n, same]

/-- Every written digit has what all digits of the base have. -/
theorem forall_mem_digitsOnto {base : Nat} {p : Char → Prop} (two : 2 ≤ base) (each : ∀ digit < base, p (digitChar digit))
    (n : Nat) {written : List Char} (before : ∀ c ∈ written, p c) : ∀ c ∈ digitsOnto base n written, p c := by
  have one : ∀ n, p (digitChar (n % base)) := fun n => each _ (Nat.mod_lt n (by omega))
  fun_induction digitsOnto base n written with
  | case1 n written last => exact List.forall_mem_cons.mpr ⟨one n, before⟩
  | case2 n written more ih => exact ih (List.forall_mem_cons.mpr ⟨one n, before⟩)

theorem isDigit_of_mem_decimal (n : Nat) : ∀ c ∈ decimal n, c.isDigit = true := by
  refine forall_mem_digitsOnto (by decide) ?_ n (by simp)
  decide

theorem decimal_ne_nil (n : Nat) : decimal n ≠ [] := by
  have grows : ∀ n written, digitsOnto 10 n written ≠ [] := by
    intro n written
    fun_induction digitsOnto 10 n written with
    | case1 n written last => exact List.cons_ne_nil _ _
    | case2 n written more ih => exact ih
  exact grows n []

theorem ofNat_injective {m n : Nat} (same : ofNat m = ofNat n) : m = n := by
  have digits : decimal m = decimal n := by
    have chars := congrArg String.toList same
    simpa only [ofNat, String.toList_ofList] using chars
  calc
    m = value (decimal m) := (value_decimal m).symm
    _ = value (decimal n) := congrArg value digits
    _ = n := value_decimal n

end Numeral

theorem defaultName_injective {first second : UInt64} (same : defaultName first = defaultName second) :
    first = second := by
  have chars := congrArg String.toList same
  simp only [defaultName, String.toList_append] at chars
  have numbers := String.toList_inj.mp (List.append_cancel_left chars)
  exact UInt64.toNat_inj.mp (Numeral.ofNat_injective numbers)

end ScriptBridge
