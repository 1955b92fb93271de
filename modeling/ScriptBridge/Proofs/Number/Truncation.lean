import Mathlib.Algebra.Order.Floor.Semifield
import Mathlib.Data.Rat.Floor
import Mathlib.Tactic.FieldSimp
import Mathlib.Tactic.NormNum
import Mathlib.Tactic.Positivity
import Mathlib.Tactic.Ring
import ScriptBridge.Number.Double

/-!
# The integer part of a double

The bits of a finite double give a rational number. Its integer part toward zero is what truncation computes with naturals
alone, so no rounding and no bound of a machine integer is involved.
-/
namespace ScriptBridge

/-- The integer part of a rational number, toward zero. -/
def towardZero (q : ℚ) : ℤ := if q < 0 then ⌈q⌉ else ⌊q⌋

theorem towardZero_of_nonneg {q : ℚ} (nonneg : 0 ≤ q) : towardZero q = ⌊q⌋ := by
  rw [towardZero, if_neg (not_lt.mpr nonneg)]

theorem towardZero_neg_of_nonneg {q : ℚ} (nonneg : 0 ≤ q) : towardZero (-q) = -⌊q⌋ := by
  rw [towardZero]
  split
  next _ => exact Int.ceil_neg
  next small =>
    -- the negative of zero, which has the integer part of zero
    have zero : q = 0 := le_antisymm (by simpa using small) nonneg
    simp [zero]

namespace Double

/-- The value of a finite double, by its three bit fields: the fraction stands behind a binary point and an implicit one, and
the exponent is biased by 1023; the least exponent field stands for the same power as the next, without the one. -/
def value (d : Double) : ℚ :=
  (if d.isNegative then -1 else 1) *
    if d.exponentField = 0 then (d.fractionField : ℚ) / 2 ^ 52 * 2 ^ (-1022 : ℤ)
    else (1 + (d.fractionField : ℚ) / 2 ^ 52) * 2 ^ ((d.exponentField : ℤ) - 1023)

theorem two_zpow_eq (power : ℤ) : (2 : ℚ) ^ power = 2 ^ (power - 52) * 2 ^ 52 := by
  rw [← zpow_natCast, ← zpow_add₀ two_ne_zero]
  congr 1
  ring

/-- The same value as an integral significand times a power of two. -/
theorem value_eq (d : Double) :
    d.value = (if d.isNegative then -1 else 1) * ((d.significand : ℚ) * 2 ^ d.scale) := by
  rw [value, significand, scale]
  congr 1
  by_cases subnormal : d.exponentField = 0
  · have least : ((max d.exponentField 1 : ℕ) : ℤ) - 1075 = -1022 - 52 := by rw [subnormal]; rfl
    rw [if_pos subnormal, if_pos subnormal, least, two_zpow_eq (-1022)]
    field_simp
  · have biased : ((max d.exponentField 1 : ℕ) : ℤ) - 1075 = d.exponentField - 1023 - 52 := by omega
    rw [if_neg subnormal, if_neg subnormal, biased, two_zpow_eq ((d.exponentField : ℤ) - 1023), hiddenBit]
    push_cast
    field_simp
    norm_num

theorem scaleRatio_div (num den : ℕ) (power : ℤ) :
    ((scaleRatio num den power).1 : ℚ) / (scaleRatio num den power).2 = num / den * 2 ^ power := by
  rw [scaleRatio]
  split
  next nonneg =>
    obtain ⟨exponent, rfl⟩ := Int.eq_ofNat_of_zero_le nonneg
    rw [Int.toNat_natCast, Nat.pow_eq, zpow_natCast]
    push_cast
    ring
  next negative =>
    obtain ⟨exponent, rfl⟩ : ∃ exponent : ℕ, power = -exponent := ⟨power.natAbs, by omega⟩
    rw [neg_neg, Int.toNat_natCast, Nat.pow_eq, zpow_neg, zpow_natCast]
    push_cast
    field_simp

/-- Truncation gives the integer part of the exact value, for every finite double and for no other. -/
theorem truncate?_eq (d : Double) : d.truncate? = if d.isFinite then some (towardZero d.value) else none := by
  have exact : (d.ratio.1 : ℚ) / d.ratio.2 = (d.significand : ℚ) * 2 ^ d.scale := by
    rw [ratio, scaleRatio_div]
    simp
  have part : ⌊(d.significand : ℚ) * 2 ^ d.scale⌋ = (d.ratio.1 / d.ratio.2 : ℕ) := by
    rw [← exact, Rat.floor_natCast_div_natCast]
    norm_cast
  have nonneg : (0 : ℚ) ≤ (d.significand : ℚ) * 2 ^ d.scale :=
    mul_nonneg (Nat.cast_nonneg _) (zpow_nonneg zero_le_two _)
  rw [truncate?, value_eq]
  split
  · cases d.isNegative with
    | false => simp [towardZero_of_nonneg nonneg, part]
    | true => simp [towardZero_neg_of_nonneg nonneg, part]
  · rfl

/-- The integer that is cut from the bits is their value rounded toward zero. -/
theorem towardZero_value {d : Double} {n : ℤ} (truncated : d.truncate? = some n) : towardZero d.value = n := by
  rw [truncate?_eq] at truncated
  split at truncated
  next _ => exact Option.some.inj truncated
  next _ => cases truncated

end Double
end ScriptBridge
