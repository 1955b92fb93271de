import ScriptBridge.Number.Numeral
import ScriptBridge.Number.Double

/-!
# The shortest decimal of a double

Among the decimals that round to a given double the text has one with the fewest digits, and of those the one nearest
to the value; of two equally near ones the larger. The digits are chosen by exact comparisons of naturals, and are
written positionally, without an exponent and without a point where there is no fraction.
-/
namespace ScriptBridge.Double

/-- The decimal `digits * 10 ^ exponent`. -/
structure Decimal where
  digits : Nat
  exponent : Int
  deriving DecidableEq, Repr

/-- The gap to the next smaller double is half the gap to the next larger one. -/
def narrowBelow (d : Double) : Bool := d.fractionField = 0 && 1 < d.exponentField

/-- The decimal lies among the reals that round to the magnitude of this finite double: between the midpoints to its
neighbours, which belong to it exactly when its significand is even. -/
def roundsFrom (d : Double) (x : Decimal) : Bool :=
  let low := 4 * d.significand - (if d.narrowBelow then 1 else 2)
  let high := 4 * d.significand + 2
  let unit := d.scale - 2
  let left := x.digits * Nat.pow 10 x.exponent.toNat * Nat.pow 2 (-unit).toNat
  let factor := Nat.pow 2 unit.toNat * Nat.pow 10 (-x.exponent).toNat
  if d.significand % 2 = 0 then low * factor ≤ left && left ≤ high * factor
  else low * factor < left && left < high * factor

/-- The least power of ten that exceeds a positive quotient. -/
def leadingPower (num den : Nat) : Int :=
  if den ≤ num then ((Numeral.decimal (num / den)).length : Int)
  else 1 - ((Numeral.decimal ((den - 1) / num)).length : Int)

/-- The decimal with the given number of digits that is nearest to the positive quotient and passes the test, if one
does; of two equally near ones the larger. -/
def candidate? (passes : Decimal → Bool) (num den : Nat) (exponent : Int) : Option Decimal :=
  let (a, b) := if 0 ≤ exponent then (num, den * Nat.pow 10 exponent.toNat)
    else (num * Nat.pow 10 (-exponent).toNat, den)
  let below : Decimal := ⟨a / b, exponent⟩
  let above : Decimal := ⟨a / b + 1, exponent⟩
  match passes below, passes above with
  | true, true => some (if 2 * (a % b) < b then below else above)
  | true, false => some below
  | false, true => some above
  | false, false => none

/-- The decimal of ten units is written with the one digit of the next power. More zeros at the end do not occur in a
shortest decimal. -/
def Decimal.reduced (x : Decimal) : Decimal :=
  if x.digits = 10 then ⟨1, x.exponent + 1⟩ else x

/-- The shortest decimal of a finite non-zero magnitude. Seventeen digits always suffice; the exact value stands in
for them otherwise. -/
def shortest (d : Double) : Decimal :=
  let (num, den) := d.ratio
  let top := leadingPower num den
  match (List.range 17).findSome? fun (n : Nat) => candidate? d.roundsFrom num den (top - (n + 1)) with
  | some x => x.reduced
  | none =>
    if 0 ≤ d.scale then ⟨num, 0⟩ else ⟨d.significand * Nat.pow 5 (-d.scale).toNat, d.scale⟩

/-- A decimal in positional notation. -/
def Decimal.positional (x : Decimal) : List Char :=
  let digits := Numeral.decimal x.digits
  if 0 ≤ x.exponent then digits ++ List.replicate x.exponent.toNat '0'
  else
    let places := (-x.exponent).toNat
    if places < digits.length then
      digits.take (digits.length - places) ++ '.' :: digits.drop (digits.length - places)
    else '0' :: '.' :: List.replicate (places - digits.length) '0' ++ digits

def magnitudeText (d : Double) : List Char :=
  if d.isInfinite then ['i', 'n', 'f']
  else if d.isZero then ['0']
  else d.shortest.positional

/-- The text of a double: the shortest positional decimal that reads back, with the sign of zero kept. -/
def text (d : Double) : List Char :=
  if d.isNaN then ['N', 'a', 'N']
  else if d.isNegative then '-' :: d.magnitudeText
  else d.magnitudeText

end ScriptBridge.Double
