/-!
# Binary64 values

A double is its 64 bits. The value of a finite double is a sign times a natural significand times a power of two, and
every conversion here is exact integer arithmetic on these three, rounded once where a rounding is due.
-/
namespace ScriptBridge

/-- A binary64 floating-point value, given by its bits. -/
structure Double where
  bits : UInt64
  deriving DecidableEq, Repr, Inhabited

namespace Double

/-- The value of the bit in front of the fraction. -/
def hiddenBit : Nat := 0x10000000000000

/-- The value of the sign bit. -/
def signBit : Nat := 0x8000000000000000

/-- The eleven exponent bits. -/
def exponentField (d : Double) : Nat := d.bits.toNat / hiddenBit % 2048

/-- The fifty-two fraction bits. -/
def fractionField (d : Double) : Nat := d.bits.toNat % hiddenBit

/-- The sign bit. -/
def isNegative (d : Double) : Bool := signBit ≤ d.bits.toNat

def isFinite (d : Double) : Bool := d.exponentField < 2047

def isNaN (d : Double) : Bool := d.exponentField = 2047 && d.fractionField != 0

def isInfinite (d : Double) : Bool := d.exponentField = 2047 && d.fractionField == 0

/-- The significand of a finite double as a natural; subnormal values have no hidden bit. -/
def significand (d : Double) : Nat :=
  if d.exponentField = 0 then d.fractionField else hiddenBit + d.fractionField

/-- The power of two that scales the significand of a finite double. -/
def scale (d : Double) : Int := (max d.exponentField 1 : Nat) - 1075

def isZero (d : Double) : Bool := d.exponentField = 0 && d.fractionField = 0

/-- The same bits with the sign bit set or cleared. -/
def withSign (negative : Bool) (magnitude : Nat) : Double :=
  ⟨UInt64.ofNat (if negative then signBit + magnitude else magnitude)⟩

def infinityBits : Nat := 0x7FF0000000000000

def infinity (negative : Bool) : Double := withSign negative infinityBits

def nan : Double := ⟨0x7FF8000000000000⟩

def zero (negative : Bool) : Double := withSign negative 0

/-- The quotient of two naturals rounded to the nearest natural, a half going to the even neighbour. -/
def roundHalfEven (num den : Nat) : Nat :=
  let floor := num / den
  let rest := 2 * (num % den)
  if rest < den then floor
  else if den < rest then floor + 1
  else if floor % 2 = 0 then floor else floor + 1

/-- A quotient of naturals times a power of two, as a quotient of naturals. -/
def scaleRatio (num den : Nat) (power : Int) : Nat × Nat :=
  if 0 ≤ power then (num * Nat.pow 2 power.toNat, den) else (num, den * Nat.pow 2 (-power).toNat)

/-- The power of two for which the positive quotient is a significand of 53 bits, but at least the least power of
the format. -/
def scaleOfRatio (num den : Nat) : Int :=
  let guess : Int := (num.log2 : Int) - den.log2 - 52
  let (a, b) := scaleRatio num den (-guess)
  max (if hiddenBit * b ≤ a then guess else guess - 1) (-1074)

/-- The double nearest to a quotient of naturals, a half going to the even neighbour; too large a quotient gives an
infinity. -/
def ofRatio (negative : Bool) (num den : Nat) : Double :=
  if num = 0 then zero negative
  else
    let power := scaleOfRatio num den
    let (a, b) := scaleRatio num den (-power)
    let m := roundHalfEven a b
    let bits := if m < hiddenBit then m else (power + 1075).toNat * hiddenBit + (m - hiddenBit)
    withSign negative (min bits infinityBits)

def ofInt (n : Int) : Double := ofRatio (n < 0) n.natAbs 1

/-- The magnitude of a finite double as a quotient of naturals. -/
def ratio (d : Double) : Nat × Nat := scaleRatio d.significand 1 d.scale

/-- The integer part of a finite double, toward zero; an infinity or not-a-number has none. -/
def truncate? (d : Double) : Option Int :=
  if d.isFinite then
    let (num, den) := d.ratio
    let magnitude : Int := (num / den : Nat)
    some (if d.isNegative then -magnitude else magnitude)
  else none

/-- The product of two non-negative finite doubles, rounded once. -/
def mulMagnitude (a b : Double) : Double :=
  let (an, ad) := a.ratio
  let (bn, bd) := b.ratio
  ofRatio false (an * bn) (ad * bd)

/-- The quotient of two non-negative finite doubles with a non-zero divisor, rounded once. -/
def divMagnitude (a b : Double) : Double :=
  let (an, ad) := a.ratio
  let (bn, bd) := b.ratio
  ofRatio false (an * bd) (ad * bn)

/-- The same magnitude with the opposite sign. -/
def negate (d : Double) : Double := withSign (!d.isNegative) (d.bits.toNat % signBit)

end Double
end ScriptBridge
