import ScriptBridge.Number.Reading
import ScriptBridge.Text.Reader
import ScriptBridge.Node.Basic

/-!
# Numbers of the interchange format

A number without point and exponent is an integer if it fits into 64 bits with a sign. Any other number is a double that
is computed quickly rather than exactly: as many leading digits as fit into 64 bits make a significand, further digits
only count toward the power of ten, and the significand is multiplied or divided by that power with a rounding of its
own. A result beyond the range of doubles is refused.
-/
namespace ScriptBridge.Json

def maxSignificand : Nat := Nat.pow 2 64 - 1

/-- Digits taken into a significand until one does not fit: the significand, how many were taken, and the rest. -/
def takeDigits (significand taken : Nat) : List Char → Nat × Nat × List Char
  | [] => (significand, taken, [])
  | c :: rest =>
    if c.isDigit && significand * 10 + Numeral.digitValue c ≤ maxSignificand then
      takeDigits (significand * 10 + Numeral.digitValue c) (taken + 1) rest
    else (significand, taken, c :: rest)

/-- The greatest power of ten among the doubles. -/
def maxPower : Nat := 308

def powerOfTen (n : Nat) : Double := Double.ofDecimal false ['1'] n

/-- A double times a power of ten, in steps within the range of the powers; nothing when it grows out of range. -/
def scaled? (value : Double) (exponent : Int) : Option Double :=
  if exponent < -(maxPower : Int) then
    if value.isZero then some value
    else scaled? (value.divMagnitude (powerOfTen maxPower)) (exponent + maxPower)
  else if exponent < 0 then some (value.divMagnitude (powerOfTen exponent.natAbs))
  else if exponent ≤ maxPower then
    let result := value.mulMagnitude (powerOfTen exponent.natAbs)
    if result.isInfinite then none else some result
  else if value.isZero then some value
  else none
termination_by (-exponent).toNat
decreasing_by simp only [maxPower] at *; omega

/-- The double for a sign, a significand and a power of ten. -/
def combine? (negative : Bool) (significand : Nat) (exponent : Int) : Option Double :=
  (scaled? (Double.ofInt significand) exponent).map fun value => if negative then value.negate else value

def maxExponent : Nat := Nat.pow 2 31 - 1

/-- What follows a significand: an exponent, or nothing. -/
def readExponent (negative : Bool) (significand : Nat) (start : Int) : Reader Double := fun text =>
  match text with
  | [] => (combine? negative significand start).map (·, [])
  | mark :: rest =>
    if mark = 'e' ∨ mark = 'E' then
      let (down, digits) := match rest with
        | '-' :: digits => (true, digits)
        | '+' :: digits => (false, digits)
        | digits => (false, digits)
      let written := digits.takeWhile Char.isDigit
      let left := digits.dropWhile Char.isDigit
      if written.isEmpty then none
      else
        let exponent := Numeral.value written
        if maxExponent < exponent then
          if significand ≠ 0 ∧ !down then none else some (Double.zero negative, left)
        else
          (combine? negative significand (if down then start - exponent else start + exponent)).map (·, left)
    else (combine? negative significand start).map (·, mark :: rest)

def readFraction (negative : Bool) (significand : Nat) (start : Int) : Reader Double
  | '.' :: rest =>
    if rest.head?.any Char.isDigit then
      let (significand, taken, rest) := takeDigits significand 0 rest
      readExponent negative significand (start - taken) (rest.dropWhile Char.isDigit)
    else none
  | text => readExponent negative significand start text

def readMagnitude (negative : Bool) : Reader Node := fun text =>
  let digits := text.takeWhile Char.isDigit
  if digits.isEmpty ∨ (digits.head? = some '0' ∧ digits.length ≠ 1) then none
  else
    let (significand, _, rest) := takeDigits 0 0 text
    let dropped := (rest.takeWhile Char.isDigit).length
    let rest := rest.dropWhile Char.isDigit
    if dropped = 0 ∧ !(rest.head?.any fun c => c = '.' || c = 'e' || c = 'E') then
      if negative ∧ significand = 0 then some (.double (Double.zero true), rest)
      else
        let n : Int := if negative then -(significand : Int) else significand
        some ((Numeral.toInt64? n).elim (.double (Double.ofInt n)) .int64, rest)
    else (readFraction negative significand dropped rest).map fun (value, rest) => (.double value, rest)

def readNumber : Reader Node
  | '-' :: rest => readMagnitude true rest
  | text => readMagnitude false text

end ScriptBridge.Json
