import ScriptBridge.Number.Numeral
import ScriptBridge.Number.Double

/-!
# Reading doubles

The decimal grammar: an optional sign, then one of the words for infinity and not-a-number in any case, or digits with
an optional point among them (at least one digit in all) and an optional exponent. The value is rounded once.
-/
namespace ScriptBridge.Double

/-- The double nearest to `digits * 10 ^ exponent`, where `digits` is a run of decimal digits. Powers far outside the
range of the format are settled without being computed. -/
def ofDecimal (negative : Bool) (digits : List Char) (exponent : Int) : Double :=
  let significant := digits.dropWhile (· == '0')
  if significant.isEmpty then zero negative
  else
    let top := (significant.length : Int) + exponent
    if 310 < top then infinity negative
    else if top < -330 then zero negative
    else
      let n := Numeral.value significant
      if 0 ≤ exponent then ofRatio negative (n * Nat.pow 10 exponent.toNat) 1
      else ofRatio negative n (Nat.pow 10 (-exponent).toNat)

/-- The exponent part of a decimal: nothing, or the mark, an optional sign and one or more digits. -/
def readExponent? : List Char → Option Int
  | [] => some 0
  | mark :: rest => if mark = 'e' ∨ mark = 'E' then Numeral.readInt? rest else none

/-- Digits with an optional point and an optional exponent. -/
def readDecimal? (negative : Bool) (text : List Char) : Option Double :=
  let whole := text.takeWhile Char.isDigit
  let (fraction, rest) := match text.dropWhile Char.isDigit with
    | '.' :: rest => (rest.takeWhile Char.isDigit, rest.dropWhile Char.isDigit)
    | rest => ([], rest)
  if whole.isEmpty && fraction.isEmpty then none
  else (readExponent? rest).map fun exponent =>
    ofDecimal negative (whole ++ fraction) (exponent - fraction.length)

def readUnsigned? (negative : Bool) (text : List Char) : Option Double :=
  let word := text.map Char.toLower
  if word = ['i', 'n', 'f'] ∨ word = ['i', 'n', 'f', 'i', 'n', 'i', 't', 'y'] then some (infinity negative)
  else if word = ['n', 'a', 'n'] then some (withSign negative nan.bits.toNat)
  else readDecimal? negative text

def read? : List Char → Option Double
  | '-' :: rest => readUnsigned? true rest
  | '+' :: rest => readUnsigned? false rest
  | text => readUnsigned? false text

end ScriptBridge.Double
