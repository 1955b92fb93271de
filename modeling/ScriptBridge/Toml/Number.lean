import ScriptBridge.Number.Reading
import ScriptBridge.Toml.Lexeme

/-!
# Reading numbers

Between two digits of a number one underscore may stand. Decimal numbers have no leading zeros and may carry a sign;
integers may also be written in hexadecimal, octal or binary digits. An integer has to fit into 64 bits, and a number
too large for a double is refused unless it is negative.
-/
namespace ScriptBridge.Toml

/-- One or more digits, without the underscores between them. -/
def readDigits (isDigit : Char → Bool) : Reader (List Char)
  | [] => none
  | [c] => if isDigit c then some ([c], []) else none
  | c :: next :: rest =>
    if !isDigit c then none
    else if next = '_' then (readDigits isDigit rest).map fun (digits, left) => (c :: digits, left)
    else if isDigit next then (readDigits isDigit (next :: rest)).map fun (digits, left) => (c :: digits, left)
    else some ([c], next :: rest)

/-- A sign, true for a minus. -/
def readSign : List Char → Bool × List Char
  | '-' :: rest => (true, rest)
  | '+' :: rest => (false, rest)
  | text => (false, text)

/-- The digits of a decimal integer, without leading zeros. -/
def readWhole : Reader (List Char)
  | '0' :: rest => some (['0'], rest)
  | text => readDigits Char.isDigit text

def readPlaces : Reader (List Char)
  | '.' :: rest => readDigits Char.isDigit rest
  | _ => none

def readExponent : Reader Int
  | [] => none
  | mark :: rest =>
    if mark = 'e' ∨ mark = 'E' then
      let (negative, rest) := readSign rest
      (readDigits Char.isDigit rest).map fun (digits, left) =>
        let n : Int := Numeral.value digits
        (if negative then -n else n, left)
    else none

/-- A number with a point, an exponent, or both. -/
def readDecimal : Reader Double := fun text => do
  let (negative, text) := readSign text
  let (whole, text) ← readWhole text
  let (value, rest) ←
    match readPlaces text with
    | some (places, rest) =>
      let (exponent, rest) := (readExponent rest).getD (0, rest)
      some (Double.ofDecimal negative (whole ++ places) (exponent - places.length), rest)
    | none => (readExponent text).map fun (exponent, rest) => (Double.ofDecimal negative whole exponent, rest)
  if value = Double.infinity false then none else some (value, rest)

/-- Infinity or not-a-number, with an optional sign. -/
def readSpecial : Reader Double := fun text =>
  match readSign text with
  | (negative, 'i' :: 'n' :: 'f' :: rest) => some (.infinity negative, rest)
  | (negative, 'n' :: 'a' :: 'n' :: rest) => some (if negative then Double.nan.negate else .nan, rest)
  | _ => none

def readFloat : Reader Double := fun text =>
  match readDecimal text with
  | some result => some result
  | none => readSpecial text

/-- The digits of an integer in a base, behind its mark. -/
def readInBase (base : Nat) : Reader Int := fun text => do
  let (digits, rest) ← readDigits (fun c => (Numeral.hexValue? c).any (· < base)) text
  let n ← Numeral.valueIn? base digits
  some (n, rest)

def readDecimalInteger : Reader Int := fun text =>
  let (negative, text) := readSign text
  (readWhole text).map fun (digits, rest) =>
    let n : Int := Numeral.value digits
    (if negative then -n else n, rest)

def readInteger : Reader Int64 := fun text => do
  let (n, rest) ←
    match text with
    | '0' :: 'x' :: rest => readInBase 16 rest
    | '0' :: 'o' :: rest => readInBase 8 rest
    | '0' :: 'b' :: rest => readInBase 2 rest
    | text => readDecimalInteger text
  let value ← Numeral.toInt64? n
  some (value, rest)

end ScriptBridge.Toml
