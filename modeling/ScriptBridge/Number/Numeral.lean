/-!
# Numerals

Writing naturals and integers in a base, and reading decimal digits back.
-/
namespace ScriptBridge.Numeral

/-- The character of a digit below sixteen, in lower case. -/
def digitChar (digit : Nat) : Char :=
  if digit < 10 then Char.ofNat (48 + digit) else Char.ofNat (87 + digit)

/-- The digits of a natural in a base, most significant first, in front of the digits already written. -/
def digitsOnto (base : Nat) (n : Nat) (written : List Char) : List Char :=
  if _h : n < base ∨ base < 2 then digitChar (n % base) :: written
  else digitsOnto base (n / base) (digitChar (n % base) :: written)
termination_by n
decreasing_by exact Nat.div_lt_self (by omega) (by omega)

/-- The decimal digits of a natural, most significant first and without leading zeros. -/
def decimal (n : Nat) : List Char := digitsOnto 10 n []

/-- The hexadecimal digits of a natural in lower case, without leading zeros. -/
def hexadecimal (n : Nat) : List Char := digitsOnto 16 n []

/-- An integer in decimal, with a minus sign when it is negative. -/
def signed (n : Int) : List Char :=
  if n < 0 then '-' :: decimal n.natAbs else decimal n.natAbs

def ofInt (n : Int) : String := String.ofList (signed n)

def ofNat (n : Nat) : String := String.ofList (decimal n)

def digitValue (c : Char) : Nat := c.toNat - 48

def value (digits : List Char) : Nat := digits.foldl (fun acc c => acc * 10 + digitValue c) 0

/-- One or more ASCII decimal digits, and nothing else. -/
def isDigits (text : List Char) : Bool := !text.isEmpty && text.all Char.isDigit

/-- A natural written as one or more ASCII decimal digits; leading zeros are accepted. -/
def readNat? (text : List Char) : Option Nat := if isDigits text then some (value text) else none

/-- An integer written as an optional sign and one or more ASCII decimal digits. -/
def readInt? : List Char → Option Int
  | '-' :: digits => (readNat? digits).map fun n => -(n : Int)
  | '+' :: digits => (readNat? digits).map fun n => (n : Int)
  | digits => (readNat? digits).map fun n => (n : Int)

def int64Min : Int := -9223372036854775808

def int64Max : Int := 9223372036854775807

def toInt64? (n : Int) : Option Int64 :=
  if int64Min ≤ n ∧ n ≤ int64Max then some (Int64.ofInt n) else none

/-- A value of a digit in a base up to sixteen, in either case. -/
def hexValue? (c : Char) : Option Nat :=
  if c.isDigit then some (c.toNat - 48)
  else if 'a' ≤ c ∧ c ≤ 'f' then some (c.toNat - 87)
  else if 'A' ≤ c ∧ c ≤ 'F' then some (c.toNat - 55)
  else none

/-- The natural that digits denote in a base; `none` at a character that is no digit of that base. -/
def valueIn? (base : Nat) (digits : List Char) : Option Nat :=
  digits.foldlM (fun acc c => do
    let digit ← hexValue? c
    if digit < base then some (acc * base + digit) else none) 0

end ScriptBridge.Numeral
