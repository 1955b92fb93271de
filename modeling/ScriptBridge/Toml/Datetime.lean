import ScriptBridge.Number.Numeral
import ScriptBridge.Toml.Lexeme

/-!
# Dates and times

A date, a time of day, or both, then possibly with an offset from universal time. Seconds may be sixty, and a fraction
of a second counts to the ninth digit.
-/
namespace ScriptBridge.Toml

structure Date where
  year : Nat
  month : Nat
  day : Nat
  deriving DecidableEq, Repr

structure TimeOfDay where
  hour : Nat
  minute : Nat
  second : Nat
  nanosecond : Nat
  deriving DecidableEq, Repr

inductive Offset where
  | utc
  | minutes (minutes : Int)
  deriving DecidableEq, Repr

structure Datetime where
  date : Option Date
  time : Option TimeOfDay
  offset : Option Offset
  deriving DecidableEq, Repr

/-- A natural in decimal, with leading zeros up to a width. -/
def padded (width n : Nat) : List Char :=
  let digits := Numeral.decimal n
  List.replicate (width - digits.length) '0' ++ digits

def Date.text (date : Date) : List Char :=
  padded 4 date.year ++ '-' :: padded 2 date.month ++ '-' :: padded 2 date.day

/-- The fraction of a second, without the zeros at its end. -/
def fractionText (nanosecond : Nat) : List Char :=
  if nanosecond = 0 then []
  else '.' :: ((padded 9 nanosecond).reverse.dropWhile (· == '0')).reverse

def TimeOfDay.text (time : TimeOfDay) : List Char :=
  padded 2 time.hour ++ ':' :: padded 2 time.minute ++ ':' :: padded 2 time.second ++
    fractionText time.nanosecond

def Offset.text : Offset → List Char
  | .utc => ['Z']
  | .minutes n => (if n < 0 then '-' else '+') :: padded 2 (n.natAbs / 60) ++ ':' :: padded 2 (n.natAbs % 60)

def Datetime.text (datetime : Datetime) : List Char :=
  ((datetime.date.map Date.text).getD []) ++
    (if datetime.date.isSome && datetime.time.isSome then ['T'] else []) ++
    ((datetime.time.map TimeOfDay.text).getD []) ++ ((datetime.offset.map Offset.text).getD [])

def daysIn (year month : Nat) : Nat :=
  if month = 2 then
    (if year % 4 = 0 ∧ (year % 100 ≠ 0 ∨ year % 400 = 0) then 29 else 28)
  else if month ∈ [4, 6, 9, 11] then 30 else 31

/-- A number of exactly so many digits, between two bounds. -/
def readFixed (width low high : Nat) : Reader Nat := fun text =>
  let digits := text.take width
  if digits.length = width ∧ digits.all Char.isDigit then
    let n := Numeral.value digits
    if low ≤ n ∧ n ≤ high then some (n, text.drop width) else none
  else none

def readDate : Reader Date := fun text => do
  let (year, text) ← readFixed 4 0 9999 text
  let ((), text) ← readChar '-' text
  let (month, text) ← readFixed 2 1 12 text
  let ((), text) ← readChar '-' text
  let (day, text) ← readFixed 2 1 (daysIn year month) text
  some (⟨year, month, day⟩, text)

/-- The digits behind the point, as billionths. -/
def readFraction : List Char → Nat × List Char
  | '.' :: rest =>
    let digits := rest.takeWhile Char.isDigit
    if digits.isEmpty then (0, '.' :: rest)
    else
      let counted := digits.take 9
      (Numeral.value counted * Nat.pow 10 (9 - counted.length), rest.dropWhile Char.isDigit)
  | text => (0, text)

def readTime : Reader TimeOfDay := fun text => do
  let (hour, text) ← readFixed 2 0 23 text
  let ((), text) ← readChar ':' text
  let (minute, text) ← readFixed 2 0 59 text
  let ((), text) ← readChar ':' text
  let (second, text) ← readFixed 2 0 60 text
  let (nanosecond, text) := readFraction text
  some (⟨hour, minute, second, nanosecond⟩, text)

def readOffset : Reader Offset
  | [] => none
  | sign :: text =>
    if sign = 'Z' ∨ sign = 'z' then some (.utc, text)
    else if sign = '+' ∨ sign = '-' then do
      let (hour, text) ← readFixed 2 0 23 text
      let ((), text) ← readChar ':' text
      let (minute, text) ← readFixed 2 0 59 text
      let total : Int := (hour * 60 + minute : Nat)
      some (.minutes (if sign = '-' then -total else total), text)
    else none

/-- The time behind a date; a blank without a time behind it does not belong to the date. -/
def readTimeAfterDate : Reader TimeOfDay
  | [] => none
  | mark :: text => if mark = 'T' ∨ mark = 't' ∨ mark = ' ' then readTime text else none

/-- A date with or without a time, or a time alone. -/
def readDatetime : Reader Datetime := fun text =>
  match readDate text with
  | some (date, rest) =>
    match readTimeAfterDate rest with
    | some (time, rest) =>
      match readOffset rest with
      | some (offset, rest) => some (⟨some date, some time, some offset⟩, rest)
      | none => some (⟨some date, some time, none⟩, rest)
    | none => some (⟨some date, none, none⟩, rest)
  | none => (readTime text).map fun (time, rest) => (⟨none, some time, none⟩, rest)

end ScriptBridge.Toml
