import ScriptBridge.Json.Number

/-!
# Reading nodes from the interchange format

A text holds one value with white space around it. Of two entries of an object with one key the later counts. Arrays and
objects nest less than 128 deep.
-/
namespace ScriptBridge.Json

/-- The first depth at which arrays and objects are too deep. -/
def maxDepth : Nat := 128

def isSpace (c : Char) : Bool := c = ' ' || c = '\t' || c = '\n' || c = '\r'

def skipSpaces (text : List Char) : List Char := text.dropWhile isSpace

def readUnit : Reader Nat
  | a :: b :: c :: d :: rest => (Numeral.valueIn? 16 [a, b, c, d]).map (·, rest)
  | _ => none

/-- A character given by one unit, or by a leading and a trailing surrogate. -/
def readUnits : Reader Char := fun text => do
  let (first, rest) ← readUnit text
  if 0xD800 ≤ first ∧ first ≤ 0xDBFF then
    match rest with
    | '\\' :: 'u' :: rest => do
      let (second, rest) ← readUnit rest
      if 0xDC00 ≤ second ∧ second ≤ 0xDFFF then
        some (Char.ofNat (0x10000 + (first - 0xD800) * 0x400 + (second - 0xDC00)), rest)
      else none
    | _ => none
  else if first.isValidChar then some (Char.ofNat first, rest)
  else none

/-- The character that an escape stands for, given what follows the backslash. -/
def readEscape : Reader Char
  | '"' :: rest => some ('"', rest)
  | '\\' :: rest => some ('\\', rest)
  | '/' :: rest => some ('/', rest)
  | 'b' :: rest => some ('\x08', rest)
  | 'f' :: rest => some ('\x0c', rest)
  | 'n' :: rest => some ('\n', rest)
  | 'r' :: rest => some ('\r', rest)
  | 't' :: rest => some ('\t', rest)
  | 'u' :: rest => readUnits rest
  | _ => none

def readText (text : List Char) : Option (List Char × List Char) :=
  match text with
  | [] => none
  | c :: rest =>
    if c = '"' then some ([], rest)
    else if c = '\\' then
      match readEscape rest with
      | some (escaped, after) =>
        if _h : after.length < rest.length then
          (readText after).map fun (body, left) => (escaped :: body, left)
        else none
      | none => none
    else if c < ' ' then none
    else (readText rest).map fun (body, left) => (c :: body, left)
termination_by text.length
decreasing_by
  · simp only [List.length_cons]; omega
  · simp only [List.length_cons]; omega

/-- Items of an array from the first one on, up to the closing bracket. -/
def readItems (item : Reader Node) (text : List Char) : Option (List Node × List Char) :=
  match item (skipSpaces text) with
  | none => none
  | some (value, rest) =>
    match skipSpaces rest with
    | ']' :: rest => some ([value], rest)
    | ',' :: rest =>
      if _h : rest.length < text.length then
        (readItems item rest).map fun (values, left) => (value :: values, left)
      else none
    | _ => none
termination_by text.length

def readEntry (item : Reader Node) : Reader (String × Node) := fun text => do
  let ((), rest) ← readChar '"' (skipSpaces text)
  let (key, rest) ← readText rest
  let ((), rest) ← readChar ':' (skipSpaces rest)
  let (value, rest) ← item (skipSpaces rest)
  some ((String.ofList key, value), rest)

/-- Entries of an object from the first one on, up to the closing brace. -/
def readEntries (item : Reader Node) (text : List Char) : Option (List (String × Node) × List Char) :=
  match readEntry item text with
  | none => none
  | some (entry, rest) =>
    match skipSpaces rest with
    | '\x7d' :: rest => some ([entry], rest)
    | ',' :: rest =>
      if _h : rest.length < text.length then
        (readEntries item rest).map fun (entries, left) => (entry :: entries, left)
      else none
    | _ => none
termination_by text.length

def readArray (item : Reader Node) : Reader Node := fun text =>
  match skipSpaces text with
  | ']' :: rest => some (.array [], rest)
  | start => (readItems item start).map fun (items, rest) => (.array items, rest)

def readObject (item : Reader Node) : Reader Node := fun text =>
  match skipSpaces text with
  | '\x7d' :: rest => some (.map [], rest)
  | start => (readEntries item start).map fun (entries, rest) => (.ofEntries entries, rest)

/-- A value in which arrays and objects nest at most so deep. -/
def readValueUpTo : Nat → Reader Node
  | depth, '[' :: rest =>
    match depth with
    | 0 => none
    | depth + 1 => readArray (readValueUpTo depth) rest
  | depth, '\x7b' :: rest =>
    match depth with
    | 0 => none
    | depth + 1 => readObject (readValueUpTo depth) rest
  | _, 'n' :: 'u' :: 'l' :: 'l' :: rest => some (.none, rest)
  | _, 't' :: 'r' :: 'u' :: 'e' :: rest => some (.flag true, rest)
  | _, 'f' :: 'a' :: 'l' :: 's' :: 'e' :: rest => some (.flag false, rest)
  | _, '"' :: rest => (readText rest).map fun (body, left) => (.string (String.ofList body), left)
  | _, text => readNumber text

def read? (text : String) : Option Node :=
  match readValueUpTo (maxDepth - 1) (skipSpaces text.toList) with
  | some (value, rest) => if (skipSpaces rest).isEmpty then some value else none
  | none => none

end ScriptBridge.Json
