import ScriptBridge.Number.Numeral
import ScriptBridge.Toml.Lexeme

/-!
# Reading strings

Four kinds of string: between double quotes with escapes, or between single quotes without, and each on one line or,
between tripled quotes, over several. A line end behind the opening quotes of a long string does not count, and line
ends inside are read as line feeds. Up to two quotes may stand directly in front of the closing ones.
-/
namespace ScriptBridge.Toml

/-- The character whose code point is given by exactly so many hexadecimal digits. -/
def readCodePoint (width : Nat) : Reader Char := fun text =>
  let digits := text.take width
  if digits.length = width then do
    let code ← Numeral.valueIn? 16 digits
    if code.isValidChar then some (Char.ofNat code, text.drop width) else none
  else none

/-- The character that an escape stands for, given what follows the backslash. -/
def readEscape : Reader Char
  | 'b' :: rest => some ('\x08', rest)
  | 't' :: rest => some ('\t', rest)
  | 'n' :: rest => some ('\n', rest)
  | 'f' :: rest => some ('\x0c', rest)
  | 'r' :: rest => some ('\r', rest)
  | '"' :: rest => some ('"', rest)
  | '\\' :: rest => some ('\\', rest)
  | 'u' :: rest => readCodePoint 4 rest
  | 'U' :: rest => readCodePoint 8 rest
  | _ => none

theorem length_readCodePoint {width : Nat} {text rest : List Char} {c : Char}
    (h : readCodePoint width text = some (c, rest)) : rest.length ≤ text.length := by
  simp only [readCodePoint, Option.bind_eq_bind] at h
  split at h
  · obtain ⟨code, -, h⟩ := Option.bind_eq_some_iff.1 h
    split at h
    · simp at h; rw [← h.2]; simp
    · simp at h
  · simp at h

theorem length_readEscape {text rest : List Char} {c : Char} (h : readEscape text = some (c, rest)) :
    rest.length < text.length := by
  unfold readEscape at h
  split at h <;> first
    | (simp only [Option.some.injEq, Prod.mk.injEq] at h; obtain ⟨-, rfl⟩ := h; simp only [List.length_cons]; omega)
    | exact Nat.lt_of_le_of_lt (length_readCodePoint h) (Nat.lt_succ_self _)
    | simp at h

/-- The characters up to the closing double quote. -/
def readBasic (text : List Char) : Option (List Char × List Char) :=
  match text with
  | [] => none
  | c :: rest =>
    if c = '"' then some ([], rest)
    else if c = '\\' then
      match _h : readEscape rest with
      | some (escaped, after) => (readBasic after).map fun (body, left) => (escaped :: body, left)
      | none => none
    else if isText c then (readBasic rest).map fun (body, left) => (c :: body, left)
    else none
termination_by text.length
decreasing_by
  · have := length_readEscape _h; simp only [List.length_cons]; omega
  · simp only [List.length_cons]; omega

/-- The characters up to the closing single quote. -/
def readLiteral : Reader (List Char)
  | [] => none
  | c :: rest =>
    if c = '\'' then some ([], rest)
    else if isText c then (readLiteral rest).map fun (body, left) => (c :: body, left)
    else none

/-- What follows the first three of a run of closing quotes: up to two more belong to the string. -/
def closeLong (quote : Char) (text : List Char) : List Char × List Char :=
  let extra := (text.takeWhile (· == quote)).take 2
  (extra, text.drop extra.length)

/-- The text behind a line end, white space and further line ends, which a backslash in front of them removes. -/
def afterJoin? (text : List Char) : Option (List Char) := (afterNewline? (skipSpaces text)).map skipBlankLines

theorem length_afterJoin? {text rest : List Char} (h : afterJoin? text = some rest) :
    rest.length < text.length := by
  obtain ⟨after, found, rfl⟩ := Option.map_eq_some_iff.1 h
  have h1 := length_afterNewline? found
  have h2 := length_skipBlankLines after
  have h3 : (skipSpaces text).length ≤ text.length := (List.dropWhile_suffix _).length_le
  omega

/-- The characters up to three closing double quotes. -/
def readLongBasic (text : List Char) : Option (List Char × List Char) :=
  match text with
  | [] => none
  | '"' :: '"' :: '"' :: rest => some (closeLong '"' rest)
  | '\n' :: rest => (readLongBasic rest).map fun (body, left) => ('\n' :: body, left)
  | '\r' :: '\n' :: rest => (readLongBasic rest).map fun (body, left) => ('\n' :: body, left)
  | c :: rest =>
    if c = '\\' then
      match _h : afterJoin? rest with
      | some after => readLongBasic after
      | none =>
        match _h : readEscape rest with
        | some (escaped, after) => (readLongBasic after).map fun (body, left) => (escaped :: body, left)
        | none => none
    else if isText c then (readLongBasic rest).map fun (body, left) => (c :: body, left)
    else none
termination_by text.length
decreasing_by
  · simp only [List.length_cons]; omega
  · simp only [List.length_cons]; omega
  · have := length_afterJoin? _h; simp only [List.length_cons]; omega
  · have := length_readEscape _h; simp only [List.length_cons]; omega
  · simp only [List.length_cons]; omega

/-- The characters up to three closing single quotes. -/
def readLongLiteral : Reader (List Char)
  | [] => none
  | '\'' :: '\'' :: '\'' :: rest => some (closeLong '\'' rest)
  | '\n' :: rest => (readLongLiteral rest).map fun (body, left) => ('\n' :: body, left)
  | '\r' :: '\n' :: rest => (readLongLiteral rest).map fun (body, left) => ('\n' :: body, left)
  | c :: rest =>
    if isText c then (readLongLiteral rest).map fun (body, left) => (c :: body, left) else none

/-- The text behind a line end, or the text itself where there is none. -/
def skipNewline (text : List Char) : List Char := (afterNewline? text).getD text

/-- A string of any of the four kinds. -/
def readString : Reader (List Char)
  | '"' :: '"' :: '"' :: rest => readLongBasic (skipNewline rest)
  | '"' :: rest => readBasic rest
  | '\'' :: '\'' :: '\'' :: rest => readLongLiteral (skipNewline rest)
  | '\'' :: rest => readLiteral rest
  | _ => none

end ScriptBridge.Toml
