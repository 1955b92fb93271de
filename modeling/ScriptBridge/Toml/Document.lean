import ScriptBridge.Toml.Draft
import ScriptBridge.Toml.Number
import ScriptBridge.Toml.Text

/-!
# Reading documents

A document is a sequence of lines: a key with a value, a header, a comment, or nothing. Arrays may spread over several
lines, inline tables may not. Values nest, and keys are dotted, less than eighty deep.
-/
namespace ScriptBridge.Toml

/-- The first depth at which arrays and inline tables, or the parts of a dotted key, are too many. -/
def maxDepth : Nat := 80

/-- A character of a key without quotes. -/
def isBare (c : Char) : Bool := c.isAlphanum || c = '_' || c = '-'

def readPart : Reader String
  | '"' :: rest => (readBasic rest).map fun (body, left) => (String.ofList body, left)
  | '\'' :: rest => (readLiteral rest).map fun (body, left) => (String.ofList body, left)
  | text =>
    let name := text.takeWhile isBare
    if name.isEmpty then none else some (String.ofList name, text.dropWhile isBare)

/-- The parts of a key with at most so many dots, and the white space around them. The last part stands apart. -/
def readKeyUpTo : Nat → Reader (List String × String)
  | 0, text => do
    let (part, rest) ← readPart (skipSpaces text)
    some (([], part), skipSpaces rest)
  | dots + 1, text => do
    let (part, rest) ← readPart (skipSpaces text)
    match skipSpaces rest with
    | '.' :: rest => do
      let ((path, last), rest) ← readKeyUpTo dots rest
      some ((part :: path, last), rest)
    | rest => some (([], part), rest)

def readKey : Reader (List String × String) := readKeyUpTo (maxDepth - 2)

/-- Items of an array behind its opening bracket, up to the closing one. -/
def readItems (item : Reader Value) (text : List Char) : Option (List Value × List Char) :=
  match skipGaps text with
  | ']' :: rest => some ([], rest)
  | start =>
    match item start with
    | none => none
    | some (value, rest) =>
      match skipGaps rest with
      | ']' :: rest => some ([value], rest)
      | ',' :: rest =>
        if _h : rest.length < text.length then
          (readItems item rest).map fun (values, left) => (value :: values, left)
        else none
      | _ => none
termination_by text.length

def readPair (item : Reader Value) : Reader ((List String × String) × Value) := fun text => do
  let (key, rest) ← readKey text
  let ((), rest) ← readChar '=' rest
  let (value, rest) ← item (skipSpaces rest)
  some ((key, value), rest)

/-- Pairs of an inline table from the first one on, up to the closing brace. -/
def readPairs (item : Reader Value) (text : List Char) (entries : DraftEntries) :
    Option (DraftEntries × List Char) :=
  match readPair item text with
  | none => none
  | some (((path, key), value), rest) =>
    match addValue path key value entries with
    | none => none
    | some entries =>
      match skipSpaces rest with
      | '\x7d' :: rest => some (entries, rest)
      | ',' :: rest =>
        if _h : rest.length < text.length then readPairs item rest entries else none
      | _ => none
termination_by text.length

/-- An inline table behind its opening brace. -/
def readInlineTable (item : Reader Value) : Reader Value := fun text =>
  match skipSpaces text with
  | '\x7d' :: rest => some (.table [], rest)
  | start => (readPairs item start []).map fun (entries, rest) => (.table (finishEntries entries), rest)

def readNumeric : Reader Value := fun text =>
  match readDatetime text with
  | some (value, rest) => some (.datetime value, rest)
  | none =>
    match readFloat text with
    | some (value, rest) => some (.float value, rest)
    | none => (readInteger text).map fun (value, rest) => (.integer value, rest)

/-- A value in which arrays and inline tables nest at most so deep. -/
def readValueUpTo : Nat → Reader Value
  | depth, '[' :: rest =>
    match depth with
    | 0 => none
    | depth + 1 => (readItems (readValueUpTo depth) rest).map fun (items, left) => (.array items, left)
  | depth, '\x7b' :: rest =>
    match depth with
    | 0 => none
    | depth + 1 => readInlineTable (readValueUpTo depth) rest
  | _, 't' :: 'r' :: 'u' :: 'e' :: rest => some (.boolean true, rest)
  | _, 'f' :: 'a' :: 'l' :: 's' :: 'e' :: rest => some (.boolean false, rest)
  | _, text =>
    match text.head? with
    | none => none
    | some first =>
      if first = '"' ∨ first = '\'' then
        (readString text).map fun (body, rest) => (.string (String.ofList body), rest)
      else readNumeric text

def readValue : Reader Value := readValueUpTo (maxDepth - 1)

/-- A line of a document that is not empty. -/
inductive Line where
  | pair (path : List String) (key : String) (value : Value)
  | header (path : List String) (key : String)
  | arrayHeader (path : List String) (key : String)

/-- What stands on a line, up to a comment or the end of the line. -/
def readLine : Reader Line
  | '[' :: '[' :: rest => do
    let ((path, key), rest) ← readKey rest
    let ((), rest) ← readChar ']' rest
    let ((), rest) ← readChar ']' rest
    some (.arrayHeader path key, rest)
  | '[' :: rest => do
    let ((path, key), rest) ← readKey rest
    let ((), rest) ← readChar ']' rest
    some (.header path key, rest)
  | text => do
    let (((path, key), value), rest) ← readPair readValue text
    some (.pair path key value, rest)

def DocumentDraft.take (draft : DocumentDraft) : Line → Option DocumentDraft
  | .pair path key value => draft.add path key value
  | .header path key => draft.openTable path key
  | .arrayHeader path key => draft.openArrayTable path key

def readLines (text : List Char) (draft : DocumentDraft) : Option DocumentDraft :=
  match skipGaps text with
  | [] => some draft
  | start =>
    match readLine start with
    | none => none
    | some (line, rest) =>
      match draft.take line, afterLine? rest with
      | some draft, some rest => if _h : rest.length < text.length then readLines rest draft else none
      | _, _ => none
termination_by text.length

/-- The text behind a byte order mark, if it starts with one. -/
def skipMark : List Char → List Char
  | '\ufeff' :: rest => rest
  | text => text

def read? (text : String) : Option Entries := (readLines (skipMark text.toList) {}).bind DocumentDraft.finish

end ScriptBridge.Toml
