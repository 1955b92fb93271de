import ScriptBridge.Number.Numeral

/-!
# Writing values

Strings are written so that they stay readable: over several lines when they hold a line feed, and between single quotes
when they hold a backslash or a double quote and nothing that needs an escape.
-/
namespace ScriptBridge.Toml

/-- A character that only an escape can stand for between quotes. -/
def needsEscape (c : Char) : Bool := (c < ' ' && c ≠ '\t' && c ≠ '\n') || c = '\x7f'

def hasTripleQuote : List Char → Bool
  | [] => false
  | c :: rest => ['\'', '\'', '\''].isPrefixOf (c :: rest) || hasTripleQuote rest

/-- Whether a string is better written between single quotes, and can be. -/
def suitsLiteral (text : List Char) : Bool :=
  text.any (fun c => c = '\\' || c = '"') && !text.any needsEscape && !hasTripleQuote text &&
    text.getLast? ≠ some '\''

def upperDigit (n : Nat) : Char := (Numeral.digitChar n).toUpper

/-- A character as it stands between double quotes. Line feeds stand for themselves. -/
def escapeChar (c : Char) : List Char :=
  if c = '\x08' then ['\\', 'b']
  else if c = '\t' then ['\\', 't']
  else if c = '\x0c' then ['\\', 'f']
  else if c = '\r' then ['\\', 'r']
  else if c = '"' then ['\\', '"']
  else if c = '\\' then ['\\', '\\']
  else if needsEscape c then ['\\', 'u', '0', '0', upperDigit (c.toNat / 16), upperDigit (c.toNat % 16)]
  else [c]

/-- A string in the kind of quotes that suits it. -/
def stringText (text : List Char) : List Char :=
  let long := text.contains '\n'
  if suitsLiteral text then
    if long then ['\'', '\'', '\'', '\n'] ++ text ++ ['\'', '\'', '\'']
    else if text.contains '\'' then ['\'', '\'', '\''] ++ text ++ ['\'', '\'', '\'']
    else ['\''] ++ text ++ ['\'']
  else if long then ['"', '"', '"', '\n'] ++ text.flatMap escapeChar ++ ['"', '"', '"']
  else ['"'] ++ text.flatMap escapeChar ++ ['"']

def booleanText (value : Bool) : List Char :=
  if value then ['t', 'r', 'u', 'e'] else ['f', 'a', 'l', 's', 'e']

/-- An array of strings: on one line with up to one item, and otherwise with a line for each. -/
def stringsText (items : List (List Char)) : List Char :=
  match items with
  | [] => ['[', ']']
  | [item] => '[' :: stringText item ++ [']']
  | items => '[' :: items.flatMap (fun item => '\n' :: List.replicate 4 ' ' ++ stringText item ++ [',']) ++ ['\n', ']']

end ScriptBridge.Toml
