import ScriptBridge.Text.Printable
import ScriptBridge.Number.Numeral

/-!
# Quoted text

A text between double quotes. The quote, the backslash, NUL, tab, carriage return and line feed have a short escape;
any other character that would not be visible on its own is written by its code point in lower-case hexadecimal
digits between braces.
-/
namespace ScriptBridge.Text

/-- The letter of the short escape of a character, if it has one. -/
def shortEscape? (c : Char) : Option Char :=
  if c = '\x00' then some '0'
  else if c = '\t' then some 't'
  else if c = '\r' then some 'r'
  else if c = '\n' then some 'n'
  else if c = '\\' then some '\\'
  else if c = '"' then some '"'
  else none

/-- The escape of a character by its code point. -/
def codeEscape (c : Char) : List Char :=
  ['\\', 'u', '\x7b'] ++ Numeral.hexadecimal c.toNat ++ ['\x7d']

/-- One character as it stands between the quotes. -/
def quoteChar (c : Char) : List Char :=
  match shortEscape? c with
  | some letter => ['\\', letter]
  | none => if isPlain c then [c] else codeEscape c

/-- The characters of a text as they stand between the quotes. -/
def quoteBody (text : List Char) : List Char := text.flatMap quoteChar

/-- A text between double quotes, with escapes. -/
def quote (text : List Char) : List Char := '"' :: quoteBody text ++ ['"']

def quoted (text : String) : String := String.ofList (quote text.toList)

end ScriptBridge.Text
