/-!
# Readers

A text is read from a list of characters, piece by piece: a reader takes one piece off the front and gives what is left.
-/
namespace ScriptBridge

/-- Takes a piece off the front of a text; nothing when the text does not start with one. -/
abbrev Reader (α : Type) := List Char → Option (α × List Char)

def readChar (expected : Char) : Reader Unit
  | [] => none
  | c :: rest => if c = expected then some ((), rest) else none

end ScriptBridge
