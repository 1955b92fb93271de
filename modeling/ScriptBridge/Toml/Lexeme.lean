import ScriptBridge.Text.Reader

/-!
# Blanks, comments and line ends

White space inside a line is a blank or a tab; a line ends with a line feed, which a carriage return may precede.
-/
namespace ScriptBridge.Toml

/-- A blank or a tab. -/
def isSpace (c : Char) : Bool := c = ' ' || c = '\t'

/-- What may stand in a comment: a tab, and everything that is not a control character. -/
def isText (c : Char) : Bool := c = '\t' || (' ' ≤ c && c ≠ '\x7f')

def skipSpaces (text : List Char) : List Char := text.dropWhile isSpace

/-- The text behind a line end. -/
def afterNewline? : List Char → Option (List Char)
  | '\n' :: rest => some rest
  | '\r' :: '\n' :: rest => some rest
  | _ => none

/-- The text behind a comment, if there is one. -/
def skipComment : List Char → List Char
  | '#' :: rest => rest.dropWhile isText
  | text => text

/-- The text behind the rest of a line that holds nothing more. -/
def afterLine? (text : List Char) : Option (List Char) :=
  match skipComment (skipSpaces text) with
  | [] => some []
  | rest => afterNewline? rest

/-- The text behind white space, line ends and, unless it starts inside one, comments. -/
def skipGapsFrom (inComment : Bool) : List Char → List Char
  | [] => []
  | '\n' :: rest => skipGapsFrom false rest
  | '\r' :: '\n' :: rest => skipGapsFrom false rest
  | c :: rest =>
    if inComment then (if isText c then skipGapsFrom true rest else c :: rest)
    else if isSpace c then skipGapsFrom false rest
    else if c = '#' then skipGapsFrom true rest
    else c :: rest

/-- The text behind white space, line ends and comments. -/
def skipGaps (text : List Char) : List Char := skipGapsFrom false text

/-- The text behind white space and line ends. -/
def skipBlankLines : List Char → List Char
  | [] => []
  | '\n' :: rest => skipBlankLines rest
  | '\r' :: '\n' :: rest => skipBlankLines rest
  | c :: rest => if isSpace c then skipBlankLines rest else c :: rest

theorem length_skipBlankLines (text : List Char) : (skipBlankLines text).length ≤ text.length := by
  fun_induction skipBlankLines text <;> simp only [List.length_cons, List.length_nil] <;> omega

theorem length_afterNewline? {text rest : List Char} (h : afterNewline? text = some rest) :
    rest.length < text.length := by
  unfold afterNewline? at h
  split at h
  · simp only [Option.some.injEq] at h; subst h; simp only [List.length_cons]; omega
  · simp only [Option.some.injEq] at h; subst h; simp only [List.length_cons]; omega
  · simp at h

end ScriptBridge.Toml
