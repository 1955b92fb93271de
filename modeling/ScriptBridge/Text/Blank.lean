/-!
# White space

The characters with the Unicode property White_Space, twenty-five in all, and trimming of a text at both ends.
-/
namespace ScriptBridge.Text

/-- Closed ranges of code points with the property White_Space, ascending and apart. -/
def blankRanges : List (Nat × Nat) :=
  [(0x09, 0x0D), (0x20, 0x20), (0x85, 0x85), (0xA0, 0xA0), (0x1680, 0x1680), (0x2000, 0x200A),
   (0x2028, 0x2029), (0x202F, 0x202F), (0x205F, 0x205F), (0x3000, 0x3000)]

def inRanges (ranges : List (Nat × Nat)) (code : Nat) : Bool :=
  ranges.any fun range => range.1 ≤ code && code ≤ range.2

/-- White space in the sense of Unicode, which is wider than the four characters that core knows. -/
def isBlank (c : Char) : Bool := inRanges blankRanges c.toNat

def trim (text : List Char) : List Char :=
  ((text.dropWhile isBlank).reverse.dropWhile isBlank).reverse

/-- The runs of other characters between white space. -/
def words (text : List Char) : List (List Char) :=
  ((text.splitBy fun a b => isBlank a == isBlank b).filter fun run => !(run.head?.any isBlank))

end ScriptBridge.Text
