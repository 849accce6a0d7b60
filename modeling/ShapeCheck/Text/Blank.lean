import ShapeCheck.Text.Ranges

/-!
# Blank characters

The white space of Unicode, with the four ASCII separators from 28 to 31. `Text.strip` drops it from both ends of a text, and
`Text.plainBreaks` writes all line breaks in one way.
-/

namespace ShapeCheck.Text

/-- The blank characters. -/
def blanks : CharRanges :=
  [(9, 13), (28, 32), (133, 133), (160, 160), (5760, 5760), (8192, 8202), (8232, 8233), (8239, 8239),
   (8287, 8287), (12288, 12288)]

def isBlank (c : Char) : Bool := blanks.has c.toNat

/-- A text without the blank characters at its two ends. -/
def strip (cs : List Char) : List Char :=
  ((cs.dropWhile isBlank).reverse.dropWhile isBlank).reverse

/-- A text with every line break of a file as a line feed. -/
def plainBreaks : List Char → List Char
  | '\r' :: '\n' :: rest => '\n' :: plainBreaks rest
  | '\r' :: rest => '\n' :: plainBreaks rest
  | c :: rest => c :: plainBreaks rest
  | [] => []

end ShapeCheck.Text
