/-!
# Sets of characters as sorted ranges

A table lists the first and the last code point of each run of a set, in rising order. `Char.inRanges` reads a table
up to the first run that begins after the character.
-/

namespace ShapeCheck

/-- A set of code points: the first and the last of each run, in rising order. -/
abbrev CharRanges := List (Nat × Nat)

namespace CharRanges

/-- Whether a sorted table holds the code point. -/
def has (code : Nat) : CharRanges → Bool
  | [] => false
  | (first, last) :: rest => if code < first then false else code ≤ last || has code rest

end CharRanges

end ShapeCheck
