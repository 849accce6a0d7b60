import ShapeCheck.Number.Numeral
import ShapeCheck.Text.Quoted

/-!
# Faults

A `Fault` is why a computation on values has no answer: two values have no order, a value cannot be a key, an integer is
too large. It is not what is wrong with a definition or with a candidate. `Fault.message` words it, and `Fault.family` says
of what family it is; faults of the family of values are also told as what is wrong with a definition.
-/

namespace ShapeCheck

inductive Fault where
  /-- No double is near an integer. -/
  | integerTooLarge
  /-- An integer has too many digits to be written. -/
  | integerTooLong
  /-- Values of two sorts are compared that have no order. -/
  | unordered (sign left right : String)
  /-- A value of a sort that can be no key. -/
  | unhashable (sort : String)
  /-- A value of a sort that has no items. -/
  | notIterable (sort : String)
  /-- Something is looked for in a value of a sort that holds nothing. -/
  | unsearchable (sort : String)
  /-- What is looked for in a text is no text. -/
  | noPartOfText (sort : String)
  /-- A value of a sort that has no number of items. -/
  | uncounted (sort : String)
  /-- An item of what should be pairs has no items itself. -/
  | notSequence (index : Nat)
  /-- An item of what should be pairs has so many items. -/
  | notPair (index length : Nat)
  /-- A method has no first argument. -/
  | noArgument
  /-- What should be a pattern is no text. -/
  | notPattern
  /-- A mapping no longer has a key whose conversion is to be saved. -/
  | missingKey (name : String)
  /-- A mapping has no key that is its first place. -/
  | missingPlace
  /-- What contains itself is gone through without an end. -/
  | endless
  /-- The bytes of a file are no text. -/
  | undecodable
  /-- A text with lone surrogates is to be written. -/
  | unencodable (text : String)
deriving DecidableEq, Repr

/-- What faults have in common. -/
inductive FaultFamily where
  | overflow
  | value
  | sort
  | index
  | key
  | system
deriving DecidableEq, Repr

/-- Where the first lone surrogates of a text are. -/
def Text.surrogatesAt (s : String) : String :=
  let before := (points s).takeWhile fun p => !p.isLone
  match ((points s).drop before.length).takeWhile CodePoint.isLone with
  | [p] => "character '" ++ escapedCode p.code ++ "' in position " ++ toString before.length
  | ps => "characters in position " ++ toString before.length ++ "-" ++ toString (before.length + ps.length - 1)

namespace Fault

def message : Fault → String
  | .integerTooLarge => "int too large to convert to float"
  | .integerTooLong => Numeral.tooLongMessage none
  | .unordered sign left right =>
    "'" ++ sign ++ "' not supported between instances of '" ++ left ++ "' and '" ++ right ++ "'"
  | .unhashable sort => "unhashable type: '" ++ sort ++ "'"
  | .notIterable sort => "'" ++ sort ++ "' object is not iterable"
  | .unsearchable sort => "argument of type '" ++ sort ++ "' is not iterable"
  | .noPartOfText sort => "'in <string>' requires string as left operand, not " ++ sort
  | .uncounted sort => "object of type '" ++ sort ++ "' has no len()"
  | .notSequence i => "cannot convert dictionary update sequence element #" ++ toString i ++ " to a sequence"
  | .notPair i n => "dictionary update sequence element #" ++ toString i ++ " has length " ++ toString n ++ "; 2 is required"
  | .noArgument => "list index out of range"
  | .notPattern => "first argument must be string or compiled pattern"
  | .missingKey name => Text.quoted name
  | .missingPlace => "0"
  | .endless => "maximum recursion depth exceeded"
  | .undecodable => "'utf-8' codec can't decode bytes"
  | .unencodable text => "'utf-8' codec can't encode " ++ Text.surrogatesAt text ++ ": surrogates not allowed"

def family : Fault → FaultFamily
  | .integerTooLarge => .overflow
  | .integerTooLong => .value
  | .unordered .. => .sort
  | .unhashable _ => .sort
  | .notIterable _ => .sort
  | .unsearchable _ => .sort
  | .noPartOfText _ => .sort
  | .uncounted _ => .sort
  | .notSequence _ => .sort
  | .notPair .. => .value
  | .noArgument => .index
  | .notPattern => .sort
  | .missingKey _ => .key
  | .missingPlace => .key
  | .endless => .system
  | .undecodable => .value
  | .unencodable _ => .value

end Fault

end ShapeCheck
