import ShapeCheck.Number.Numeral
import ShapeCheck.Pattern.Basic
import ShapeCheck.Text.Quoted

/-!
# What is wrong with a pattern

`Problem` lists the ways in which a text is not a pattern, and `Problem.text` words them. `ReadError` adds the place, which
the message gives as a position and, in a pattern of several lines, as a line and a column too, and what is wrong with
patterns that are well formed.
-/

namespace ShapeCheck.Pattern

inductive Problem where
  | escapeAtEnd
  | badEscape (escape : String)
  | incompleteEscape (escape : String)
  | octalTooLarge (escape : String)
  | missing (what : String)
  | unterminatedName (terminator : String)
  | undefinedCharacter (name : String)
  | openGroup
  | groupInSameBehind
  | invalidGroup (index : Nat)
  | unterminatedSet
  | badRange (first last : String)
  | leastAboveMost
  | nothingToRepeat
  | multipleRepeat
  | unexpectedEnd
  | unknownExtension (text : String)
  | badGroupName (name : String)
  | unknownGroupName (name : String)
  | badGroupNumber
  | groupNameTaken (name : String) (index earlier : Nat)
  | unterminatedComment
  | unterminatedGroup
  | tooManyBranches
  | flagsNotAtStart
  | unknownFlag
  | missingFlagEnd
  | missingFlag
  | missingColon
  | localeFlag
  | conflictingFlags
  | unremovableFlag
  | globalFlagOn
  | globalFlagOff
  | flagOnAndOff
  | unbalanced
  | unevenBehind
  | templateRepetition (greed : Greed)
deriving DecidableEq, Repr

namespace Problem

def text : Problem → String
  | .escapeAtEnd => "bad escape (end of pattern)"
  | .badEscape e => "bad escape " ++ e
  | .incompleteEscape e => "incomplete escape " ++ e
  | .octalTooLarge e => "octal escape value " ++ e ++ " outside of range 0-0o377"
  | .missing what => "missing " ++ what
  | .unterminatedName t => "missing " ++ t ++ ", unterminated name"
  | .undefinedCharacter name => "undefined character name " ++ Text.quoted name
  | .openGroup => "cannot refer to an open group"
  | .groupInSameBehind => "cannot refer to group defined in the same lookbehind subpattern"
  | .invalidGroup i => "invalid group reference " ++ toString i
  | .unterminatedSet => "unterminated character set"
  | .badRange a b => "bad character range " ++ a ++ "-" ++ b
  | .leastAboveMost => "min repeat greater than max repeat"
  | .nothingToRepeat => "nothing to repeat"
  | .multipleRepeat => "multiple repeat"
  | .unexpectedEnd => "unexpected end of pattern"
  | .unknownExtension t => "unknown extension " ++ t
  | .badGroupName name => "bad character in group name " ++ Text.quoted name
  | .unknownGroupName name => "unknown group name " ++ Text.quoted name
  | .badGroupNumber => "bad group number"
  | .groupNameTaken name i j =>
    "redefinition of group name " ++ Text.quoted name ++ " as group " ++ toString i ++ "; was group " ++ toString j
  | .unterminatedComment => "missing ), unterminated comment"
  | .unterminatedGroup => "missing ), unterminated subpattern"
  | .tooManyBranches => "conditional backref with more than two branches"
  | .flagsNotAtStart => "global flags not at the start of the expression"
  | .unknownFlag => "unknown flag"
  | .missingFlagEnd => "missing -, : or )"
  | .missingFlag => "missing flag"
  | .missingColon => "missing :"
  | .localeFlag => "bad inline flags: cannot use 'L' flag with a str pattern"
  | .conflictingFlags => "bad inline flags: flags 'a', 'u' and 'L' are incompatible"
  | .unremovableFlag => "bad inline flags: cannot turn off flags 'a', 'u' and 'L'"
  | .globalFlagOn => "bad inline flags: cannot turn on global flag"
  | .globalFlagOff => "bad inline flags: cannot turn off global flag"
  | .flagOnAndOff => "bad inline flags: flag turned on and off"
  | .unbalanced => "unbalanced parenthesis"
  | .unevenBehind => "look-behind requires fixed-width pattern"
  | .templateRepetition .greedy => "internal: unsupported template operator MAX_REPEAT"
  | .templateRepetition .lazy => "internal: unsupported template operator MIN_REPEAT"
  | .templateRepetition .possessive => "internal: unsupported template operator POSSESSIVE_REPEAT"

end Problem

/-- Why a text cannot be read as a pattern. -/
inductive ReadError where
  /-- A problem at a place of the pattern, or with the pattern as a whole. -/
  | malformed (problem : Problem) (position : Option Nat)
  /-- A bound of a repetition is too large to count to. -/
  | repetitionTooLarge
  /-- A bound of a repetition has more digits than a number may have. -/
  | repetitionTooLong (digits : Nat)
  /-- A look-behind is of so many characters that it cannot be encoded. -/
  | behindTooWide
  /-- An escape names a code of 32 bits with the highest one set. -/
  | codeTooLarge
  /-- The pattern asks for ASCII and for Unicode classes at once. -/
  | asciiAndUnicode
deriving DecidableEq, Repr

/-- The line and the column of a place, both counted from one. -/
def lineAndColumn (pattern : String) (position : Nat) : Nat × Nat :=
  let before := (Text.points pattern).take position
  (before.count (.char '\n') + 1, (before.reverse.takeWhile (· ≠ .char '\n')).length + 1)

/-- A problem with its place in a pattern. -/
def Problem.message (pattern : String) (position : Option Nat) (p : Problem) : String :=
  match position with
  | none => p.text
  | some pos =>
    let placed := p.text ++ " at position " ++ toString pos
    if pattern.toList.contains '\n' then
      let (line, column) := lineAndColumn pattern pos
      placed ++ " (line " ++ toString line ++ ", column " ++ toString column ++ ")"
    else placed

/-- Why a pattern cannot be read. -/
def ReadError.message (pattern : String) : ReadError → String
  | .malformed problem position => problem.message pattern position
  | .repetitionTooLarge => "the repetition number is too large"
  | .repetitionTooLong digits => Numeral.tooLongMessage (some digits)
  | .behindTooWide => "invalid SRE code"
  | .codeTooLarge => "Python int too large to convert to C int"
  | .asciiAndUnicode => "ASCII and UNICODE flags are incompatible"

/-- Whether a pattern is at fault for a value in it that no pattern may have. -/
def ReadError.isBadValue : ReadError → Bool
  | .repetitionTooLong _ => true
  | .asciiAndUnicode => true
  | _ => false

end ShapeCheck.Pattern
