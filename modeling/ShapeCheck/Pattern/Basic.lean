import ShapeCheck.Text.Blank
import ShapeCheck.Text.Digit
import ShapeCheck.Text.LetterCase
import ShapeCheck.Text.WordChar

/-!
# Conditions in patterns

What a pattern asks of one code point (`CharTest`) and of a place between two of them (`Anchor`). A test that ignores case
looks at the lower case form of the code point.
-/

namespace ShapeCheck.Pattern

/-- A class of characters with a name of its own. -/
inductive Category where
  | digit
  | space
  | word
deriving DecidableEq, Repr

/-- Whether a code point is a letter of ASCII. -/
def isAsciiLetter (code : Nat) : Bool := (65 ≤ code && code ≤ 90) || (97 ≤ code && code ≤ 122)

namespace Category

/-- Whether a code point belongs to a class; `ascii` narrows the class to ASCII. -/
def has (cat : Category) (ascii : Bool) (code : Nat) : Bool :=
  match cat with
  | .digit => if ascii then 48 ≤ code && code ≤ 57 else Text.olderDigits.has code
  | .space => if ascii then code == 32 || (9 ≤ code && code ≤ 13) else Text.blanks.has code
  | .word =>
    if ascii then isAsciiLetter code || (48 ≤ code && code ≤ 57) || code == 95 else Text.isWordCode code

end Category

/-- One item of a set of characters. -/
inductive SetItem where
  | code (c : Nat)
  | range (first last : Nat)
  | category (cat : Category) (negated : Bool)
deriving DecidableEq, Repr

namespace SetItem

def has (ascii : Bool) (code : Nat) : SetItem → Bool
  | .code c => code == c
  | .range first last => first ≤ code && code ≤ last
  | .category cat negated => cat.has ascii code != negated

end SetItem

/-- The last code point of the basic plane. -/
def basicLast : Nat := 0xFFFF

/-- How letters of either case are told apart. -/
inductive CaseRule where
  | exact
  | ascii
  | unicode
deriving DecidableEq, Repr

/-- Lower case letters with the other lower case letters that share their upper case form. -/
def sharedUpper : List (Nat × List Nat) :=
  [(105, [305]), (115, [383]), (181, [956]), (305, [105]), (383, [115]), (837, [953, 8126]), (912, [8147]),
   (944, [8163]), (946, [976]), (949, [1013]), (952, [977]), (953, [837, 8126]), (954, [1008]),
   (956, [181]), (960, [982]), (961, [1009]), (962, [963]), (963, [962]), (966, [981]), (976, [946]),
   (977, [952]), (981, [966]), (982, [960]), (1008, [954]), (1009, [961]), (1013, [949]), (1074, [7296]),
   (1076, [7297]), (1086, [7298]), (1089, [7299]), (1090, [7300, 7301]), (1098, [7302]), (1123, [7303]),
   (7296, [1074]), (7297, [1076]), (7298, [1086]), (7299, [1089]), (7300, [1090, 7301]),
   (7301, [1090, 7300]), (7302, [1098]), (7303, [1123]), (7304, [42571]), (7777, [7835]), (7835, [7777]),
   (8126, [837, 953]), (8147, [912]), (8163, [944]), (42571, [7304]), (64261, [64262]), (64262, [64261])]

namespace CaseRule

/-- The form in which two code points are compared. -/
def lower (rule : CaseRule) (code : Nat) : Nat :=
  match rule with
  | .exact => code
  | .ascii => if 65 ≤ code && code ≤ 90 then code + 32 else code
  | .unicode => Text.lowerCode code

/-- Whether the rule makes a difference to a code point. -/
def affects (rule : CaseRule) (code : Nat) : Bool :=
  match rule with
  | .exact => false
  | .ascii => isAsciiLetter code
  | .unicode => Text.isCasedCode code

/-- Whether the rule makes a difference to some code point between two bounds. -/
def affectsAny (rule : CaseRule) (first last : Nat) : Bool :=
  match rule with
  | .exact => false
  | .ascii => (first ≤ 90 && 65 ≤ last) || (first ≤ 122 && 97 ≤ last)
  | .unicode => Text.anyCasedCode first last

/-- The lower case letters that count as the given one besides itself. -/
def kin (rule : CaseRule) (low : Nat) : List Nat :=
  match rule with
  | .unicode => (sharedUpper.lookup low).getD []
  | _ => []

/-- The code points whose lower case form is the given one. -/
def sources (rule : CaseRule) (low : Nat) : List Nat :=
  let itself := if rule.lower low == low then [low] else []
  match rule with
  | .exact => itself
  | .ascii => if 97 ≤ low && low ≤ 122 then (low - 32) :: itself else itself
  | .unicode => Text.lowerRuns.filterMap (Text.CaseRun.source? low) ++ itself

/-- Whether an item of a set holds a lower case form. Outside the basic plane a single code point has to be that form
itself, and a range has to hold it or its upper case form. -/
def itemHas (rule : CaseRule) (ascii : Bool) (low : Nat) : SetItem → Bool
  | .code c =>
    let l := rule.lower c
    if basicLast < l then low == c else low == l || (rule.kin l).contains low
  | .range first last =>
    let basic := low ≤ basicLast &&
      (low :: rule.kin low).any fun l => (rule.sources l).any fun c => first ≤ c && c ≤ min last basicLast
    let upper := Text.upperCode low
    basic || (basicLast < last && ((first ≤ low && low ≤ last) || (first ≤ upper && upper ≤ last)))
  | .category cat negated => cat.has ascii low != negated

/-- Whether the rule makes a difference to an item of a set. -/
def affectsItem (rule : CaseRule) : SetItem → Bool
  | .code c => rule != .exact && (rule.affects c || basicLast < rule.lower c)
  | .range first last => rule != .exact && (basicLast < last || rule.affectsAny first last)
  | .category .. => false

end CaseRule

/-- A condition on one code point. -/
inductive CharTest where
  | any
  | notNewline
  | code (negated : Bool) (c : Nat)
  /-- The lower case form is one of these. -/
  | lower (rule : CaseRule) (negated : Bool) (lows : List Nat)
  | set (negated : Bool) (items : List SetItem) (ascii : Bool)
  /-- The set holds the lower case form. -/
  | lowerSet (rule : CaseRule) (negated : Bool) (items : List SetItem) (ascii : Bool)
deriving DecidableEq, Repr

namespace CharTest

def accepts : CharTest → Nat → Bool
  | .any, _ => true
  | .notNewline, c => c != 10
  | .code negated d, c => (c == d) != negated
  | .lower rule negated lows, c => lows.contains (rule.lower c) != negated
  | .set negated items ascii, c => items.any (SetItem.has ascii c) != negated
  | .lowerSet rule negated items ascii, c => items.any (rule.itemHas ascii (rule.lower c)) != negated

/-- The one code point that a test accepts, if it asks for it as it stands. -/
def only? : CharTest → Option Nat
  | .code false c => some c
  | _ => none

/-- Whether a test is for one code point or a set of them, as they stand. -/
def isExact : CharTest → Bool
  | .code negated _ => !negated
  | .set .. => true
  | _ => false

/-- Whether a test is a set of lower case forms, whose characters are matched one by one. -/
def isLowerSet : CharTest → Bool
  | .lowerSet .. => true
  | .lower _ _ lows => 1 < lows.length
  | _ => false

end CharTest

/-- A condition on a place between two characters. -/
inductive Anchor where
  /-- The start of the text, or of any line. -/
  | start (lines : Bool)
  /-- The end of the text or the place before a line feed that ends it, or the end of any line. -/
  | finish (lines : Bool)
  | textStart
  | textEnd
  | wordEdge (ascii : Bool)
  | notWordEdge (ascii : Bool)
deriving DecidableEq, Repr

namespace Anchor

def isWordAt (ascii : Bool) (text : Array Nat) (i : Nat) : Bool :=
  match text[i]? with
  | some c => Category.word.has ascii c
  | none => false

/-- Whether a word begins or ends at a place. -/
def atWordEdge (ascii : Bool) (text : Array Nat) (i : Nat) : Bool :=
  let before := i > 0 && isWordAt ascii text (i - 1)
  before != isWordAt ascii text i

/-- Whether an anchor holds at a place. An empty text has neither word edges nor places that are none. -/
def holds (text : Array Nat) (i : Nat) : Anchor → Bool
  | .start lines => i == 0 || (lines && text[i - 1]? == some 10)
  | .finish lines =>
    i == text.size || (i + 1 == text.size && text[i]? == some 10) || (lines && text[i]? == some 10)
  | .textStart => i == 0
  | .textEnd => i == text.size
  | .wordEdge ascii => !text.isEmpty && atWordEdge ascii text i
  | .notWordEdge ascii => !text.isEmpty && !atWordEdge ascii text i

end Anchor

/-- Whether a repetition prefers to go on, prefers to stop, or never gives back. -/
inductive Greed where
  | greedy
  | lazy
  | possessive
deriving DecidableEq, Repr

end ShapeCheck.Pattern
