import ShapeCheck.Number.Numeral
import ShapeCheck.Shape.Record

/-!
# Readings of integers

An integer may be given as a number without a fraction, as a truth value, or as a text. `IntegerText.read` reads a text:
digits with a sign between blanks, perhaps with single underscores between the digits, with zeros before them, and with a
point and zeros behind them. Main definitions: `Reading.integer`, `Reading.integerBetween`.
-/

namespace ShapeCheck

open Shape

namespace IntegerText

/-- White space around an integer; the separators of ASCII are none. -/
def isMargin (c : Char) : Bool := Text.isBlank c && !('\x1c' ≤ c && c ≤ '\x1f')

def trim (cs : List Char) : List Char := ((cs.dropWhile isMargin).reverse.dropWhile isMargin).reverse

/-- What is left of a numeral behind a zero, when the characters up to `last` have been passed: everything from the first
digit that is no zero, or from a minus sign. Of zeros and underscores alone the last is left, also before a point. -/
def behindZero? (last : Char) : List Char → Option (List Char)
  | [] => some [last]
  | c :: cs =>
    if c = '0' || c = '_' then behindZero? c cs
    else if c.isDigit || c = '-' then some (c :: cs)
    else if c = '.' then some (last :: c :: cs)
    else none

/-- A numeral without the zeros at its front. -/
def dropZeros? : List Char → Option (List Char)
  | [] => none
  | c :: cs => if c = '0' then behindZero? c cs else if c.isDigit || c = '-' then some (c :: cs) else none

/-- A numeral without the plus sign at its front. -/
def dropPlus? : List Char → Option (List Char)
  | '+' :: '-' :: _ => none
  | '+' :: cs => some cs
  | cs => some cs

/-- A numeral without a point and zeros at its end. -/
def dropFraction (cs : List Char) : List Char :=
  match cs.dropWhile (· ≠ '.') with
  | '.' :: places => if !places.isEmpty && places.all (· = '0') then cs.takeWhile (· ≠ '.') else cs
  | _ => cs

/-- Whether no two underscores stand side by side; the argument says whether one has just been passed. -/
def isSpaced (passed : Bool) : List Char → Bool
  | [] => !passed
  | c :: cs => if c = '_' then !passed && isSpaced true cs else isSpaced false cs

/-- A numeral without its underscores, if they stand alone and inside. -/
def dropUnderscores (cs : List Char) : List Char := if isSpaced true cs then cs.filter (· ≠ '_') else cs

/-- The integer that a sign and digits stand for. With the sign there may be as many characters as an integer may have
digits. -/
def plain (cs : List Char) : Numeral.IntegerReading :=
  let (negative, body) : Bool × List Char := match cs with
    | '-' :: rest => (true, rest)
    | _ => (false, cs)
  let ds := body.takeWhile Char.isDigit
  if ds.isEmpty || (ds.head? = some '0' && ds.length ≠ 1) then .malformed
  else if Numeral.integerDigitLimit < ds.length + (if negative then 1 else 0) then .tooLong ds.length
  else if body.length ≠ ds.length then .malformed
  else
    let n : Int := Numeral.digitsValue 10 ds
    .value (if negative then -n else n)

/-- The integer that a text stands for. -/
def read (cs : List Char) : Numeral.IntegerReading :=
  match (dropPlus? (trim cs)).bind dropZeros? with
  | none => .malformed
  | some ds => plain (dropUnderscores (dropFraction ds))

end IntegerText

namespace Reading

/-- An integer that a text stands for. -/
def integerOfText (s : String) (d : Datum) : Reading Int :=
  match IntegerText.read s.toList with
  | .value n => .ok n
  | .tooLong _ => fail .integerTooLong d
  | .malformed => fail .badInteger d

/-- An integer, or what counts as one. -/
def integer (d : Datum) : Reading Int :=
  match d with
  | .scalar (.number (.int n)) => .ok n
  | .scalar (.bool b) => .ok (if b then 1 else 0)
  | .scalar (.number (.float f)) =>
    match f.truncate? with
    | none => fail .notFinite d
    | some n => if f.isWhole then .ok n else fail .fractional d
  | .scalar (.text s) => if Text.hasSurrogate s then fail .notUnicode d else integerOfText s d
  | .scalar (.bytes bs) => (Text.ofUtf8? bs).elim (fail .badInteger d) (integerOfText · d)
  | _ => fail .notInteger d

/-- An integer between two bounds. -/
def integerBetween (least most : Int) (d : Datum) : Reading Int :=
  match integer d with
  | .bad e => .bad e
  | .ok n => if n < least then fail (.below least) d else if most < n then fail (.above most) d else .ok n

end Reading

end ShapeCheck
