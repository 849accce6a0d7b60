import ShapeCheck.Number.Binary64
import ShapeCheck.Text.Blank
import ShapeCheck.Text.Digit

/-!
# Reading numerals

`readIntegerIn` and `readDecimal?` read a numeral with blank characters around it. Digits may be of any script, and one
underscore may stand between two digits. A decimal integer of more than 4300 digits is found to be too long before anything
behind its digits is looked at.
-/

namespace ShapeCheck.Numeral

/-- The most digits that an integer numeral may have. -/
def integerDigitLimit : Nat := 4300

/-- What is said of an integer that is too long, perhaps with the count of its digits. -/
def tooLongMessage (digits : Option Nat) : String :=
  "Exceeds the limit (" ++ toString integerDigitLimit ++ " digits) for integer string conversion" ++
    ((digits.map fun n => ": value has " ++ toString n ++ " digits").getD "") ++
    "; use sys.set_int_max_str_digits() to increase the limit"

/-- A character with decimal digits of every script, and blanks beyond ASCII, written in ASCII. -/
def plainChar (c : Char) : Char :=
  match Text.decimalValue? c with
  | some d => Char.ofNat ('0'.toNat + d)
  | none => if 0x7F < c.toNat && Text.isBlank c then ' ' else c

/-- The characters that may stand around a numeral in ASCII. -/
def isMargin (c : Char) : Bool := c = ' ' || ('\t' ≤ c && c ≤ '\r')

/-- A text in ASCII, as far as it can be a numeral, without the blanks before it. -/
def plain (cs : List Char) : List Char := (cs.map plainChar).dropWhile isMargin

/-- A sign at the front, `true` for minus, and the rest. -/
def takeSign : List Char → Bool × List Char
  | '-' :: rest => (true, rest)
  | '+' :: rest => (false, rest)
  | cs => (false, cs)

/-- The value of ASCII digits in a base of at most sixteen. -/
def digitsValue (base : Nat) (cs : List Char) : Nat :=
  cs.foldl (fun n c =>
    base * n + (if c.isDigit then c.toNat - '0'.toNat
      else if 'a' ≤ c && c ≤ 'f' then c.toNat - 'a'.toNat + 10
      else if 'A' ≤ c && c ≤ 'F' then c.toNat - 'A'.toNat + 10 else 0)) 0

/-! ## Integers -/

/-- How a text reads as an integer. -/
inductive IntegerReading where
  | value (n : Int)
  /-- There are more digits than an integer may have. -/
  | tooLong (digits : Nat)
  | malformed
deriving DecidableEq, Repr

/-- Whether a character is a digit to a base of at most sixteen. -/
def isDigitIn (base : Nat) (c : Char) : Bool :=
  (c.isDigit && c.toNat - '0'.toNat < base) ||
    (base == 16 && (('a' ≤ c && c ≤ 'f') || ('A' ≤ c && c ≤ 'F')))

/-- The digits to a base at the start of a text, with single underscores between them, and the rest. The flag says that an
underscore is open. -/
def takeDigits? (base : Nat) (underscore : Bool) : List Char → Option (List Char × List Char)
  | [] => if underscore then none else some ([], [])
  | c :: rest =>
    if isDigitIn base c then (takeDigits? base false rest).map fun (ds, rest) => (c :: ds, rest)
    else if c = '_' then if underscore then none else takeDigits? base true rest
    else if underscore then none else some ([], c :: rest)

/-- The letter that may say the base behind a zero. -/
def baseLetter? (base : Nat) : Option Char := [(2, 'b'), (8, 'o'), (16, 'x')].lookup base

/-- A numeral without the mark of its base, which may have an underscore behind it. -/
def dropBase (base : Nat) (cs : List Char) : List Char :=
  match cs with
  | '0' :: c :: rest =>
    if baseLetter? base = some c.toLower then (match rest with | '_' :: more => more | _ => rest) else cs
  | _ => cs

/-- The integer that a numeral to a base of two, eight, ten or sixteen stands for. -/
def readIntegerIn (base : Nat) (cs : List Char) : IntegerReading :=
  let (negative, unsigned) := takeSign (plain cs)
  let body := dropBase base unsigned
  match body with
  | '_' :: _ => .malformed
  | _ =>
    match takeDigits? base false body with
    | none => .malformed
    | some (ds, rest) =>
      if base = 10 && integerDigitLimit < ds.length then .tooLong ds.length
      else if ds.isEmpty || !rest.all isMargin then .malformed
      else
        let n : Int := digitsValue base ds
        .value (if negative then -n else n)

/-- The integer that a decimal numeral stands for, if it is not too long. -/
def readInteger? (cs : List Char) : Option Int :=
  match readIntegerIn 10 cs with
  | .value n => some n
  | _ => none

/-! ## Decimals -/

/-- Drops the underscores if each stands between two ASCII digits. The first argument is the character before. -/
def dropUnderscores? (before : Char) : List Char → Option (List Char)
  | [] => if before = '_' then none else some []
  | c :: rest =>
    if c = '_' then if before.isDigit then dropUnderscores? c rest else none
    else if before = '_' && !c.isDigit then none
    else (dropUnderscores? c rest).map (c :: ·)

/-- An exponent part, if there is one, must be `e`, a sign and digits; nothing may follow. -/
def exponent? : List Char → Option Int
  | [] => some 0
  | c :: rest =>
    if c = 'e' || c = 'E' then
      let (neg, ds) := takeSign rest
      if ds.isEmpty || !ds.all Char.isDigit then none
      else
        let n : Int := digitsValue 10 ds
        some (if neg then -n else n)
    else none

/-- The words for the infinities and for no number, in lower case. -/
def word? (neg : Bool) (cs : List Char) : Option Binary64 :=
  let w := String.ofList (cs.map Char.toLower)
  if w = "inf" || w = "infinity" then some (.infinite neg)
  else if w = "nan" then some .nan
  else none

/-- A decimal numeral: digits with at most one point among or beside them, and perhaps an exponent. -/
def plainDecimal? (cs : List Char) : Option Binary64 :=
  let (neg, body) := takeSign cs
  match word? neg body with
  | some x => some x
  | none =>
    let whole := body.takeWhile Char.isDigit
    let afterWhole := body.dropWhile Char.isDigit
    let (places, rest) := match afterWhole with
      | '.' :: r => (r.takeWhile Char.isDigit, r.dropWhile Char.isDigit)
      | r => ([], r)
    if whole.isEmpty && places.isEmpty then none
    else (exponent? rest).map fun e =>
      Binary64.ofDecimal neg (digitsValue 10 (whole ++ places)) (e - places.length)

/-- The double that a numeral stands for. -/
def readDecimal? (cs : List Char) : Option Binary64 :=
  (dropUnderscores? ' ' (((plain cs).reverse.dropWhile isMargin).reverse)).bind plainDecimal?

end ShapeCheck.Numeral
