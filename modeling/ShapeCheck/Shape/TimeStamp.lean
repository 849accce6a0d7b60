import ShapeCheck.Calendar.Text
import ShapeCheck.Number.Arithmetic
import ShapeCheck.Number.Numeral
import ShapeCheck.Shape.Record

/-!
# Readings of time stamps

A time stamp is a moment, a date, the text of either, or a count of seconds since 1970 as a number or a text. A count above
`TimeStamp.millisecondsAbove` counts milliseconds. A text that is nothing of that is reported as a text that is no date.
A text is looked at byte by byte: below, a `Char` of a text is the character with the number of a byte.
-/

namespace ShapeCheck

open Shape

namespace TimeStamp

/-- Counts that are larger count milliseconds. -/
def millisecondsAbove : Int := 20000000000

/-- The first second of the year zero, and the last of the year 9999, since 1970. -/
def firstSecond : Int := -62167219200

def lastSecond : Int := 253402300799

/-- The moment at a count of seconds or milliseconds, with microseconds added. -/
def ofCount (count : Int) (micro : Nat) : Except String Moment :=
  let small := count.natAbs ≤ millisecondsAbove.natAbs
  let seconds := if small then count else count.fdiv 1000
  let total := if small then micro else micro + (count.fmod 1000).toNat * 1000
  let seconds := seconds + (total / 1000000 : Nat)
  if seconds < firstSecond then .error "dates before 0000 are not supported as unix timestamps"
  else if lastSecond < seconds then .error "dates after 9999 are not supported as unix timestamps"
  else .ok (Moment.ofEpoch seconds (total % 1000000))

/-- The largest whole number that is not above a double. -/
def floor : Binary64 → Int
  | .finite negative m e =>
    if 0 ≤ e then (if negative then -(m * Nat.pow 2 e.natAbs : Nat) else (m * Nat.pow 2 e.natAbs : Nat))
    else Int.fdiv (if negative then -(m : Int) else m) (Nat.pow 2 e.natAbs)
  | _ => 0

/-- The natural nearest to a double that is not negative; a half is rounded up. -/
def nearest (f : Binary64) : Nat :=
  match f.ratio? with
  | some (n, d) => (2 * n.toNat + d) / (2 * d)
  | none => 0

/-- The moment at a count that is a double. What the double has beyond a whole number of seconds or milliseconds is
computed in doubles and rounded to microseconds. -/
def ofDouble : Binary64 → Except String Moment
  | .nan => .error "NaN values not permitted"
  | .infinite true => .error "dates before 0000 are not supported as unix timestamps"
  | .infinite false => .error "dates after 9999 are not supported as unix timestamps"
  | f =>
    let whole := floor f
    let beyond := f.add (Binary64.ofInt (-whole))
    let unit : Int := if whole.natAbs ≤ millisecondsAbove.natAbs then 1000000 else 1000
    ofCount whole (nearest (beyond.mul (Binary64.ofInt unit)))

/-- A decimal digit at a place, as its value. -/
def digitAt (cs : List Char) (i : Nat) (error : String) : Except String Nat :=
  match cs[i]? with
  | some c => if c.isDigit then .ok (c.toNat - '0'.toNat) else .error error
  | none => .error error

/-- Two decimal digits at a place. -/
def pairAt (cs : List Char) (i : Nat) (error : String) : Except String Nat := do
  return 10 * (← digitAt cs i error) + (← digitAt cs (i + 1) error)

/-- The date that a text begins with. -/
def leadingDate (cs : List Char) : Except String Date := do
  if cs.length < 10 then .error "input is too short"
  let century ← pairAt cs 0 "invalid character in year"
  let year ← pairAt cs 2 "invalid character in year"
  if cs[4]? ≠ some '-' then .error "invalid date separator, expected `-`"
  let month ← pairAt cs 5 "invalid character in month"
  if cs[7]? ≠ some '-' then .error "invalid date separator, expected `-`"
  let day ← pairAt cs 8 "invalid character in day"
  if month < 1 || 12 < month then .error "month value is outside expected range of 1-12"
  let d : Date := ⟨100 * century + year, month, day⟩
  if day < 1 || Date.daysIn d.year month < day then .error "day value is outside expected range"
  return d

/-- The date that a text is. -/
def date (cs : List Char) : Except String Date := do
  let d ← leadingDate cs
  if 10 < cs.length then .error "unexpected extra characters at the end of the input"
  return d

/-- The zone at the end of a text, in seconds. The three bytes of the minus sign U+2212 are a sign, too. -/
def zone? : List Char → Option (Option Int)
  | [] => some none
  | ['Z'] => some (some 0)
  | ['z'] => some (some 0)
  | cs => do
    let (factor, rest) : Int × List Char ← match cs with
      | '+' :: rest => some (1, rest)
      | '-' :: rest => some (-1, rest)
      | 'â' :: '\x88' :: '\x92' :: rest => some (-1, rest)
      | _ => none
    let hours ← (pairAt rest 0 "").toOption
    let tail := match rest.drop 2 with
      | ':' :: more => more
      | more => more
    let minutes ← (pairAt tail 0 "").toOption
    if tail.length ≠ 2 || 60 ≤ minutes || 24 ≤ hours then none
    return some (factor * (3600 * hours + 60 * minutes : Nat))

/-- The time of day and the zone in a text: hour, minute, second and microsecond. -/
def clock? (cs : List Char) : Option ((Nat × Nat × Nat × Nat) × Option Int) := do
  if cs.length < 5 || cs[2]? ≠ some ':' then none
  let hour ← (pairAt cs 0 "").toOption
  let minute ← (pairAt cs 3 "").toOption
  if 23 < hour || 59 < minute then none
  if cs[5]? ≠ some ':' then return ((hour, minute, 0, 0), ← zone? (cs.drop 5))
  let second ← (pairAt cs 6 "").toOption
  if 59 < second then none
  match cs[8]? with
  | some c =>
    if c = '.' || c = ',' then
      let digits := (cs.drop 9).takeWhile Char.isDigit
      if digits.isEmpty then none
      let six := (digits ++ List.replicate 6 '0').take 6
      return ((hour, minute, second, Numeral.digitsValue 10 six), ← zone? ((cs.drop 9).drop digits.length))
    else return ((hour, minute, second, 0), ← zone? (cs.drop 8))
  | none => return ((hour, minute, second, 0), none)

/-- The moment that a text is. -/
def moment? (cs : List Char) : Option Moment := do
  let d ← (leadingDate cs).toOption
  let between ← cs[10]?
  if !(['T', 't', ' ', '_'].contains between) then none
  let ((hour, minute, second, micro), offset) ← clock? (cs.drop 11)
  return { date := d, hour, minute, second, micro, offset }

/-- A text of decimal digits as an integer of 64 bits. -/
def count? (cs : List Char) : Option Int :=
  let (negative, ds) := Numeral.takeSign cs
  let n : Int := Numeral.digitsValue 10 ds
  let n := if negative then -n else n
  if ds.isEmpty || !ds.all Char.isDigit || n < -Nat.pow 2 63 || Nat.pow 2 63 ≤ n then none else some n

/-- A decimal numeral with a point in it, before any exponent, as a double. -/
def double? (cs : List Char) : Option Binary64 :=
  match ((Numeral.takeSign cs).2).dropWhile Char.isDigit with
  | '.' :: _ => Numeral.plainDecimal? cs
  | _ => none

/-- A moment in a year that has no number is none. -/
def placed (t : Moment) : Except Defect Moment :=
  if t.date.year = 0 then .error (.badMoment "year 0 is out of range") else .ok t

/-- A text as a date, or else as a count of seconds that gives a moment at all. -/
def dateOrCount (cs : List Char) : Except String Moment :=
  match date cs with
  | .ok d => .ok { date := d }
  | .error e =>
    match count? cs with
    | some n => ofCount n 0
    | none => .error e

/-- The moment that the bytes of a text stand for. -/
def ofBytes (bytes : List UInt8) : Except Defect Moment :=
  let cs := bytes.map fun b => Char.ofNat b.toNat
  match moment? cs with
  | some t => placed t
  | none =>
    match (count? cs).map (ofCount · 0) with
    | some (.ok t) => placed t
    | _ =>
      match (double? cs).map ofDouble with
      | some (.ok t) => placed t
      | _ =>
        match dateOrCount cs with
        | .ok t => placed t
        | .error reason => .error (.badDate reason)

/-- The moment at a count that is no text. -/
def ofNumber (count : Except String Moment) : Except Defect Moment :=
  match count with
  | .ok t => placed t
  | .error reason => .error (.badMoment reason)

/-- The moment that a datum stands for. An integer that no double is near is no count. -/
def ofDatum : Datum → Except Defect Moment
  | .scalar (.moment t) => .ok t
  | .scalar (.date day) => .ok { date := day }
  | .scalar (.text s) => (Text.utf8? s).elim (.error .notUnicode) ofBytes
  | .scalar (.bytes bs) => ofBytes bs
  | .scalar (.number (.int n)) => if (Binary64.ofInt n).isFinite then ofNumber (ofCount n 0) else .error .notMoment
  | .scalar (.number (.float f)) => ofNumber (ofDouble f)
  | _ => .error .notMoment

end TimeStamp

/-- A time stamp. -/
def Reading.timeStamp (d : Datum) : Reading Moment :=
  match TimeStamp.ofDatum d with
  | .ok t => .ok t
  | .error defect => fail defect d

end ShapeCheck
