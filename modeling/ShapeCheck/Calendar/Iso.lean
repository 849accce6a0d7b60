import ShapeCheck.Calendar.Date
import ShapeCheck.Text.CodePoint

/-!
# Reading ISO 8601

`Moment.ofIso?` reads a date in the forms `YYYY-MM-DD`, `YYYYMMDD`, `YYYY-Www-D`, `YYYY-Www` and the same without the
dashes, and after it, behind any one character, a time `HH[:MM[:SS[.f]]]` or `HH[MM[SS[.f]]]` with an optional zone `Z` or
`±` and a time of the same form. The fraction is cut to six digits; a point or a comma starts it.
-/

namespace ShapeCheck.Iso

/-- The character that stands for the end of a text. -/
def endMark : Char := '\x00'

/-- The characters of a text. Half of a surrogate pair may be the character before the time, which may be any; of the places
where that can stand, the first with such a half is taken for it. -/
def chars? (ps : List Text.CodePoint) : Option (List Char) :=
  let before := [7, 8, 10].find? fun i => (ps[i]?.map Text.CodePoint.isLone).getD false
  ps.zipIdx.mapM fun (p, i) =>
    match p with
    | .char c => some c
    | .surrogate _ => if before = some i then some 'T' else none

/-- The first `n` characters as digits of a number, and the rest. -/
def digits? (n : Nat) (cs : List Char) : Option (Nat × List Char) :=
  let ds := cs.take n
  if ds.length = n && ds.all Char.isDigit then
    some (ds.foldl (fun v c => 10 * v + (c.toNat - '0'.toNat)) 0, cs.drop n)
  else none

/-- Where the date ends and the character before the time stands. A week date is told apart from a week and a time by the
count of digits that follow. -/
def dateLength (cs : List Char) : Nat :=
  let size := cs.length
  let char (i : Nat) : Char := cs.getD i endMark
  if size = 7 then 7
  else if char 4 = '-' then
    if char 5 = 'W' then
      if size > 8 && char 8 = '-' then if size > 10 && (char 10).isDigit then 8 else 10
      else 8
    else 10
  else if char 4 = 'W' then
    let pos := 7 + ((cs.drop 7).takeWhile Char.isDigit).length
    if pos < 9 then pos else if pos % 2 = 0 then 7 else 8
  else 8

/-- The date of a day of a week of a year, weeks and days counted from one. -/
def weekDate? (year week day : Nat) : Option Date :=
  let first : Date := ⟨year, 1, 1⟩
  let long := first.weekday = 3 || (first.weekday = 2 && Date.isLeap year)
  if week = 0 || week > 53 || (week = 53 && !long) then none
  else if year = 0 || day = 0 || day > 7 then none
  else
    let n := Date.firstMonday year + ((week - 1) * 7 + day - 1 : Nat)
    if n ≤ 0 then none else some (Date.ofOrdinal n.toNat)

/-- A date that fills the first `size` characters. -/
def date? (cs : List Char) (size : Nat) : Option Date := do
  let (year, rest) ← digits? 4 cs
  let dashed := rest.head? = some '-'
  let rest := if dashed then rest.drop 1 else rest
  if rest.head? = some 'W' then
    let (week, rest) ← digits? 2 (rest.drop 1)
    if cs.length - rest.length < size then
      if dashed && rest.head? ≠ some '-' then none
      let (day, _) ← digits? 1 (if dashed then rest.drop 1 else rest)
      weekDate? year week day
    else weekDate? year week 1
  else
    let (month, rest) ← digits? 2 rest
    if dashed && rest.head? ≠ some '-' then none
    let (day, rest) ← digits? 2 (if dashed then rest.drop 1 else rest)
    if cs.length - rest.length = size then some ⟨year, month, day⟩ else none

/-- A time of day, and whether characters are left over behind it. -/
structure Clock where
  fields : List Nat
  micro : Nat := 0
  leftOver : Bool := false
deriving Repr

/-- The fraction of a second: up to six digits count and more are passed over. `stop` follows the text. -/
def fraction? (fields : List Nat) (cs : List Char) (stop : Char) : Option Clock := do
  let size := min cs.length 6
  let (value, rest) ← digits? size cs
  let rest := rest.dropWhile Char.isDigit
  some { fields := fields, micro := value * Nat.pow 10 (6 - size), leftOver := rest.headD stop ≠ endMark }

/-- Reads up to `left` fields of two digits. Whether colons stand between them is settled by the first. One ASCII
character at the end is only noted as left over: it is an error where no zone follows. -/
def clockFields? (stop : Char) (fields : List Nat) (colons : Bool) (cs : List Char) : Nat → Option Clock
  | 0 => fraction? fields cs stop
  | left + 1 => do
    let (value, rest) ← digits? 2 cs
    let fields := fields ++ [value]
    let next := rest.headD stop
    let after := rest.drop 1
    let colons := if fields.length = 1 then next = ':' else colons
    if after.isEmpty && next.toNat < 128 then some { fields := fields, leftOver := next ≠ endMark }
    else if colons && next = ':' then clockFields? stop fields colons after left
    else if next = '.' || next = ',' then fraction? fields after stop
    else if !colons then clockFields? stop fields colons rest left
    else none

/-- A time of day from `cs`, which the character `stop` follows. -/
def clock? (cs : List Char) (stop : Char) : Option Clock := clockFields? stop [] true cs 3

namespace Clock

def field (c : Clock) (i : Nat) : Nat := c.fields.getD i 0

/-- The seconds since midnight. -/
def seconds (c : Clock) : Nat := c.field 0 * 3600 + c.field 1 * 60 + c.field 2

end Clock

/-- Whether a character begins a zone. -/
def beginsZone (c : Char) : Bool := c = '+' || c = '-' || c = 'Z'

/-- A time of day and its distance from universal time, if it has one. -/
def time? (cs : List Char) : Option (Clock × Option Int) := do
  let body := cs.takeWhile (!beginsZone ·)
  match cs.dropWhile (!beginsZone ·) with
  | [] =>
    let c ← clock? body endMark
    if c.leftOver then none else some (c, none)
  | 'Z' :: rest =>
    let c ← clock? body 'Z'
    if rest.headD endMark ≠ endMark then none else some (c, some 0)
  | sign :: rest =>
    let c ← clock? body sign
    let z ← clock? rest endMark
    if z.leftOver then none
    else some (c, some (if sign = '-' then -(z.seconds : Int) else z.seconds))

end ShapeCheck.Iso

namespace ShapeCheck.Moment

/-- The moment that an ISO 8601 text names, if there is one. -/
def ofIso? (s : String) : Option Moment := do
  let cs ← Iso.chars? (Text.points s)
  let size := Iso.dateLength cs
  let date ← Iso.date? cs size
  let after := cs.drop size
  let moment ←
    match after with
    | [] => some { date := date }
    | _ :: rest => do
      let (c, offset) ← Iso.time? rest
      some { date := date, hour := c.field 0, minute := c.field 1, second := c.field 2, micro := c.micro, offset := offset }
  if moment.isValid then some moment else none

end ShapeCheck.Moment
