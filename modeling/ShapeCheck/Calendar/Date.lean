/-!
# Dates and moments

A `Date` is a day of the Gregorian calendar, counted from the first day of year one by `Date.toOrdinal`. A `Moment` is a
date with a time of day to the microsecond and, if it is not a local time, the distance of its zone from universal time.
-/

namespace ShapeCheck

structure Date where
  year : Nat
  month : Nat
  day : Nat
deriving DecidableEq, Repr, Inhabited

namespace Date

def isLeap (year : Nat) : Bool :=
  year % 4 = 0 && (year % 100 ≠ 0 || year % 400 = 0)

/-- The days of a month; zero for a month that does not exist. -/
def daysIn (year month : Nat) : Nat :=
  if month = 2 then if isLeap year then 29 else 28
  else if month = 4 || month = 6 || month = 9 || month = 11 then 30
  else if 1 ≤ month && month ≤ 12 then 31
  else 0

/-- Whether a date exists, in a year of four digits other than zero. -/
def isValid (d : Date) : Bool :=
  1 ≤ d.year && d.year ≤ 9999 && 1 ≤ d.day && d.day ≤ daysIn d.year d.month

/-- The days before the first of January. -/
def daysBeforeYear (year : Nat) : Nat :=
  let y := year - 1
  y * 365 + y / 4 - y / 100 + y / 400

def daysBeforeMonth (year month : Nat) : Nat :=
  ((List.range (month - 1)).map fun m => daysIn year (m + 1)).foldr (· + ·) 0

/-- The number of a date; the first of January of year one has number one. -/
def toOrdinal (d : Date) : Nat :=
  daysBeforeYear d.year + daysBeforeMonth d.year d.month + d.day

/-- The month and day of a day of the year that is counted from zero. -/
def monthOfDay (year : Nat) (rest : Nat) : Nat → Nat × Nat
  | 0 => (12, rest + 1)
  | fuel + 1 =>
    let month := 12 - fuel
    if rest < daysIn year month then (month, rest + 1) else monthOfDay year (rest - daysIn year month) fuel

/-- The date with a given number. -/
def ofOrdinal (n : Nat) : Date :=
  let guess := n * 400 / 146097 + 2
  let year := ((List.range 4).map (guess - ·)).find? (fun y => daysBeforeYear y < n && 1 ≤ y) |>.getD 1
  let (month, day) := monthOfDay year (n - daysBeforeYear year - 1) 12
  ⟨year, month, day⟩

/-- The day of the week, Monday being zero. -/
def weekday (d : Date) : Nat := (d.toOrdinal + 6) % 7

/-- The number of the Monday of the first week: the week that holds the first Thursday of the year. -/
def firstMonday (year : Nat) : Int :=
  let first : Date := ⟨year, 1, 1⟩
  let start : Int := (first.toOrdinal : Int) - first.weekday
  if first.weekday > 3 then start + 7 else start

end Date

structure Moment where
  date : Date
  hour : Nat := 0
  minute : Nat := 0
  second : Nat := 0
  micro : Nat := 0
  /-- Seconds east of universal time; `none` for a local time. -/
  offset : Option Int := none
deriving DecidableEq, Repr, Inhabited

namespace Moment

/-- Whether all parts are in range and the zone is less than a day away. -/
def isValid (t : Moment) : Bool :=
  t.date.isValid && t.hour < 24 && t.minute < 60 && t.second < 60 && t.micro < 1000000 &&
    match t.offset with
    | none => true
    | some s => s.natAbs < 86400

/-- Microseconds since the start of year one, in the moment's own zone. -/
def localMicros (t : Moment) : Int :=
  ((((t.date.toOrdinal : Int) * 24 + t.hour) * 60 + t.minute) * 60 + t.second) * 1000000 + t.micro

/-- Two moments are equal if both are local and read alike, or both are zoned and name one instant. -/
def same (a b : Moment) : Bool :=
  match a.offset, b.offset with
  | none, none => a.localMicros == b.localMicros
  | some x, some y => a.localMicros - x * 1000000 == b.localMicros - y * 1000000
  | _, _ => false

/-- The moment so many seconds and microseconds after the start of 1970 in universal time. The date is looked up 400 years
later, when the calendar is the same, so that the year zero is no exception. -/
def ofEpoch (seconds : Int) (micro : Nat) : Moment :=
  let days := seconds.fdiv 86400
  let rest := (seconds.fmod 86400).toNat
  let later := Date.ofOrdinal (days + 719163 + 146097).toNat
  { date := { later with year := later.year - 400 }, hour := rest / 3600, minute := rest / 60 % 60, second := rest % 60,
    micro := micro, offset := some 0 }

end Moment

end ShapeCheck
