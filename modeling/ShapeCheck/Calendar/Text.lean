import ShapeCheck.Calendar.Date

/-!
# Texts of dates and moments

`Date.iso` and `Moment.iso` write the extended form of ISO 8601. `Moment.stamp` is the form of a schema's time stamps,
with `Z` for universal time and no seconds in a zone. `Date.literal` and `Moment.literal` show a value inside a message.
-/

namespace ShapeCheck

/-- A natural with zeros on the left up to a width. -/
def paddedNat (width n : Nat) : String :=
  let ds := (toString n).toList
  String.ofList (List.replicate (width - ds.length) '0' ++ ds)

namespace Date

def iso (d : Date) : String :=
  paddedNat 4 d.year ++ "-" ++ paddedNat 2 d.month ++ "-" ++ paddedNat 2 d.day

/-- A date inside a message. -/
def literal (d : Date) : String :=
  "datetime.date(" ++ ", ".intercalate [toString d.year, toString d.month, toString d.day] ++ ")"

end Date

namespace Moment

/-- The time of day, with microseconds if there are any. -/
def clock (t : Moment) : String :=
  paddedNat 2 t.hour ++ ":" ++ paddedNat 2 t.minute ++ ":" ++ paddedNat 2 t.second ++
    (if t.micro = 0 then "" else "." ++ paddedNat 6 t.micro)

/-- A distance from universal time, with seconds if there are any. -/
def zone (offset : Int) : String :=
  let s := offset.natAbs
  (if offset < 0 then "-" else "+") ++ paddedNat 2 (s / 3600) ++ ":" ++ paddedNat 2 (s / 60 % 60) ++
    (if s % 60 = 0 then "" else ":" ++ paddedNat 2 (s % 60))

/-- The extended form with the given character between date and time. -/
def isoWith (between : String) (t : Moment) : String :=
  t.date.iso ++ between ++ t.clock ++ (t.offset.map zone).getD ""

def iso (t : Moment) : String := t.isoWith "T"

/-- A distance from universal time without its seconds; `Z` stands for universal time itself. -/
def minuteZone (offset : Int) : String :=
  if offset = 0 then "Z"
  else (if offset < 0 then "-" else "+") ++ paddedNat 2 (offset.natAbs / 3600) ++ ":" ++
    paddedNat 2 (offset.natAbs / 60 % 60)

/-- The form of a time stamp. -/
def stamp (t : Moment) : String := t.date.iso ++ "T" ++ t.clock ++ (t.offset.map minuteZone).getD ""

/-- A span of seconds that is not empty inside a message. -/
def spanLiteral (span : Int) : String :=
  let days := span.fdiv 86400
  let seconds := span.fmod 86400
  let parts := (if days = 0 then [] else ["days=" ++ toString days]) ++
    (if seconds = 0 then [] else ["seconds=" ++ toString seconds])
  "datetime.timedelta(" ++ ", ".intercalate parts ++ ")"

/-- A zone inside a message. -/
def zoneLiteral (offset : Int) : String :=
  if offset = 0 then "datetime.timezone.utc" else "datetime.timezone(" ++ spanLiteral offset ++ ")"

/-- A moment inside a message; the seconds and microseconds at its end are left out when they are zero. -/
def literal (t : Moment) : String :=
  let base := [t.date.year, t.date.month, t.date.day, t.hour, t.minute]
  let tail := if t.micro ≠ 0 then [t.second, t.micro] else if t.second ≠ 0 then [t.second] else []
  let zonePart := match t.offset with
    | none => []
    | some s => ["tzinfo=" ++ zoneLiteral s]
  "datetime.datetime(" ++ ", ".intercalate ((base ++ tail).map toString ++ zonePart) ++ ")"

end Moment

end ShapeCheck
