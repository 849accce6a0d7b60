import ShapeCheck.Number.Arithmetic
import ShapeCheck.Text.Form
import ShapeCheck.Text.LowerCase
import ShapeCheck.Value.Scalar
import ShapeCheck.Yaml.Token

/-!
# Scalars of YAML

`NodeSort.ofText` says what a plain scalar is by its text: null, a truth value, a number, a date and so on, by the rules of
YAML 1.1. `NodeSort.read` gives the value of a scalar of a sort. A tag may ask for a sort that the text does not look like,
so the values are read more freely than the texts are told apart.
-/

namespace ShapeCheck.Yaml

/-- What a node is. -/
inductive NodeSort where
  | null
  | bool
  | int
  | float
  | timestamp
  | text
  | binary
  | merge
  | valueKey
  | list
  | map
  | orderedMap
  | pairs
  | set
  /-- There are no values of it. -/
  | unknown
deriving DecidableEq, Repr

/-! ## Texts of plain scalars -/

def nulls : List String := ["", "~", "null", "Null", "NULL"]

def truths : List String := ["yes", "Yes", "YES", "true", "True", "TRUE", "on", "On", "ON"]

def untruths : List String := ["no", "No", "NO", "false", "False", "FALSE", "off", "Off", "OFF"]

def dropSign : List Char → List Char
  | '+' :: cs => cs
  | '-' :: cs => cs
  | cs => cs

/-- Whether a character is a digit or an underscore. -/
def isLoose (digit : Char → Bool) (c : Char) : Bool := digit c || c = '_'

def isOctalDigit (c : Char) : Bool := '0' ≤ c && c ≤ '7'

/-- Whether one or two digits, the first of two below six, stand here alone. -/
def isSixty : List Char → Bool
  | [a] => a.isDigit
  | [a, b] => '0' ≤ a && a ≤ '5' && b.isDigit
  | _ => false

/-- The pieces of a text between the places of a character. -/
def splitOn (sep : Char) (cs : List Char) : List (List Char) := splitAtChar sep cs

/-- Whether a text is an integer: binary, octal, decimal, hexadecimal or to the base sixty. -/
def isInt (cs : List Char) : Bool :=
  match dropSign cs with
  | ['0'] => true
  | '0' :: 'b' :: ds => !ds.isEmpty && ds.all fun c => c = '0' || c = '1' || c = '_'
  | '0' :: 'x' :: ds => !ds.isEmpty && ds.all (isLoose Lex.isHexDigit)
  | '0' :: ds => ds.all (isLoose isOctalDigit)
  | c :: ds =>
    c.isDigit && match splitOn ':' ds with
      | [] => false
      | head :: parts => head.all (isLoose Char.isDigit) && parts.all isSixty
  | [] => false

/-- Whether a text is empty or an exponent with a sign. -/
def isExponentOrEnd : List Char → Bool
  | [] => true
  | e :: sign :: ds => (e = 'e' || e = 'E') && (sign = '+' || sign = '-') && !ds.isEmpty && ds.all Char.isDigit
  | _ => false

/-- Whether a text is a number with a point. -/
def isFloat (cs : List Char) : Bool :=
  let plain := dropSign cs
  let loose (ds : List Char) : Bool := isExponentOrEnd (ds.dropWhile (isLoose Char.isDigit))
  [".inf", ".Inf", ".INF"].contains (String.ofList plain) || [".nan", ".NaN", ".NAN"].contains (String.ofList cs) ||
    match cs with
    | '.' :: d :: ds => d.isDigit && loose ds
    | _ =>
      match plain with
      | d :: ds =>
        d.isDigit && match ds.dropWhile (isLoose Char.isDigit) with
          | '.' :: fraction => loose fraction
          | ':' :: more =>
            match (splitOn ':' more).reverse with
            | last :: parts =>
              parts.all isSixty && isSixty (last.takeWhile (· ≠ '.')) &&
                match last.dropWhile (· ≠ '.') with
                | _ :: fraction => fraction.all (isLoose Char.isDigit)
                | [] => false
            | [] => false
          | _ => false
      | [] => false

/-! ## Time stamps -/

/-- Between so many and so many digits at the start of a text, as many as there are. -/
def digits? (least most : Nat) (cs : List Char) : Option (Nat × List Char) :=
  let ds := (cs.take most).takeWhile Char.isDigit
  if ds.length < least then none else some (Numeral.digitsValue 10 ds, cs.drop ds.length)

def sign? (c : Char) : List Char → Option (List Char)
  | d :: cs => if d = c then some cs else none
  | [] => none

/-- The parts of a time stamp: a date, and perhaps a time of day. -/
structure StampParts where
  year : Nat
  month : Nat
  day : Nat
  /-- Hour, minute, second and microsecond. -/
  clock : Option (Nat × Nat × Nat × Nat) := none
  offset : Option Int := none

/-- The zone at the end of a time stamp. -/
def stampZone? (cs : List Char) : Option (Option Int) := do
  match cs.dropWhile isSpace with
  | [] => if cs.isEmpty then some none else none
  | ['Z'] => some (some 0)
  | s :: rest =>
    if s ≠ '+' && s ≠ '-' then none
    let (hours, rest) ← digits? 1 2 rest
    let minutes ← match rest with
      | [] => some 0
      | ':' :: more =>
        match ← digits? 2 2 more with
        | (m, []) => some m
        | _ => none
      | _ => none
    let seconds : Int := (hours * 3600 + minutes * 60 : Nat)
    some (some (if s = '-' then -seconds else seconds))

/-- The parts of a text that is a time stamp. -/
def stampParts? (cs : List Char) : Option StampParts := do
  let (year, rest) ← digits? 4 4 cs
  let rest ← sign? '-' rest
  let (month, afterMonth) ← digits? 1 2 rest
  let dayText ← sign? '-' afterMonth
  let (day, tail) ← digits? 1 2 dayText
  match tail with
  | [] => some { year, month, day }
  | c :: more =>
    let time ← if c = 'T' || c = 't' then some more else if isSpace c then some (more.dropWhile isSpace) else none
    let (hour, rest) ← digits? 1 2 time
    let rest ← sign? ':' rest
    let (minute, rest) ← digits? 2 2 rest
    let rest ← sign? ':' rest
    let (second, rest) ← digits? 2 2 rest
    let (fraction, rest) := match rest with
      | '.' :: more => (more.takeWhile Char.isDigit, more.dropWhile Char.isDigit)
      | _ => ([], rest)
    let offset ← stampZone? rest
    let micro := Numeral.digitsValue 10 ((fraction ++ List.replicate 6 '0').take 6)
    some { year, month, day, clock := some (hour, minute, second, micro), offset }

/-- Whether a text looks like a time stamp. A date without a time has two digits for its month and its day. -/
def isStamp (cs : List Char) : Bool :=
  match stampParts? cs with
  | some p => p.clock.isSome || cs.length = 10
  | none => false

/-- The date or moment of a time stamp. Its zone is looked at first. -/
def stampValue (p : StampParts) : Except Error Scalar := do
  match p.offset with
  | some seconds =>
    if 86400 ≤ seconds.natAbs then
      throw (.value ("offset must be a timedelta strictly between -timedelta(hours=24) and timedelta(hours=24), not " ++
        Moment.spanLiteral seconds ++ "."))
  | none => pure ()
  if p.year = 0 then throw (.value "year 0 is out of range")
  if p.month < 1 || 12 < p.month then throw (.value "month must be in 1..12")
  if p.day < 1 || Date.daysIn p.year p.month < p.day then throw (.value "day is out of range for month")
  let date : Date := ⟨p.year, p.month, p.day⟩
  match p.clock with
  | none => return .date date
  | some (hour, minute, second, micro) =>
    if 23 < hour then throw (.value "hour must be in 0..23")
    if 59 < minute then throw (.value "minute must be in 0..59")
    if 59 < second then throw (.value "second must be in 0..59")
    return .moment { date, hour, minute, second, micro, offset := p.offset }

/-! ## Sorts -/

namespace NodeSort

/-- What a plain scalar is by its text. One line feed at the end does not count, unless it is all of the text. -/
def ofText (s : String) : NodeSort :=
  let cs := if s = "\n" then s.toList else Text.withoutFinalFeed s.toList
  let t := String.ofList cs
  if nulls.contains t then .null
  else if truths.contains t || untruths.contains t then .bool
  else if isFloat cs then .float
  else if isInt cs then .int
  else if t = "<<" then .merge
  else if t = "=" then .valueKey
  else if isStamp cs then .timestamp
  else if ["!", "&", "*"].contains t then .unknown
  else .text

/-- The sorts with tags of their own. -/
def tagged : List (String × NodeSort) :=
  [("null", .null), ("bool", .bool), ("int", .int), ("float", .float), ("timestamp", .timestamp), ("str", .text),
   ("binary", .binary), ("merge", .merge), ("value", .valueKey), ("seq", .list), ("map", .map), ("omap", .orderedMap),
   ("pairs", .pairs), ("set", .set)]

/-- What every tag of YAML itself begins with. -/
def tagStart : String := "tag:yaml.org,2002:"

/-- The sort that a tag names. -/
def ofTag (tag : String) : NodeSort :=
  ((tagged.find? fun (name, _) => tagStart ++ name == tag).map Prod.snd).getD .unknown

end NodeSort

/-! ## Values -/

/-- How much of the shown text an error of integers has. -/
def shownText : Nat := 200

/-- The error of a text that is no integer to a base. -/
def badInt (base : Nat) (cs : List Char) : Error :=
  let shown := (Text.points (Text.quoted (String.ofList cs))).take shownText
  .value ("invalid literal for int() with base " ++ toString base ++ ": " ++ Text.ofPoints shown)

/-- The integer of a text to a base. -/
def intIn (base : Nat) (cs : List Char) : Except Error Int :=
  match Numeral.readIntegerIn base cs with
  | .value n => .ok n
  | .tooLong digits => .error (.value (Numeral.tooLongMessage (some digits)))
  | .malformed => .error (badInt base cs)

/-- The integer of a text without underscores, its sign apart. -/
def unsignedInt (cs : List Char) : Except Error Int :=
  match cs with
  | [] => .error .emptyNumeral
  | ['0'] => .ok 0
  | '0' :: 'b' :: ds => intIn 2 ds
  | '0' :: 'x' :: ds => intIn 16 ds
  | '0' :: _ => intIn 8 cs
  | _ =>
    match splitOn ':' cs with
    | [_] => intIn 10 cs
    | parts => return (← parts.mapM (intIn 10)).foldl (fun n part => 60 * n + part) 0

/-- What a text without underscores is, its sign apart; the text must not be empty. -/
def signed {α : Type} (read : List Char → Except Error α) (neg : α → α) (cs : List Char) : Except Error α :=
  match cs with
  | [] => .error .emptyNumeral
  | '-' :: rest => (read rest).map neg
  | '+' :: rest => read rest
  | cs => read cs

def intOf (s : String) : Except Error Int := signed unsignedInt (- ·) (s.toList.filter (· ≠ '_'))

/-- The double of a text. -/
def doubleIn (cs : List Char) : Except Error Binary64 :=
  match Numeral.readDecimal? cs with
  | some x => .ok x
  | none => .error (.value ("could not convert string to float: " ++ Text.quoted (String.ofList cs)))

/-- Doubles as digits to the base sixty, the last one first, from a power of the base on; every step is rounded. -/
def sixties (sum : Binary64) (power : Nat) : List Binary64 → Except Error Binary64
  | [] => .ok sum
  | part :: parts =>
    match Binary64.ofInt power with
    | .finite negative m e => sixties (sum.add (part.mul (.finite negative m e))) (power * 60) parts
    | _ => .error (.tooLarge "int too large to convert to float")

/-- The zero that sums begin with. -/
def zero : Binary64 := .finite false 0 Binary64.minExponent

/-- The double of a text in lower case without underscores, its sign apart. -/
def unsignedDouble (cs : List Char) : Except Error Binary64 :=
  if cs = ".inf".toList then .ok (.infinite false)
  else if cs = ".nan".toList then .ok .nan
  else
    match splitOn ':' cs with
    | [_] => doubleIn cs
    | parts => do sixties zero 1 (← parts.mapM doubleIn).reverse

/-- A text of a double in lower case without underscores. -/
def plainDouble (s : String) : List Char :=
  (Text.lowercase (String.ofList (s.toList.filter (· ≠ '_')))).toList

def floatOf (s : String) : Except Error Binary64 := signed unsignedDouble Binary64.neg (plainDouble s)

/-- Whether a text is the word for no number; all such are one value. -/
def isNoNumber (s : String) : Bool := dropSign (plainDouble s) = ".nan".toList

/-- The value of a digit of base sixty-four. -/
def sixtyFour? (c : Char) : Option Nat :=
  if 'A' ≤ c && c ≤ 'Z' then some (c.toNat - 'A'.toNat)
  else if 'a' ≤ c && c ≤ 'z' then some (c.toNat - 'a'.toNat + 26)
  else if '0' ≤ c && c ≤ '9' then some (c.toNat - '0'.toNat + 52)
  else if c = '+' then some 62
  else if c = '/' then some 63
  else none

/-- Bytes that are read from digits of base sixty-four, in groups of four. -/
structure Sixes where
  bytes : Array UInt8 := #[]
  /-- How many digits of the present group there are. -/
  count : Nat := 0
  /-- The bits of the last digit that no byte has yet. -/
  left : Nat := 0
  /-- How many signs of filling have come since the last digit. -/
  fills : Nat := 0

/-- Adds a digit. -/
def Sixes.push (g : Sixes) (d : Nat) : Sixes :=
  match g.count with
  | 0 => { g with count := 1, left := d, fills := 0 }
  | 1 => { g with bytes := g.bytes.push (UInt8.ofNat (g.left * 4 + d / 16)), count := 2, left := d % 16, fills := 0 }
  | 2 => { g with bytes := g.bytes.push (UInt8.ofNat (g.left * 16 + d / 4)), count := 3, left := d % 4, fills := 0 }
  | _ => { g with bytes := g.bytes.push (UInt8.ofNat (g.left * 64 + d)), count := 0, left := 0, fills := 0 }

/-- Reads on. Signs that fill a group end the text, other signs and characters that are no digits do not count, and
without such signs the last group has to be whole. -/
def Sixes.bytes? (g : Sixes) : List Char → Option (List UInt8)
  | [] => if g.count = 0 then some g.bytes.toList else none
  | c :: cs =>
    if c = '=' then
      if g.count < 2 then bytes? g cs
      else if 4 ≤ g.count + g.fills + 1 then some g.bytes.toList
      else bytes? { g with fills := g.fills + 1 } cs
    else
      match sixtyFour? c with
      | some d => bytes? (g.push d) cs
      | none => bytes? g cs

/-- The bytes of a text in base sixty-four. -/
def binaryOf (s : String) : Except Error (List UInt8) :=
  let cs := s.toList
  if cs.any fun c => 0x7F < c.toNat then .error .malformed
  else
    match Sixes.bytes? {} cs with
    | some bs => .ok bs
    | none => .error .malformed

def boolOf (s : String) : Except Error Bool :=
  let lowered := Text.lowercase s
  if truths.contains lowered then .ok true
  else if untruths.contains lowered then .ok false
  else .error (.unknownTruth lowered)

/-- The value of a scalar of a sort; nothing if there are no scalars of the sort. -/
def NodeSort.read (sort : NodeSort) (s : String) : Except Error (Option Scalar) := do
  match sort with
  | .null => return some .null
  | .bool => return some (.bool (← boolOf s))
  | .int => return some (.number (.int (← intOf s)))
  | .float => return some (.number (.float (← floatOf s)))
  | .timestamp =>
    match stampParts? (Text.withoutFinalFeed s.toList) with
    | some p => return some (← stampValue p)
    | none => throw .noStamp
  | .text => return some (.text s)
  | .binary => return some (.bytes (← binaryOf s))
  | _ => return none

end ShapeCheck.Yaml
