import ShapeCheck.Number.Binary64

/-!
# The shortest decimal of a double

`Binary64.shortest` finds the fewest digits whose decimal still rounds to the given double, and of the decimals with
that many digits the one nearest to it. For each count of digits the decimal grid is fixed by the size of the number, and
only the two grid points beside the number can be nearest, so at most two candidates per count are tried.
`FloatLayout` says how the digits are then laid out.
-/

namespace ShapeCheck

/-- A positive decimal `digits · 10 ^ exponent`. -/
structure Decimal where
  digits : Nat
  exponent : Int
deriving DecidableEq, Repr, Inhabited

namespace Decimal

/-- Drops the zeros at the end of the digits, at most `fuel` of them. -/
def trim (d : Decimal) : Nat → Decimal
  | 0 => d
  | fuel + 1 =>
    if d.digits ≠ 0 && d.digits % 10 = 0 then trim ⟨d.digits / 10, d.exponent + 1⟩ fuel else d

end Decimal

namespace Binary64

/-- The numbers that round to `mantissa · 2 ^ exponent`, in quarters of its last place: the lower end, the number and
the upper end. Below a power of two the doubles stand twice as close. -/
def roundingInterval (m : Nat) (e : Int) : Nat × Nat × Nat :=
  let low := if m = Nat.pow 2 52 && e > minExponent then 4 * m - 1 else 4 * m - 2
  (low, 4 * m, 4 * m + 2)

/-- `a · 10 ^ g` and `b · 2 ^ q` as two naturals in one unit. -/
def commonUnit (g q : Int) (a b : Nat) : Nat × Nat :=
  (a * Nat.pow 10 g.toNat * Nat.pow 2 (-q).toNat, b * Nat.pow 2 q.toNat * Nat.pow 10 (-g).toNat)

/-- The exponent `p` with `10 ^ p ≤ b · 2 ^ q < 10 ^ (p + 1)`, for a positive `b`. -/
def decimalSize (b : Nat) (q : Int) : Int :=
  let guess : Int := ((b.log2 : Int) + q) * 30103 / 100000
  let reaches (p : Int) : Bool := let (x, y) := commonUnit p q 1 b; x ≤ y
  if reaches (guess + 1) then guess + 1 else if reaches guess then guess else guess - 1

/-- The nearer of the two decimals of `places` digits beside `mantissa · 2 ^ exponent`, if one of them rounds to it. -/
def decimalOfPlaces? (m : Nat) (e : Int) (size : Int) (places : Nat) : Option Decimal :=
  let (low, mid, high) := roundingInterval m e
  let q := e - 2
  let g := size + 1 - places
  let (unit, value) := commonUnit g q 1 mid
  let below := value / unit
  let fits (c : Nat) : Bool :=
    let (x, l) := commonUnit g q c low
    let (_, h) := commonUnit g q c high
    if m % 2 = 0 then l ≤ x && x ≤ h else l < x && x < h
  let above := below + 1
  let rest := 2 * (value % unit)
  match fits below, fits above with
  | true, true => some ⟨if rest > unit || (rest == unit && below % 2 == 1) then above else below, g⟩
  | true, false => some ⟨below, g⟩
  | false, true => some ⟨above, g⟩
  | false, false => none

/-- The shortest decimal that rounds to the positive double `mantissa · 2 ^ exponent`. Seventeen digits always suffice. -/
def shortest (m : Nat) (e : Int) : Decimal :=
  let size := decimalSize (4 * m) (e - 2)
  let found := (List.range 17).findSome? fun n => decimalOfPlaces? m e size (n + 1)
  (found.getD ⟨m, e⟩).trim 17

end Binary64

/-- How the digits of a double are laid out as text. -/
structure FloatLayout where
  /-- The exponents of the leading digit that are written without an exponent, from the first to the second. -/
  positionalFrom : Int
  positionalTo : Int
  /-- Written after a whole number. -/
  wholeSuffix : String
  /-- The least count of digits of an exponent. -/
  exponentDigits : Nat
  infinity : String
  nan : String
deriving Repr

namespace FloatLayout

/-- Zeros on the left up to the given width. -/
def padLeft (width : Nat) (digits : String) : String :=
  String.ofList (List.replicate (width - digits.length) '0') ++ digits

/-- The text of a positive decimal. -/
def decimal (l : FloatLayout) (d : Decimal) : String :=
  let ds := (toString d.digits).toList
  let count : Int := ds.length
  let lead := d.exponent + count - 1
  if l.positionalFrom ≤ lead && lead ≤ l.positionalTo then
    if d.exponent ≥ 0 then
      String.ofList (ds ++ List.replicate d.exponent.toNat '0') ++ l.wholeSuffix
    else if lead ≥ 0 then
      String.ofList (ds.take (lead + 1).toNat ++ '.' :: ds.drop (lead + 1).toNat)
    else
      String.ofList ('0' :: '.' :: List.replicate (-lead - 1).toNat '0' ++ ds)
  else
    let head := match ds with
      | [] => ""
      | [c] => String.ofList [c]
      | c :: rest => String.ofList (c :: '.' :: rest)
    let sign := if lead < 0 then "e-" else "e+"
    head ++ sign ++ padLeft l.exponentDigits (toString lead.natAbs)

/-- The text of a double. -/
def text (l : FloatLayout) : Binary64 → String
  | .nan => l.nan
  | .infinite neg => (if neg then "-" else "") ++ l.infinity
  | .finite neg 0 _ => (if neg then "-" else "") ++ "0" ++ l.wholeSuffix
  | .finite neg m e => (if neg then "-" else "") ++ l.decimal (Binary64.shortest m e)

/-- A double as it stands in messages: sixteen places before the point at most, four zeros after it at most, and a
whole number ends in `.0`. -/
def message : FloatLayout := ⟨-4, 15, ".0", 2, "inf", "nan"⟩

/-- A double as it stands in a JSON text; the infinities and `nan` have the names that JSON readers commonly take. -/
def json : FloatLayout := ⟨-4, 15, ".0", 2, "Infinity", "NaN"⟩

end FloatLayout

end ShapeCheck
