/-!
# Double precision numbers by value

A `Binary64` is a finite number `± mantissa · 2 ^ exponent`, one of the two infinities, or no number at all.
`ofRatio` rounds a ratio of naturals to the nearest double, ties to the even mantissa; its results are in the
standard form, so two equal finite doubles of one sign have the same fields. `toDyadic?` is the exact value, and all
comparisons are made on it.
-/

namespace ShapeCheck

/-- A double precision number; the sign of zero is kept. -/
inductive Binary64 where
  | finite (negative : Bool) (mantissa : Nat) (exponent : Int)
  | infinite (negative : Bool)
  | nan
deriving DecidableEq, Repr, Inhabited

namespace Binary64

/-- The least exponent of a double. -/
def minExponent : Int := -1074

/-- The largest exponent that a double with a full mantissa of 53 bits has. -/
def maxExponent : Int := 971

/-- The quotient of two naturals rounded to the nearest natural, a tie going to the even one. -/
def roundDivEven (n d : Nat) : Nat :=
  let q := n / d
  let r := n % d
  if 2 * r > d || (2 * r == d && q % 2 == 1) then q + 1 else q

/-- `num / den / 2 ^ e` as a pair of numerator and denominator. -/
def scaled (num den : Nat) (e : Int) : Nat × Nat :=
  if e < 0 then (num * Nat.pow 2 (-e).toNat, den) else (num, den * Nat.pow 2 e.toNat)

/-- The exponent at which `num / den` has a mantissa of 53 bits, but never less than `minExponent`. -/
def exponentFor (num den : Nat) : Int :=
  let low : Int := (num.log2 : Int) - den.log2 - 53
  let (n, d) := scaled num den low
  max (if n / d ≥ Nat.pow 2 53 then low + 1 else low) minExponent

/-- The double nearest to `± num / den`, ties to the even mantissa; too large a ratio gives an infinity. -/
def ofRatio (negative : Bool) (num den : Nat) : Binary64 :=
  if num = 0 then .finite negative 0 minExponent
  else
    let e := exponentFor num den
    let (n, d) := scaled num den e
    let m := roundDivEven n d
    let (m, e) := if m = Nat.pow 2 53 then (Nat.pow 2 52, e + 1) else (m, e)
    if e > maxExponent then .infinite negative else .finite negative m e

/-- The double nearest to an integer. -/
def ofInt (n : Int) : Binary64 := ofRatio (n < 0) n.natAbs 1

/-- A decimal exponent beyond which every number of few digits is zero or infinite. -/
def decimalReach : Nat := 400

/-- The double nearest to `± digits · 10 ^ exponent`. The exponents that cannot matter are cut off first, so that an
absurd exponent costs nothing. -/
def ofDecimal (negative : Bool) (digits : Nat) (exponent : Int) : Binary64 :=
  let places : Int := (toString digits).length
  if digits = 0 then .finite negative 0 minExponent
  else if exponent + places > decimalReach then .infinite negative
  else if exponent + places < -(decimalReach : Int) then .finite negative 0 minExponent
  else if exponent < 0 then ofRatio negative digits (Nat.pow 10 (-exponent).toNat)
  else ofRatio negative (digits * Nat.pow 10 exponent.toNat) 1

/-- The exact value of a finite double. -/
def toDyadic? : Binary64 → Option Dyadic
  | .finite neg m e => some (Dyadic.ofIntWithPrec (if neg then -(m : Int) else m) (-e))
  | _ => none

def isFinite : Binary64 → Bool
  | .finite .. => true
  | _ => false

/-- Whether a double is a whole number; the infinities and `nan` are not. -/
def isWhole : Binary64 → Bool
  | .finite _ m e => e ≥ 0 || m % Nat.pow 2 (-e).toNat == 0
  | _ => false

/-- The whole number of a finite double, dropping its fraction toward zero. -/
def truncate? : Binary64 → Option Int
  | .finite neg m e =>
    let n : Nat := if e ≥ 0 then m * Nat.pow 2 e.toNat else m / Nat.pow 2 (-e).toNat
    some (if neg then -(n : Int) else n)
  | _ => none

end Binary64

end ShapeCheck
