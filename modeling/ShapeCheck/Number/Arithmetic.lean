import ShapeCheck.Number.Binary64

/-!
# Sums and products of doubles

`Binary64.add` and `Binary64.mul` round the exact result once, to the nearest double. A sum of zeros is negative only if
both are, and what has no value, such as the sum of two unlike infinities, is `nan`.
-/

namespace ShapeCheck.Binary64

/-- The exact value of a finite double as a fraction. -/
def ratio? : Binary64 → Option (Int × Nat)
  | .finite negative m e =>
    let n : Int := if 0 ≤ e then m * Nat.pow 2 e.natAbs else m
    some (if negative then -n else n, if 0 ≤ e then 1 else Nat.pow 2 e.natAbs)
  | _ => none

def isNegative : Binary64 → Bool
  | .finite negative _ _ => negative
  | .infinite negative => negative
  | .nan => false

def isZero : Binary64 → Bool
  | .finite _ m _ => m = 0
  | _ => false

/-- A double with the other sign. -/
def neg : Binary64 → Binary64
  | .finite negative m e => .finite (!negative) m e
  | .infinite negative => .infinite (!negative)
  | .nan => .nan

def add : Binary64 → Binary64 → Binary64
  | .nan, _ => .nan
  | _, .nan => .nan
  | .infinite a, .infinite b => if a = b then .infinite a else .nan
  | .infinite a, .finite .. => .infinite a
  | .finite .., .infinite b => .infinite b
  | x, y =>
    match ratio? x, ratio? y with
    | some (n, d), some (m, k) =>
      let sum := n * k + m * d
      let negative := if sum = 0 then x.isNegative && y.isNegative else decide (sum < 0)
      ofRatio negative sum.natAbs (d * k)
    | _, _ => .nan

def mul (x y : Binary64) : Binary64 :=
  let negative := x.isNegative != y.isNegative
  match ratio? x, ratio? y with
  | some (n, d), some (m, k) => ofRatio negative (n * m).natAbs (d * k)
  | _, _ => if x = .nan || y = .nan || x.isZero || y.isZero then .nan else .infinite negative

end ShapeCheck.Binary64
