import ShapeCheck.Number.Numeral
import ShapeCheck.Number.Shortest

/-!
# Numbers

A `Number` is an integer of any size or a double. Both are compared by exact value: no integer is rounded to a double
first. `Number.ofText?` reads a numeral as an integer if it is one, and as a finite double if not.
-/

namespace ShapeCheck

inductive Number where
  | int (n : Int)
  | float (x : Binary64)
deriving DecidableEq, Repr, Inhabited

namespace Number

/-- The exact value; the infinities and `nan` have none. -/
def dyadic? : Number → Option Dyadic
  | .int n => some (Dyadic.ofInt n)
  | .float x => x.toDyadic?

/-- Equality by value: a number that is `nan` equals nothing, and each infinity equals itself. -/
def equals : Number → Number → Bool
  | .float (.infinite a), .float (.infinite b) => a == b
  | a, b => match a.dyadic?, b.dyadic? with
    | some x, some y => x == y
    | _, _ => false

/-- `a ≤ b` by value; `nan` is not comparable. -/
def atMost : Number → Number → Bool
  | .float .nan, _ => false
  | _, .float .nan => false
  | .float (.infinite true), _ => true
  | _, .float (.infinite false) => true
  | .float (.infinite false), _ => false
  | _, .float (.infinite true) => false
  | a, b => match a.dyadic?, b.dyadic? with
    | some x, some y => decide (x ≤ y)
    | _, _ => false

/-- Whether a number is whole. -/
def isWhole : Number → Bool
  | .int _ => true
  | .float x => x.isWhole

/-- Whether a number is neither infinite nor `nan` as a double; an integer too large for a double has no answer. -/
def isFinite? : Number → Option Bool
  | .int n => match Binary64.ofInt n with
    | .finite .. => some true
    | _ => none
  | .float x => some x.isFinite

/-- A number as it stands in messages. -/
def text : Number → String
  | .int n => toString n
  | .float x => FloatLayout.message.text x

/-- The number that a text denotes: an integer, or failing that a double, which need not be finite. -/
def ofText? (s : String) : Option Number :=
  let cs := Text.strip s.toList
  match Numeral.readInteger? cs with
  | some n => some (.int n)
  | none => (Numeral.readDecimal? cs).map .float

end Number

end ShapeCheck
