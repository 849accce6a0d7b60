import ShapeCheck.Number.Basic
import ShapeCheck.Number.Arithmetic

/-!
# The order of numbers in a set

A set keeps numbers in a table with open places: a number goes to the place that its residue names or, if that is taken, to
one of those behind it or to another one that the residue leads to. The order of the set is the order of the places.
Equal numbers have one residue, whether they are integers or doubles.
-/

namespace ShapeCheck.Yaml.SetOrder

/-- The modulus of residues. -/
def modulus : Nat := Nat.pow 2 61 - 1

/-- The residue of a fraction whose denominator is a power of two. Two to the power of 61 is one, and minus one is left
out. -/
def residueOf (num : Int) (exponent : Nat) : Int :=
  let r : Int := (num.natAbs * Nat.pow 2 ((61 - exponent % 61) % 61) % modulus : Nat)
  let signed := if num < 0 then -r else r
  if signed = -1 then -2 else signed

/-- The residue of a number; there is none for what is no number. -/
def residue? : Number → Option Int
  | .int n => some (residueOf n 0)
  | .float (.finite negative m e) =>
    let num : Int := if negative then -(m : Int) else m
    some (if 0 ≤ e then residueOf (num * Nat.pow 2 e.natAbs) 0 else residueOf num e.natAbs)
  | .float (.infinite negative) => some (if negative then -314159 else 314159)
  | .float .nan => none

/-- How many places behind a taken one are tried. -/
def neighbours : Nat := 9

/-- A table of so many places that at most half of them are taken. -/
def placesFor (count : Nat) : Nat := if count ≤ 4 then 8 else Nat.pow 2 ((2 * count).log2 + 1)

/-- The first open place from a place on; the places that are tried beside it must all be in the table. -/
def openPlace? {α : Type} (table : Array (Option α)) (i : Nat) : Option Nat :=
  let tried := if i + neighbours < table.size then neighbours + 1 else 1
  ((List.range tried).map (i + ·)).find? fun j => (table.getD j none).isNone

/-- Puts an item into an open place of a table. `rest` is what is left of the residue, and `fuel` bounds the places that it
leads to. -/
def insert {α : Type} (item : α) (table : Array (Option α)) (i rest : Nat) : (fuel : Nat) → Array (Option α)
  | 0 => table
  | fuel + 1 =>
    match openPlace? table i with
    | some j => table.setIfInBounds j (some item)
    | none =>
      let rest := rest / 32
      insert item table ((i * 5 + 1 + rest) % table.size) rest fuel

/-- Items with residues in the order of a set. -/
def sorted {α : Type} (items : List (Int × α)) : List α :=
  let places := placesFor items.length
  let table := items.foldl (fun table (residue, item) =>
    let start := (residue % Nat.pow 2 64).toNat
    insert item table (start % places) start (places + 16)) (Array.replicate places none)
  table.toList.filterMap id

end ShapeCheck.Yaml.SetOrder
