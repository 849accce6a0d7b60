import ShapeCheck.Kind
import ShapeCheck.Text.LowerCase
import ShapeCheck.Validation.Run

/-!
# Kinds of values

`Kind.convert` says whether a value is of a kind, and as what value it counts. Only a text counts as something else: where
conversions are on, as the number or the truth value that it denotes.
-/

namespace ShapeCheck

/-- The truth value that a text denotes, in any case of letters. -/
def truth? (s : String) : Option Bool :=
  let lowered := Text.lowercase s
  if lowered = "true" then some true else if lowered = "false" then some false else none

/-- A number as a value of the kind of numbers, which are finite. -/
def finite? (n : Number) : Except Fault (Option Value) :=
  match n.isFinite? with
  | none => .error .integerTooLarge
  | some true => .ok (some (.scalar (.number n)))
  | some false => .ok none

/-- What a value counts as when it is to be of a kind; nothing if it is not of that kind. -/
def Kind.convert (k : Kind) (convert : Bool) (σ : Store) (v : Value) : Except Fault (Option Value) :=
  match k with
  | .string =>
    match v with
    | .scalar (.text _) => .ok (some v)
    | _ => .ok none
  | .number =>
    match v with
    | .scalar (.number n) => finite? n
    | .scalar (.text s) =>
      if convert then
        match Number.ofText? s with
        | some n => finite? n
        | none => .ok none
      else .ok none
    | _ => .ok none
  | .boolean =>
    match v with
    | .scalar (.bool _) => .ok (some v)
    | .scalar (.text s) => .ok (if convert then (truth? s).map fun b => .scalar (.bool b) else none)
    | _ => .ok none
  | .array => .ok ((σ.items? v).map fun _ => v)
  | .object => .ok ((σ.entries? v).map fun _ => v)
  | .function =>
    match v with
    | .scalar (.function _) => .ok (some v)
    | _ => .ok none
  | .any => .ok (some v)

end ShapeCheck
