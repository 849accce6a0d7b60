import ShapeCheck.Value.Datum

/-!
# Data as JSON

`Datum.json` writes a datum as JSON text with an indentation. What JSON has no form for is written as a text, but a key
has to be a text, a number, a truth value or null, and a datum that contains itself has no JSON text.
-/

namespace ShapeCheck

/-- Why a datum has no JSON text. -/
inductive JsonError where
  | circular
  /-- A key of some sort is no key of JSON. -/
  | badKey (sort : String)
  | fault (f : Fault)
deriving DecidableEq, Repr

namespace JsonError

def message : JsonError → String
  | .circular => "Circular reference detected"
  | .badKey sort => "keys must be str, int, float, bool or None, not " ++ sort
  | .fault f => f.message

end JsonError

/-- A number as JSON. -/
def Number.json : Number → String
  | .int n => toString n
  | .float x => FloatLayout.json.text x

/-- A scalar as JSON. -/
def Scalar.json : Scalar → String
  | .null => "null"
  | .bool b => if b then "true" else "false"
  | .number n => n.json
  | a => Text.jsonString a.plain

/-- A text that stands for a datum of a sort that JSON does not have. -/
def Datum.jsonStandIn (d : Datum) : Except JsonError String :=
  match d.written Datum.plain with
  | .ok s => .ok (Text.jsonString s)
  | .error f => .error (.fault f)

/-- A key as JSON. -/
def Key.json : Key → Except JsonError String
  | .scalar (.text s) => .ok (Text.jsonString s)
  | .scalar (.number n) =>
    if (Scalar.number n).isTooLong then .error (.fault .integerTooLong) else .ok (Text.jsonString n.json)
  | .scalar (.bool b) => .ok (Text.jsonString (Scalar.json (.bool b)))
  | .scalar .null => .ok (Text.jsonString (Scalar.json .null))
  | .scalar a => .error (.badKey a.sortName)
  | .tuple _ => .error (.badKey "tuple")

/-- The start of a line that stands so deep. -/
def jsonLine (depth : Nat) : String := "\n" ++ String.ofList (List.replicate (2 * depth) ' ')

/-- Parts between brackets, each on a line of its own. -/
def jsonBlock (depth : Nat) (first last : String) (parts : List String) : String :=
  if parts.isEmpty then first ++ last
  else first ++ jsonLine (depth + 1) ++ ("," ++ jsonLine (depth + 1)).intercalate parts ++ jsonLine depth ++ last

namespace Datum

mutual
/-- A datum that stands so deep as JSON. -/
def jsonAt (depth : Nat) : Datum → Except JsonError String
  | .scalar a => if a.isTooLong then .error (.fault .integerTooLong) else .ok a.json
  | .list xs => return jsonBlock depth "[" "]" (← jsonItems (depth + 1) xs)
  | .tuple xs => return jsonBlock depth "[" "]" (← jsonItems (depth + 1) xs)
  | .mapping es => return jsonBlock depth "\x7b" "\x7d" (← jsonEntries (depth + 1) es)
  | .set xs => (Datum.set xs).jsonStandIn
  | .readOnly es => (Datum.readOnly es).jsonStandIn
  | .structured sort handle parts => (Datum.structured sort handle parts).jsonStandIn
  | .back _ => .error .circular
def jsonItems (depth : Nat) : List Datum → Except JsonError (List String)
  | [] => .ok []
  | x :: xs => do
    let first ← x.jsonAt depth
    return first :: (← jsonItems depth xs)
def jsonEntries (depth : Nat) : List (Key × Datum) → Except JsonError (List String)
  | [] => .ok []
  | (k, d) :: rest => do
    let key ← k.json
    let value ← d.jsonAt depth
    return (key ++ ": " ++ value) :: (← jsonEntries depth rest)
end

/-- A datum as JSON. -/
def json (d : Datum) : Except JsonError String := d.jsonAt 0

end Datum

end ShapeCheck
