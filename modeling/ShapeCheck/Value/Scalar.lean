import ShapeCheck.Calendar.Text
import ShapeCheck.Number.Basic
import ShapeCheck.Reference
import ShapeCheck.Text.Quoted

/-!
# Scalars and keys

A `Scalar` is a value without parts. `Scalar.equals` is equality by meaning: a truth value counts as zero or one, an
integer equals the double of its value, and two zoned moments are equal if they name one instant. A `Key` of a mapping is
a scalar or a tuple of keys, and two keys are one key if they are equal in that sense.
-/

namespace ShapeCheck

/-- A value without parts. -/
inductive Scalar where
  | null
  | bool (b : Bool)
  | number (n : Number)
  | text (s : String)
  | function (name : String)
  | reference (r : TypeRef)
  | date (d : Date)
  | moment (t : Moment)
  | bytes (bs : List UInt8)
deriving DecidableEq

namespace Scalar

instance : Inhabited Scalar := ⟨.null⟩

def int (n : Int) : Scalar := .number (.int n)

/-- The number that a scalar counts as in comparisons. -/
def number? : Scalar → Option Number
  | .bool b => some (.int (if b then 1 else 0))
  | .number n => some n
  | _ => none

def isBool : Scalar → Bool
  | .bool _ => true
  | _ => false

/-- Equality by meaning. -/
def equals : Scalar → Scalar → Bool
  | .null, .null => true
  | .text s, .text t => s == t
  | .function f, .function g => f == g
  | .reference r, .reference s => r == s
  | .date d, .date e => d == e
  | .moment t, .moment u => t.same u
  | .bytes a, .bytes b => a == b
  | a, b => match a.number?, b.number? with
    | some m, some n => m.equals n
    | _, _ => false

/-- The name of the sort of a scalar, as in messages. -/
def sortName : Scalar → String
  | .null => "NoneType"
  | .bool _ => "bool"
  | .number (.int _) => "int"
  | .number (.float _) => "float"
  | .text _ => "str"
  | .function _ => "Fn"
  | .reference _ => "SchemaTypeRef"
  | .date _ => "date"
  | .moment _ => "datetime"
  | .bytes _ => "bytes"

/-- The name of the sort of a scalar with the family that it belongs to. -/
def fullSortName : Scalar → String
  | .date _ => "datetime.date"
  | .moment _ => "datetime.datetime"
  | a => a.sortName

/-- Whether a scalar is an integer with too many digits to be written. -/
def isTooLong : Scalar → Bool
  | .number (.int n) => Nat.pow 10 Numeral.integerDigitLimit ≤ n.natAbs
  | _ => false

/-- Whether a scalar counts as true: it is neither empty nor zero. -/
def isTruthy : Scalar → Bool
  | .null => false
  | .bool b => b
  | .number n => !n.equals (.int 0)
  | .text s => s ≠ ""
  | .bytes bs => !bs.isEmpty
  | _ => true

/-- A scalar inside a message. -/
def literal : Scalar → String
  | .null => "None"
  | .bool b => if b then "True" else "False"
  | .number n => n.text
  | .text s => Text.quoted s
  | .function name => "<fn " ++ name ++ ">"
  | .reference r => "SchemaTypeRef(namespace=" ++ Text.quoted r.namespaceName ++ ", version=" ++ Text.quoted r.version ++
      ", type_name=" ++ Text.quoted r.name ++ ")"
  | .date d => d.literal
  | .moment t => t.literal
  | .bytes bs => Text.quotedBytes bs

/-- A scalar as a text of its own: as `literal`, but a text, a reference and a date stand without their wrapping. -/
def plain : Scalar → String
  | .text s => s
  | .reference r => r.text
  | .date d => d.iso
  | .moment t => t.isoWith " "
  | a => a.literal

end Scalar

/-- What an entry of a mapping is found under. -/
inductive Key where
  | scalar (a : Scalar)
  | tuple (items : List Key)

namespace Key

instance : Inhabited Key := ⟨.scalar .null⟩

def text (s : String) : Key := .scalar (.text s)

/-- The text of a key that is a text. -/
def text? : Key → Option String
  | .scalar (.text s) => some s
  | _ => none

mutual
/-- Whether two keys are one key. -/
def same : Key → Key → Bool
  | .scalar a, .scalar b => a.equals b
  | .tuple xs, .tuple ys => sameItems xs ys
  | _, _ => false
def sameItems : List Key → List Key → Bool
  | [], [] => true
  | x :: xs, y :: ys => x.same y && sameItems xs ys
  | _, _ => false
end

mutual
/-- A key inside a message. -/
def literal : Key → String
  | .scalar a => a.literal
  | .tuple [] => "()"
  | .tuple [x] => "(" ++ x.literal ++ ",)"
  | .tuple (x :: y :: rest) => "(" ++ x.literal ++ literalRest (y :: rest) ++ ")"
def literalRest : List Key → String
  | [] => ""
  | x :: rest => ", " ++ x.literal ++ literalRest rest
end

mutual
/-- Whether a key holds an integer with too many digits to be written. -/
def isTooLong : Key → Bool
  | .scalar a => a.isTooLong
  | .tuple ks => anyTooLong ks
def anyTooLong : List Key → Bool
  | [] => false
  | k :: ks => k.isTooLong || anyTooLong ks
end

/-- A key as a text of its own. -/
def plain : Key → String
  | .scalar a => a.plain
  | k => k.literal

end Key

end ShapeCheck
