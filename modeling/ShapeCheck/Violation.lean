import ShapeCheck.Path
import ShapeCheck.Reference

/-!
# Violations

A `Violation` records one failed check: where, why, by which constraint and on what value. A reference that could not be
followed is its `Cause`. `Violation.summary` is the start of a list of violations as one line.
-/

namespace ShapeCheck

/-- The machine readable reason of a violation. -/
inductive Code where
  | required
  | null
  | kind
  | notValid
  | denied
  | withPeer
  | withoutPeer
  | empty
  | constraint
  | extraKey
  | unresolved
  | cycle
  | depth
  | includes
  | excludes
  | structural
deriving DecidableEq, Repr

namespace Code

def all : List Code :=
  [.required, .null, .kind, .notValid, .denied, .withPeer, .withoutPeer, .empty, .constraint, .extraKey, .unresolved,
   .cycle, .depth, .includes, .excludes, .structural]

def text : Code → String
  | .required => "any.required"
  | .null => "any.null"
  | .kind => "any.kind"
  | .notValid => "any.valid"
  | .denied => "any.invalid"
  | .withPeer => "any.with"
  | .withoutPeer => "any.without"
  | .empty => "any.empty"
  | .constraint => "any.constraint"
  | .extraKey => "object.extra_key"
  | .unresolved => "object.unresolved_schema_type"
  | .cycle => "object.cycle"
  | .depth => "object.depth"
  | .includes => "array.includes"
  | .excludes => "array.excludes"
  | .structural => "schema.structure"

/-- The code with a given text. -/
def ofText? (s : String) : Option Code := all.find? (·.text == s)

end Code

/-- Why a reference was not followed. -/
inductive Cause where
  /-- There is no such type. -/
  | unresolved (ref : TypeRef)
  /-- The same reference is being followed for the same mapping already. -/
  | cyclic (ref : TypeRef) (path : Path)
  /-- As many references as allowed are being followed already. -/
  | tooDeep (ref : TypeRef) (maxDepth : Int)
deriving DecidableEq

namespace Cause

def ref : Cause → TypeRef
  | .unresolved r => r
  | .cyclic r _ => r
  | .tooDeep r _ => r

def message : Cause → String
  | .unresolved r => "Unresolved schema type: " ++ r.text
  | .cyclic r path => "Cyclic reference to " ++ r.text ++ " at " ++ path.shown
  | .tooDeep r n => "Resolution depth " ++ toString n ++ " exceeded while resolving " ++ r.text

def code : Cause → Code
  | .unresolved _ => .unresolved
  | .cyclic .. => .cycle
  | .tooDeep .. => .depth

end Cause

/-- One failed check. -/
structure Violation (α : Type) where
  path : Path
  message : String
  code : Code
  value : α
  /-- The constraint or check that failed. -/
  constraint : Option String := none
  cause : Option Cause := none

namespace Violation

variable {α β : Type}

/-- A violation with its value seen in another way. -/
def map (f : α → β) (v : Violation α) : Violation β :=
  { path := v.path, message := v.message, code := v.code, value := f v.value, constraint := v.constraint,
    cause := v.cause }

/-- A violation as a line of text. -/
def text (v : Violation α) : String := v.path.shown ++ ": " ++ v.message

/-- How many violations a summary shows. -/
def summaryLimit : Nat := 3

/-- The first violations, and how many more there are. -/
def summary (vs : List (Violation α)) : String :=
  "; ".intercalate ((vs.take summaryLimit).map text) ++
    if vs.length > summaryLimit then " (and " ++ toString (vs.length - summaryLimit) ++ " more)" else ""

end Violation

end ShapeCheck
