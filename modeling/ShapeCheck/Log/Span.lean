import ShapeCheck.Value.Scalar
import ShapeCheck.Violation

/-!
# Spans

A `Span` event tells a tracer what has happened, by a name and a few attributes.
-/

namespace ShapeCheck

structure Span where
  name : String
  attributes : List (String × Scalar)

namespace Span

variable {α : Type}

/-- How many violations are shown. -/
def shownViolations : Nat := 3

/-- The attributes of the violations from an index on. -/
def violationAttributes : Nat → List (Violation α) → List (String × Scalar)
  | _, [] => []
  | i, v :: rest =>
    let start := "objectschema.violation." ++ toString i
    (start ++ ".path", .text v.path.text) :: (start ++ ".code", .text v.code.text) :: violationAttributes (i + 1) rest

/-- A validation that has ended. -/
def validated (typeName : Option String) (violations : List (Violation α)) : Span where
  name := "objectschema.validation." ++ if violations.isEmpty then "passed" else "failed"
  attributes :=
    [("objectschema.type", .text (match typeName with
       | none => "<anonymous>"
       | some s => if s = "" then "<anonymous>" else s)),
     ("objectschema.passed", .bool violations.isEmpty),
     ("objectschema.violation_count", .int violations.length)] ++
    violationAttributes 0 (violations.take shownViolations)

/-- A schema that has been registered. -/
def registered (key : String) (types : Nat) : Span where
  name := "objectschema.schema.registered"
  attributes := [("objectschema.schema_key", .text key), ("objectschema.type_count", .int types)]

end Span

end ShapeCheck
