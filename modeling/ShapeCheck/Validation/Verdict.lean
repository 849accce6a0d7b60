import ShapeCheck.Violation

/-!
# Verdicts

What is said of a value that does not conform to a type.
-/

namespace ShapeCheck

/-- The message of a validation that found violations. -/
def nonconformingMessage {α : Type} (typeName : Option String) (violations : List (Violation α)) : String :=
  "Validation failed for " ++
    (match typeName with
      | none => "value"
      | some s => if s = "" then "value" else s) ++ ": " ++ Violation.summary violations

end ShapeCheck
