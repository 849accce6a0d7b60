import ShapeCheck.Shape.Record

/-!
# Violations in data

`Violation.read` reads a violation from a record, as it reads any other record. `Datum.joined` adds a step to a path where
both are data; `joined_text` and `joined_int` say that it is `Step.join` on texts and indices.
-/

namespace ShapeCheck

open Shape

namespace Violation

def pathField : Field := { name := "path" }
def messageField : Field := { name := "message" }
def codeField : Field := { name := "code" }
def valueField : Field := { name := "value" }
def constraintField : Field := { name := "constraint" }
def causeField : Field := { name := "cause" }

/-- A code by its text. -/
def readCode (d : Datum) : Reading Code :=
  match d.text?.bind Code.ofText? with
  | some c => .ok c
  | none => .fail (.notOneOf (Code.all.map Code.text)) d

/-- The cause of a violation, which no data can give. -/
def readCause (d : Datum) : Reading (Option Cause) :=
  if d.isNull then .ok none else .fail .notError d

/-- A violation from a record. Only the message has to be there. -/
def read (d : Datum) : Reading (Violation Datum) :=
  match Record.ofDatum "Violation" d with
  | .bad issues => .bad issues
  | .ok r =>
    (r.closing [pathField, messageField, codeField, valueField, constraintField, causeField]
      ((r.optional pathField "" Reading.text).both ((r.required messageField Reading.text).both
      ((r.optional codeField .constraint readCode).both ((r.optional valueField .null .ok).both
      ((r.optional constraintField none (Reading.orNull Reading.text)).both
      (r.optional causeField none readCause))))))).map
        fun ((path, message, code, value, constraint, cause), _) =>
          { path := { root := path }, message := message, code := code, value := value, constraint := constraint,
            cause := cause }

end Violation

/-! ## Paths that are data -/

/-- Whether a datum is an integer or a truth value, and so an index. -/
def Datum.isIndex : Datum → Bool
  | .scalar (.number (.int _)) => true
  | .scalar (.bool _) => true
  | _ => false

/-- A path with one step more. What is not an index is the path itself, if there is none before it. -/
def Datum.joined (parent step : Datum) : Datum :=
  if step.isIndex then .text (parent.plain ++ "[" ++ step.plain ++ "]")
  else if parent.isTruthy then .text (parent.plain ++ "." ++ step.plain)
  else step

theorem Datum.joined_text (parent name : String) :
    (Datum.text parent).joined (.text name) = .text ((Step.key name).join parent) := by
  by_cases h : parent = "" <;>
    simp [Datum.joined, Datum.text, Datum.isIndex, Datum.isTruthy, Scalar.isTruthy, Datum.plain, Scalar.plain, Step.join, h]

theorem Datum.joined_int (parent : String) (n : Int) :
    (Datum.text parent).joined (.int n) = .text ((Step.index n).join parent) := rfl

end ShapeCheck
