import ShapeCheck.Capability.ArgumentForm

/-!
# Errors of authors

A definition of the right shape may still ask for a kind, a method or arguments that are not legal. An `AuthoringError`
says which, and `AuthoringError.message` words it; `AuthoringError.at` adds the place of the type.
-/

namespace ShapeCheck

open Shape

/-- Why a constraint is not supported. -/
inductive Objection where
  | unknownMethod
  | notImplemented
  | misfit (why : Misfit)
  | badElement (issues : List Issue)

def Objection.message : Objection → String
  | .unknownMethod => "unknown method for this kind"
  | .notImplemented => "no validator implementation"
  | .misfit why => why.message
  | .badElement issues => "malformed element description (" ++ Issue.places issues ++ ")"

/-- How inline types are misused. -/
inductive InlineMisuse where
  | notOnObject
  | notOne (count : Nat)
  | besideReference
deriving DecidableEq, Repr

def InlineMisuse.message : InlineMisuse → String
  | .notOnObject => "typeArgs is only legal on Object properties"
  | .notOne count => "typeArgs takes exactly one inline type, got " ++ toString count
  | .besideReference => "typeArgs cannot be combined with objectSchemaType"

/-- What is not legal in a definition. -/
inductive AuthoringError where
  | unsupportedKind (kind : Datum) (known : List String)
  /-- The arguments are kept if they are what is wrong. -/
  | unsupportedConstraint (kind : String) (method : Datum) (why : Objection) (args : Option (List Datum))
  | inlineMisuse (kind : String) (why : InlineMisuse)

namespace AuthoringError

def message : AuthoringError → String
  | .unsupportedKind kind known =>
    "Unsupported type: " ++ kind.literal ++
      if known.isEmpty then ""
      else " (expected one of: " ++ ", ".intercalate (known.mergeSort fun a b => decide (a ≤ b)) ++ ")"
  | .unsupportedConstraint kind method why _ =>
    "Unsupported constraint for " ++ kind ++ ": " ++ method.literal ++ " (" ++ why.message ++ ")"
  | .inlineMisuse kind why => "typeArgs misuse on " ++ kind ++ " property: " ++ why.message

/-- The message of an error in the type at a place. -/
def messageAt (location : String) (e : AuthoringError) : String :=
  if location = "" then e.message else location ++ ": " ++ e.message

end AuthoringError

end ShapeCheck
