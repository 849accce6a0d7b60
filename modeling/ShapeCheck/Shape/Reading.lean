import ShapeCheck.Value.Datum
import ShapeCheck.Violation

/-!
# Readings

A `Reading` of a datum is what the datum stands for, or every `Issue` found in it. Readings of several parts combine so
that the issues of all parts are kept, in order: `Reading` is an applicative functor and not a monad.
-/

namespace ShapeCheck

namespace Shape

/-- What is wrong with one part of a datum. -/
inductive Defect where
  | missing
  | unknownField
  | notText
  | notUnicode
  | tooShort
  /-- The text does not match a pattern. -/
  | mismatch (pattern : String)
  | notBool
  | notList
  | notMapping
  /-- The part is no mapping, and should be one with the fields of a record. -/
  | notRecord (name : String)
  /-- The part is a mapping that stands around it. -/
  | repeated
  | keyNotText
  /-- The part should be an error that was raised. -/
  | notError
  | notMoment
  /-- The number or text gives no moment. -/
  | badMoment (reason : String)
  /-- The text is neither a moment nor a date. -/
  | badDate (reason : String)
  | notInteger
  | badInteger
  | fractional
  /-- The text is an integer with more digits than are read. -/
  | integerTooLong
  | notFinite
  | below (least : Int)
  | above (most : Int)
  | notOneOf (choices : List String)
  /-- The part has the right fields, and still cannot be used. -/
  | refused (reason : String)
deriving DecidableEq, Repr

namespace Defect

/-- The name of the rule that is broken. -/
def name : Defect → String
  | .missing => "missing"
  | .unknownField => "extra_forbidden"
  | .notText => "string_type"
  | .notUnicode => "string_unicode"
  | .tooShort => "string_too_short"
  | .mismatch _ => "string_pattern_mismatch"
  | .notBool => "bool_type"
  | .notList => "list_type"
  | .notMapping => "dict_type"
  | .notRecord _ => "model_type"
  | .repeated => "recursion_loop"
  | .keyNotText => "invalid_key"
  | .notError => "is_instance_of"
  | .notMoment => "datetime_type"
  | .badMoment _ => "datetime_parsing"
  | .badDate _ => "datetime_from_date_parsing"
  | .notInteger => "int_type"
  | .badInteger => "int_parsing"
  | .fractional => "int_from_float"
  | .integerTooLong => "int_parsing_size"
  | .notFinite => "finite_number"
  | .below _ => "greater_than_equal"
  | .above _ => "less_than_equal"
  | .notOneOf _ => "literal_error"
  | .refused _ => "value_error"

/-- Choices between single quotes: commas between them, and a word before the last. -/
def choiceText (choices : List String) : String :=
  let shown := choices.map fun c => "'" ++ c ++ "'"
  match shown.reverse with
  | [] => ""
  | [c] => c
  | last :: before => ", ".intercalate before.reverse ++ " or " ++ last

def message : Defect → String
  | .missing => "Field required"
  | .unknownField => "Extra inputs are not permitted"
  | .notText => "Input should be a valid string"
  | .notUnicode => "Input should be a valid string, unable to parse raw data as a unicode string"
  | .tooShort => "String should have at least 1 character"
  | .mismatch pattern => "String should match pattern '" ++ pattern ++ "'"
  | .notBool => "Input should be a valid boolean"
  | .notList => "Input should be a valid list"
  | .notMapping => "Input should be a valid dictionary"
  | .notRecord name => "Input should be a valid dictionary or instance of " ++ name
  | .repeated => "Recursion error - cyclic reference detected"
  | .keyNotText => "Keys should be strings"
  | .notError => "Input should be an instance of Exception"
  | .notMoment => "Input should be a valid datetime"
  | .badMoment reason => "Input should be a valid datetime, " ++ reason
  | .badDate reason => "Input should be a valid datetime or date, " ++ reason
  | .notInteger => "Input should be a valid integer"
  | .badInteger => "Input should be a valid integer, unable to parse string as an integer"
  | .fractional => "Input should be a valid integer, got a number with a fractional part"
  | .integerTooLong => "Unable to parse input string as an integer, exceeded maximum size"
  | .notFinite => "Input should be a finite number"
  | .below least => "Input should be greater than or equal to " ++ toString least
  | .above most => "Input should be less than or equal to " ++ toString most
  | .notOneOf choices => "Input should be " ++ choiceText choices
  | .refused reason => "Value error, " ++ reason

end Defect

/-- A defect, the steps to where it is, and what stands there. -/
structure Issue where
  steps : List Step
  defect : Defect
  input : Datum

namespace Issue

/-- An issue of a part, seen from the whole. -/
def under (s : Step) (i : Issue) : Issue := { i with steps := s :: i.steps }

/-- The steps of an issue as one word. -/
def place (i : Issue) : String := ".".intercalate (i.steps.map Step.text)

/-- The places of issues, with commas between them. -/
def places (is : List Issue) : String := ", ".intercalate (is.map place)

/-- An issue as a violation at a place below `root`. -/
def violation (root : String) (i : Issue) : Violation Datum where
  path := { root := root, steps := i.steps }
  message := i.defect.message
  code := .structural
  value := i.input
  constraint := some i.defect.name

end Issue

end Shape

open Shape

/-- What a datum stands for, or all that is wrong with it. -/
inductive Reading (α : Type) where
  | ok (value : α)
  | bad (issues : List Issue)

namespace Reading

variable {α β : Type}

/-- Both readings; the issues of the first come before those of the second. -/
def both : Reading α → Reading β → Reading (α × β)
  | .ok x, .ok y => .ok (x, y)
  | .ok _, .bad e => .bad e
  | .bad e, .ok _ => .bad e
  | .bad e, .bad e' => .bad (e ++ e')

def map (f : α → β) : Reading α → Reading β
  | .ok x => .ok (f x)
  | .bad e => .bad e

instance : Functor Reading where
  map := map

instance : Applicative Reading where
  pure := .ok
  seq f x := map (fun p => p.1 p.2) (both f (x ()))

/-- One defect of the datum itself. -/
def fail (d : Defect) (input : Datum) : Reading α := .bad [⟨[], d, input⟩]

/-- The reading of a part, seen from the whole. -/
def under (s : Step) : Reading α → Reading α
  | .ok x => .ok x
  | .bad e => .bad (e.map (Issue.under s))

theorem both_eq_ok {a : Reading α} {b : Reading β} {p : α × β} :
    both a b = .ok p ↔ a = .ok p.1 ∧ b = .ok p.2 := by
  cases a <;> cases b <;> simp [both, Prod.ext_iff]

theorem map_eq_ok {f : α → β} {r : Reading α} {y : β} : map f r = .ok y ↔ ∃ x, r = .ok x ∧ f x = y := by
  cases r <;> simp [map]

theorem under_eq_ok {s : Step} {r : Reading α} {x : α} : under s r = .ok x ↔ r = .ok x := by
  cases r <;> simp [under]

end Reading

end ShapeCheck
