import ShapeCheck.Pattern.Program
import ShapeCheck.Reference.Lookup

/-!
# Forms of arguments

Each constraint method takes arguments of one `ArgumentForm`. `ArgumentForm.fit` compares a list of arguments with a form:
it fits, or a `Misfit` says why not. A pattern that is too large to be read at all is neither.
-/

namespace ShapeCheck

open Shape

/-- What the arguments of a method have to look like. -/
inductive ArgumentForm where
  | nothing
  | count
  | number
  | pattern
  | optionalFlag
  | values
  | keys
  | elements
  | reference
deriving DecidableEq, Repr

namespace ArgumentForm

def all : List ArgumentForm :=
  [.nothing, .count, .number, .pattern, .optionalFlag, .values, .keys, .elements, .reference]

def text : ArgumentForm → String
  | .nothing => "none"
  | .count => "count"
  | .number => "number"
  | .pattern => "pattern"
  | .optionalFlag => "optional_flag"
  | .values => "values"
  | .keys => "keys"
  | .elements => "element_specs"
  | .reference => "schema_type_ref"

/-- The form with a given text. -/
def ofText? (s : String) : Option ArgumentForm := all.find? (·.text == s)

end ArgumentForm

/-- Why arguments do not have a form. -/
inductive Misfit where
  | tooMany (count : Nat)
  | notOneInteger
  | negative
  | notOneNumber
  | notOnePattern
  | badPattern (pattern : String) (problem : Pattern.Problem) (position : Option Nat)
  | notOneFlag
  | noValue
  | notKeyNames
  | notElements
  | notOneReference
  | badReference (issues : List Issue)

namespace Misfit

def message : Misfit → String
  | .tooMany count => "takes no arguments, got " ++ toString count
  | .notOneInteger => "expects one integer argument"
  | .negative => "expects a non-negative integer"
  | .notOneNumber => "expects one numeric argument"
  | .notOnePattern => "expects one regular expression string"
  | .badPattern pattern problem position =>
    "invalid regular expression: " ++ problem.message pattern position
  | .notOneFlag => "expects at most one boolean argument"
  | .noValue => "expects at least one value"
  | .notKeyNames => "expects one or more key names"
  | .notElements => "expects one or more \x7btype, constraints\x7d element descriptions"
  | .notOneReference => "expects one \x7bnamespace, version, type\x7d reference"
  | .badReference issues => "malformed reference (" ++ Issue.places issues ++ ")"

end Misfit

/-- How arguments compare with a form. -/
inductive Fit where
  | fits
  | misfit (why : Misfit)
  /-- A pattern that cannot be read, for a reason that is no fault of its spelling. -/
  | unreadable (pattern : String) (why : Pattern.ReadError)

namespace ArgumentForm

/-- Whether the form is about one argument, which is looked up by its place. -/
def takesOne : ArgumentForm → Bool
  | .count | .number | .pattern | .optionalFlag | .reference => true
  | .nothing | .values | .keys | .elements => false

/-- The arguments that a datum holds. Those of a mapping are its keys; but a mapping of one entry, of which the form takes
one, is asked for what it has under zero. -/
def argumentsIn (form : ArgumentForm) (d : Datum) : Except Fault (List Datum) :=
  match d.entries?, d.counted? with
  | some [e], some xs =>
    if form.takesOne then (Entries.find? (.scalar (.number (.int 0))) [e]).elim (.error .missingPlace) fun v => .ok [v]
    else .ok xs
  | _, some xs => .ok xs
  | _, none => .error (.uncounted d.sortName)

/-- Whether a datum is a text with at least one character. -/
def isKeyName : Datum → Bool
  | .scalar (.text s) => s ≠ ""
  | _ => false

/-- Whether a datum is a mapping, or may be one around it. -/
def isMapping (d : Datum) : Bool := d.isTurn || d.target.entries?.isSome

/-- Arguments compared with the form. -/
def fit (form : ArgumentForm) (args : List Datum) : Fit :=
  match form, args with
  | .nothing, [] => .fits
  | .nothing, args => .misfit (.tooMany args.length)
  | .count, [.scalar (.number (.int n))] => if 0 ≤ n then .fits else .misfit .negative
  | .count, _ => .misfit .notOneInteger
  | .number, [.scalar (.number _)] => .fits
  | .number, _ => .misfit .notOneNumber
  | .pattern, [.scalar (.text s)] =>
    match Pattern.read s with
    | .ok _ => .fits
    | .error (.malformed problem position) => .misfit (.badPattern s problem position)
    | .error e => .unreadable s e
  | .pattern, _ => .misfit .notOnePattern
  | .optionalFlag, [] => .fits
  | .optionalFlag, [.scalar (.bool _)] => .fits
  | .optionalFlag, _ => .misfit .notOneFlag
  | .values, [] => .misfit .noValue
  | .values, _ => .fits
  | .keys, args => if args.isEmpty || !args.all isKeyName then .misfit .notKeyNames else .fits
  | .elements, args => if args.isEmpty || !args.all isMapping then .misfit .notElements else .fits
  | .reference, [.scalar (.reference _)] => .fits
  | .reference, [d] =>
    if isMapping d then
      match TypeRef.read d with
      | .ok _ => .fits
      | .bad issues => .misfit (.badReference issues)
    else .misfit .notOneReference
  | .reference, _ => .misfit .notOneReference

end ArgumentForm

end ShapeCheck
