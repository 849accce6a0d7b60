import ShapeCheck.Definition.Basic
import ShapeCheck.Method
import ShapeCheck.Pattern.Program
import ShapeCheck.Value.Comparison

/-!
# Checkers

A definition compiles to a `TypeChecker`, and each property of it, or element of an array, to a `PropertyChecker`. What a
property asks for beyond its kind stands in `Rule`s, which run in order. The values that are allowed and denied are kept
apart, so that `allow` takes a value out of the denied ones and `deny` takes it out of the allowed ones.
-/

namespace ShapeCheck

mutual
/-- A test of a value that is of the right kind. -/
inductive Rule where
  /-- A limit is usually a number; what a length has no order with ends a run. -/
  | length (bound : LengthBound) (unit : LengthUnit) (limit : Datum)
  /-- Some part of a text matches. The text of the pattern is kept for messages. -/
  | pattern (source : String) (program : Pattern.Program)
  | alphanumeric (spaces : Bool)
  | email
  | date
  | whole
  | fraction
  | atLeast (limit : Datum)
  | atMost (limit : Datum)
  /-- Each item passes one of the checkers. -/
  | includes (elements : List PropertyChecker)
  /-- No item passes any of the checkers. -/
  | excludes (elements : List PropertyChecker)
  /-- The mapping is of the type that a reference leads to. -/
  | reference (ref : TypeRef)
  /-- The mapping is of a type given in place. -/
  | inlineType (checker : TypeChecker)
/-- What a property, or an element of an array, has to be. -/
structure PropertyChecker where
  kind : Kind
  required : Bool
  nullOk : Bool
  emptyOk : Bool
  /-- Only allowed values pass. -/
  onlyValid : Bool
  allowed : List Datum
  denied : List Datum
  /-- Keys that have to be there too. -/
  peersWith : List Datum
  /-- Keys that must not be there too. -/
  peersWithout : List Datum
  rules : List Rule
structure TypeChecker where
  properties : List (String × PropertyChecker)
  leniency : Leniency
end

namespace Rule

/-- The constraint that a rule comes from. -/
def method : Rule → String
  | .length .atLeast _ _ => "min"
  | .length .atMost _ _ => "max"
  | .length .exactly _ _ => "length"
  | .pattern .. => "regex"
  | .alphanumeric _ => "alphanum"
  | .email => "email"
  | .date => "date"
  | .whole => "integer"
  | .fraction => "float"
  | .atLeast _ => "min"
  | .atMost _ => "max"
  | .includes _ => "includes"
  | .excludes _ => "excludes"
  | .reference _ => "objectSchemaType"
  | .inlineType _ => "typeArgs"

def isReference : Rule → Bool
  | .reference _ => true
  | _ => false

/-- The type given in place that a rule is of. -/
def inlineType? : Rule → Option TypeChecker
  | .inlineType t => some t
  | _ => none

end Rule

mutual
/-- The references that a rule may follow. -/
def Rule.references : Rule → List TypeRef
  | .includes elements => PropertyChecker.referencesOfAll elements
  | .excludes elements => PropertyChecker.referencesOfAll elements
  | .reference ref => [ref]
  | .inlineType ⟨properties, _⟩ => PropertyChecker.referencesOfFields properties
  | _ => []
def Rule.referencesOfAll : List Rule → List TypeRef
  | [] => []
  | r :: rest => r.references ++ Rule.referencesOfAll rest
/-- The references that a property may follow. -/
def PropertyChecker.references : PropertyChecker → List TypeRef
  | ⟨_, _, _, _, _, _, _, _, _, rules⟩ => Rule.referencesOfAll rules
def PropertyChecker.referencesOfAll : List PropertyChecker → List TypeRef
  | [] => []
  | c :: rest => c.references ++ PropertyChecker.referencesOfAll rest
def PropertyChecker.referencesOfFields : List (String × PropertyChecker) → List TypeRef
  | [] => []
  | (_, c) :: rest => c.references ++ PropertyChecker.referencesOfFields rest
end

/-- The references that a type may follow, in the order of its properties. -/
def TypeChecker.references (t : TypeChecker) : List TypeRef := PropertyChecker.referencesOfFields t.properties

namespace PropertyChecker

/-- The checker of a kind without constraints. -/
def ofKind (kind : Kind) : PropertyChecker where
  kind := kind
  required := false
  nullOk := false
  emptyOk := false
  onlyValid := false
  allowed := []
  denied := []
  peersWith := []
  peersWithout := []
  rules := []

/-- A rule that runs after those already there. -/
def addRule (c : PropertyChecker) (r : Rule) : PropertyChecker := { c with rules := c.rules ++ [r] }

/-- The types given in place. -/
def inlineTypes (c : PropertyChecker) : List TypeChecker := c.rules.filterMap Rule.inlineType?

/-- Whether one of some values is the same as a given one. -/
def holds (values : List Datum) (d : Datum) : Bool := values.any (·.same d)

/-- Some values without those that are the same as a given one. -/
def without (values : List Datum) (d : Datum) : List Datum := values.filter fun v => !v.same d

/-- Some values, and a given one at the end if it is not among them. -/
def including (values : List Datum) (d : Datum) : List Datum := if holds values d then values else values ++ [d]

def allow (c : PropertyChecker) (d : Datum) : PropertyChecker :=
  { c with denied := without c.denied d, allowed := including c.allowed d }

def deny (c : PropertyChecker) (d : Datum) : PropertyChecker :=
  { c with allowed := without c.allowed d, denied := including c.denied d }

/-- Whether looking for a datum among some values, one after the other up to one that is the same, has no end. -/
def seeksOn : List Datum → Datum → Bool
  | [], _ => false
  | v :: rest, d => v.runsOn d || (!v.same d && seeksOn rest d)

/-- Whether allowing a datum has no end: it is compared with all denied values, and looked for among the allowed ones. -/
def allowsOn (c : PropertyChecker) (d : Datum) : Bool := c.denied.any (·.runsOn d) || seeksOn c.allowed d

def deniesOn (c : PropertyChecker) (d : Datum) : Bool := c.allowed.any (·.runsOn d) || seeksOn c.denied d

end PropertyChecker

end ShapeCheck
