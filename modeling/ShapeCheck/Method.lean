import ShapeCheck.Kind

/-!
# Constraint methods

A `Method` is what a constraint does to the checker of a property. Some names mean something for every kind, and some for
one kind only; `Method.ofName?` looks among a kind's own names first.
-/

namespace ShapeCheck

inductive LengthBound where
  | atLeast
  | atMost
  | exactly
deriving DecidableEq, Repr

/-- What a length counts. -/
inductive LengthUnit where
  | characters
  | items
deriving DecidableEq, Repr

def LengthUnit.text : LengthUnit → String
  | .characters => "characters"
  | .items => "items"

inductive Method where
  | required
  | nullOk
  | allow
  | deny
  | valid
  | withPeers
  | withoutPeers
  | emptyOk
  | length (bound : LengthBound) (unit : LengthUnit)
  | pattern
  | alphanumeric
  | email
  | date
  | whole
  | fraction
  | atLeast
  | atMost
  | includes
  | excludes
  | reference
deriving DecidableEq, Repr

namespace Method

/-- The methods of every kind. -/
def base : List (String × Method) :=
  [("required", .required), ("allow", .allow), ("deny", .deny), ("valid", .valid), ("invalid", .deny),
   ("with", .withPeers), ("without", .withoutPeers), ("nullOk", .nullOk)]

/-- The methods of one kind. -/
def own : Kind → List (String × Method)
  | .string =>
    [("emptyOk", .emptyOk), ("min", .length .atLeast .characters), ("max", .length .atMost .characters),
     ("length", .length .exactly .characters), ("regex", .pattern), ("alphanum", .alphanumeric), ("email", .email),
     ("date", .date)]
  | .number => [("integer", .whole), ("float", .fraction), ("min", .atLeast), ("max", .atMost)]
  | .array =>
    [("includes", .includes), ("excludes", .excludes), ("min", .length .atLeast .items),
     ("max", .length .atMost .items), ("length", .length .exactly .items)]
  | .object => [("objectSchemaType", .reference)]
  | .boolean => []
  | .function => []
  | .any => []

/-- The method of a kind with a given name. -/
def ofName? (k : Kind) (name : String) : Option Method := ((own k).lookup name).or (base.lookup name)

end Method

end ShapeCheck
