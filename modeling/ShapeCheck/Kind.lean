/-!
# Kinds

The seven base kinds that a property or an array element may have.
-/

namespace ShapeCheck

inductive Kind where
  | string
  | number
  | boolean
  | array
  | object
  | function
  | any
deriving DecidableEq, Repr

namespace Kind

def all : List Kind := [.string, .number, .boolean, .array, .object, .function, .any]

def name : Kind → String
  | .string => "String"
  | .number => "Number"
  | .boolean => "Boolean"
  | .array => "Array"
  | .object => "Object"
  | .function => "Function"
  | .any => "Any"

/-- The kind with a given name. -/
def ofName? (s : String) : Option Kind := all.find? (·.name == s)

theorem ofName?_name (k : Kind) : ofName? k.name = some k := by
  cases k <;> decide

end Kind

end ShapeCheck
