import ShapeCheck.Calendar.Text
import ShapeCheck.Text.Quoted

/-!
# Events

An `Event` tells of a change to a schema or a registry, or of a failed validation. Its entry is one line of JSON.
-/

namespace ShapeCheck

inductive TypeChange where
  | added
  | removed
  | replaced
deriving DecidableEq, Repr

inductive Event where
  | schemaRegistered (key : String) (typeNames : List (Option String))
  | typeChanged (change : TypeChange) (key : String) (name : Option String)
  | validationFailed (typeName : Option String) (paths : List String)
deriving DecidableEq, Repr

namespace Json

/-- A list of JSON texts as one. -/
def list (items : List String) : String := "[" ++ ", ".intercalate items ++ "]"

/-- Fields with JSON texts as an object. -/
def object (fields : List (String × String)) : String :=
  "\x7b" ++ ", ".intercalate (fields.map fun (k, v) => Text.jsonString k ++ ": " ++ v) ++ "\x7d"

def optional : Option String → String
  | none => "null"
  | some s => Text.jsonString s

end Json

namespace Event

/-- Whether an event is bad news. -/
def isWarning : Event → Bool
  | .validationFailed .. => true
  | _ => false

def name : Event → String
  | .schemaRegistered .. => "schema.registered"
  | .typeChanged .added .. => "schema.type.added"
  | .typeChanged .removed .. => "schema.type.removed"
  | .typeChanged .replaced .. => "schema.type.replaced"
  | .validationFailed .. => "validation.failed"

/-- The fields that only this kind of event has. -/
def details : Event → List (String × String)
  | .schemaRegistered key names =>
    [("schema_key", Text.jsonString key), ("type_names", Json.list (names.map Json.optional))]
  | .typeChanged _ key name => [("schema_key", Text.jsonString key), ("type_name", Json.optional name)]
  | .validationFailed typeName paths =>
    [("type_name", Json.optional typeName), ("error_count", toString paths.length),
     ("paths", Json.list (paths.map Text.jsonString))]

/-- The entry of an event that happens at a moment. -/
def entry (now : Moment) (e : Event) : String :=
  Json.object
    ([("timestamp", Text.jsonString now.iso), ("level", Text.jsonString (if e.isWarning then "warn" else "info")),
      ("event", Text.jsonString e.name), ("service", Text.jsonString "objectschema")] ++ e.details)

end Event

end ShapeCheck
