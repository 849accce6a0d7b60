import ShapeCheck.Assoc
import ShapeCheck.Definition.Basic
import ShapeCheck.Reference.Lookup
import ShapeCheck.Schema.Identity

/-!
# Headers

The header of a schema is everything but its types: `Header.read` checks all of it in one pass, and takes the definitions
of types as they are.
-/

namespace ShapeCheck

open Shape

structure Header where
  namespaceName : String
  version : String
  description : String
  types : Assoc Datum
  id : Option String
  entityType : Option String
  createdOn : Option Moment
  updatedOn : Option Moment

/-- The definitions of types. -/
def Field.types : Field := { name := "types" }

namespace Header

def fields : List Field :=
  [.ofNamespace, .ofVersion, .description, .types, .id, .entityType, .createdOn, .updatedOn]

/-- Names of types with what stands under them. -/
def typeEntries : List (Key × Datum) → Reading (List (String × Datum))
  | [] => .ok []
  | (k, d) :: rest => ((Reading.keyText k).both (typeEntries rest)).map fun (name, others) => (name, d) :: others

/-- The types of a schema. Of two keys that read as one name the later gives the type. -/
def readTypes (d : Datum) : Reading (Assoc Datum) :=
  match d.entries? with
  | some es => (typeEntries es).map Assoc.ofList
  | none => .fail .notMapping d

/-- The header of a schema that is given as a mapping. -/
def read (es : List (Key × Datum)) : Reading Header :=
  let r : Record := ⟨.mapping es, es⟩
  let moment (f : Field) : Reading (Option Moment) := r.optional f none (Reading.orNull Reading.timeStamp)
  (r.closing fields ((r.required .ofNamespace Reading.namespaceName).both ((r.required .ofVersion Reading.version).both
    ((r.required .description Reading.someText).both ((r.optional .types [] readTypes).both
    ((r.optional .id none (Reading.orNull Reading.someText)).both
    ((r.optional .entityType none Reading.note).both ((moment .createdOn).both (moment .updatedOn))))))))).map fun ((namespaceName, version, description, types, id, entityType, createdOn, updatedOn), _) =>
      ⟨namespaceName, version, description, types, id, entityType, createdOn, updatedOn⟩

end Header

end ShapeCheck
