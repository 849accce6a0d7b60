import ShapeCheck.Definition.Basic
import ShapeCheck.Reference.Lookup

/-!
# Definitions as data

`TypeDef.datum` writes a definition in the form that definitions are read from. What is absent is left out; the flags are
always written. References and types inside of arguments are written as records. `TypeDef.structured` is a type as a part of
other data, with all of its fields.
-/

namespace ShapeCheck

/-- The second spelling of a field, where it has one. -/
def Field.lastSpelling (f : Field) : String := f.second.getD f.name

/-- The first spelling of a field of a type or a property that is given by its last one. -/
def Field.firstSpelling (last : String) : String :=
  (((TypeDef.fields ++ PropertyDef.fields).find? fun f => f.lastSpelling = last).map Field.name).getD last

mutual
/-- An argument with its references and types as records; read-only mappings stay as they are. -/
def Datum.plainData : Datum → Datum
  | .scalar (.reference r) => r.datum
  | .list xs => .list (plainItems xs)
  | .tuple xs => .tuple (plainItems xs)
  | .set xs => .set (plainItems xs)
  | .mapping es => .mapping (plainEntries es)
  | .structured _ _ parts => .mapping (plainParts parts)
  | @Datum.back names trees level => @Datum.back names (plainItems trees) level
  | d => d
def Datum.plainParts : List (String × Datum) → List (Key × Datum)
  | [] => []
  | (name, d) :: rest =>
    let others := Datum.plainParts rest
    if d.isNull then others else (.text (Field.firstSpelling name), d.plainData) :: others
def Datum.plainItems : List Datum → List Datum
  | [] => []
  | d :: rest => d.plainData :: Datum.plainItems rest
def Datum.plainEntries : List (Key × Datum) → List (Key × Datum)
  | [] => []
  | (k, d) :: rest => (k, d.plainData) :: Datum.plainEntries rest
end

def Constraint.datum (c : Constraint) : Datum :=
  Datum.record [("method", .text c.method), ("args", .list (Datum.plainItems c.args))]

/-- A field that is left out when there is nothing to write. -/
def noteField (name : String) : Option String → List (String × Datum)
  | none => []
  | some s => [(name, .text s)]

def Leniency.entries (l : Leniency) : List (String × Datum) :=
  [("allowExtraKeys", .bool l.allowExtraKeys), ("skipFunctions", .bool l.skipFunctions),
   ("saveConversions", .bool l.saveConversions), ("skipConversions", .bool l.skipConversions),
   ("stripExtraKeys", .bool l.stripExtraKeys)]

mutual
/-- A property as data. -/
def PropertyDef.datum : PropertyDef → Datum
  | ⟨description, kind, constraints, inlineTypes⟩ =>
    Datum.record (noteField "description" description ++
      [("type", .text kind), ("constraints", .list (constraints.map Constraint.datum))] ++
      match inlineTypes with
      | none => []
      | some ts => [("typeArgs", .list (TypeDef.namedData ts))])
/-- A type as data, without its name. -/
def TypeDef.datum : TypeDef → Datum
  | ⟨_, description, leniency, properties⟩ =>
    Datum.record (noteField "description" description ++ leniency.entries ++
      [("properties", Datum.record (PropertyDef.entries properties))])
/-- Types as data, each with its name. -/
def TypeDef.namedData : List TypeDef → List Datum
  | [] => []
  | ⟨name, description, leniency, properties⟩ :: rest =>
    Datum.record (noteField "name" name ++ noteField "description" description ++ leniency.entries ++
      [("properties", Datum.record (PropertyDef.entries properties))]) :: TypeDef.namedData rest
def PropertyDef.entries : List (String × PropertyDef) → List (String × Datum)
  | [] => []
  | (name, p) :: rest => (name, p.datum) :: PropertyDef.entries rest
end

/-! ## Types as parts of other data -/

/-- Fields with what stands in them. -/
def fieldParts (parts : List (Field × Datum)) : List (String × Datum) := parts.map fun (f, d) => (f.lastSpelling, d)

def Constraint.structured (c : Constraint) : Datum :=
  .structured "Constraint" none (fieldParts [(.method, .text c.method), (.args, .list c.args)])

def Leniency.parts (l : Leniency) : List (Field × Datum) :=
  Leniency.fields.zip
    ([l.allowExtraKeys, l.skipFunctions, l.saveConversions, l.skipConversions, l.stripExtraKeys].map Datum.bool)

mutual
/-- A property with all of its fields, which may be of a type that was built before. -/
def PropertyDef.structured (handle : Option TypeHandle) : PropertyDef → Datum
  | ⟨description, kind, constraints, inlineTypes⟩ =>
    .structured "Property" handle (fieldParts [(.description, .textOrNull description), (.kind, .text kind),
      (.constraints, .list (constraints.map Constraint.structured)),
      (.inlineTypes, match inlineTypes with
        | none => .null
        | some ts => .list (TypeDef.structuredAll ts))])
/-- A type with all of its fields, which may have been built before. -/
def TypeDef.structured (handle : Option TypeHandle) : TypeDef → Datum
  | ⟨name, description, leniency, properties⟩ =>
    .structured "Type" handle (fieldParts ([(.typeName, .textOrNull name), (.description, .textOrNull description)] ++
      leniency.parts ++ [(.properties, .mapping (PropertyDef.structuredEntries handle properties))]))
def TypeDef.structuredAll : List TypeDef → List Datum
  | [] => []
  | t :: rest => t.structured none :: TypeDef.structuredAll rest
def PropertyDef.structuredEntries (handle : Option TypeHandle) : List (String × PropertyDef) → List (Key × Datum)
  | [] => []
  | (name, p) :: rest =>
    (.text name, p.structured (handle.map (·.ofProperty name))) :: PropertyDef.structuredEntries handle rest
end

end ShapeCheck
