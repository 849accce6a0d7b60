import ShapeCheck.Workspace.Schemas

/-!
# Registries of a workspace

Registering schemas, and looking types up by reference. `Workspace.typeAt?` is the only way from a reference to a type:
look-up, resolution and the search for what is missing all go through it.
-/

namespace ShapeCheck

namespace Workspace

/-- The type that a registry finds for a reference. -/
def typeAt? (w : Workspace) (r : Registry) (ref : TypeRef) : Option ObjectType :=
  ((r.find? ref.schemaKey).bind fun h => w.schemas[h]?).bind fun s => s.types.get? (some ref.name)

/-- What references lead to by a registry. -/
def resolver (w : Workspace) (r : Registry) : Resolver := fun ref => (w.typeAt? r ref).map ObjectType.checker

/-- The references of a type that a registry does not find. -/
def missingOf (w : Workspace) (r : Registry) (t : ObjectType) : List TypeRef :=
  t.definition.references.filter fun ref => (w.typeAt? r ref).isNone

/-- The references of a schema that neither a registry nor the schema itself finds. -/
def missingOfSchema (w : Workspace) (r : Registry) (s : Schema) : List TypeRef :=
  s.references.filter fun ref =>
    !(ref.schemaKey = s.key && s.types.has (some ref.name)) && (w.typeAt? r ref).isNone

end Workspace

namespace Work

/-- Makes a registry on a backing that has all operations. -/
def makeRegistry (b : Backing) : Work RegistryHandle := do
  match Registry.make? b with
  | some r => modifyGet fun w => (w.registries.size, { w with registries := w.registries.push r })
  | none =>
    throw (.incapable (match b with
      | .memory => ""
      | .supplied implementation _ => implementation) b.missing)

def registry (h : RegistryHandle) : Work Registry := do
  match (← get).registries[h]? with
  | some r => return r
  | none => throw .strayHandle

/-- Registers a schema. -/
def register (r : RegistryHandle) (h : SchemaHandle) : Work Unit := do
  let reg ← registry r
  let s ← schema h
  if reg.tellsReplacing s.key then tell (.replacing s.key)
  modify fun w => { w with registries := w.registries.setIfInBounds r (reg.register s.key h) }
  tell (.event (.schemaRegistered s.key s.typeNames))
  tell (.registered s.key s.types.length)
  trace (.registered s.key s.types.length)

/-- The reference that a lookup key stands for. -/
def reference (key : Datum) : Work TypeRef :=
  match TypeRef.ofKey key with
  | .ok ref => return ref
  | .error e => throw (.ofLookup e)

/-- The type that a registry finds for a lookup key. -/
def lookup (r : RegistryHandle) (key : Datum) : Work (Option ObjectType) := do
  let reg ← registry r
  let ref ← reference key
  return (← get).typeAt? reg ref

/-- The type that a registry finds for the parts of a reference; none if they do not make one. -/
def resolve (r : RegistryHandle) (namespaceName version name : Datum) : Work (Option ObjectType) := do
  let reg ← registry r
  match TypeRef.read (Datum.record [("namespace", namespaceName), ("version", version), ("type_name", name)]) with
  | .ok ref => return (← get).typeAt? reg ref
  | .bad _ =>
    tell (.unresolvable namespaceName.plain version.plain name.plain)
    return none

/-- What references lead to by a registry. -/
def resolver (r : RegistryHandle) : Work Resolver := do return (← get).resolver (← registry r)

end Work

end ShapeCheck
