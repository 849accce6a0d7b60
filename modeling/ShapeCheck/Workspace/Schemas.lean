import ShapeCheck.Workspace.Basic

/-!
# Schemas of a workspace

Making and changing the schemas of a workspace. A change that fails leaves the schema as it was.
-/

namespace ShapeCheck

namespace Workspace

/-- The type that a reference from a schema to itself is to. -/
def localResolver (s : Schema) : Resolver := fun ref => (s.localType? ref).map ObjectType.checker

end Workspace

namespace Work

/-- Runs the making of something and passes its notices on. -/
def ofMaking {α : Type} (m : Making α) : Work α := do
  let (result, notices) := m.run.run []
  tellAll notices
  match result with
  | .ok a => return a
  | .error e => throw (.schema e)

def schema (h : SchemaHandle) : Work Schema := do
  match (← get).schemas[h]? with
  | some s => return s
  | none => throw .strayHandle

def setSchema (h : SchemaHandle) (s : Schema) : Work Unit :=
  modify fun w => { w with schemas := w.schemas.setIfInBounds h s }

/-- The surroundings that types of a schema are built in. -/
def surroundingsAt (h : CapabilitiesHandle) : Work Surroundings := do
  match (← get).capabilities[h]? with
  | some c => surroundings c
  | none => throw .strayHandle

/-- Makes a schema from a mapping. -/
def makeSchema (capabilities : CapabilitiesHandle) (factory : Option IdentityFactory) (options : List (Key × Datum)) :
    Work SchemaHandle := do
  let around ← surroundingsAt capabilities
  addSchema (← ofMaking (Schema.make around (← get).clock factory options))

/-- Makes a schema from a datum that is a mapping or makes one, and from more entries. What is empty or zero makes a
mapping without entries. -/
def makeSchemaOf (capabilities : CapabilitiesHandle) (factory : Option IdentityFactory) (options : Datum)
    (more : List (Key × Datum)) : Work SchemaHandle := do
  match if options.isTruthy then options.asEntries else .ok [] with
  | .error f => throw (.run f)
  | .ok es => makeSchema capabilities factory (more.foldl (fun es (k, d) => Entries.put k d es) es)

/-- Makes a schema like another one, from its data. -/
def rebuild (h : SchemaHandle) : Work SchemaHandle := do
  makeSchema standardCapabilities none ((← schema h).datum.entries?.getD [])

/-- Adds a type to a schema under a name that is not taken. -/
def addSchemaType (h : SchemaHandle) (name definition : Datum) : Work ObjectType := do
  let s ← schema h
  let (t, s) ← ofMaking (s.addType (← surroundings s.capabilities) (← get).clock name definition)
  setSchema h s
  return t

/-- Puts a type into a schema, and gives the one that it replaces. -/
def setSchemaType (h : SchemaHandle) (name definition : Datum) : Work (Option ObjectType) := do
  let s ← schema h
  let (previous, s) ← ofMaking (s.setType (← surroundings s.capabilities) (← get).clock name definition)
  setSchema h s
  return previous

/-- Takes a type out of a schema and gives it. -/
def removeSchemaType (h : SchemaHandle) (name : Datum) : Work (Option ObjectType) := do
  let s ← schema h
  let (previous, s) ← ofMaking (s.removeType (← get).clock name)
  setSchema h s
  return previous

/-- The type of a schema under a name. -/
def typeNamed (h : SchemaHandle) (name : Datum) : Work (Option ObjectType) := do
  ofMaking (Schema.requireKey name)
  return (← schema h).type? name

/-- Validates a value against a type of a schema. Without a resolver, references to the schema itself can be followed. -/
def validateAs (h : SchemaHandle) (name : Datum) (resolver : Option Resolver) (v : Value) : Work Unit := do
  let s ← schema h
  match ← typeNamed h name with
  | none => throw (.unknownType s.key name)
  | some t => validate t (resolver.getD (Workspace.localResolver s)) none v

end Work

end ShapeCheck
