import ShapeCheck.Definition.Build
import ShapeCheck.Definition.Printing
import ShapeCheck.Definition.References
import ShapeCheck.Schema.Header

/-!
# Schemas

A `Schema` is a collection of types under a namespace and a version. It is built from data, and types can be added,
replaced and removed; each change touches the identity of the schema and is an event. `Schema.datum` writes a schema in
the form that schemas are built from.
-/

namespace ShapeCheck

open Shape

structure Schema where
  namespaceName : String
  version : String
  description : String
  capabilities : Capabilities
  /-- A type may have no name; there is at most one of that kind. -/
  types : Assoc ObjectType (Option String)
  identity : Identity

/-- Why a schema cannot be built or changed. -/
inductive SchemaError where
  | structural (subject : String) (violations : List (Violation Datum))
  /-- What cannot be compiled, and the place of the type. -/
  | compile (location : String) (why : CompileError)
  | identity (issues : List Issue)
  | duplicateType (schemaKey : String) (name : Option String)
  /-- A type would be kept under something that is neither a text nor null, and so is no name. -/
  | strayName

/-- The message of data that has the wrong form. -/
def structuralMessage (subject : String) (violations : List (Violation Datum)) : String :=
  "Invalid " ++ subject ++ " definition: " ++ Violation.summary violations

/-- Making or changing a schema gives notices, and may fail. -/
abbrev Making := ExceptT SchemaError (StateM (List Notice))

def Making.tell (n : Notice) : Making Unit := modify (· ++ [n])

/-- A building whose error has a place. -/
def Making.ofBuilding {α : Type} (location : String) (b : Building α) : Making α := do
  let (result, notices) := b.run.run (← get)
  set notices
  match result with
  | .ok x => return x
  | .error why => throw (.compile location why)

namespace Schema

/-- The type that schemas themselves are of. -/
def entityType : String := "ObjectSchema"

/-- The key under which a schema is registered. -/
def key (s : Schema) : String := s.namespaceName ++ "/" ++ s.version

def typeNames (s : Schema) : List (Option String) := s.types.names

/-- A schema inside a message. -/
def literal (s : Schema) : String :=
  "ObjectSchema(key=" ++ Text.quoted s.key ++ ", types=" ++ Notice.nameList s.typeNames ++ ")"

/-- A name that is looked up has to be one that a key can be. -/
def requireKey (name : Datum) : Making Unit :=
  match name.key with
  | .ok _ => return
  | .error f => throw (.compile "" (.fault f))

/-- The name that a datum is. -/
def nameIn? : Datum → Option (Option String)
  | .scalar (.text s) => some (some s)
  | .scalar .null => some none
  | _ => none

/-- The place of the type under a name, as long as the name can be written. -/
def location (name : Datum) : Making String :=
  match name.written Datum.plain with
  | .ok text => return "types." ++ text
  | .error f => throw (.compile "" (.fault f))

/-- The type that is defined under a name, which is a text or null. The name is one of the fields that are read, so what else is
wrong with the definition is told together with a bad name. A type that was made before is not read again, and bytes are read as
a text; neither makes a name of what is none, and nothing is kept under it. -/
def makeType (around : Surroundings) (name definition : Datum) : Making (Option String × ObjectType) := do
  let location ← location name
  let refuse (issues : List Issue) : Making ObjectType :=
    throw (.structural ("type " ++ name.literal) (issues.map (Issue.violation location)))
  let known := match definition with
    | .structured "Type" (some handle) _ => around.built handle
    | _ => none
  let made ← match known, definition.entries? with
    | some t, _ => pure t
    | none, none => refuse [⟨[], .notMapping, definition⟩]
    | none, some es =>
      match ← Making.ofBuilding location (Building.type around (.mapping (Entries.put (.text "name") name es))) with
      | .ok t => pure t
      | .bad issues => refuse issues
  match nameIn? name with
  | some n => return (n, made.rename n)
  | none => do
    requireKey name
    throw .strayName

/-- Types in order. -/
def makeTypes (around : Surroundings) : List (String × Datum) → Making (Assoc ObjectType (Option String))
  | [] => return []
  | (name, definition) :: rest => do
    let made ← makeType around (.text name) definition
    return made :: (← makeTypes around rest)

/-- A schema from a mapping. -/
def make (around : Surroundings) (clock : Clock) (factory : Option IdentityFactory) (options : List (Key × Datum)) :
    Making Schema := do
  match Header.read options with
  | .bad issues => throw (.structural entityType (issues.map (Issue.violation "")))
  | .ok header =>
    let types ← makeTypes around header.types
    let identity ← match header.id, factory with
      | some id, _ => pure (Identity.restored clock entityType id header.createdOn header.updatedOn)
      | none, none => pure (Identity.fresh clock entityType)
      | none, some f =>
        match f entityType with
        | .ok i => pure i
        | .bad issues => throw (.identity issues)
    let s : Schema :=
      { namespaceName := header.namespaceName, version := header.version, description := header.description,
        capabilities := around.capabilities, types := types, identity := identity }
    Making.tell (.built s.key s.typeNames)
    return s

/-- A schema whose types have just changed. -/
def withTypes (clock : Clock) (types : Assoc ObjectType (Option String)) (s : Schema) : Schema :=
  { s with types := types, identity := s.identity.touched clock }

/-- The type under a name. -/
def type? (s : Schema) (name : Datum) : Option ObjectType := (nameIn? name).bind s.types.get?

/-- Adds a type under a name that is not taken. -/
def addType (s : Schema) (around : Surroundings) (clock : Clock) (name definition : Datum) :
    Making (ObjectType × Schema) := do
  requireKey name
  match nameIn? name with
  | some n => if s.types.has n then throw (.duplicateType s.key n)
  | none => pure ()
  let (n, t) ← makeType { around with capabilities := s.capabilities } name definition
  Making.tell (.event (.typeChanged .added s.key n))
  return (t, s.withTypes clock (s.types.put n t))

/-- Puts a type under a name, and gives the one that it replaces. -/
def setType (s : Schema) (around : Surroundings) (clock : Clock) (name definition : Datum) :
    Making (Option ObjectType × Schema) := do
  let (n, t) ← makeType { around with capabilities := s.capabilities } name definition
  let previous := s.types.get? n
  Making.tell (.event (.typeChanged (if previous.isSome then .replaced else .added) s.key n))
  return (previous, s.withTypes clock (s.types.put n t))

/-- Takes a type out and gives it. Without such a type nothing changes, and without any type no name is looked up. -/
def removeType (s : Schema) (clock : Clock) (name : Datum) : Making (Option ObjectType × Schema) := do
  if !s.types.isEmpty then requireKey name
  match nameIn? name, s.type? name with
  | some n, some t =>
    Making.tell (.event (.typeChanged .removed s.key n))
    return (some t, s.withTypes clock (s.types.erase n))
  | _, _ => return (none, s)

/-- A schema as data. -/
def datum (s : Schema) : Datum :=
  Datum.record ([("namespace", .text s.namespaceName), ("version", .text s.version),
    ("description", .text s.description),
    ("types", .mapping (s.types.map fun (name, t) => (name.elim (.scalar .null) .text, t.definition.datum)))] ++ s.identity.entries)

/-- The references of all types of a schema. -/
def references (s : Schema) : List TypeRef := (s.types.flatMap fun (_, t) => t.definition.references).eraseDups

/-- The type of the schema itself that a reference is to. -/
def localType? (s : Schema) (r : TypeRef) : Option ObjectType :=
  if r.namespaceName = s.namespaceName ∧ r.version = s.version then s.types.get? (some r.name) else none

end Schema

end ShapeCheck
