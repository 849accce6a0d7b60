import ShapeCheck.Workspace.Registries
import ShapeCheck.Yaml.Document

/-!
# Loading

Schemas are loaded from documents. A file that was loaded before with the same capabilities is not read again; what is
known of a file is forgotten only by `Work.forgetLoaded`.
-/

namespace ShapeCheck

/-- The name of the sort of a value, as in messages. -/
def Store.sortName (σ : Store) (v : Value) : String :=
  match v with
  | .container _ =>
    match σ.cell? v with
    | some (.list _) => "list"
    | some (.tuple _) => "tuple"
    | some (.set _) => "set"
    | some (.readOnly _) => "mappingproxy"
    | _ => "dict"
  | .scalar a => a.sortName

namespace Work

/-- The value of a document. -/
def readDocument (text : String) (σ : Store) : Work (Value × Store) :=
  match Yaml.load text σ with
  | .ok found => return found
  | .error e => throw (.yaml e)

/-- The value of the document in a file, put into a store. -/
def valueIn (content : FileContent) (σ : Store) : Except Failure (Value × Store) :=
  match content.document with
  | .ok text => (Yaml.load text σ).mapError .yaml
  | .error f => .error f

/-- Makes a schema from a document, perhaps from a file. -/
def makeFromDocument (capabilities : CapabilitiesHandle) (path : Option String) (text : String) :
    Work SchemaHandle := do
  let (v, σ) ← readDocument text {}
  if (σ.entries? v).isNone then throw (.notMapping path (σ.sortName v))
  makeSchema capabilities none ((σ.definition v).entries?.getD [])

/-- Makes a schema from what is in a file. -/
def makeFromFile (capabilities : CapabilitiesHandle) (path : FilePath) (content : FileContent) : Work SchemaHandle :=
  match content.document with
  | .ok text => makeFromDocument capabilities (some path.text) text
  | .error f => throw f

/-- Loads a schema from a file. -/
def load (capabilities : CapabilitiesHandle) (path : FilePath) : Work SchemaHandle := do
  let w ← get
  let full := path.resolve w.files.present
  match w.recalled? full capabilities with
  | some h =>
    tell (.cacheHit full.text)
    return h
  | none =>
    match w.files.at? path with
    | none => throw (.noFile path.text)
    | some (.directory _) => throw (.isDirectory path.text)
    | some (.file content) =>
      let h ← makeFromFile capabilities path content
      modify fun w => { w with loaded := ((full, w.ids capabilities), ⟨h, capabilities⟩) :: w.loaded }
      let s ← schema h
      tell (.loaded s.key full.text s.types.length s.references.length)
      return h

/-- The endings of files with schemas. -/
def schemaSuffixes : List String := [".yaml", ".yml", ".json"]

/-- Loads and registers the schemas of the files with the given names in a directory. -/
def loadAll (capabilities : CapabilitiesHandle) (directory : FilePath) (r : RegistryHandle) :
    List String → Work (List SchemaHandle)
  | [] => return []
  | name :: rest => do
    let h ← load capabilities (directory.child name)
    register r h
    return h :: (← loadAll capabilities directory r rest)

/-- Loads and registers the schemas of a directory, in the order of the names of their files. -/
def loadDirectory (capabilities : CapabilitiesHandle) (path : FilePath) (r : RegistryHandle) :
    Work (List SchemaHandle) := do
  let w ← get
  match w.files.at? path with
  | some (.directory names) =>
    let isSchemaFile (name : String) : Bool :=
      schemaSuffixes.contains (path.child name).suffix.toLower &&
        match w.files.at? (path.child name) with
        | some (.file _) => true
        | _ => false
    let handles ← loadAll capabilities path r
      ((names.filter isSchemaFile).mergeSort fun a b => decide (a ≤ b))
    tell (.loadedDirectory handles.length path.text)
    return handles
  | _ => throw (.noDirectory path.text)

/-- Forgets which files were loaded. -/
def forgetLoaded : Work Unit := modify fun w => { w with loaded := [] }

end Work

end ShapeCheck
