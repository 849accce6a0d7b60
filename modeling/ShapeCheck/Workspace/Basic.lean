import ShapeCheck.Files
import ShapeCheck.Log.Output
import ShapeCheck.Log.Span
import ShapeCheck.Settings
import ShapeCheck.Settings.Variables
import ShapeCheck.Text.UpperCase
import ShapeCheck.Validation.Follow
import ShapeCheck.Workspace.Failure

/-!
# Workspaces

A `Workspace` holds all that operations share: files and variables, settings, the log, and tables of the capabilities,
types, schemas and registries that were made, in which handles name places. `Work` is an operation on a workspace, which
may fail and keeps what it did before it failed.
-/

namespace ShapeCheck

/-- Capabilities, by their place in the table of capabilities. -/
abbrev CapabilitiesHandle := Nat

/-- A registry, by its place in the table of registries. -/
abbrev RegistryHandle := Nat

/-- A line of what a program says beside its output. -/
inductive SideLine where
  | log (line : LogLine)
  | plain (text : String)
deriving DecidableEq

namespace SideLine

/-- A line, with the time of a line of the log as given. Lone surrogates are written as escapes. -/
def text (time : LogLine → String) : SideLine → String
  | .log line => Text.backslashed (line.text (time line))
  | .plain text => Text.backslashed text

end SideLine

/-- A schema that was loaded, with the capabilities that it was built with. -/
structure CachedSchema where
  schema : SchemaHandle
  capabilities : CapabilitiesHandle
deriving DecidableEq

structure Workspace where
  clock : Clock
  files : Files
  environment : Assoc String := []
  settings : Option Settings := none
  logging : Logging := {}
  capabilities : Array Capabilities := #[.standard]
  types : Array ObjectType := #[]
  schemas : Array Schema := #[]
  registries : Array Registry := #[]
  /-- The id of capabilities while they are in use. Two that are not in use at the same time may have one id. -/
  ids : CapabilitiesHandle → Nat := id
  /-- The schemas that were loaded, by the file and the id of the capabilities. -/
  loaded : List ((FilePath × Nat) × CachedSchema) := []
  /-- The values that are validated. -/
  store : Store := {}
  notices : Array Notice := #[]
  /-- The lines of the output. -/
  output : Array String := #[]
  /-- The lines of the log, and what else is said beside the output. -/
  sideLines : Array SideLine := #[]
  spans : Array Span := #[]

namespace Workspace

/-- What was loaded from a file with some capabilities. What is found by their id counts only if it was built with them. -/
def recalled? (w : Workspace) (full : FilePath) (c : CapabilitiesHandle) : Option SchemaHandle :=
  match w.loaded.lookup (full, w.ids c) with
  | some cached => if cached.capabilities = c then some cached.schema else none
  | none => none

end Workspace

/-- The standard capabilities, which every workspace has from the start. -/
def standardCapabilities : CapabilitiesHandle := 0

/-- An operation on a workspace. -/
abbrev Work := ExceptT Failure (StateM Workspace)

namespace Work

/-- Gives a notice to the log. -/
def tell (n : Notice) : Work Unit := modify fun w =>
  { w with
    notices := w.notices.push n
    sideLines := match w.logging.line? w.clock.now n with
      | some line => w.sideLines.push (.log line)
      | none => w.sideLines }

def tellAll (ns : List Notice) : Work Unit := ns.forM tell

/-- Writes a line of output. A line with lone surrogates cannot be written. -/
def print (line : String) : Work Unit :=
  if Text.hasSurrogate line then throw (.run (.unencodable line))
  else modify fun w => { w with output := w.output.push line }

/-- Says something beside the output. -/
def say (line : String) : Work Unit := modify fun w => { w with sideLines := w.sideLines.push (.plain line) }

def trace (s : Span) : Work Unit := modify fun w => { w with spans := w.spans.push s }

/-- Adds a type to the table of types, and gives the datum that stands for it. -/
def addType (t : ObjectType) : Work Datum :=
  modifyGet fun w =>
    let ruled := (t.checker.properties.filter fun p => !p.2.rules.isEmpty).map Prod.fst
    let handle : TypeHandle := { name := t.name, index := w.types.size, ruled }
    (t.definition.structured (some handle), { w with types := w.types.push t })

def addSchema (s : Schema) : Work SchemaHandle :=
  modifyGet fun w => (w.schemas.size, { w with schemas := w.schemas.push s })

def addCapabilities (c : Capabilities) : Work CapabilitiesHandle :=
  modifyGet fun w => (w.capabilities.size, { w with capabilities := w.capabilities.push c })

/-- What a build with some capabilities can look up. -/
def surroundings (capabilities : Capabilities) : Work Surroundings := do
  let types := (← get).types
  return ⟨capabilities, fun handle => types[handle.index]?⟩

/-- The name of the file of variables. -/
def variablesFile : FilePath := FilePath.ofText ".env"

/-- The variables of a file, of the environment and of nothing else, the environment first. -/
def variableSources : Work (List (Assoc (Option String))) := do
  let w ← get
  let environment := w.environment.map fun (n, v) => (n, some v)
  match w.files.at? variablesFile with
  | some (.file (.text text)) => return [environment, Variables.read w.environment text]
  | some (.file (.bytes _)) => throw (.run .undecodable)
  | _ => return [environment]

/-- The present settings. They are read when they are first asked for, and anew for each set of overrides. -/
def settings (overrides : List (Key × Datum)) : Work Settings := do
  match (← get).settings, overrides with
  | some s, [] => return s
  | _, _ =>
    match Settings.make overrides (← variableSources) with
    | .bad issues => throw (.settings issues)
    | .ok s =>
      modify fun w => { w with settings := some s }
      return s

/-- Forgets the present settings. -/
def resetSettings : Work Unit := modify fun w => { w with settings := none }

/-- Starts the log, or starts it anew. What is not given is taken from the settings. -/
def configureLogging (level format : Option String) : Work Unit := do
  let s ← settings []
  let given (text : Option String) (absent : String) : String :=
    match text with
    | none => absent
    | some t => if t = "" then absent else t
  let name := Text.uppercase (given level s.logLevel)
  match Logging.withLevel? name (.ofSetting (given format s.logFormat)) with
  | none => throw (.unknownLevel name)
  | some logging => modify fun w => { w with logging := logging }

/-- The bound for references inside of each other: the given one, or else that of the settings. -/
def depthBound : Option Int → Work Int
  | some n => return n
  | none => do return (← settings []).maxDepth

/-- What a run has found, in the log and as a failure. -/
def conclude (t : ObjectType) (σ : Store) (found : Findings) : Work Unit := do
  let paths := found.map fun f => f.path.text
  tell (if found.isEmpty then .passed t.name else .failed t.name paths)
  trace (.validated t.name found)
  if !found.isEmpty then
    tell (.event (.validationFailed t.name paths))
    let trees := σ.trees
    throw (.nonconforming t.name (found.map (Violation.map (σ.treeWith trees))))

/-- Validates a value against a type. The value may change, also if the validation fails. -/
def validate (t : ObjectType) (resolve : Resolver) (maxDepth : Option Int) (v : Value) : Work Unit := do
  let limit ← depthBound maxDepth
  let outcome := t.checker.validate resolve limit v (← get).store
  modify fun w => { w with store := outcome.run.store }
  tellAll (outcome.run.visits.filterMap fun visit =>
    if visit.outcome = .entered then some (.resolving visit.ref visit.path (visit.context.depth + 1)) else none)
  match outcome.result with
  | .error e => throw (.run e)
  | .ok found => conclude t outcome.run.store found

end Work

end ShapeCheck
