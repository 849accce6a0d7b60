import ShapeCheck.CommandLine.Help
import ShapeCheck.Workspace.Loading

/-!
# Running commands

`CommandLine.run` runs a command line in a workspace. The exit status is 0 if all is well, 1 if a file or a value failed,
and 2 if there was nothing to validate with. A failure that a command does not expect ends it.
-/

namespace ShapeCheck.CommandLine

/-- How a command line ends. -/
inductive Ending where
  | exit (status : Nat)
  | escaped (f : Failure)

/-- What is written beside the output when a command line is not understood. -/
def errorText (path synopsis : String) (e : UsageError) : List String :=
  (if e.tellsUsage then [usageLine path synopsis, "Try '" ++ path ++ " --help' for help.", ""] else []) ++
    ["Error: " ++ e.message]

/-- Ends a command line that runs no command. -/
def stop (path synopsis : String) (help : List String) : Stop → Work Nat
  | .error e => do
    (errorText path synopsis e).forM Work.say
    return 2
  | .nothingGiven => do
    help.forM Work.say
    return 2
  | .help => do
    help.forM Work.print
    return 0
  | .version => do
    Work.print (versionLine path)
    return 0

/-- A failure of a text that is no document. -/
def isMalformed : Failure → Bool
  | .yaml .malformed => true
  | _ => false

/-- A failure that commands report: something is wrong with a schema, a key or a document. -/
def isReported : Failure → Bool
  | .schema (.compile _ (.authoring _)) => true
  | .schema (.compile _ (.fault f)) => f.family = .sort
  | .schema (.compile ..) => false
  | .schema (.identity _) => false
  | .schema _ => true
  | .lookup _ => true
  | .notMapping .. => true
  | .yaml .malformed => true
  | .yaml .stampInMapping => true
  | _ => false

/-- Runs an operation and gives its failure, if that is one to be reported. -/
def reporting {α : Type} (isReported : Failure → Bool) (w : Work α) : Work (Except Failure α) := do
  try return .ok (← w)
  catch f => if isReported f then return .error f else throw f

/-! ## Checking files -/

/-- The lines about a schema that was loaded from a file. -/
def reportLines (file : String) (s : Schema) : List String :=
  let outside := s.references.filter fun ref => ref.schemaKey ≠ s.key
  let types := ", ".intercalate (s.typeNames.map fun n => n.getD "None")
  ["[OK]   " ++ file ++ ": " ++ s.key, "       types: " ++ if types = "" then "(none)" else types] ++
    if outside.isEmpty then [] else ["       references: " ++ ", ".intercalate (sortedTexts outside)]

/-- Loads a file and reports on it; tells whether all is well. -/
def checkFile (file : FilePath) : Work Bool := do
  match ← reporting isReported (do Work.schema (← Work.load standardCapabilities file)) with
  | .ok s =>
    (reportLines file.text s).forM Work.print
    return true
  | .error f =>
    Work.say ("[FAIL] " ++ file.text ++ ": " ++ f.message)
    return false

/-- Loads files one after the other and counts those that failed. -/
def checkFiles : List FilePath → Work Nat
  | [] => return 0
  | file :: rest => do
    let fine ← checkFile file
    return (if fine then 0 else 1) + (← checkFiles rest)

def check (files : List String) : Work Nat := do
  let failed ← checkFiles (files.map FilePath.ofText)
  if failed = 0 then return 0
  Work.say ""
  Work.say (toString failed ++ " of " ++ toString files.length ++ " schema file(s) failed")
  return 1

/-! ## Validating a file -/

/-- Registers the schema of a file, or those of a directory. -/
def registerPath (r : RegistryHandle) (path : FilePath) : Work Unit := do
  match (← get).files.at? path with
  | some (.directory _) => let _ ← Work.loadDirectory standardCapabilities path r
  | _ => Work.register r (← Work.load standardCapabilities path)

/-- A violation as data. -/
def violationDatum (v : Violation Datum) : Datum :=
  Datum.record [("path", .text v.path.text), ("message", .text v.message), ("code", .text v.code.text),
    ("constraint", .textOrNull v.constraint), ("value", v.value)]

/-- The result of a validation as data. -/
def resultDatum (typeName : Option String) (violations : List (Violation Datum)) : Datum :=
  Datum.record [("type", .textOrNull typeName), ("error_count", .int violations.length),
    ("errors", .list (violations.map violationDatum))]

def printResult (typeName : Option String) (violations : List (Violation Datum)) : Work Unit :=
  match (resultDatum typeName violations).json with
  | .ok text => Work.print text
  | .error e => throw (.json e)

/-- Validates a value and prints what is found. -/
def validateValue (t : ObjectType) (resolve : Resolver) (reference : String) (asJson : Bool) (file : FilePath)
    (v : Value) : Work Nat := do
  let found ← try
      Work.validate t resolve none v
      pure none
    catch
      | .nonconforming typeName violations => pure (some (typeName, violations))
      | f => throw f
  match found with
  | none =>
    if asJson then printResult t.name []
    else Work.print ("[OK]   " ++ file.text ++ " conforms to " ++ reference)
    return 0
  | some (typeName, violations) =>
    if asJson then printResult typeName violations
    else
      Work.print ("[FAIL] " ++ file.text ++ " does not conform to " ++ reference)
      (violations.map fun v => "  - " ++ v.text).forM Work.print
    return 1

/-- The value of a document in a file, in the store of the workspace. -/
def readValue (file : FilePath) : Work Value := do
  let w ← get
  match w.files.at? file with
  | some (.file content) =>
    match Work.valueIn content w.store with
    | .error f => throw f
    | .ok (v, σ) =>
      set { w with store := σ }
      return v
  | some (.directory _) => throw (.isDirectory file.text)
  | none => throw (.noFile file.text)

def validate (schemas : List String) (reference : String) (asJson : Bool) (dataFile : String) : Work Nat := do
  let r ← Work.makeRegistry .memory
  let file := FilePath.ofText dataFile
  match ← reporting isReported (do
      (schemas.map FilePath.ofText).forM (registerPath r)
      Work.lookup r (.text reference)) with
  | .error f =>
    Work.say ("Error: " ++ f.message)
    return 2
  | .ok none =>
    Work.say ("Error: type not registered: " ++ reference)
    return 2
  | .ok (some t) =>
    match ← reporting isMalformed (readValue file) with
    | .error f =>
      Work.say ("Error: cannot parse " ++ file.text ++ ": " ++ f.message)
      return 2
    | .ok v => validateValue t (← Work.resolver r) reference asJson file v

/-! ## Command lines -/

def runCommand : Command → Work Nat
  | .check files => check files
  | .validate schemas reference asJson dataFile => validate schemas reference asJson dataFile

/-- Runs a command line of a program with a name; gives the exit status. -/
def runArguments (program : String) (args : List String) : Work Nat := do
  match Invocation.parse args with
  | .error e => stop program programSynopsis (programHelp program) e
  | .ok invocation =>
    Work.configureLogging invocation.logLevel none
    let path := program ++ " " ++ invocation.command.text
    match Command.parse (← get).files invocation.command invocation.arguments with
    | .error e => stop path invocation.command.usage (commandHelp path invocation.command) e
    | .ok command => runCommand command

/-- Runs a command line. -/
def run (program : String) (args : List String) (w : Workspace) : Ending × Workspace :=
  match (runArguments program args).run.run w with
  | (.ok status, w) => (.exit status, w)
  | (.error f, w) => (.escaped f, w)

end ShapeCheck.CommandLine
