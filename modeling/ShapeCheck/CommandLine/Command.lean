import ShapeCheck.CommandLine.Arguments
import ShapeCheck.Files

/-!
# Commands

The program has two commands: `check` loads files with schemas and reports on each, and `validate` validates a file
against a type. `Invocation.parse` reads what stands before the name of the command, and `Command.parse` what follows it.
Of several faults the first counts: of options that are not known or lack a value, in their order; of the values of
options, in the order in which they are given; of the arguments; of options that are missing; of arguments too many.
-/

namespace ShapeCheck.CommandLine

/-- The log level, an option of the program itself. -/
def logLevelOption : OptionName := ⟨["--log-level"], true⟩
def versionOption : OptionName := ⟨["--version"], false⟩
def helpOption : OptionName := ⟨["--help"], false⟩
def schemasOption : OptionName := ⟨["--schemas", "-s"], true⟩
def referenceOption : OptionName := ⟨["--ref", "-r"], true⟩
def jsonOption : OptionName := ⟨["--json"], false⟩

/-- The log levels that can be asked for. -/
def logLevels : List String := ["debug", "info", "warning", "error"]

/-- The names of the commands. -/
inductive CommandName where
  | check
  | validate
deriving DecidableEq, Repr

namespace CommandName

def all : List CommandName := [.check, .validate]

def text : CommandName → String
  | .check => "check"
  | .validate => "validate"

def ofText? (s : String) : Option CommandName := all.find? (·.text == s)

/-- What follows the name of the command. -/
def usage : CommandName → String
  | .check => "[OPTIONS] FILES..."
  | .validate => "[OPTIONS] DATA_FILE"

end CommandName

/-- Why a command line runs no command. -/
inductive Stop where
  | error (e : UsageError)
  /-- Nothing at all is given. -/
  | nothingGiven
  | help
  | version
deriving DecidableEq, Repr

inductive Command where
  | check (files : List String)
  | validate (schemas : List String) (reference : String) (asJson : Bool) (dataFile : String)
deriving DecidableEq, Repr

/-- A command line up to the name of the command. -/
structure Invocation where
  logLevel : Option String
  command : CommandName
  arguments : List String
deriving DecidableEq, Repr

/-- The options among arguments; those that ask for help or for the version stop everything else. -/
def scanOptions (known : List OptionName) (mixed : Bool) (args : List String) : Except Stop Arguments :=
  match Arguments.scan known mixed args with
  | .error e => .error (.error e)
  | .ok a =>
    match a.given.find? fun o => o = helpOption || o = versionOption with
    | none => .ok a
    | some o => .error (if o = helpOption then .help else .version)

namespace Invocation

/-- The options of the program itself, and its log level. -/
def scan (args : List String) : Except Stop (Arguments × Option String) := do
  let a ← scanOptions [versionOption, logLevelOption, helpOption] false args
  let level := a.valueOf? logLevelOption
  match level with
  | some l => if !logLevels.contains l then throw (.error (.notAChoice logLevelOption l logLevels))
  | none => pure ()
  return (a, level)

/-- Reads a command line up to the name of the command. What is no name of a command is read once more: it may be an
option that stands where no option can. -/
def parse (args : List String) : Except Stop Invocation := do
  if args.isEmpty then throw .nothingGiven
  let (a, level) ← scan args
  match a.others with
  | [] => throw (.error .missingCommand)
  | name :: arguments =>
    match CommandName.ofText? name with
    | some command => return ⟨level, command, arguments⟩
    | none =>
      let _ ← scan (name :: arguments)
      throw (.error (.noSuchCommand name (Text.alikes name (CommandName.all.map CommandName.text))))

end Invocation

/-- What is wrong with a path that has to lead to a file, or perhaps to a directory. -/
def pathError? (files : Files) (place : String) (orDirectory : Bool) (path : String) : Option UsageError :=
  let sort := if orDirectory then "Path" else "File"
  match files.atText? path with
  | none => some (.noSuchPath place sort path)
  | some (.directory _) => if orDirectory then none else some (.isDirectory place sort path)
  | some (.file _) => none

namespace Command

/-- What is wrong with the values of an option. -/
def optionError? (files : Files) (a : Arguments) (o : OptionName) : Option UsageError :=
  if o = schemasOption then (a.valuesOf o).findSome? (pathError? files o.shown true) else none

def parseCheck (files : Files) (args : List String) : Except Stop Command := do
  let a ← scanOptions [helpOption] true args
  if a.others.isEmpty then throw (.error (.missingArgument "FILES..."))
  match a.others.findSome? (pathError? files "'FILES...'" false) with
  | some e => throw (.error e)
  | none => return .check a.others

def parseValidate (files : Files) (args : List String) : Except Stop Command := do
  let a ← scanOptions [schemasOption, referenceOption, jsonOption, helpOption] true args
  if let some e := a.given.findSome? (optionError? files a) then throw (.error e)
  match a.others with
  | [] => throw (.error (.missingArgument "DATA_FILE"))
  | dataFile :: extra =>
    if let some e := pathError? files "'DATA_FILE'" false dataFile then throw (.error e)
    if !a.has schemasOption then throw (.error (.missingOption schemasOption))
    match a.valueOf? referenceOption with
    | none => throw (.error (.missingOption referenceOption))
    | some reference =>
      if !extra.isEmpty then throw (.error (.extraArguments extra))
      return .validate (a.valuesOf schemasOption) reference (a.has jsonOption) dataFile

/-- Reads what follows the name of a command. -/
def parse (files : Files) : CommandName → List String → Except Stop Command
  | .check => parseCheck files
  | .validate => parseValidate files

end Command

end ShapeCheck.CommandLine
