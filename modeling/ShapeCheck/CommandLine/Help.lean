import ShapeCheck.CommandLine.Command

/-!
# Help

What the program says of itself and of its commands.
-/

namespace ShapeCheck.CommandLine

/-- The synopsis of the program. -/
def programSynopsis : String := "[OPTIONS] COMMAND [ARGS]..."

/-- The line that says how a program or a command is used. -/
def usageLine (path synopsis : String) : String := "Usage: " ++ path ++ " " ++ synopsis

/-- The version of the program. -/
def versionLine (program : String) : String := program ++ ", version 0.1.0"

/-- The help of the program. -/
def programHelp (program : String) : List String :=
  [usageLine program programSynopsis, "",
   "  objectschema - Declarative, namespaced, versioned object schemas.", "",
   "Options:",
   "  --version                       Show the version and exit.",
   "  --log-level [debug|info|warning|error]",
   "                                  Override OBJECTSCHEMA_LOG_LEVEL",
   "  --help                          Show this message and exit.", "",
   "Commands:",
   "  check     Load schema files and report their types and external...",
   "  validate  Validate a YAML/JSON document against a registered type."]

/-- The help of a command. -/
def commandHelp (path : String) : CommandName → List String
  | .check =>
    [usageLine path CommandName.check.usage, "",
     "  Load schema files and report their types and external references.", "",
     "  Example:     objectschema check schemas/acme.yaml schemas/billing.yaml", "",
     "Options:",
     "  --help  Show this message and exit."]
  | .validate =>
    [usageLine path CommandName.validate.usage, "",
     "  Validate a YAML/JSON document against a registered type.", "",
     "  Every schema given with --schemas is registered first, so references between", "  them resolve.", "",
     "  Example:     objectschema validate -s schemas/ -r ns://acme/1.0.0#Person",
     "  person.yaml", "",
     "Options:",
     "  -s, --schemas PATH  Schema file or directory (repeatable)  [required]",
     "  -r, --ref TEXT      Type to validate against, e.g. ns://acme/1.0.0#Person",
     "                      [required]",
     "  --json              Print the result as JSON",
     "  --help              Show this message and exit."]

end ShapeCheck.CommandLine
