import ShapeCheck.Log.Event
import ShapeCheck.Violation

/-!
# Notices

A `Notice` is what an operation has to say to the log: at which level, from which part of the program, and in what words.
-/

namespace ShapeCheck

inductive Level where
  | debug
  | info
  | warning
  | error
  | critical
deriving DecidableEq, Repr

namespace Level

def all : List Level := [.debug, .info, .warning, .error, .critical]

def rank : Level → Nat
  | .debug => 10
  | .info => 20
  | .warning => 30
  | .error => 40
  | .critical => 50

def text : Level → String
  | .debug => "DEBUG"
  | .info => "INFO"
  | .warning => "WARNING"
  | .error => "ERROR"
  | .critical => "CRITICAL"

end Level

inductive Notice where
  | compiled (name : Option String) (properties references : Nat)
  | built (key : String) (typeNames : List (Option String))
  | resolving (ref : TypeRef) (path : Path) (depth : Nat)
  | replacing (key : String)
  | unresolvable (namespaceName version name : String)
  | registered (key : String) (types : Nat)
  | passed (typeName : Option String)
  | failed (typeName : Option String) (paths : List String)
  | cacheHit (path : String)
  | loaded (key path : String) (types references : Nat)
  | loadedDirectory (schemas : Nat) (path : String)
  | event (e : Event)
deriving DecidableEq

namespace Notice

def level : Notice → Level
  | .failed .. => .warning
  | .event e => if e.isWarning then .warning else .info
  | _ => .debug

/-- The part of the program that a notice comes from. -/
def source : Notice → String
  | .compiled .. => "objectschema.compiler"
  | .built .. => "objectschema.model"
  | .resolving .. => "objectschema.constraints"
  | .replacing _ => "objectschema.registry"
  | .unresolvable .. => "objectschema.registry"
  | .registered .. => "objectschema.otel"
  | .passed _ => "objectschema.otel"
  | .failed .. => "objectschema.otel"
  | .cacheHit _ => "objectschema.loader"
  | .loaded .. => "objectschema.loader"
  | .loadedDirectory .. => "objectschema.loader"
  | .event _ => "objectschema.events"

/-- Texts as a list inside a message. -/
def quotedList (texts : List String) : String := "[" ++ ", ".intercalate (texts.map Text.quoted) ++ "]"

/-- The name of a type inside a message, if it has one. -/
def quotedName (name : Option String) : String := name.elim "None" Text.quoted

/-- Names of types as a list inside a message. -/
def nameList (names : List (Option String)) : String := "[" ++ ", ".intercalate (names.map quotedName) ++ "]"

/-- The words of a notice given at a moment. -/
def message (now : Moment) : Notice → String
  | .compiled name properties references =>
    "Compiled type " ++ (match name with
      | none => "<anonymous>"
      | some s => if s = "" then "<anonymous>" else s) ++
      ": properties=" ++ toString properties ++ ", references=" ++ toString references
  | .built key names => "Built schema " ++ key ++ " with types " ++ nameList names
  | .resolving ref path depth =>
    "Resolving " ++ ref.text ++ " at " ++ path.shown ++ " (depth " ++ toString depth ++ ")"
  | .replacing key => "Replacing registered schema " ++ key
  | .unresolvable ns version name => "Unresolvable reference " ++ ns ++ "/" ++ version ++ "#" ++ name
  | .registered key types => "Registered schema " ++ key ++ " (" ++ toString types ++ " types)"
  | .passed name => "Validation of " ++ name.getD "None" ++ " passed"
  | .failed name paths =>
    "Validation of " ++ name.getD "None" ++ " FAILED: " ++ toString paths.length ++ " violation(s) at " ++ quotedList paths
  | .cacheHit path => "SchemaLoader cache hit: " ++ path
  | .loaded key path types references =>
    "Loaded schema " ++ key ++ " from " ++ path ++ ": types=" ++ toString types ++ ", external_refs=" ++
      toString references
  | .loadedDirectory schemas path => "Loaded " ++ toString schemas ++ " schema(s) from " ++ path
  | .event e => e.entry now

end Notice

end ShapeCheck
