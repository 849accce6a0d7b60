import ShapeCheck.Files
import ShapeCheck.Registry
import ShapeCheck.Schema.Basic
import ShapeCheck.Text.Blank
import ShapeCheck.Validation.Run
import ShapeCheck.Validation.Verdict
import ShapeCheck.Value.JsonText
import ShapeCheck.Yaml.Token

/-!
# Failures

Everything that can go wrong in a workspace, and the words for it.
-/

namespace ShapeCheck

open Shape

inductive Failure where
  /-- A value does not conform to a type. -/
  | nonconforming (typeName : Option String) (violations : List (Violation Datum))
  | schema (e : SchemaError)
  /-- A type or property that is not part of a schema has the wrong form. -/
  | form (issues : List Issue)
  /-- A type or property that is not part of a schema cannot be compiled. -/
  | compile (e : CompileError)
  | lookup (e : LookupError)
  | unknownType (schemaKey : String) (name : Datum)
  /-- A backing lacks operations. -/
  | incapable (implementation : String) (missing : List String)
  | settings (issues : List Issue)
  | unknownLevel (name : String)
  | yaml (e : Yaml.Error)
  | noFile (path : String)
  | noDirectory (path : String)
  | isDirectory (path : String)
  /-- The root of a document, perhaps in a file, is no mapping but something of another sort. -/
  | notMapping (path : Option String) (sort : String)
  | run (f : Fault)
  | json (e : JsonError)
  /-- A handle names no place of its table. -/
  | strayHandle

def CompileError.messageAt (location : String) : CompileError → String
  | .authoring e => e.messageAt location
  | .pattern source e => e.message source
  | .fault f => f.message
  | .misread issues => Issue.places issues

def Yaml.Error.message : Yaml.Error → String
  | .malformed => "the text is no document"
  | .value reason => reason
  | .tooLarge reason => reason
  | .unknownTruth text => Text.quoted text
  | .emptyNumeral => "string index out of range"
  | .noStamp => "'NoneType' object has no attribute 'groupdict'"
  | .stampInMapping => "expected string or bytes-like object, got 'list'"
  | .endless => "maximum recursion depth exceeded"

def SchemaError.message : SchemaError → String
  | .structural subject violations => structuralMessage subject violations
  | .compile location why => why.messageAt location
  | .identity issues => Issue.places issues
  | .duplicateType key name => "Type already exists in " ++ key ++ ": " ++ Notice.quotedName name
  | .strayName => "no name for a type"

/-- The text of a file as that of a document, with the breaks of its lines made plain. -/
def FileContent.document : FileContent → Except Failure String
  | .text s => .ok (String.ofList (Text.plainBreaks s.toList))
  | .bytes none => .error (.run .undecodable)
  | .bytes (some e) => .error (.yaml e)

namespace Failure

/-- What is wrong with a lookup key, unless the key cannot be written. -/
def ofLookup (e : LookupError) : Failure := if e.key.isTooLong then .run .integerTooLong else .lookup e

def message : Failure → String
  | .nonconforming typeName violations => nonconformingMessage typeName violations
  | .schema e => e.message
  | .form issues => Issue.places issues
  | .compile e => e.messageAt ""
  | .lookup e => e.message
  | .unknownType key name => "Unknown type in " ++ key ++ ": " ++ name.literal
  | .incapable implementation missing => missingOperationsMessage implementation missing
  | .settings issues => Issue.places issues
  | .unknownLevel name => "Unknown level: " ++ Text.quoted name
  | .yaml e => e.message
  | .noFile path => "Schema file not found: " ++ path
  | .noDirectory path => "Schema directory not found: " ++ path
  | .isDirectory path => "[Errno 21] Is a directory: " ++ Text.quoted path
  | .notMapping none sort => "Expected mapping, got " ++ sort
  | .notMapping (some path) sort => "Expected mapping at root of " ++ path ++ ", got " ++ sort
  | .run f => f.message
  | .json e => e.message
  | .strayHandle => "no such thing in the workspace"

end Failure

end ShapeCheck
