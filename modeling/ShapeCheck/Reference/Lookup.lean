import ShapeCheck.Shape.Record

/-!
# References in data, and lookup keys

`TypeRef.read` reads a reference from a record of namespace, version and type name, and `TypeRef.parse` from its text.
A lookup key of a registry may be a reference, such a record or such a text: `TypeRef.ofKey` reads any of them.
-/

namespace ShapeCheck

open Shape

/-- The rule for namespaces, as messages show it. -/
def namespaceRule : Defect := .mismatch "^ns://.+$"

/-- The rule for versions, as messages show it. -/
def versionRule : Defect := .mismatch "^\\d+\\.\\d+\\.\\d+$"

namespace Field

def ofNamespace : Field := { name := "namespace" }
def ofVersion : Field := { name := "version" }
/-- The name of the type that a reference is to. -/
def ofTypeName : Field := { name := "type", second := some "type_name" }

end Field

namespace Reading

def namespaceName : Datum → Reading String := textWhere isNamespace namespaceRule

def version : Datum → Reading String := textWhere isVersion versionRule

end Reading

namespace TypeRef

/-- The fields of a reference. -/
def fields : List Field := [.ofNamespace, .ofVersion, .ofTypeName]

/-- A record of a reference. The parts that pass their readings are well formed, so the last test is never met. -/
def ofRecord (r : Record) : Reading TypeRef :=
  match r.closing fields ((r.required .ofNamespace Reading.namespaceName).both ((r.required .ofVersion Reading.version).both
      (r.required .ofTypeName Reading.someText))) with
  | .bad issues => .bad issues
  | .ok ((ns, version, name), _) =>
    match make? ns version name with
    | some ref => .ok ref
    | none => .fail (.notRecord "SchemaTypeRef") r.whole

/-- A reference, or a record of one, which may be around it. -/
def read (d : Datum) : Reading TypeRef :=
  match d with
  | .scalar (.reference ref) => .ok ref
  | d =>
    match Record.ofDatum "SchemaTypeRef" d.target with
    | .bad issues => .bad issues
    | .ok r => ofRecord r

/-- Why a text is no reference. -/
inductive ParseError where
  | split (e : SplitError)
  | parts (issues : List Issue)

/-- What is said of a text that has no three parts. -/
def SplitError.message : SplitError → String
  | .noName s => "Schema type reference must contain '#': " ++ Text.quoted s
  | .noVersion s => "Schema type reference has no version: " ++ Text.quoted s

/-- A reference from its text. -/
def parse (s : String) : Except ParseError TypeRef :=
  match split? s with
  | .error e => .error (.split e)
  | .ok (ns, version, name) =>
    match read (Datum.record [("namespace", .text ns), ("version", .text version), ("type_name", .text name)]) with
    | .ok ref => .ok ref
    | .bad issues => .error (.parts issues)

/-- A reference as a record. -/
def datum (r : TypeRef) : Datum :=
  Datum.record [("namespace", .text r.namespaceName), ("version", .text r.version), ("type", .text r.name)]

end TypeRef

/-- A lookup key that names no type, and what is wrong with it. -/
structure LookupError where
  key : Datum
  violations : List (Violation Datum)

namespace LookupError

def message (e : LookupError) : String :=
  "Invalid schema type lookup key " ++ e.key.literal ++ ": " ++ Violation.summary e.violations

/-- A key with one thing wrong that is no issue of a field. -/
def ofMessage (key : Datum) (message : String) : LookupError :=
  ⟨key, [{ path := {}, message := message, code := .structural, value := key }]⟩

def ofIssues (key : Datum) (issues : List Issue) : LookupError := ⟨key, issues.map (Issue.violation "")⟩

end LookupError

/-- The reference that a lookup key stands for. -/
def TypeRef.ofKey (key : Datum) : Except LookupError TypeRef :=
  match key with
  | .scalar (.reference ref) => .ok ref
  | .scalar (.text s) =>
    match TypeRef.parse s with
    | .ok ref => .ok ref
    | .error (.split e) => .error (.ofMessage key e.message)
    | .error (.parts issues) => .error (.ofIssues key issues)
  | .mapping es =>
    match TypeRef.read (.mapping es) with
    | .ok ref => .ok ref
    | .bad issues => .error (.ofIssues key issues)
  | .readOnly es =>
    match TypeRef.read (.mapping es) with
    | .ok ref => .ok ref
    | .bad issues => .error (.ofIssues key issues)
  | _ => .error (.ofMessage key "expected a \x7bnamespace, version, type\x7d mapping")

end ShapeCheck
