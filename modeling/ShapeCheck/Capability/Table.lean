import ShapeCheck.Assoc
import ShapeCheck.Capability.Authoring
import ShapeCheck.Method

/-!
# Capabilities

`Capabilities` say which methods are legal for which kind, and with what arguments. A kind's own entry wins over a base
entry of the same name: `lookup` and `methodsFor` agree on that. A table may name kinds and methods that have no meaning;
`missing` lists them.
-/

namespace ShapeCheck

structure Capabilities where
  kinds : Assoc (Assoc ArgumentForm)
  base : Assoc ArgumentForm

/-- Why a definition of the right shape cannot be used. -/
inductive CompileError where
  | authoring (e : AuthoringError)
  | pattern (source : String) (e : Pattern.ReadError)
  /-- A method was given arguments that it cannot work with, under capabilities that let them pass. -/
  | fault (f : Fault)
  /-- A method was given what is no reference, under such capabilities. -/
  | misread (issues : List Shape.Issue)

namespace Capabilities

/-- The methods of every kind, by the standard capabilities. -/
def standardBase : Assoc ArgumentForm :=
  [("required", .nothing), ("allow", .values), ("deny", .values), ("valid", .values), ("invalid", .values),
   ("with", .keys), ("without", .keys), ("nullOk", .nothing)]

/-- The methods of one kind, by the standard capabilities. -/
def standardOwn : Kind → Assoc ArgumentForm
  | .string =>
    [("emptyOk", .nothing), ("min", .count), ("max", .count), ("length", .count), ("regex", .pattern),
     ("alphanum", .optionalFlag), ("email", .nothing), ("date", .nothing)]
  | .number => [("integer", .nothing), ("float", .nothing), ("min", .number), ("max", .number)]
  | .array => [("includes", .elements), ("excludes", .elements), ("min", .count), ("max", .count), ("length", .count)]
  | .object => [("objectSchemaType", .reference)]
  | .boolean => []
  | .function => []
  | .any => []

def standardKinds : Assoc (Assoc ArgumentForm) := Kind.all.map fun k => (k.name, standardOwn k)

def standard : Capabilities := ⟨standardKinds, standardBase⟩

/-- The own methods of a kind, which must be a text. -/
def own? (c : Capabilities) (kind : Datum) : Option (String × Assoc ArgumentForm) :=
  match kind with
  | .scalar (.text s) => (c.kinds.get? s).map fun methods => (s, methods)
  | _ => none

def hasKind (c : Capabilities) (kind : Datum) : Bool := (c.own? kind).isSome

/-- The own methods of a kind that has to be known. -/
def requireKind (c : Capabilities) (kind : Datum) : Except AuthoringError (String × Assoc ArgumentForm) :=
  match c.own? kind with
  | some found => .ok found
  | none => .error (.unsupportedKind kind c.kinds.names)

/-- All methods that are legal for a kind. -/
def methodsFor (c : Capabilities) (kind : Datum) : Except AuthoringError (Assoc ArgumentForm) := do
  let (_, own) ← c.requireKind kind
  return c.base.update own

/-- The form of a method's arguments. -/
def lookup (c : Capabilities) (kind : Datum) (method : String) : Except AuthoringError ArgumentForm := do
  let (name, own) ← c.requireKind kind
  match (own.get? method).or (c.base.get? method) with
  | some form => .ok form
  | none => .error (.unsupportedConstraint name (.text method) .unknownMethod none)

/-- Whether a constraint is legal: the method must be, and its arguments must have the right form. -/
def check (c : Capabilities) (kind : Datum) (method : String) (args : List Datum) :
    Except CompileError ArgumentForm :=
  match c.lookup kind method with
  | .error e => .error (.authoring e)
  | .ok form =>
    match form.fit args with
    | .fits => .ok form
    | .misfit why => .error (.authoring (.unsupportedConstraint kind.plain (.text method) (.misfit why) (some args)))
    | .unreadable source why => .error (.pattern source why)

/-- Whether a constraint is legal that is given as data. A method that is no text is unknown, if it could be a key at all,
and the arguments are all that the last datum holds. -/
def checkData (c : Capabilities) (kind method args : Datum) : Except CompileError ArgumentForm :=
  match method.text?, c.requireKind kind, method.key with
  | some m, _, _ =>
    match c.lookup kind m with
    | .error e => .error (.authoring e)
    | .ok form =>
      match form.argumentsIn args with
      | .ok args => c.check kind m args
      | .error f => .error (.fault f)
  | none, .error e, _ => .error (.authoring e)
  | none, .ok _, .error f => .error (.fault f)
  | none, .ok (name, _), .ok _ => .error (.authoring (.unsupportedConstraint name method .unknownMethod none))

/-- The legal pairs of kind and method that have no meaning; a kind that has none is paired with `<base>`. -/
def missing (c : Capabilities) : List (String × String) :=
  c.kinds.flatMap fun (name, own) =>
    match Kind.ofName? name with
    | none => [(name, "<base>")]
    | some k => ((c.base.update own).names.filter fun m => (Method.ofName? k m).isNone).map fun m => (name, m)

end Capabilities

end ShapeCheck
