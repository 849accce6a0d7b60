import ShapeCheck.Capability.Table
import ShapeCheck.Checker.Basic

/-!
# Compiling constraints

`Method.apply` adds one constraint to the checker of a property. `Capabilities.compile` checks that the constraints of a
property are legal and adds them in order. Descriptions of elements are compiled in the same way, as deep as they go:
`Capabilities.compileElement` comes to an end because a description holds only smaller ones.
-/

namespace ShapeCheck

open Shape

/-- The first argument of a method. -/
def firstArgument : List Datum → Except CompileError Datum
  | a :: _ => .ok a
  | [] => .error (.fault .noArgument)

/-- The limit that is the first argument of a method; it has to be writable, since messages name it. -/
def limitArgument (args : List Datum) : Except CompileError Datum := do
  let limit ← firstArgument args
  if limit.isTooLong then .error (.fault .integerTooLong) else .ok limit

/-- The rule for a pattern that is the first argument of a method. -/
def patternRule (args : List Datum) : Except CompileError Rule := do
  match ← firstArgument args with
  | .scalar (.text s) =>
    match Pattern.read s with
    | .ok program => .ok (.pattern s program)
    | .error e => .error (.pattern s e)
  | a =>
    match a.key with
    | .ok _ => .error (.fault .notPattern)
    | .error f => .error (.fault f)

/-- The rule for a reference that is the first argument of a method. -/
def referenceRule (args : List Datum) : Except CompileError Rule := do
  match TypeRef.read (← firstArgument args) with
  | .ok ref => .ok (.reference ref)
  | .bad issues => .error (.misread issues)

/-- Takes data into a checker one after the other, unless taking one of them has no end. -/
def takeAll (take : PropertyChecker → Datum → PropertyChecker) (takesOn : PropertyChecker → Datum → Bool) :
    List Datum → PropertyChecker → Except CompileError PropertyChecker
  | [], c => .ok c
  | d :: rest, c => if takesOn c d then .error (.fault .endless) else takeAll take takesOn rest (take c d)

namespace Method

/-- Adds a constraint to a checker. `element` compiles one description of an element. -/
def apply (m : Method) (args : List Datum)
    (element : (a : Datum) → a ∈ args → Except CompileError PropertyChecker) (c : PropertyChecker) :
    Except CompileError PropertyChecker :=
  match m with
  | .required => .ok { c with required := true }
  | .nullOk => .ok { c with nullOk := true }
  | .emptyOk => .ok { c with emptyOk := true }
  | .allow => takeAll .allow PropertyChecker.allowsOn args c
  | .valid => do return { ← takeAll .allow PropertyChecker.allowsOn args c with onlyValid := true }
  | .deny => takeAll .deny PropertyChecker.deniesOn args c
  | .withPeers => .ok { c with peersWith := c.peersWith ++ args }
  | .withoutPeers => .ok { c with peersWithout := c.peersWithout ++ args }
  | .length bound unit => do return c.addRule (.length bound unit (← limitArgument args))
  | .atLeast => do return c.addRule (.atLeast (← limitArgument args))
  | .atMost => do return c.addRule (.atMost (← limitArgument args))
  | .alphanumeric => .ok (c.addRule (.alphanumeric ((args.head?.map Datum.isTruthy).getD false)))
  | .email => .ok (c.addRule .email)
  | .date => .ok (c.addRule .date)
  | .whole => .ok (c.addRule .whole)
  | .fraction => .ok (c.addRule .fraction)
  | .pattern => do return c.addRule (← patternRule args)
  | .includes => do return c.addRule (.includes (← args.attach.mapM fun ⟨a, ha⟩ => element a ha))
  | .excludes => do return c.addRule (.excludes (← args.attach.mapM fun ⟨a, ha⟩ => element a ha))
  | .reference => do return c.addRule (← referenceRule args)

end Method

namespace Capabilities

/-- The kind with a given name, which has to be legal and to have a meaning. -/
def kindNamed (caps : Capabilities) (name : String) : Except CompileError Kind :=
  match caps.requireKind (.text name) with
  | .error e => .error (.authoring e)
  | .ok _ =>
    match Kind.ofName? name with
    | some k => .ok k
    | none => .error (.authoring (.unsupportedKind (.text name) (Kind.all.map Kind.name)))

/-- Checks one constraint and adds it to a checker. -/
def compileConstraint (caps : Capabilities) (kind : Kind) (c : Constraint)
    (element : (a : Datum) → a ∈ c.args → Except CompileError PropertyChecker) (checker : PropertyChecker) :
    Except CompileError PropertyChecker := do
  let _ ← caps.check (.text kind.name) c.method c.args
  match Method.ofName? kind c.method with
  | some m => m.apply c.args element checker
  | none => .error (.authoring (.unsupportedConstraint kind.name (.text c.method) .notImplemented none))

/-- Checks constraints in order and adds them to a checker. -/
def compileConstraints (caps : Capabilities) (kind : Kind) :
    (cs : List Constraint) →
    (element : (method : String) → (a : Datum) → (∃ c ∈ cs, a ∈ c.args) → Except CompileError PropertyChecker) →
    PropertyChecker → Except CompileError PropertyChecker
  | [], _, checker => .ok checker
  | c :: rest, element, checker => do
    let checker ← caps.compileConstraint kind c (fun a ha => element c.method a ⟨c, by simp, ha⟩) checker
    caps.compileConstraints kind rest
      (fun m a ha => element m a (ha.imp fun _ h => ⟨List.mem_cons_of_mem _ h.1, h.2⟩)) checker

/-- The checker of the elements that a description is of. A description that leads back to itself is compiled without an
end; one turn shows it. -/
def compileElement (caps : Capabilities) (method : String) (d : Datum) : Except CompileError PropertyChecker :=
  if ElementDef.turns d then .error (.fault .endless)
  else match h : ElementDef.read d with
  | .bad issues =>
    match d.target.asEntries with
    | .ok es =>
      .error (.authoring (.unsupportedConstraint Kind.array.name (.text method) (.badElement issues) (some [.mapping es])))
    | .error f => .error (.fault f)
  | .ok e => do
    let kind ← caps.kindNamed e.kind
    caps.compileConstraints kind e.constraints
      (fun m a ha =>
        have : sizeOf a < sizeOf d := ha.elim fun _ hc => ElementDef.args_smaller h hc.1 hc.2
        caps.compileElement m a)
      (.ofKind kind)
termination_by sizeOf d

/-- The checker of a property, given those of its inline types. -/
def compileProperty (caps : Capabilities) (kindName : String) (constraints : List Constraint)
    (inlineTypes : Option (List TypeChecker)) : Except CompileError PropertyChecker := do
  let kind ← caps.kindNamed kindName
  let checker ← caps.compileConstraints kind constraints (fun m a _ => caps.compileElement m a) (.ofKind kind)
  let misuse (why : InlineMisuse) : Except CompileError PropertyChecker :=
    .error (.authoring (.inlineMisuse kind.name why))
  match inlineTypes with
  | none => .ok checker
  | some types =>
    if kind ≠ .object then misuse .notOnObject
    else match types with
      | [t] => if checker.rules.any Rule.isReference then misuse .besideReference else .ok (checker.addRule (.inlineType t))
      | types => misuse (.notOne types.length)

end Capabilities

end ShapeCheck
