import ShapeCheck.Checker.Compile
import ShapeCheck.Log.Notice

/-!
# Building types

`Building.type` reads a type from data and compiles it. A part is compiled as soon as it has been read without an issue,
inner parts first: what is not legal in such a part ends the building at once, while issues of form are collected to the
end. A type that was built before is taken as it is, and a property of one is compiled again.
-/

namespace ShapeCheck

open Shape

/-- A definition together with what it compiles to. -/
structure ObjectType where
  definition : TypeDef
  checker : TypeChecker

def ObjectType.name (t : ObjectType) : Option String := t.definition.name

/-- A property of a type, with what it compiles to. -/
def ObjectType.property? (t : ObjectType) (name : String) : Option (PropertyDef × PropertyChecker) := do
  return (← Assoc.get? name t.definition.properties, ← Assoc.get? name t.checker.properties)

/-- A property of a type that was built before. -/
def TypeHandle.property? (built : TypeHandle → Option ObjectType) (handle : TypeHandle) :
    Option (PropertyDef × PropertyChecker) := do
  (← built handle).property? (← handle.part)

/-- The same type under another name. -/
def ObjectType.rename (t : ObjectType) (name : Option String) : ObjectType :=
  { t with definition := { t.definition with name := name } }

/-- Building may end with an error, and gives notices either way. -/
abbrev Building := ExceptT CompileError (StateM (List Notice))

/-- What a build can look up: the legal methods, and the types that were built before. -/
structure Surroundings where
  capabilities : Capabilities
  built : TypeHandle → Option ObjectType

namespace Building

variable {α : Type}

def tell (n : Notice) : Building Unit := modify (· ++ [n])

/-- A field that may be left out, read while building. -/
def optional (r : Record) (f : Field) (absent : α)
    (read : (d : Datum) → (∃ k, (k, d) ∈ r.entries) → Building (Reading α)) : Building (Reading α) :=
  match h : f.find? r.entries with
  | some (s, d) => do return (← read d (Field.find?_mem h)).under (.key s)
  | none => return .ok absent

/-- The entries of a mapping whose keys are names. -/
def entries : (es : List (Key × Datum)) → (read : (d : Datum) → (∃ k, (k, d) ∈ es) → Building (Reading α)) →
    Building (Reading (List (String × α)))
  | [], _ => return .ok []
  | (k, d) :: rest, read => do
    let value ← read d ⟨k, by simp⟩
    let others ← entries rest fun e he => read e (he.imp fun _ h => List.mem_cons_of_mem _ h)
    return (((Reading.keyText k).both (value.under (Step.ofKey k))).both others).map fun (p, ps) => p :: ps

/-- Items from an index on. -/
def items : (i : Nat) → (xs : List Datum) → (read : (d : Datum) → d ∈ xs → Building (Reading α)) →
    Building (Reading (List α))
  | _, [], _ => return .ok []
  | i, d :: rest, read => do
    let value ← read d (by simp)
    let others ← items (i + 1) rest fun e he => read e (List.mem_cons_of_mem _ he)
    return ((value.under (.index i)).both others).map fun (x, xs) => x :: xs

end Building

/-- What is told as wrong with a definition itself, among what cannot be compiled. -/
def CompileError.refusal? : CompileError → Option String
  | .pattern source e => if e.isBadValue then some (e.message source) else none
  | .fault f => if f.family = .value then some f.message else none
  | _ => none

/-- The compiled form of a property that was read without an issue, given those of its inline types. -/
def Capabilities.finishProperty (caps : Capabilities) (d : Datum) (p : PropertyDef) (inlineTypes : Option (List TypeChecker)) :
    Building (Reading (PropertyDef × PropertyChecker)) :=
  match caps.compileProperty p.kind p.constraints inlineTypes with
  | .ok checker => return .ok (p, checker)
  | .error (.misread issues) => return .bad issues
  | .error e =>
    match e.refusal? with
    | some reason => return .fail (.refused reason) d
    | none => throw e

/-- The compiled form of a type that was read without an issue. -/
def ObjectType.finish (name description : Option String) (leniency : Leniency)
    (properties : List (String × (PropertyDef × PropertyChecker))) : Building ObjectType := do
  let t : ObjectType :=
    { definition := ⟨name, description, leniency, properties.map fun (n, p) => (n, p.1)⟩
      checker := ⟨properties.map fun (n, p) => (n, p.2), leniency⟩ }
  Building.tell (.compiled name properties.length t.checker.references.length)
  return t

mutual
/-- A property, read and compiled. -/
def Building.property (around : Surroundings) (d : Datum) : Building (Reading (PropertyDef × PropertyChecker)) :=
  match d with
  | .structured "Property" (some handle) _ =>
    match handle.property? around.built with
    | none => return .fail (.notRecord "Property") d
    | some (p, checker) => around.capabilities.finishProperty d p (p.inlineTypes.map fun _ => checker.inlineTypes)
  | d =>
    match h : Record.ofDatum "Property" d with
    | .bad issues => return .bad issues
    | .ok r => do
      let first := ((r.optional .description none Reading.note).both ((r.required .kind Reading.someText).both
        (r.optional .constraints [] Reading.constraints)))
      let inlineTypes ← Building.optional r .inlineTypes none fun v hv =>
        if v.isNull then return .ok none
        else match hi : v.members? with
          | none => return .fail .notList v
          | some xs => do
            let types ← Building.items 0 xs fun x hx =>
              have : sizeOf x < sizeOf d := Nat.lt_trans (Datum.sizeOf_member hi hx)
                (hv.elim fun _ hm => Datum.sizeOf_entry (Record.ofDatum_eq_ok h) hm)
              Building.type around x
            return types.map some
      match r.closing PropertyDef.fields (first.both inlineTypes) with
      | .bad issues => return .bad issues
      | .ok (((description, kind, constraints), inlineTypes), _) =>
        around.capabilities.finishProperty d
          ⟨description, kind, constraints, inlineTypes.map (·.map ObjectType.definition)⟩
          (inlineTypes.map (·.map ObjectType.checker))
termination_by sizeOf d
/-- A type, read and compiled. -/
def Building.type (around : Surroundings) (d : Datum) : Building (Reading ObjectType) :=
  match d with
  | .structured "Type" (some handle) _ =>
    match around.built handle with
    | none => return .fail (.notRecord "Type") d
    | some t => do
      Building.tell (.compiled t.name t.checker.properties.length t.checker.references.length)
      return .ok t
  | d =>
    match h : Record.ofDatum "Type" d with
    | .bad issues => return .bad issues
    | .ok r => do
      let first := (r.optional .typeName none Reading.note).both ((r.optional .description none Reading.note).both
        (Leniency.ofRecord r))
      let properties ← Building.optional r .properties [] fun v hv =>
        match he : v.entries? with
        | none => return .fail .notMapping v
        | some es => do
          let properties ← Building.entries es fun p hp =>
            have : sizeOf p < sizeOf d := hp.elim fun _ hm => Nat.lt_trans (Datum.sizeOf_entry he hm)
              (hv.elim fun _ hn => Datum.sizeOf_entry (Record.ofDatum_eq_ok h) hn)
            Building.property around p
          return properties.map Assoc.ofList
      match r.closing TypeDef.fields (first.both properties) with
      | .bad issues => return .bad issues
      | .ok (((name, description, leniency), properties), _) => do
        return .ok (← ObjectType.finish name description leniency properties)
termination_by sizeOf d
end

end ShapeCheck
