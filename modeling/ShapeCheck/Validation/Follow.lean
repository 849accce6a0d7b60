import ShapeCheck.Validation.Collect

/-!
# Following references

`follow` looks a reference up and runs the type that it leads to. The same reference is not followed for the same value
inside of itself, and no more references than a budget allows are followed inside of each other, so every run comes to an
end. `TypeChecker.validate` is a whole run.
-/

namespace ShapeCheck

/-- What a reference leads to. -/
abbrev Resolver := TypeRef → Option TypeChecker

/-- What is found when a reference cannot be followed. -/
def causedBy (cause : Cause) (path : Path) (v : Value) : Violation Value where
  path := path
  message := cause.message
  code := cause.code
  value := v
  constraint := some "objectSchemaType"
  cause := some cause

/-- Follows a reference, with a budget for references inside of each other. -/
def follow (resolve : Resolver) : Nat → Follow
  | budget, ctx, path, ref, v => do
    let met (outcome : VisitOutcome) : Check Unit := Check.record (.met ⟨ref, v, path, ctx, outcome⟩)
    match resolve ref with
    | none =>
      met .unresolved
      return [causedBy (.unresolved ref) path v]
    | some t =>
      if (ref, v) ∈ ctx.inFlight then
        met .cyclic
        return [causedBy (.cyclic ref path) path v]
      match budget with
      | 0 =>
        met .tooDeep
        return [causedBy (.tooDeep ref ctx.maxDepth) path v]
      | budget + 1 =>
        met .entered
        let found ← t.collect (follow resolve budget) (ctx.enter ref v) path v
        Check.record (.left ref v)
        return found

/-- What a run ends with. -/
structure Outcome (α : Type) where
  result : Except Fault α
  run : Run

/-- A run from its start. -/
def Outcome.ofCheck {α : Type} (σ : Store) (c : Check α) : Outcome α :=
  let (result, run) := c.run.run { store := σ }
  ⟨result, run⟩

namespace TypeChecker

/-- A whole run on a candidate. -/
def validate (t : TypeChecker) (resolve : Resolver) (maxDepth : Int) (v : Value) (σ : Store) :
    Outcome Findings :=
  .ofCheck σ (t.collect (follow resolve maxDepth.toNat) { maxDepth := maxDepth } {} v)

end TypeChecker

namespace PropertyChecker

/-- A whole run on one candidate, which may be missing from its parent. No reference can be followed. -/
def validate (c : PropertyChecker) (convert : Bool) (path : Path) (present : Bool) (parent : Option Value) (v : Value)
    (σ : Store) : Outcome (Findings × Value) :=
  .ofCheck σ (c.collect (follow (fun _ => none) 0) { maxDepth := 0, convert := convert } path present parent v)

end PropertyChecker

end ShapeCheck
