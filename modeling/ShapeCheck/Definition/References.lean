import ShapeCheck.Definition.Basic
import ShapeCheck.Reference.Lookup

/-!
# References in definitions

`TypeDef.references` are the references that a definition names: in its constraints, in the descriptions of elements at
any depth, and in its inline types. They are found in the definition itself and not in what it compiles to, and they are
not followed.
-/

namespace ShapeCheck

namespace Constraint

/-- The references that a constraint names, given those of each description among its arguments. -/
def referencesWith (c : Constraint) (element : (a : Datum) → a ∈ c.args → List TypeRef) : List TypeRef :=
  if c.method = "objectSchemaType" then
    match c.args with
    | a :: _ =>
      match TypeRef.read a with
      | .ok r => [r]
      | .bad _ => []
    | [] => []
  else if c.method = "includes" || c.method = "excludes" then
    c.args.attach.flatMap fun ⟨a, ha⟩ => element a ha
  else []

end Constraint

namespace ElementDef

/-- The references in the description of an element. Of the description only the constraints are read. -/
def referencesOf (d : Datum) : List TypeRef :=
  match h : constraintsOf d with
  | .bad _ => []
  | .ok cs => cs.attach.flatMap fun ⟨c, hc⟩ =>
    c.referencesWith fun a ha => have := constraintsOf_smaller h hc ha; referencesOf a
termination_by sizeOf d

end ElementDef

/-- The references that a constraint names. -/
def Constraint.references (c : Constraint) : List TypeRef := c.referencesWith fun a _ => ElementDef.referencesOf a

mutual
/-- The references of a property. -/
def PropertyDef.references : PropertyDef → List TypeRef
  | ⟨_, _, constraints, inlineTypes⟩ =>
    constraints.flatMap Constraint.references ++
      match inlineTypes with
      | none => []
      | some ts => TypeDef.referencesOfAll ts
/-- The references of a type. -/
def TypeDef.references : TypeDef → List TypeRef
  | ⟨_, _, _, properties⟩ => PropertyDef.referencesOfAll properties
def TypeDef.referencesOfAll : List TypeDef → List TypeRef
  | [] => []
  | t :: rest => t.references ++ TypeDef.referencesOfAll rest
def PropertyDef.referencesOfAll : List (String × PropertyDef) → List TypeRef
  | [] => []
  | (_, p) :: rest => p.references ++ PropertyDef.referencesOfAll rest
end

/-- The texts of references, each once, in order. -/
def sortedTexts (refs : List TypeRef) : List String :=
  (refs.eraseDups.map TypeRef.text).mergeSort fun a b => decide (a ≤ b)

end ShapeCheck
