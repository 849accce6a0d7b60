import ShapeCheck.Proofs.Naming
import ShapeCheck.Proofs.Unresolved

/-!
# What types depend on

The references that a type depends on are found in its definition (`TypeDef.references`), and a run follows those that stand in
its checker. For types that are built these are the same (`ObjectType.Built.references_eq`). As long as a run has followed no
reference it is inside of the type itself, and meets no references but these (`Reached.references_subset`). What a schema
depends on is what its types depend on.
-/

namespace ShapeCheck

variable {legal : Capabilities → Prop}

/-- The references in a definition are those that it was compiled to. -/
theorem ObjectType.Built.references_eq {t : ObjectType} (h : t.Built legal) : t.definition.references = t.checker.references :=
  h.compiles.references_eq.symm

/-- Where no reference is being followed there are no other references than at the start. -/
theorem Reached.references_subset {resolve : Resolver} {p q : Point} {r s : Run} {b : Bool} (h : Reached resolve p r b q s)
    (hdepth : q.context.depth = 0) : q.references ⊆ p.references := by
  induction h with
  | start => exact List.Subset.refl _
  | call _ hcall ih =>
      rcases hcall.references_cases with ⟨hsame, hsub⟩ | ⟨hdeeper, _⟩
      · exact List.Subset.trans hsub (ih (hsame ▸ hdepth))
      · rw [hdeeper] at hdepth
        cases hdepth

/-- A reference that a run meets before it follows one stands in the type that is checked. -/
theorem Visit.ref_mem_references {resolve : Resolver} {t : TypeChecker} {maxDepth : Int} {v : Value} {σ : Store} {visit : Visit}
    (h : visit ∈ (t.validate resolve maxDepth v σ).run.visits) (hdepth : visit.context.depth = 0) : visit.ref ∈ t.references := by
  obtain ⟨_, _, _, _, hreached, _⟩ := Visit.madeIn h
  refine hreached.references_subset hdepth ?_
  rw [Point.references, Rule.references]
  exact List.mem_singleton_self _

/-- **Definitions name all references that are followed.** The references that a type depends on are those that it was compiled
to. Whatever references lead to, and however deep they may be followed, no validation of the type meets another one before it
has entered the type behind a reference. A schema depends on what its types were compiled to. -/
theorem ObjectType.dependencies_compiled :
    (∀ t : ObjectType, t.Built legal →
      (∀ ref, ref ∈ t.definition.references ↔ ref ∈ t.checker.references) ∧
      ∀ resolve maxDepth v σ, ∀ visit ∈ (t.checker.validate resolve maxDepth v σ).run.visits, visit.context.depth = 0 →
        visit.ref ∈ t.definition.references) ∧
    ∀ s : Schema, (∀ p ∈ s.types, p.2.Built legal) →
      ∀ ref, ref ∈ s.references ↔ ∃ p ∈ s.types, ref ∈ p.2.checker.references := by
  refine ⟨fun t ht => ⟨fun ref => by rw [ht.references_eq], fun resolve maxDepth v σ visit hvisit hdepth => ?_⟩,
    fun s hs ref => ?_⟩
  · rw [ht.references_eq]
    exact Visit.ref_mem_references hvisit hdepth
  · unfold Schema.references
    rw [List.mem_eraseDups, List.mem_flatMap]
    refine exists_congr fun p => and_congr_right fun hp => ?_
    change ref ∈ p.2.definition.references ↔ _
    rw [(hs p hp).references_eq]

/-! A type that names a wheel in the description of an element, and a part in a type in place. The reference to the wheel stands
in a constraint that was made before. -/

def wheelRef : TypeRef := (TypeRef.make? "ns://parts" "1.0.0" "Wheel").get (by decide +kernel)

def partRef : TypeRef := (TypeRef.make? "ns://parts" "1.0.0" "Part").get (by decide +kernel)

def cartData : Datum :=
  .record [("properties", .record [
    ("wheels", .record [("type", .text "Array"), ("constraints", .list [.record [("method", .text "includes"), ("args", .list [
      .record [("type", .text "Object"), ("constraints", .list [
        Constraint.structured ⟨"objectSchemaType", [.scalar (.reference wheelRef)]⟩])]])]])]),
    ("load", .record [("type", .text "Object"), ("typeArgs", .list [.record [("properties", .record [
      ("part", .record [("type", .text "Object"), ("constraints", .list [.record [("method", .text "objectSchemaType"),
        ("args", .list [partRef.datum])]])])])]])])])]

def cartType : ObjectType := (ObjectType.ofDatum? cartData).get (by decide +kernel)

def cartStore : Store := ⟨#[.mapping [(.text "wheels", .container 1)], .list [.container 2], .mapping []]⟩

theorem cartType_dependencies :
    cartType.definition.references = [wheelRef, partRef] ∧
    (∀ ref, ref ∈ cartType.definition.references ↔ ref ∈ cartType.checker.references) ∧
    (∃ visit ∈ (cartType.checker.validate (fun _ => none) 64 (.container 0) cartStore).run.visits, visit.context.depth = 0 ∧
      visit.ref ∈ cartType.definition.references) ∧
    ∀ s : Schema, s.types = [(some "Cart", cartType)] → ∀ ref, ref ∈ s.references ↔ ref ∈ cartType.checker.references := by
  have hbuilt : cartType.Built (· = .standard) := ObjectType.ofDatum?_built (Option.some_get _).symm
  obtain ⟨hsame, hmeets⟩ := ObjectType.dependencies_compiled.1 cartType hbuilt
  refine ⟨by decide +kernel, hsame, ?_, fun s hs ref => ?_⟩
  · have hvisits : ((cartType.checker.validate (fun _ => none) 64 (.container 0) cartStore).run.visits.any fun visit =>
        visit.context.depth = 0) = true := by decide +kernel
    obtain ⟨visit, hvisit, hdepth⟩ := List.any_eq_true.1 hvisits
    exact ⟨visit, hvisit, of_decide_eq_true hdepth, hmeets _ _ _ _ visit hvisit (of_decide_eq_true hdepth)⟩
  · have hall : ∀ p ∈ s.types, p.2.Built (· = .standard) := hs ▸ List.forall_mem_singleton.2 hbuilt
    rw [ObjectType.dependencies_compiled.2 s hall, hs]
    simp

end ShapeCheck
