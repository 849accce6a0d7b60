import ShapeCheck.Proofs.Meetings
import ShapeCheck.Proofs.Outcomes
import ShapeCheck.Proofs.Reaching

/-!
# References that lead nowhere

A reference that cannot be looked up is a violation where it is met. The violation is passed on from keys, rules, types in
place and types behind references, and from an element with a single description. It is not passed on from a trial: of an
element with several descriptions only a message is kept, and of one that has to be excluded nothing is. So a validation
reports the unresolved references that it meets outside of trials, `Work.unresolved_reported`, and these alone:
`excludingType` passes though it meets one.
-/

namespace ShapeCheck

/-- Whether a rule tries descriptions of elements whose violations it does not pass on. -/
def Rule.tries : Rule → Bool
  | .includes elements => elements.length != 1
  | .excludes _ => true
  | _ => false

/-- No description that is tried has a reference. -/
def PropertyChecker.TriesNoReference (c : PropertyChecker) : Prop := ∀ x ∈ c.rules, x.tries = true → x.references = []

/-- The references of what is checked at a point. -/
def Point.references : Point → List TypeRef
  | .type _ _ _ t _ => t.references
  | .property _ _ _ _ _ c _ => c.references
  | .rule _ _ _ x _ => x.references

section Trials

variable {resolve : Resolver} {p q : Point} {r s : Run} {b : Bool}

/-- What is called inside of the same type has no other references than the caller. A reference is followed from a point that
has one. -/
theorem Call.references_cases (h : Call resolve b p r q s) :
    q.context.depth = p.context.depth ∧ q.references ⊆ p.references ∨
      q.context.depth = p.context.depth + 1 ∧ p.references ≠ [] := by
  cases h with
  | field _ hproperties _ _ =>
      have hmem := hproperties ▸ List.mem_append_cons_self
      exact .inl ⟨rfl, fun ref href => PropertyChecker.mem_referencesOfFields hmem href⟩
  | rule _ _ hrules _ =>
      exact .inl ⟨rfl, fun ref href => PropertyChecker.mem_references (hrules ▸ List.mem_append_cons_self) href⟩
  | included _ _ hsplit _ =>
      refine .inl ⟨rfl, fun ref href => ?_⟩
      rw [Point.references, Rule.references]
      exact PropertyChecker.mem_referencesOfAll.2 ⟨_, hsplit ▸ List.mem_append_cons_self, href⟩
  | excluded _ _ hsplit _ =>
      refine .inl ⟨rfl, fun ref href => ?_⟩
      rw [Point.references, Rule.references]
      exact PropertyChecker.mem_referencesOfAll.2 ⟨_, hsplit ▸ List.mem_append_cons_self, href⟩
  | reference =>
      refine .inr ⟨rfl, ?_⟩
      rw [Point.references, Rule.references]
      exact List.cons_ne_nil _ _
  | inlineType =>
      refine .inl ⟨rfl, ?_⟩
      rw [Point.references, Point.references, Rule.references_inlineType]
      exact List.Subset.refl _

/-- What is called has no reference if the caller has none. -/
theorem Call.references_nil (h : Call resolve b p r q s) (hp : p.references = []) : q.references = [] := by
  rcases h.references_cases with ⟨_, hsub⟩ | ⟨_, hne⟩
  · exact List.subset_nil.1 (hp ▸ hsub)
  · exact absurd hp hne

/-- Trials are made by rules that try. -/
theorem Call.tries (h : Call resolve true p r q s) : ∃ n ctx path x v, p = .rule n ctx path x v ∧ x.tries = true := by
  generalize htrial : true = trial at h
  cases h with
  | field | rule | reference | inlineType => cases htrial
  | @included n ctx path elements _ _ _ v => exact ⟨n, ctx, path, .includes elements, v, rfl, rfl⟩
  | @excluded n ctx path elements _ _ _ v => exact ⟨n, ctx, path, .excludes elements, v, rfl, rfl⟩

/-- Where descriptions that are tried have no references, trials come to none. -/
theorem Reached.references_nil {k : Territory} (hk : k.Closed resolve) (hp : p.Inside k)
    (hquiet : ∀ c, k.checkers c → c.TriesNoReference) (h : Reached resolve p r b q s) (hb : b = true) : q.references = [] := by
  induction h with
  | start => cases hb
  | @call tried trial q u s s' hq hcall ih =>
      cases tried with
      | true => exact hcall.references_nil (ih rfl)
      | false =>
          obtain rfl : trial = true := hb
          obtain ⟨n, ctx, path, x, v, rfl, htries⟩ := hcall.tries
          obtain ⟨_, ⟨c, hc, hx⟩, _⟩ := hq.inside hk hp
          exact hcall.references_nil (hquiet c hc x hx htries)

end Trials

section Visits

variable {resolve : Resolver} {t : TypeChecker} {maxDepth : Int} {v : Value} {σ : Store} {visit : Visit}

/-- A run makes a visit outside of trials. -/
def Visit.MadeOutside (visit : Visit) (resolve : Resolver) (t : TypeChecker) (maxDepth : Int) (v : Value) (σ : Store) : Prop :=
  ∃ own, visit.MadeIn resolve (.whole t maxDepth v) { store := σ } false own

theorem Visit.unresolved_iff (h : visit ∈ (t.validate resolve maxDepth v σ).run.visits) :
    visit.outcome = .unresolved ↔ resolve visit.ref = none := by
  obtain ⟨b, own, n, r, _, hmeeting⟩ := Visit.madeIn h
  generalize visit.outcome = outcome at hmeeting
  cases hmeeting with
  | unresolved missing => exact ⟨fun _ => missing, fun _ => rfl⟩
  | cyclic found | tooDeep found | entered found =>
      rw [found]
      exact ⟨nofun, nofun⟩

/-- An unresolved reference that is met outside of trials is found, if no fault ends the run. -/
theorem Visit.MadeOutside.found (h : visit.MadeOutside resolve t maxDepth v σ) (hmissing : resolve visit.ref = none)
    {found : Findings} (hfound : (t.validate resolve maxDepth v σ).result = .ok found) :
    causedBy (.unresolved visit.ref) visit.path visit.value ∈ found := by
  obtain ⟨own, n, r, hreached, _⟩ := h
  rw [TypeChecker.validate_eq] at hfound
  rcases hends : ((Point.whole t maxDepth v).check resolve).ending { store := σ } with ⟨result, s⟩
  rw [hends] at hfound
  obtain rfl : result = .ok found := hfound
  obtain ⟨inner, u, hinner, hsub⟩ := hreached.passesOn rfl hends
  rw [Point.check, Rule.run] at hinner
  unfold follow at hinner
  rw [hmissing] at hinner
  cases hinner
  exact hsub (List.mem_singleton_self _)

/-- An unresolved reference that is found was met outside of trials. -/
theorem TypeChecker.validate_unresolved {found : Findings} (hfound : (t.validate resolve maxDepth v σ).result = .ok found)
    {f : Violation Value} (hf : f ∈ found) (hcode : f.code = .unresolved) :
    ∃ visit ∈ (t.validate resolve maxDepth v σ).run.visits, resolve visit.ref = none ∧
      visit.MadeOutside resolve t maxDepth v σ ∧ f = causedBy (.unresolved visit.ref) visit.path visit.value := by
  obtain ⟨visit, own, hvisit, hmade, hown⟩ := TypeChecker.validate_found hfound hf fun h => h (by rw [hcode]; decide)
  have hmadeOutside : visit.MadeOutside resolve t maxDepth v σ := ⟨own, hmade⟩
  obtain ⟨n, r, _, hmeeting⟩ := hmade
  rcases hmeeting.mem_found hown with ⟨_, hmissing, rfl⟩ | ⟨_, rfl⟩ | ⟨_, rfl⟩
  · exact ⟨visit, hvisit, hmissing, hmadeOutside, rfl⟩
  · cases hcode
  · cases hcode

/-- Where descriptions that are tried have no references, all visits are made outside of trials. -/
theorem Visit.madeOutside (hquiet : ∀ u, t.Reaches resolve u → u.Every PropertyChecker.TriesNoReference)
    (h : visit ∈ (t.validate resolve maxDepth v σ).run.visits) : visit.MadeOutside resolve t maxDepth v σ := by
  obtain ⟨b, own, n, r, hreached, hmeeting⟩ := Visit.madeIn h
  have hclosed : (Territory.leading resolve t PropertyChecker.TriesNoReference).Closed resolve :=
    Territory.leading_closed fun ref u ⟨w, hw, href⟩ hu => hquiet u (hw.named href hu)
  cases b with
  | false => exact ⟨own, n, r, hreached, hmeeting⟩
  | true =>
      have hstart : (Point.whole t maxDepth v).Inside (Territory.leading resolve t PropertyChecker.TriesNoReference) :=
        ⟨.refl, hquiet t .refl⟩
      have hnil := hreached.references_nil hclosed hstart (fun c hc => hc.1) rfl
      rw [Point.references, Rule.references] at hnil
      cases hnil

end Visits

/-- **Which unresolved references are reported.** A reference that a validation meets and that cannot be looked up is
recorded as unresolved. If it is met outside of trials, and no fault ends the run, the candidate does not conform, and one of
the violations is caused by just this reference and stands where it was met. No other violation says so. If no description
that is tried has a reference, in the type or in one that it leads to, then all references are met outside of trials. -/
theorem Work.unresolved_reported {t : ObjectType} {resolve : Resolver} {maxDepth : Option Int} {v : Value} {w : Workspace} {n : Int}
    (hn : Work.bound? maxDepth w = some n) :
    let visits := (t.checker.validate resolve n v w.store).run.visits
    let result := ((Work.validate t resolve maxDepth v).ending w).1
    (∀ visit ∈ visits, visit.outcome = .unresolved ↔ resolve visit.ref = none) ∧
    (∀ visit ∈ visits, resolve visit.ref = none → visit.MadeOutside resolve t.checker n v w.store →
      (∃ e, result = .error (.run e)) ∨ ∃ violations, result = .error (.nonconforming t.name violations) ∧
        ∃ f ∈ violations, f.cause = some (.unresolved visit.ref) ∧ f.path = visit.path) ∧
    (∀ violations, result = .error (.nonconforming t.name violations) → ∀ f ∈ violations, f.code = .unresolved →
      ∃ visit ∈ visits, resolve visit.ref = none ∧ visit.MadeOutside resolve t.checker n v w.store ∧
        f.cause = some (.unresolved visit.ref) ∧ f.path = visit.path) ∧
    ((∀ u, t.checker.Reaches resolve u → u.Every PropertyChecker.TriesNoReference) →
      ∀ visit ∈ visits, visit.MadeOutside resolve t.checker n v w.store) := by
  intro visits result
  have hresult : result = _ := Work.validate_result hn
  refine ⟨fun visit hvisit => Visit.unresolved_iff hvisit, fun visit _ hmissing houtside => ?_,
    fun violations hviolations f hf hcode => ?_, fun hquiet visit hvisit => Visit.madeOutside hquiet hvisit⟩
  · rw [hresult]
    rcases hrun : t.checker.validate resolve n v w.store with ⟨e | found, r⟩
    · exact .inl ⟨e, rfl⟩
    · have hmem := houtside.found hmissing (congrArg Outcome.result hrun)
      have hne : found ≠ [] := List.ne_nil_of_mem hmem
      refine .inr ⟨_, if_neg hne, _, List.mem_map_of_mem hmem, rfl, rfl⟩
  · rw [hresult] at hviolations
    rcases hrun : t.checker.validate resolve n v w.store with ⟨e | found, r⟩
    · rw [hrun] at hviolations
      cases hviolations
    · rw [hrun] at hviolations
      dsimp only at hviolations
      split at hviolations
      · cases hviolations
      · injection hviolations with hviolations
        injection hviolations with _ hviolations
        subst hviolations
        obtain ⟨g, hg, rfl⟩ := List.mem_map.1 hf
        obtain ⟨visit, hvisit, hmissing, houtside, rfl⟩ :=
          TypeChecker.validate_unresolved (congrArg Outcome.result hrun) hg hcode
        exact ⟨visit, hvisit, hmissing, houtside, rfl, rfl⟩

/-! A list of mappings that are to be, or not to be, of a type that is not there. -/

def memberData (method : String) : Datum :=
  .record [("properties", .record [("a", .record [("type", .text "Array"), ("constraints", .list [.record
    [("method", .text method), ("args", .list [.record [("type", .text "Object"), ("constraints", .list [.record
      [("method", .text "objectSchemaType"), ("args", .list [.record [("namespace", .text "ns://parts"),
        ("version", .text "1.0.0"), ("type", .text "Missing")]])]])]])]])])])]

def includingType : ObjectType := (ObjectType.ofDatum? (memberData "includes")).get (by decide +kernel)

def excludingType : ObjectType := (ObjectType.ofDatum? (memberData "excludes")).get (by decide +kernel)

def memberWork : Workspace where
  clock := ⟨default, ""⟩
  files := ⟨"/", []⟩
  store := ⟨#[.mapping [(.text "a", .container 1)], .list [.container 2], .mapping []]⟩

theorem includingType_unresolved_reported :
    let resolve : Resolver := fun _ => none
    let visits := (includingType.checker.validate resolve 64 (.container 0) memberWork.store).run.visits
    let result := ((Work.validate includingType resolve (some 64) (.container 0)).ending memberWork).1
    (∀ visit ∈ visits, visit.outcome = .unresolved ↔ resolve visit.ref = none) ∧
    (∀ visit ∈ visits, resolve visit.ref = none →
      visit.MadeOutside resolve includingType.checker 64 (.container 0) memberWork.store →
      (∃ e, result = .error (.run e)) ∨ ∃ violations, result = .error (.nonconforming includingType.name violations) ∧
        ∃ f ∈ violations, f.cause = some (.unresolved visit.ref) ∧ f.path = visit.path) ∧
    (∀ violations, result = .error (.nonconforming includingType.name violations) → ∀ f ∈ violations, f.code = .unresolved →
      ∃ visit ∈ visits, resolve visit.ref = none ∧
        visit.MadeOutside resolve includingType.checker 64 (.container 0) memberWork.store ∧
        f.cause = some (.unresolved visit.ref) ∧ f.path = visit.path) ∧
    ((∀ u, includingType.checker.Reaches resolve u → u.Every PropertyChecker.TriesNoReference) →
      ∀ visit ∈ visits, visit.MadeOutside resolve includingType.checker 64 (.container 0) memberWork.store) :=
  Work.unresolved_reported rfl

/-- A list that is to exclude the elements of a type that is not there passes, and nothing says that it was not there. -/
theorem excludingType_passes :
    (∃ visit ∈ (excludingType.checker.validate (fun _ => none) 64 (.container 0) memberWork.store).run.visits,
      visit.outcome = .unresolved) ∧
    ((Work.validate excludingType (fun _ => none) (some 64) (.container 0)).ending memberWork).1 = .ok () := by
  have hmeets : ((excludingType.checker.validate (fun _ => none) 64 (.container 0) memberWork.store).run.visits.any fun visit =>
      visit.outcome = .unresolved) = true := by decide +kernel
  obtain ⟨visit, hvisit, houtcome⟩ := List.any_eq_true.1 hmeets
  exact ⟨⟨visit, hvisit, of_decide_eq_true houtcome⟩, Except.isOk_iff.1 (by decide +kernel)⟩

end ShapeCheck
