import ShapeCheck.Proofs.Lookups
import ShapeCheck.Proofs.Naming
import ShapeCheck.Proofs.Unresolved

/-!
# Registries that miss nothing

Where no stored schema misses a reference, no validation by a stored type comes to a reference that leads nowhere. The
search for what is missing reads definitions and a run follows the rules of checkers, but both name the same references
(`TypeDef.Compiles.references_eq`). A reference of a stored schema leads to a type of a stored schema, whose references are
again those of a stored schema: `Territory.prewarmed` is closed, and runs stay inside of it, trials included.
-/

namespace ShapeCheck

namespace Workspace

/-- A registry stores a schema. -/
def Stores (w : Workspace) (reg : Registry) (s : Schema) : Prop := ∃ key h, reg.find? key = some h ∧ w.schemas[h]? = some s

/-- The types of stored schemas were built with the standard capabilities. -/
def StoresStandard (w : Workspace) (reg : Registry) : Prop :=
  ∀ s, w.Stores reg s → ∀ p ∈ s.types, p.2.Built (· = .standard)

/-- No stored schema misses a reference. -/
def Prewarmed (w : Workspace) (reg : Registry) : Prop := ∀ s, w.Stores reg s → w.missingOfSchema reg s = []

/-- Some stored schema names a reference. -/
def NamesRef (w : Workspace) (reg : Registry) (ref : TypeRef) : Prop := ∃ s, w.Stores reg s ∧ ref ∈ s.references

end Workspace

theorem Schema.mem_references {s : Schema} {p : Option String × ObjectType} (hp : p ∈ s.types) {ref : TypeRef}
    (href : ref ∈ p.2.definition.references) : ref ∈ s.references := by
  unfold references
  exact List.mem_eraseDups.2 (List.mem_flatMap.2 ⟨p, hp, href⟩)

section Stored

variable {w : Workspace} {reg : Registry} {registered : List SchemaHandle} {s : Schema}

/-- A stored schema is found under its own key. -/
theorem Workspace.Records.find?_key (h : w.Records reg registered) (hs : w.Stores reg s) :
    ∃ a, reg.find? s.key = some a ∧ w.schemas[a]? = some s := by
  obtain ⟨key, a, hfind, ha⟩ := hs
  obtain ⟨s', hs', hkey⟩ := h.keyed (key, a) (Assoc.mem_of_get? hfind)
  cases ha.symm.trans hs'
  exact ⟨a, hkey ▸ hfind, ha⟩

/-- Where nothing is missing, a reference of a stored schema leads to a type of a stored schema. -/
theorem Workspace.Records.typeAt?_of_prewarmed (h : w.Records reg registered) (hwarm : w.Prewarmed reg) {ref : TypeRef}
    (href : w.NamesRef reg ref) : ∃ t, w.typeAt? reg ref = some t := by
  obtain ⟨s, hs, href⟩ := href
  have hfound := List.filter_eq_nil_iff.1 (hwarm s hs) ref href
  by_cases hlocal : ref.schemaKey = s.key ∧ s.types.has (some ref.name) = true
  · obtain ⟨hkey, hhas⟩ := hlocal
    obtain ⟨a, hfind, ha⟩ := h.find?_key hs
    obtain ⟨t, ht⟩ := Option.isSome_iff_exists.1 hhas
    refine ⟨t, ?_⟩
    unfold Workspace.typeAt?
    rw [hkey, hfind, Option.bind_some, ha, Option.bind_some, ht]
  · refine Option.isSome_iff_exists.1 (Option.isSome_iff_ne_none.2 fun hnone => hfound ?_)
    rw [Bool.and_eq_true, Bool.not_eq_true', Bool.eq_false_iff, Ne, Bool.and_eq_true, decide_eq_true_eq]
    exact ⟨hlocal, hnone ▸ rfl⟩

/-- The type that a reference leads to is one of a stored schema. -/
theorem Workspace.stores_of_typeAt? {ref : TypeRef} {t : ObjectType} (ht : w.typeAt? reg ref = some t) :
    ∃ s, w.Stores reg s ∧ (some ref.name, t) ∈ s.types := by
  obtain ⟨s, hs, ht⟩ := Option.bind_eq_some_iff.1 ht
  obtain ⟨a, hfind, ha⟩ := Option.bind_eq_some_iff.1 hs
  exact ⟨s, ⟨_, a, hfind, ha⟩, Assoc.mem_of_get? ht⟩

/-- What names only references of stored schemas. -/
def Territory.prewarmed (w : Workspace) (reg : Registry) : Territory where
  types u := ∀ ref ∈ u.references, w.NamesRef reg ref
  checkers c := ∀ ref ∈ c.references, w.NamesRef reg ref
  references := w.NamesRef reg

theorem Territory.prewarmed_types (hbuilt : w.StoresStandard reg) (hs : w.Stores reg s) {p : Option String × ObjectType}
    (hp : p ∈ s.types) : (Territory.prewarmed w reg).types p.2.checker := by
  intro ref href
  rw [(hbuilt s hs p hp).compiles.references_eq] at href
  exact ⟨s, hs, Schema.mem_references hp href⟩

theorem Territory.prewarmed_closed (hbuilt : w.StoresStandard reg) :
    (Territory.prewarmed w reg).Closed (w.resolver reg) where
  every hu c hc ref href := hu ref (PropertyChecker.referencesOfFields_subset hc href)
  names hu := hu
  inside hc hu _ ref href := hc ref (PropertyChecker.mem_references hu (Rule.references_inlineType _ ▸ href))
  behind _ hu := by
    obtain ⟨t, ht, rfl⟩ := Option.map_eq_some_iff.1 hu
    obtain ⟨s, hs, hmem⟩ := Workspace.stores_of_typeAt? ht
    exact prewarmed_types hbuilt hs hmem

/-- No run by a stored type comes to a reference that leads nowhere, in trials or outside of them. -/
theorem Workspace.Records.visit_resolves (h : w.Records reg registered) (hbuilt : w.StoresStandard reg) (hwarm : w.Prewarmed reg)
    (hs : w.Stores reg s) {p : Option String × ObjectType} (hp : p ∈ s.types) {n : Int} {v : Value} {σ : Store} {visit : Visit}
    (hvisit : visit ∈ (p.2.checker.validate (w.resolver reg) n v σ).run.visits) : w.resolver reg visit.ref ≠ none := by
  obtain ⟨b, own, m, r, hreached, -⟩ := Visit.madeIn hvisit
  have hstart : (Point.whole p.2.checker n v).Inside (Territory.prewarmed w reg) := Territory.prewarmed_types hbuilt hs hp
  obtain ⟨-, -, hnames⟩ := hreached.inside (Territory.prewarmed_closed hbuilt) hstart
  have href : w.NamesRef reg visit.ref := hnames _ (by
    rw [Rule.references]
    exact List.mem_singleton_self _)
  obtain ⟨t, ht⟩ := h.typeAt?_of_prewarmed hwarm href
  unfold Workspace.resolver
  rw [ht]
  exact nofun

end Stored

namespace Work

/-- The bound of a validation is found, or the settings cannot be read; the store stays as it is. -/
theorem depthBound_cases (maxDepth : Option Int) (w : Workspace) :
    (∃ f w', (depthBound maxDepth).ending w = (.error f, w') ∧ ∀ name violations, f ≠ .nonconforming name violations) ∨
      ∃ n w', (depthBound maxDepth).ending w = (.ok n, w') ∧ w'.store = w.store := by
  cases maxDepth with
  | some n => exact .inr ⟨n, w, rfl, rfl⟩
  | none =>
    have hget : (get : Work Workspace).ending w = (.ok w, w) := rfl
    unfold depthBound settings
    rw [ending_bind, ending_bind_ok hget]
    cases hsettings : w.settings with
    | some s => exact .inr ⟨s.maxDepth, w, rfl, rfl⟩
    | none =>
      rcases variableSources_ending w with hfails | ⟨sources, hsources⟩
      · dsimp only
        rw [ending_bind, hfails]
        exact .inl ⟨_, w, rfl, nofun⟩
      dsimp only
      rw [ending_bind_ok hsources]
      cases Settings.make [] sources with
      | bad issues => exact .inl ⟨_, w, rfl, nofun⟩
      | ok s => exact .inr ⟨s.maxDepth, { w with settings := some s }, rfl, rfl⟩

/-- The violations that a validation ends with are those that the run of the type has found. -/
theorem validate_nonconforming {t : ObjectType} {resolve : Resolver} {maxDepth : Option Int} {v : Value} {w : Workspace}
    {name : Option String} {violations : List (Violation Datum)}
    (h : ((validate t resolve maxDepth v).ending w).1 = .error (.nonconforming name violations)) :
    ∃ n found f, (t.checker.validate resolve n v w.store).result = .ok found ∧ violations = found.map (Violation.map f) := by
  rcases depthBound_cases maxDepth w with ⟨f, w', hbound, hother⟩ | ⟨n, w', hbound, hstore⟩
  · unfold validate at h
    rw [ending_bind, hbound] at h
    exact absurd (Except.error.inj h) (hother name violations)
  · have hsame : (validate t resolve maxDepth v).ending w = (validate t resolve (some n) v).ending w' := by
      unfold validate
      rw [ending_bind_ok hbound]
      rfl
    rw [hsame, validate_result rfl, hstore] at h
    rcases hrun : t.checker.validate resolve n v w.store with ⟨e | found, r⟩ <;> rw [hrun] at h
    · cases h
    · dsimp only at h
      split at h
      · cases h
      · cases h
        exact ⟨n, found, _, congrArg Outcome.result hrun, rfl⟩

end Work

/-- **A prewarmed registry leaves nothing unresolved.** Start with a registry that holds nothing, and take any steps that make
and change schemas and register them. If then no stored schema misses a reference, and the types of stored schemas were built
with the standard capabilities, no validation by such a type, of whatever value and with whatever bound, comes to a reference
that the registry does not find, at any nesting and in trials as well, and none ends with a violation that says so. -/
theorem RegistryStep.run_prewarmed {w : Workspace} {r : RegistryHandle} {reg₀ reg : Registry} (hformed : w.SchemasFormed)
    (hreg₀ : w.registries[r]? = some reg₀) (hempty : reg₀.schemas = []) (steps : List RegistryStep)
    (hreg : (run r steps w).1.registries[r]? = some reg) (hbuilt : (run r steps w).1.StoresStandard reg)
    (hwarm : (run r steps w).1.Prewarmed reg) {s : Schema} (hs : (run r steps w).1.Stores reg s)
    {p : Option String × ObjectType} (hp : p ∈ s.types) (v : Value) :
    (∀ n σ, ∀ visit ∈ (p.2.checker.validate ((run r steps w).1.resolver reg) n v σ).run.visits,
      (run r steps w).1.resolver reg visit.ref ≠ none ∧ visit.outcome ≠ .unresolved) ∧
    ∀ maxDepth w' name violations, ((Work.validate p.2 ((run r steps w).1.resolver reg) maxDepth v).ending w').1 =
      .error (.nonconforming name violations) → ∀ f ∈ violations, f.code ≠ .unresolved := by
  obtain ⟨reg', hreg', hrecords⟩ := foldl_records steps hreg₀ (.empty hformed hempty)
  cases hreg.symm.trans hreg'
  have hresolves : ∀ n σ, ∀ visit ∈ (p.2.checker.validate ((run r steps w).1.resolver reg) n v σ).run.visits,
      (run r steps w).1.resolver reg visit.ref ≠ none := fun _ _ _ hvisit =>
    hrecords.visit_resolves hbuilt hwarm hs hp hvisit
  constructor
  · exact fun n σ visit hvisit => ⟨hresolves n σ visit hvisit, mt (Visit.unresolved_iff hvisit).1 (hresolves n σ visit hvisit)⟩
  · intro maxDepth w' name violations hviolations f hf hcode
    obtain ⟨n, found, _, hfound, rfl⟩ := Work.validate_nonconforming hviolations
    obtain ⟨g, hg, rfl⟩ := List.mem_map.1 hf
    obtain ⟨visit, hvisit, hmissing, -⟩ := TypeChecker.validate_unresolved hfound hg hcode
    exact hresolves n w'.store visit hvisit hmissing

/-! Two schemas with types that refer to each other, in descriptions of elements too. -/

/-- The data of a type with one property, with one constraint. -/
def linkData (kind method : String) (args : List Datum) : Datum :=
  .record [("properties", .record [("x", .record [("type", .text kind), ("constraints", .list [.record
    [("method", .text method), ("args", .list args)]])])])]

/-- The data of a reference to a type in one of the two schemas. -/
def linkTo (namespaceName name : String) : Datum :=
  .record [("namespace", .text namespaceName), ("version", .text "1.0.0"), ("type", .text name)]

def listType : ObjectType := (ObjectType.ofDatum? (linkData "Array" "excludes" [.record [("type", .text "Object"), ("constraints",
  .list [.record [("method", .text "objectSchemaType"), ("args", .list [linkTo "ns://b" "B"])]])]])).get (by decide +kernel)

def chainType : ObjectType :=
  (ObjectType.ofDatum? (linkData "Object" "objectSchemaType" [linkTo "ns://b" "B"])).get (by decide +kernel)

/-- A schema of version 1.0.0 with one type. -/
def linkSchema (namespaceName name : String) (t : ObjectType) : Schema where
  namespaceName := namespaceName
  version := "1.0.0"
  description := "Links"
  capabilities := .standard
  types := [(some name, t.rename (some name))]
  identity := ⟨"", "ObjectSchema", default, default⟩

def linkWorkspace : Workspace :=
  { emptyRegistry with schemas := #[linkSchema "ns://a" "A" listType, linkSchema "ns://b" "B" chainType] }

def linkSteps : List RegistryStep := [.register 0, .register 1]

def linkRegistry : Registry := ⟨.memory, [("ns://a/1.0.0", 0), ("ns://b/1.0.0", 1)]⟩

theorem linkWorkspace_cases {h : SchemaHandle} {s : Schema} (hs : linkWorkspace.schemas[h]? = some s) :
    s = linkSchema "ns://a" "A" listType ∨ s = linkSchema "ns://b" "B" chainType := by
  match h, hs with
  | 0, hs => exact .inl (Option.some.inj hs).symm
  | 1, hs => exact .inr (Option.some.inj hs).symm
  | n + 2, hs => simp [linkWorkspace] at hs

theorem linkSteps_prewarmed :
    (RegistryStep.run 0 linkSteps linkWorkspace).1.Stores linkRegistry (linkSchema "ns://a" "A" listType) ∧ ∀ v : Value,
      (∀ n σ, ∀ visit ∈ ((listType.rename (some "A")).checker.validate
        ((RegistryStep.run 0 linkSteps linkWorkspace).1.resolver linkRegistry) n v σ).run.visits,
        (RegistryStep.run 0 linkSteps linkWorkspace).1.resolver linkRegistry visit.ref ≠ none ∧ visit.outcome ≠ .unresolved) ∧
      ∀ maxDepth w' name violations, ((Work.validate (listType.rename (some "A"))
        ((RegistryStep.run 0 linkSteps linkWorkspace).1.resolver linkRegistry) maxDepth v).ending w').1 =
          .error (.nonconforming name violations) → ∀ f ∈ violations, f.code ≠ .unresolved := by
  have hschemas : (RegistryStep.run 0 linkSteps linkWorkspace).1.schemas = linkWorkspace.schemas := rfl
  have hcases : ∀ s, (RegistryStep.run 0 linkSteps linkWorkspace).1.Stores linkRegistry s →
      s = linkSchema "ns://a" "A" listType ∨ s = linkSchema "ns://b" "B" chainType := by
    rintro s ⟨key, h, -, hs⟩
    exact linkWorkspace_cases (hschemas ▸ hs)
  have hformed : linkWorkspace.SchemasFormed := by
    intro h s hs
    rcases linkWorkspace_cases hs with rfl | rfl <;> exact ⟨by decide +kernel, by decide +kernel⟩
  have hbuilt : (RegistryStep.run 0 linkSteps linkWorkspace).1.StoresStandard linkRegistry := by
    intro s hs p hp
    rcases hcases s hs with rfl | rfl <;> cases List.mem_singleton.1 hp <;>
      exact (ObjectType.ofDatum?_built (Option.some_get _).symm).rename _
  have hwarm : (RegistryStep.run 0 linkSteps linkWorkspace).1.Prewarmed linkRegistry := by
    intro s hs
    rcases hcases s hs with rfl | rfl <;> decide +kernel
  have hstores : (RegistryStep.run 0 linkSteps linkWorkspace).1.Stores linkRegistry (linkSchema "ns://a" "A" listType) :=
    ⟨"ns://a/1.0.0", 0, by decide, rfl⟩
  have hreg : (RegistryStep.run 0 linkSteps linkWorkspace).1.registries[0]? = some linkRegistry := by decide +kernel
  exact ⟨hstores, fun v =>
    RegistryStep.run_prewarmed hformed rfl rfl linkSteps hreg hbuilt hwarm hstores (List.mem_singleton_self _) v⟩

end ShapeCheck

