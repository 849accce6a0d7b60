import Mathlib.Data.List.Find
import ShapeCheck.Proofs.Registering

/-!
# Lookups in a registry

A registry keeps schemas under texts, and still behaves as a map from pairs of a namespace and a version: a version has no
slash in it, so the pair can be told from the key (`key_inj`), however many slashes the namespace has. `RegistryStep.run` is
what steps leave that make, change and register schemas, failing ones among them: a workspace and the registrations that went
well, the last one first. `RegistryStep.run_looksUp` says that lookups give the types, as they are now, of the schema that was
registered last under the pair.
-/

namespace ShapeCheck

open Shape

/-! ## Keys of schemas -/

theorem mem_splitAtChar {sep c : Char} (hc : c ≠ sep) :
    ∀ {cs : List Char}, c ∈ cs → ∃ piece ∈ splitAtChar sep cs, c ∈ piece
  | d :: rest, h => by
    unfold splitAtChar
    rcases List.mem_cons.1 h with rfl | hrest
    · rw [if_neg hc]
      split
      · exact ⟨_, List.mem_singleton_self _, List.mem_singleton_self _⟩
      · exact ⟨_, List.mem_cons_self .., List.mem_cons_self ..⟩
    · obtain ⟨piece, hpiece, hmem⟩ := mem_splitAtChar hc hrest
      split
      · exact ⟨piece, List.mem_cons_of_mem _ hpiece, hmem⟩
      · split
        · next hnone =>
          rw [hnone] at hpiece
          cases hpiece
        · next first others hpieces =>
          rw [hpieces] at hpiece
          rcases List.mem_cons.1 hpiece with rfl | hother
          · exact ⟨_, List.mem_cons_self .., List.mem_cons_of_mem _ hmem⟩
          · exact ⟨piece, List.mem_cons_of_mem _ hother, hmem⟩

/-- There is no slash in a version. -/
theorem not_mem_of_isVersion {s : String} (h : isVersion s = true) : '/' ∉ s.toList := by
  intro hslash
  obtain ⟨piece, hpiece, hmem⟩ := mem_splitAtChar (show '/' ≠ '.' by decide) hslash
  unfold isVersion at h
  split at h
  · next a b c hpieces =>
    rw [hpieces] at hpiece
    have hall := List.all_eq_true.1 h piece hpiece
    rw [Bool.and_eq_true, List.all_eq_true] at hall
    exact absurd (hall.2 '/' hmem) (by decide)
  · cases h

/-- What stands around the last slash of a list is determined. -/
theorem append_slash_inj {bs ds : List Char} (hb : '/' ∉ bs) (hd : '/' ∉ ds) :
    ∀ {as cs : List Char}, as ++ '/' :: bs = cs ++ '/' :: ds → as = cs ∧ bs = ds
  | [], [], h => ⟨rfl, (List.cons.inj h).2⟩
  | [], c :: cs, h => by
    obtain ⟨-, rfl⟩ := List.cons.inj h
    exact absurd (List.mem_append_right _ (List.mem_cons_self ..)) hb
  | a :: as, [], h => by
    obtain ⟨-, rfl⟩ := List.cons.inj h.symm
    exact absurd (List.mem_append_right _ (List.mem_cons_self ..)) hd
  | a :: as, c :: cs, h => by
    obtain ⟨rfl, hrest⟩ := List.cons.inj h
    obtain ⟨rfl, rfl⟩ := append_slash_inj hb hd hrest
    exact ⟨rfl, rfl⟩

/-- **Keys tell pairs apart.** Two pairs of a namespace and a version that have one key are one pair. -/
theorem key_inj {ns ms v w : String} (hv : isVersion v = true) (hw : isVersion w = true)
    (h : ns ++ "/" ++ v = ms ++ "/" ++ w) : ns = ms ∧ v = w := by
  have hlists := congrArg String.toList h
  simp only [String.toList_append] at hlists
  have hboth := append_slash_inj (not_mem_of_isVersion hv) (not_mem_of_isVersion hw) (by simpa using hlists)
  exact ⟨String.toList_inj.1 hboth.1, String.toList_inj.1 hboth.2⟩

/-! ## References from three texts -/

namespace TypeRef

/-- The data of a reference, from the values of its parts. -/
def triple (namespaceName version name : String) : Datum :=
  .record [("namespace", .text namespaceName), ("version", .text version), ("type_name", .text name)]

/-- Whether three texts are the parts of a reference. -/
def areParts (namespaceName version name : String) : Bool :=
  [namespaceName, version, name].all (!Text.hasSurrogate ·) && isNamespace namespaceName && isVersion version && name != ""

theorem textWhere_eq_ok {test : String → Bool} {defect : Defect} {s t : String} :
    Reading.textWhere test defect (.text s) = .ok t ↔ (Text.hasSurrogate s = false ∧ test s = true) ∧ s = t := by
  change (if Text.hasSurrogate s then Reading.fail .notUnicode (.text s)
    else if test s then .ok s else .fail defect (.text s)) = Reading.ok t ↔ _
  cases Text.hasSurrogate s <;> cases test s <;> simp [Reading.fail]

theorem areParts_formed {ns version name : String} (h : areParts ns version name = true) :
    isNamespace ns = true ∧ isVersion version = true ∧ name ≠ "" := by
  simp only [areParts, Bool.and_eq_true, bne_iff_ne] at h
  exact ⟨h.1.1.2, h.1.2, h.2⟩

theorem make?_of {ns version name : String} (hns : isNamespace ns = true) (hversion : isVersion version = true)
    (hname : name ≠ "") : make? ns version name = some ⟨ns, version, name, hns, hversion, hname⟩ :=
  dif_pos ⟨hns, hversion, hname⟩

/-- Three texts that are the parts of a reference are read as that reference, and others as none. -/
theorem read_triple {ns version name : String} {ref : TypeRef} :
    read (triple ns version name) = .ok ref ↔
      areParts ns version name = true ∧ ref.namespaceName = ns ∧ ref.version = version ∧ ref.name = name := by
  let r : Record := ⟨triple ns version name,
    [(.text "namespace", .text ns), (.text "version", .text version), (.text "type_name", .text name)]⟩
  have hread : read (triple ns version name) = ofRecord r := rfl
  have hparts : ∀ p, r.closing fields ((r.required .ofNamespace Reading.namespaceName).both
      ((r.required .ofVersion Reading.version).both (r.required .ofTypeName Reading.someText))) = .ok p ↔
      areParts ns version name = true ∧ p = ((ns, version, name), ()) := by
    rintro ⟨⟨ns', version', name'⟩, ⟨⟩⟩
    have hns : r.required .ofNamespace Reading.namespaceName = (Reading.namespaceName (.text ns)).under (.key "namespace") := rfl
    have hversion : r.required .ofVersion Reading.version = (Reading.version (.text version)).under (.key "version") := rfl
    have hname : r.required .ofTypeName Reading.someText = (Reading.someText (.text name)).under (.key "type_name") := rfl
    have hclose : r.close fields = .ok () := rfl
    rw [hns, hversion, hname, Record.closing_of_close hclose]
    simp only [Reading.both_eq_ok, Reading.under_eq_ok, Reading.namespaceName, Reading.version, Reading.someText,
      textWhere_eq_ok, areParts]
    simp
    grind
  rw [hread, ofRecord]
  split
  · next issues hbad =>
    refine ⟨nofun, fun ⟨hare, _⟩ => ?_⟩
    cases ((hparts _).2 ⟨hare, rfl⟩).symm.trans hbad
  · next hok =>
    obtain ⟨hare, heq⟩ := (hparts _).1 hok
    cases heq
    obtain ⟨hns, hversion, hname⟩ := areParts_formed hare
    rw [make?_of hns hversion hname]
    refine ⟨fun h => ?_, ?_⟩
    · cases h
      exact ⟨hare, rfl, rfl, rfl⟩
    · rintro ⟨-, rfl, rfl, rfl⟩
      rfl

end TypeRef

/-! ## Histories -/

/-- A step of a history: schemas are made, changed, and registered in one registry. -/
inductive RegistryStep where
  | make (capabilities : CapabilitiesHandle) (factory : Option IdentityFactory) (options : Datum) (more : List (Key × Datum))
  | register (h : SchemaHandle)
  /-- Registers a schema that is made from data. -/
  | registerOf (options : Datum)
  | addType (h : SchemaHandle) (name definition : Datum)
  | setType (h : SchemaHandle) (name definition : Datum)
  | removeType (h : SchemaHandle) (name : Datum)

namespace RegistryStep

/-- The operation of a step, which gives the schema that it has registered. -/
def op (r : RegistryHandle) : RegistryStep → Work (Option SchemaHandle)
  | .make capabilities factory options more => do
    let _ ← Work.makeSchemaOf capabilities factory options more
    return none
  | .register h => do
    Work.register r h
    return some h
  | .registerOf options => do
    let h ← Work.makeSchemaOf standardCapabilities none options []
    Work.register r h
    return some h
  | .addType h name definition => do
    let _ ← Work.addSchemaType h name definition
    return none
  | .setType h name definition => do
    let _ ← Work.setSchemaType h name definition
    return none
  | .removeType h name => do
    let _ ← Work.removeSchemaType h name
    return none

/-- What a step leaves, whether it goes well or not: a workspace, and the schemas that were registered, the last one first. -/
def after (r : RegistryHandle) (before : Workspace × List SchemaHandle) (step : RegistryStep) :
    Workspace × List SchemaHandle :=
  match (step.op r).ending before.1 with
  | (.ok (some h), w) => (w, h :: before.2)
  | (_, w) => (w, before.2)

/-- What a history leaves of a workspace. -/
def run (r : RegistryHandle) (steps : List RegistryStep) (w : Workspace) : Workspace × List SchemaHandle :=
  steps.foldl (after r) (w, [])

end RegistryStep

namespace Workspace

/-- Whether a schema has a namespace and a version. -/
def isUnder (w : Workspace) (namespaceName version : String) (h : SchemaHandle) : Bool :=
  (w.schemas[h]?).any fun s => s.namespaceName == namespaceName && s.version == version

/-- The schema that was registered last under a namespace and a version, as it is now. -/
def lastUnder? (w : Workspace) (registered : List SchemaHandle) (namespaceName version : String) : Option Schema :=
  (registered.find? (w.isUnder namespaceName version)).bind fun h => w.schemas[h]?

/-- The type with a name of the schema that was registered last under a namespace and a version. -/
def typeUnder? (w : Workspace) (registered : List SchemaHandle) (namespaceName version name : String) : Option ObjectType :=
  (w.lastUnder? registered namespaceName version).bind fun s => s.types.get? (some name)

/-- A registry and the schemas that were registered in it, the last one first. -/
structure Records (w : Workspace) (reg : Registry) (registered : List SchemaHandle) : Prop where
  formed : w.SchemasFormed
  known : ∀ h ∈ registered, h < w.schemas.size
  found : ∀ namespaceName version, isVersion version = true →
    reg.find? (namespaceName ++ "/" ++ version) = registered.find? (w.isUnder namespaceName version)
  keyed : ∀ p ∈ reg.schemas, ∃ s, w.schemas[p.2]? = some s ∧ p.1 = s.key

theorem isUnder_iff {w : Workspace} {ns version : String} {h : SchemaHandle} {s : Schema} (hs : w.schemas[h]? = some s) :
    w.isUnder ns version h = true ↔ s.namespaceName = ns ∧ s.version = version := by
  simp [isUnder, hs]

namespace Records

variable {w w' : Workspace} {reg : Registry} {registered : List SchemaHandle}

theorem empty (hw : w.SchemasFormed) (hreg : reg.schemas = []) : w.Records reg [] where
  formed := hw
  known _ ha := absurd ha List.not_mem_nil
  found _ _ _ := by
    rw [Registry.find?, hreg]
    rfl
  keyed p hp := absurd (hreg ▸ hp) List.not_mem_nil

/-- What is recorded stays right when schemas are made and changed. -/
theorem grows (h : w.Records reg registered) (hw : Grows w w') : w'.Records reg registered where
  formed := hw.formed h.formed
  known a ha := hw.lt_size (h.known a ha)
  found ns version hversion := by
    rw [h.found ns version hversion]
    refine List.find?_congr fun a ha => ?_
    obtain ⟨s', hs', hpair⟩ := hw.kept a _ (Array.getElem?_eq_getElem (h.known a ha))
    rw [Bool.eq_iff_iff, isUnder_iff hs', isUnder_iff (Array.getElem?_eq_getElem (h.known a ha)), hpair.namespaceName, hpair.version]
  keyed p hp := by
    obtain ⟨s, hs, hkey⟩ := h.keyed p hp
    obtain ⟨s', hs', hpair⟩ := hw.kept p.2 s hs
    refine ⟨s', hs', hkey.trans ?_⟩
    rw [Schema.key, Schema.key, hpair.namespaceName, hpair.version]

/-- What is recorded stays right when a schema is registered. -/
theorem register (h : w.Records reg registered) {a : SchemaHandle} {s : Schema} (hs : w.schemas[a]? = some s) :
    w.Records (reg.register s.key a) (a :: registered) where
  formed := h.formed
  known b hb := by
    rcases List.mem_cons.1 hb with rfl | hb
    · exact (Array.getElem?_eq_some_iff.1 hs).1
    · exact h.known b hb
  found ns version hversion := by
    rw [List.find?_cons]
    by_cases hpair : s.namespaceName = ns ∧ s.version = version
    · rw [(isUnder_iff hs).2 hpair, ← hpair.1, ← hpair.2]
      exact Registry.find?_register_self ..
    · have hkey : s.key ≠ ns ++ "/" ++ version := fun heq => hpair (key_inj (h.formed a s hs).version hversion heq)
      rw [Bool.eq_false_iff.2 (mt (isUnder_iff hs).1 hpair), ← h.found ns version hversion]
      exact Assoc.get?_put_other a reg.schemas hkey
  keyed p hp := by
    rcases Assoc.mem_put hp with rfl | hp
    · exact ⟨s, hs, rfl⟩
    · exact h.keyed p hp

theorem sameSchemas (h : w.Records reg registered) (hw : w'.schemas = w.schemas) : w'.Records reg registered := by
  have hunder : w'.isUnder = w.isUnder := by
    unfold isUnder
    rw [hw]
  exact ⟨by unfold SchemasFormed; rw [hw]; exact h.formed, hw ▸ h.known, hunder ▸ h.found, hw ▸ h.keyed⟩

/-- A reference leads to the type of the schema that was registered last under its namespace and version. -/
theorem typeAt? (h : w.Records reg registered) (ref : TypeRef) :
    w.typeAt? reg ref = w.typeUnder? registered ref.namespaceName ref.version ref.name := by
  unfold Workspace.typeAt? typeUnder? lastUnder?
  rw [TypeRef.schemaKey, h.found _ _ ref.version_ok]

/-- Where a registry holds one schema only, references lead where the schema itself takes them. -/
theorem typeAt?_alone (h : w.Records reg registered) {key : String} {a : SchemaHandle} {s : Schema}
    (hreg : reg.schemas = [(key, a)]) (hs : w.schemas[a]? = some s) (ref : TypeRef) : w.typeAt? reg ref = s.localType? ref := by
  obtain ⟨s', hs', hkey⟩ := h.keyed (key, a) (by rw [hreg]; exact List.mem_singleton_self _)
  cases hs.symm.trans hs'
  subst hkey
  unfold Workspace.typeAt? Schema.localType? Registry.find?
  rw [hreg]
  by_cases hpair : ref.namespaceName = s.namespaceName ∧ ref.version = s.version
  · have heq : s.key = ref.schemaKey := by rw [TypeRef.schemaKey, hpair.1, hpair.2]; rfl
    simp only [Assoc.get?, if_pos heq, if_pos hpair, Option.bind_some, hs]
  · have hne : ¬ s.key = ref.schemaKey := fun heq =>
      hpair ((key_inj (h.formed a s hs).version ref.version_ok heq).imp Eq.symm Eq.symm)
    simp only [Assoc.get?, if_neg hne, if_neg hpair, Option.bind_none]

end Records

end Workspace

/-! ## What histories leave -/

namespace RegistryStep

variable {r : RegistryHandle} {reg : Registry} {w : Workspace} {registered : List SchemaHandle}

/-- A step that registers nothing, and makes and changes schemas at most. -/
theorem after_records_of_extends {α : Type} {step : RegistryStep} {op : Work α} (hop : step.op r = op >>= fun _ => pure none)
    (hextends : Work.Extends op) (hreg : w.registries[r]? = some reg) (h : w.Records reg registered) :
    (after r (w, registered) step).1.registries[r]? = some reg ∧
      (after r (w, registered) step).1.Records reg (after r (w, registered) step).2 := by
  have hw := hextends w
  unfold after
  rw [hop, Work.ending_bind]
  rcases hresult : op.ending w with ⟨e | a, w'⟩ <;> rw [hresult] at hw
  · exact ⟨hw.registries ▸ hreg, h.grows hw⟩
  · exact ⟨hw.registries ▸ hreg, h.grows hw⟩

/-- Whether a step is to register a schema. -/
def IsRegistration : RegistryStep → Prop
  | .register _ | .registerOf _ => True
  | _ => False

/-- A registration fails and changes neither schemas nor registries, or puts a schema, perhaps a new one, under its key. -/
theorem registration_cases {step : RegistryStep} (hstep : step.IsRegistration) (hreg : w.registries[r]? = some reg) :
    (∃ e w', (step.op r).ending w = (.error e, w') ∧ Workspace.SameTables w w') ∨
      ∃ a s w' w'', Workspace.Grows w w' ∧ w'.schemas[a]? = some s ∧ (step.op r).ending w = (.ok (some a), w'') ∧
        w''.schemas = w'.schemas ∧ w''.registries = w.registries.setIfInBounds r (reg.register s.key a) := by
  cases step with
  | make | addType | setType | removeType => exact hstep.elim
  | register a =>
    unfold op
    rcases hs : w.schemas[a]? with _ | s
    · rw [Work.ending_bind, Work.register_stray hreg hs]
      exact .inl ⟨_, w, rfl, .refl w⟩
    · obtain ⟨w', hend, hschemas, hregistries⟩ := Work.register_ending hreg hs
      rw [Work.ending_bind_ok hend]
      exact .inr ⟨a, s, w, w', (Workspace.SameTables.refl w).grows, hs, rfl, hschemas, hregistries⟩
  | registerOf options =>
    unfold op
    rcases Work.makeSchemaOf_cases standardCapabilities none options [] w with
      ⟨e, w', hend, hsame⟩ | ⟨s, w', hs, hend, hschemas, hregistries⟩
    · rw [Work.ending_bind, hend]
      exact .inl ⟨e, w', rfl, hsame⟩
    · have hnew : w'.schemas[w.schemas.size]? = some s := by rw [hschemas, Array.getElem?_push_size]
      obtain ⟨w'', hend', hschemas', hregistries'⟩ := Work.register_ending (hregistries ▸ hreg) hnew
      rw [Work.ending_bind_ok hend, Work.ending_bind_ok hend']
      have hgrows := Workspace.grows_push hs hschemas hregistries
      exact .inr ⟨_, s, w', w'', hgrows, hnew, rfl, hschemas', hregistries ▸ hregistries'⟩

theorem after_records_of_registration {step : RegistryStep} (hstep : step.IsRegistration) (hreg : w.registries[r]? = some reg)
    (h : w.Records reg registered) :
    ∃ reg', (after r (w, registered) step).1.registries[r]? = some reg' ∧
      (after r (w, registered) step).1.Records reg' (after r (w, registered) step).2 := by
  unfold after
  rcases registration_cases hstep hreg with
    ⟨e, w', hend, hsame⟩ | ⟨a, s, w', w'', hgrows, hs, hend, hschemas, hregistries⟩ <;> rw [hend]
  · exact ⟨reg, hsame.registries ▸ hreg, h.sameSchemas hsame.schemas⟩
  · refine ⟨reg.register s.key a, ?_, ((h.grows hgrows).register hs).sameSchemas hschemas⟩
    rw [hregistries, Array.getElem?_setIfInBounds_self_of_lt (Array.getElem?_eq_some_iff.1 hreg).1]

/-- After each step the registry finds what was registered last. -/
theorem after_records (hreg : w.registries[r]? = some reg) (h : w.Records reg registered) (step : RegistryStep) :
    ∃ reg', (after r (w, registered) step).1.registries[r]? = some reg' ∧
      (after r (w, registered) step).1.Records reg' (after r (w, registered) step).2 := by
  cases step with
  | make capabilities factory options more =>
    exact ⟨reg, after_records_of_extends rfl (Work.extends_makeSchemaOf _ _ _ _) hreg h⟩
  | addType a name definition => exact ⟨reg, after_records_of_extends rfl (Work.extends_addSchemaType _ _ _) hreg h⟩
  | setType a name definition => exact ⟨reg, after_records_of_extends rfl (Work.extends_setSchemaType _ _ _) hreg h⟩
  | removeType a name => exact ⟨reg, after_records_of_extends rfl (Work.extends_removeSchemaType _ _) hreg h⟩
  | register a => exact after_records_of_registration trivial hreg h
  | registerOf options => exact after_records_of_registration trivial hreg h

/-- After a history the registry finds what was registered last. -/
theorem foldl_records (steps : List RegistryStep) : ∀ {w : Workspace} {reg : Registry} {registered : List SchemaHandle},
    w.registries[r]? = some reg → w.Records reg registered →
    ∃ reg', (steps.foldl (after r) (w, registered)).1.registries[r]? = some reg' ∧
      (steps.foldl (after r) (w, registered)).1.Records reg' (steps.foldl (after r) (w, registered)).2 := by
  induction steps with
  | nil => exact fun hreg h => ⟨_, hreg, h⟩
  | cons step rest ih =>
    intro w reg registered hreg h
    obtain ⟨reg', hreg', h'⟩ := after_records hreg h step
    exact ih hreg' h'

end RegistryStep

/-! ## Lookups -/

namespace Workspace

/-- A registry answers as a map from pairs of a namespace and a version to schemas. -/
structure LooksUp (w : Workspace) (r : RegistryHandle) (registered : List SchemaHandle) : Prop where
  /-- The parts of a reference give the type with that name in the schema that was registered last under the pair. -/
  resolve : ∀ ns version name, ((Work.resolve r (.text ns) (.text version) (.text name)).ending w).1 =
    .ok (if TypeRef.areParts ns version name then w.typeUnder? registered ns version name else none)
  /-- So does a lookup key. -/
  lookup : ∀ key ref, TypeRef.ofKey key = .ok ref →
    ((Work.lookup r key).ending w).1 = .ok (w.typeUnder? registered ref.namespaceName ref.version ref.name)
  /-- A registration that fails changes no lookup. -/
  failing : ∀ (step : RegistryStep) e, step.IsRegistration → ((step.op r).ending w).1 = .error e →
    (∀ key, ((Work.lookup r key).ending ((step.op r).ending w).2).1 = ((Work.lookup r key).ending w).1) ∧
    ∀ ns version name, ((Work.resolve r ns version name).ending ((step.op r).ending w).2).1 =
      ((Work.resolve r ns version name).ending w).1
  /-- A registration under another pair changes no lookup. -/
  apart : ∀ h s, w.schemas[h]? = some s →
    (∀ key ref, TypeRef.ofKey key = .ok ref → (s.namespaceName, s.version) ≠ (ref.namespaceName, ref.version) →
      ((Work.lookup r key).ending ((Work.register r h).ending w).2).1 = ((Work.lookup r key).ending w).1) ∧
    ∀ ns version name, (s.namespaceName, s.version) ≠ (ns, version) →
      ((Work.resolve r (.text ns) (.text version) (.text name)).ending ((Work.register r h).ending w).2).1 =
        ((Work.resolve r (.text ns) (.text version) (.text name)).ending w).1
  /-- Where the registry holds one schema, it takes references to where the schema itself takes them, and a validation by
  either ends in one way. -/
  alone : ∀ reg key h s, w.registries[r]? = some reg → reg.schemas = [(key, h)] → w.schemas[h]? = some s →
    (∀ ns version name ref, TypeRef.read (TypeRef.triple ns version name) = .ok ref →
      ((Work.resolve r (.text ns) (.text version) (.text name)).ending w).1 = .ok (s.localType? ref)) ∧
    ∀ name t v, s.type? name = some t → (Work.validateAs h name none v).ending w =
      (Work.resolver r >>= fun resolve => Work.validate t resolve none v).ending w

section Answers

variable {w w' : Workspace} {r : RegistryHandle} {reg : Registry} {registered : List SchemaHandle}

theorem Records.resolve (h : w.Records reg registered) (hreg : w.registries[r]? = some reg) (ns version name : String) :
    ((Work.resolve r (.text ns) (.text version) (.text name)).ending w).1 =
      .ok (if TypeRef.areParts ns version name then w.typeUnder? registered ns version name else none) := by
  rw [Work.resolve_ending hreg, ← TypeRef.triple]
  by_cases hare : TypeRef.areParts ns version name = true
  · obtain ⟨hns, hversion, hname⟩ := TypeRef.areParts_formed hare
    let ref : TypeRef := ⟨ns, version, name, hns, hversion, hname⟩
    have hread : TypeRef.read (TypeRef.triple ns version name) = .ok ref := TypeRef.read_triple.2 ⟨hare, rfl, rfl, rfl⟩
    rw [hread, if_pos hare]
    exact congrArg _ (h.typeAt? ref)
  · rw [if_neg hare]
    split
    · next hread => exact absurd (TypeRef.read_triple.1 hread).1 hare
    · rfl

theorem Records.lookup (h : w.Records reg registered) (hreg : w.registries[r]? = some reg) {key : Datum} {ref : TypeRef}
    (hkey : TypeRef.ofKey key = .ok ref) :
    ((Work.lookup r key).ending w).1 = .ok (w.typeUnder? registered ref.namespaceName ref.version ref.name) := by
  rw [Work.lookup_ending hreg, hkey, ← h.typeAt? ref]

/-- Lookups depend on the schemas and the registry alone. -/
theorem SameTables.lookups (hsame : SameTables w w') (hreg : w.registries[r]? = some reg) :
    (∀ key, ((Work.lookup r key).ending w').1 = ((Work.lookup r key).ending w).1) ∧
      ∀ ns version name, ((Work.resolve r ns version name).ending w').1 = ((Work.resolve r ns version name).ending w).1 := by
  have hreg' : w'.registries[r]? = some reg := hsame.registries ▸ hreg
  have htype : w'.typeAt? reg = w.typeAt? reg := by
    unfold typeAt?
    rw [hsame.schemas]
  constructor
  · intro key
    rw [Work.lookup_ending hreg, Work.lookup_ending hreg', htype]
  · intro ns version name
    rw [Work.resolve_ending hreg, Work.resolve_ending hreg', htype]

/-- The schema that was registered last under a pair stays the last one when a schema is registered under another pair. -/
theorem typeUnder?_cons (registered : List SchemaHandle) {a : SchemaHandle} {s : Schema} (hs : w.schemas[a]? = some s)
    {ns version : String} (hpair : (s.namespaceName, s.version) ≠ (ns, version)) (name : String) :
    w.typeUnder? (a :: registered) ns version name = w.typeUnder? registered ns version name := by
  have hunder : w.isUnder ns version a = false :=
    Bool.eq_false_iff.2 fun h => hpair (Prod.ext_iff.2 ((isUnder_iff hs).1 h))
  rw [typeUnder?, typeUnder?, lastUnder?, lastUnder?, List.find?_cons, hunder]

/-- Validating by a schema that knows the type is validating by its type, with the references that lead to the schema. -/
theorem validateAs_ending {a : SchemaHandle} {s : Schema} (hs : w.schemas[a]? = some s) {name : Datum} {t : ObjectType}
    (ht : s.type? name = some t) (v : Value) :
    (Work.validateAs a name none v).ending w = (Work.validate t (localResolver s) none v).ending w := by
  have hkey : (Work.ofMaking (Schema.requireKey name)).ending w = (.ok (), w) := by
    unfold Schema.type? Schema.nameIn? at ht
    split at ht
    · rfl
    · rfl
    · cases ht
  have htype : (Work.typeNamed a name).ending w = (.ok (some t), w) := by
    unfold Work.typeNamed
    rw [Work.ending_bind_ok hkey, Work.ending_bind_ok (Work.schema_ending hs), ht]
    rfl
  unfold Work.validateAs
  rw [Work.ending_bind_ok (Work.schema_ending hs), Work.ending_bind_ok htype]
  rfl

theorem Records.looksUp (h : w.Records reg registered) (hreg : w.registries[r]? = some reg) : w.LooksUp r registered where
  resolve := h.resolve hreg
  lookup key ref hkey := h.lookup hreg hkey
  failing step e hstep herror := by
    rcases RegistryStep.registration_cases hstep hreg with
      ⟨e', w', hend, hsame⟩ | ⟨a, s, _, w', _, _, hend, _⟩ <;> rw [hend] at herror ⊢
    · exact hsame.lookups hreg
    · cases herror
  apart a s hs := by
    obtain ⟨w', hend, hschemas, hregistries⟩ := Work.register_ending hreg hs
    have hreg' : w'.registries[r]? = some (reg.register s.key a) := by
      rw [hregistries, Array.getElem?_setIfInBounds_self_of_lt (Array.getElem?_eq_some_iff.1 hreg).1]
    have h' : w'.Records (reg.register s.key a) (a :: registered) := (h.register hs).sameSchemas hschemas
    have hsame : ∀ ns version name, (s.namespaceName, s.version) ≠ (ns, version) →
        w'.typeUnder? (a :: registered) ns version name = w.typeUnder? registered ns version name := by
      intro ns version name hpair
      rw [typeUnder?_cons registered (hschemas ▸ hs) hpair, typeUnder?, typeUnder?, lastUnder?, lastUnder?]
      unfold isUnder
      rw [hschemas]
    rw [hend]
    constructor
    · intro key ref hkey hpair
      rw [h'.lookup hreg' hkey, h.lookup hreg hkey, hsame _ _ _ hpair]
    · intro ns version name hpair
      rw [h'.resolve hreg', h.resolve hreg, hsame _ _ _ hpair]
  alone reg' key a s hreg' hone hs := by
    cases hreg.symm.trans hreg'
    have htype := h.typeAt?_alone hone hs
    constructor
    · intro ns version name ref hread
      obtain ⟨hare, rfl, rfl, rfl⟩ := TypeRef.read_triple.1 hread
      rw [h.resolve hreg, if_pos hare, ← h.typeAt? ref, htype]
    · intro name t v ht
      have hget : (get : Work Workspace).ending w = (.ok w, w) := rfl
      have hresolver : (Work.resolver r).ending w = (.ok (w.resolver reg), w) := by
        unfold Work.resolver
        rw [Work.ending_bind_ok hget, Work.ending_bind_ok (Work.registry_ending hreg)]
        rfl
      have hlocal : w.resolver reg = localResolver s := funext fun ref => congrArg _ (htype ref)
      rw [validateAs_ending hs ht, Work.ending_bind_ok hresolver, hlocal]

end Answers

end Workspace

/-- **A registry is a map from pairs to schemas.** Start with a registry that holds nothing, among schemas with well-formed
namespaces and versions, and take any steps that make and change schemas and register them, failing ones among them. Then
lookups give the types, as they are now, of the schema that was registered last under the pair, registrations under other
pairs and registrations that fail change no lookup, and a registry of one schema takes references where the schema does. -/
theorem RegistryStep.run_looksUp {w : Workspace} {r : RegistryHandle} {reg : Registry} (hformed : w.SchemasFormed)
    (hreg : w.registries[r]? = some reg) (hempty : reg.schemas = []) (steps : List RegistryStep) :
    (run r steps w).1.LooksUp r (run r steps w).2 := by
  obtain ⟨reg', hreg', h⟩ := foldl_records steps hreg (.empty hformed hempty)
  exact h.looksUp hreg'

/-! Two schemas whose keys begin alike, and data that make no schema. -/

/-- The data of a schema with one type, which has no properties. -/
def plainSchema (namespaceName version name : String) : Datum :=
  .record [("namespace", .text namespaceName), ("version", .text version), ("description", .text "A schema"),
    ("types", .record [(name, .record [("properties", .record [])])])]

/-- A workspace with a registry that holds nothing. -/
def emptyRegistry : Workspace := { clock := ⟨default, ""⟩, files := ⟨"/", []⟩, registries := #[⟨.memory, []⟩] }

def registrations : List RegistryStep :=
  [.registerOf (plainSchema "ns://a/1.0.0" "2.0.0" "T"), .registerOf (plainSchema "ns://a" "1.0.0" "T"),
    .registerOf (plainSchema "ns://a" "1" "T"), .removeType 1 (.text "T")]

theorem registrations_looksUp :
    emptyRegistry.SchemasFormed ∧ emptyRegistry.registries[0]? = some ⟨.memory, []⟩ ∧
      (RegistryStep.run 0 registrations emptyRegistry).2 = [1, 0] ∧
      (RegistryStep.run 0 registrations emptyRegistry).1.LooksUp 0 (RegistryStep.run 0 registrations emptyRegistry).2 := by
  have hformed : emptyRegistry.SchemasFormed := by
    intro h s hs
    simp [emptyRegistry] at hs
  have hreg : emptyRegistry.registries[0]? = some ⟨.memory, []⟩ := rfl
  exact ⟨hformed, hreg, by decide +kernel, RegistryStep.run_looksUp hformed hreg rfl registrations⟩

end ShapeCheck
