import ShapeCheck.Proofs.Housing
import ShapeCheck.Proofs.Rereading

/-!
# Schemas that are built again

What is written of a schema makes a schema again. The data of a sound schema give its header, without the seconds of the zones
of its moments, and its types as they are written: `Schema.again` is what they make (`Schema.Sound.make_datum`). It looks names
up and validates as the schema itself (`Work.validateAs_again`), so `Work.rebuild_faithful` finds nothing lost but those seconds.
-/

namespace ShapeCheck

open Shape

/-! ## Schemas from their data -/

theorem Reading.orNull_text {α : Type} {read : Datum → Reading α} {t : String} {x : α} (h : read (.text t) = .ok x) :
    orNull read (.text t) = .ok (some x) := Reading.map_eq_ok.2 ⟨x, h, rfl⟩

namespace Making

variable {α β : Type}

/-- Making gives a result after any notices. -/
def Yields (m : Making α) (x : α) : Prop := ∀ notices, (m.run.run notices).1 = .ok x

theorem yields_pure (x : α) : Yields (pure x : Making α) x := fun _ => rfl

theorem yields_bind {m : Making α} {f : α → Making β} {x : α} {y : β} (hm : Yields m x) (hf : Yields (f x) y) :
    Yields (m >>= f) y := by
  intro ns
  have hx := hm ns
  rw [run_bind]
  rcases hmn : m.run.run ns with ⟨z, ms⟩
  rw [hmn] at hx
  cases hx
  exact hf ms

theorem yields_ofBuilding {location : String} {b : Building α} {x : α} (h : Building.Yields b x) :
    Yields (ofBuilding location b) x := by
  intro ns
  rw [run_ofBuilding, h ns]
  rfl

end Making

theorem Header.typeEntries_texts (xs : List (String × Datum)) : typeEntries (xs.map fun p => (Key.text p.1, p.2)) = .ok xs := by
  induction xs with
  | nil => rfl
  | cons p rest ih =>
    rw [List.map_cons, typeEntries, ih]
    rfl

theorem TypeDef.datum_named (t : TypeDef) (name : Option String) : ({ t with name } : TypeDef).datum = t.datum := by
  cases t
  rw [TypeDef.datum, TypeDef.datum]

/-- A type as it is written, under a name. -/
def ObjectType.again (name : Option String) (t : ObjectType) : ObjectType := ⟨{ t.definition.plain with name }, t.checker⟩

namespace Schema

variable {around : Surroundings} {clock : Clock}

theorem makeType_yields {name : String} {es : List (Key × Datum)} {t : ObjectType}
    (h : Building.Yields (Building.type around (.mapping (Entries.put (.text "name") (.text name) es))) (.ok t)) :
    Making.Yields (makeType around (.text name) (.mapping es)) (some name, t.rename (some name)) :=
  Making.yields_bind (Making.yields_pure _) (Making.yields_bind (Making.yields_ofBuilding h) (Making.yields_pure _))

theorem makeTypes_yields {definitions : List (String × Datum)} {types : Assoc ObjectType (Option String)}
    (h : List.Forall₂ (fun d p => Making.Yields (makeType around (.text d.1) d.2) p) definitions types) :
    Making.Yields (makeTypes around definitions) types := by
  induction h with
  | nil => exact Making.yields_pure _
  | cons hfirst _ ih => exact Making.yields_bind hfirst (Making.yields_bind ih (Making.yields_pure _))

/-- The types of a schema as data under their names. -/
def writtenTypes (s : Schema) : List (String × Datum) := s.types.map fun p => (p.1.getD "", p.2.definition.datum)

/-- The schema that the data of a schema make. -/
def again (s : Schema) : Schema :=
  { s with
    types := s.types.map fun (name, t) => (name, t.again name)
    identity := { s.identity with createdOn := s.identity.createdOn.cut, updatedOn := s.identity.updatedOn.cut } }

namespace Sound

variable {s : Schema}

theorem read_types (h : s.Sound) : Header.readTypes (.mapping (s.types.map fun (name, t) =>
    (name.elim (.scalar .null) .text, t.definition.datum))) = .ok s.writtenTypes := by
  have hkeys : (s.types.map fun (name, t) => (name.elim (.scalar .null) Key.text, t.definition.datum)) =
      s.writtenTypes.map fun p => (Key.text p.1, p.2) := by
    unfold writtenTypes
    rw [List.map_map]
    refine List.map_congr_left fun p hp => ?_
    obtain ⟨n, hn⟩ := h.texts p hp
    obtain ⟨name, t⟩ := p
    cases hn
    rfl
  have hdistinct : (Assoc.names s.writtenTypes).Nodup := by
    have hnames : s.typeNames = (Assoc.names s.writtenTypes).map some := by
      unfold typeNames Assoc.names writtenTypes
      rw [List.map_map, List.map_map]
      refine List.map_congr_left fun p hp => ?_
      obtain ⟨n, hn⟩ := h.texts p hp
      obtain ⟨name, t⟩ := p
      cases hn
      rfl
    exact List.Nodup.of_map some (hnames ▸ h.keyed.distinct)
  change (Header.typeEntries _).map Assoc.ofList = _
  rw [hkeys, Header.typeEntries_texts]
  exact congrArg Reading.ok (Assoc.ofList_of_nodup hdistinct)

/-- The header of the data of a schema is the schema's own, without the seconds of zones. -/
theorem read_datum (h : s.Sound) : ∃ es, s.datum = .mapping es ∧ Header.read es = .ok
    ⟨s.namespaceName, s.version, s.description, s.writtenTypes, some s.identity.id, some s.identity.entityType,
      some s.identity.createdOn.cut, some s.identity.updatedOn.cut⟩ := by
  refine ⟨_, rfl, ?_⟩
  unfold Header.read
  dsimp only
  generalize hr : (⟨_, _⟩ : Record) = r
  have hnamespace : r.required .ofNamespace Reading.namespaceName = .ok s.namespaceName :=
    Record.required_of_find? (by rw [← hr]; rfl) h.namespaceName
  have hversion : r.required .ofVersion Reading.version = .ok s.version :=
    Record.required_of_find? (by rw [← hr]; rfl) h.version
  have hdescription : r.required .description Reading.someText = .ok s.description :=
    Record.required_of_find? (by rw [← hr]; rfl) h.description
  have htypes : r.optional .types [] Header.readTypes = .ok s.writtenTypes :=
    Record.optional_of_find? (by rw [← hr]; rfl) h.read_types
  have hid : r.optional .id none (Reading.orNull Reading.someText) = .ok (some s.identity.id) :=
    Record.optional_of_find? (by rw [← hr]; rfl) (Reading.orNull_text h.id)
  have hentityType : r.optional .entityType none Reading.note = .ok (some s.identity.entityType) := by
    rw [← hr]
    rfl
  have hcreated : r.optional .createdOn none (Reading.orNull Reading.timeStamp) = .ok (some s.identity.createdOn.cut) :=
    Record.optional_of_find? (by rw [← hr]; rfl) (Reading.orNull_text (Reading.timeStamp_stamp h.createdOn))
  have hupdated : r.optional .updatedOn none (Reading.orNull Reading.timeStamp) = .ok (some s.identity.updatedOn.cut) :=
    Record.optional_of_find? (by rw [← hr]; rfl) (Reading.orNull_text (Reading.timeStamp_stamp h.updatedOn))
  have hclose : r.close Header.fields = .ok () := by
    rw [← hr]
    rfl
  rw [hnamespace, hversion, hdescription, htypes, hid, hentityType, hcreated, hupdated, Record.closing_of_close hclose]
  rfl

/-- Each type of a schema is made again from what is written of it. -/
theorem make_types (h : s.Sound) (hstandard : around.capabilities = .standard) (hsimple : ∀ p ∈ s.types, p.2.definition.Simple) :
    Making.Yields (makeTypes around s.writtenTypes) s.again.types := by
  refine makeTypes_yields (List.forall₂_map_left_iff.2 (List.forall₂_map_right_iff.2 (List.forall₂_same.2 fun p hp => ?_)))
  obtain ⟨n, hn⟩ := h.texts p hp
  have hbuilt := h.built p hp
  obtain ⟨es, hes, hyields⟩ := hbuilt.compiles.rebuilt hstandard hbuilt.named (hsimple p hp) n
  obtain ⟨name, t⟩ := p
  cases hn
  dsimp only at hes ⊢
  rw [hes]
  exact makeType_yields hyields

/-- The data of a schema make the schema again. -/
theorem make_datum (h : s.Sound) (hstandard : around.capabilities = .standard) (hsimple : ∀ p ∈ s.types, p.2.definition.Simple) :
    ∃ es, s.datum = .mapping es ∧ Making.Yields (make around clock none es) s.again := by
  obtain ⟨es, hes, hread⟩ := h.read_datum
  refine ⟨es, hes, ?_⟩
  unfold make
  rw [hread]
  refine Making.yields_bind (h.make_types hstandard hsimple) (Making.yields_bind (Making.yields_pure _)
    (Making.yields_bind (x := ()) (fun _ => rfl) ?_))
  have hagain : s.again = ⟨s.namespaceName, s.version, s.description, around.capabilities, s.again.types,
      .restored clock Schema.entityType s.identity.id (some s.identity.createdOn.cut) (some s.identity.updatedOn.cut)⟩ := by
    unfold again
    rw [hstandard, ← h.capabilities]
    unfold Identity.restored
    rw [← h.entityType]
    rfl
  rw [hagain]
  exact Making.yields_pure _

end Sound

end Schema

/-! ## Validation by a schema -/

namespace Work

variable {h : SchemaHandle} {s : Schema} {w : Workspace}

/-- Validating by a type looks at its name and its checker only. -/
theorem validate_congr {t u : ObjectType} (hname : t.name = u.name) (hchecker : t.checker = u.checker) (resolve : Resolver)
    (maxDepth : Option Int) (v : Value) : validate t resolve maxDepth v = validate u resolve maxDepth v := by
  unfold validate conclude
  rw [hname, hchecker]

/-- Validating by a schema: the name has to be one that a key can be, and the type under it validates. -/
theorem validateAs_ending_of (hs : w.schemas[h]? = some s) (name : Datum) (resolver : Option Resolver) (v : Value) :
    (validateAs h name resolver v).ending w = (ofMaking (Schema.requireKey name) >>= fun _ =>
      match s.type? name with
      | none => throw (.unknownType s.key name)
      | some t => validate t (resolver.getD (Workspace.localResolver s)) none v).ending w := by
  obtain ⟨w1, hend, htold⟩ := ofMaking_ending (Schema.requireKey name) w
  have htype : (typeNamed h name).ending w = (ofMaking (Schema.requireKey name) >>= fun _ => pure (s.type? name)).ending w := by
    unfold typeNamed
    rw [ending_bind, ending_bind, hend]
    cases (StateT.run (ExceptT.run (Schema.requireKey name)) []).1 with
    | error e => rfl
    | ok _ =>
      change (schema h >>= fun s => pure (s.type? name)).ending w1 = _
      rw [ending_bind_ok (schema_ending (htold.schemas ▸ hs))]
      rfl
  unfold validateAs
  rw [ending_bind_ok (schema_ending hs), ending_bind, htype, ending_bind, ending_bind, hend]
  cases (StateT.run (ExceptT.run (Schema.requireKey name)) []).1 <;> rfl

end Work

namespace Schema

variable {s : Schema}

theorem again_get? (s : Schema) (name : Option String) : s.again.types.get? name = (s.types.get? name).map (.again name) :=
  Assoc.get?_map ObjectType.again name s.types

theorem again_localResolver (s : Schema) : Workspace.localResolver s.again = Workspace.localResolver s := by
  funext ref
  unfold Workspace.localResolver localType?
  by_cases hpair : ref.namespaceName = s.namespaceName ∧ ref.version = s.version
  · rw [if_pos hpair, if_pos (show ref.namespaceName = s.again.namespaceName ∧ ref.version = s.again.version from hpair),
      again_get?, Option.map_map]
    rfl
  · rw [if_neg hpair, if_neg (show ¬ (ref.namespaceName = s.again.namespaceName ∧ ref.version = s.again.version) from hpair)]

/-- A type that is made again stands under its name, with its name and its checker. -/
theorem again_type? (hkeyed : s.Keyed) (name : Datum) :
    (s.again.type? name = none ∧ s.type? name = none) ∨
      ∃ t t', s.again.type? name = some t' ∧ s.type? name = some t ∧ t'.name = t.name ∧ t'.checker = t.checker := by
  unfold type?
  cases nameIn? name with
  | none => exact .inl ⟨rfl, rfl⟩
  | some n =>
    rw [Option.bind_some, Option.bind_some, again_get?]
    cases ht : s.types.get? n with
    | none => exact .inl ⟨rfl, rfl⟩
    | some t => exact .inr ⟨t, _, rfl, rfl, (hkeyed.named _ (Assoc.mem_of_get? ht)).symm, rfl⟩

end Schema

/-- A schema that is made again validates as the schema that it is made from. -/
theorem Work.validateAs_again {a h : SchemaHandle} {s : Schema} {w : Workspace} (hkeyed : s.Keyed)
    (hs : w.schemas[h]? = some s) (ha : w.schemas[a]? = some s.again) (name : Datum) (resolver : Option Resolver) (v : Value) :
    (validateAs a name resolver v).ending w = (validateAs h name resolver v).ending w := by
  rw [validateAs_ending_of ha, validateAs_ending_of hs, s.again_localResolver]
  congr 2
  funext _
  rcases Schema.again_type? hkeyed name with ⟨hnone, hnone'⟩ | ⟨t, t', ht', ht, hname, hchecker⟩
  · rw [hnone, hnone']
    rfl
  · rw [ht', ht]
    exact validate_congr hname hchecker _ _ _

/-! ## Building again -/

/-- A schema and one that is made from its data: all is the same but the seconds in the zones of the moments, and types
are the same as far as they are written. -/
structure Schema.Rebuilt (s s' : Schema) : Prop where
  namespaceName : s'.namespaceName = s.namespaceName
  version : s'.version = s.version
  description : s'.description = s.description
  id : s'.identity.id = s.identity.id
  entityType : s'.identity.entityType = s.identity.entityType
  createdOn : s'.identity.createdOn = s.identity.createdOn.cut
  updatedOn : s'.identity.updatedOn = s.identity.updatedOn.cut
  types : List.Forall₂ (fun p p' => p'.1 = p.1 ∧ p'.2.name = p.2.name ∧ p'.2.definition.datum = p.2.definition.datum ∧
    p'.2.checker = p.2.checker) s.types s'.types

theorem Schema.again_rebuilt {s : Schema} (hkeyed : s.Keyed) (hsimple : ∀ p ∈ s.types, p.2.definition.Simple) :
    s.Rebuilt s.again where
  namespaceName := rfl
  version := rfl
  description := rfl
  id := rfl
  entityType := rfl
  createdOn := rfl
  updatedOn := rfl
  types := by
    refine List.forall₂_map_right_iff.2 (List.forall₂_same.2 fun p hp => ⟨rfl, (hkeyed.named p hp).symm, ?_, rfl⟩)
    exact (TypeDef.datum_named _ _).trans (TypeDef.datum_plain (hsimple p hp))

namespace Work

variable {h : SchemaHandle} {s : Schema} {w w' : Workspace}

/-- A schema is made, and stands last in the table, where its making gives one after any notices. -/
theorem makeSchema_yields {capabilities : CapabilitiesHandle} {c : Capabilities} {factory : Option IdentityFactory}
    {es : List (Key × Datum)} (hc : w.capabilities[capabilities]? = some c)
    (hmake : Making.Yields (Schema.make ⟨c, w.built⟩ w.clock factory es) s) :
    ∃ w', (makeSchema capabilities factory es).ending w = (.ok w.schemas.size, w') ∧ w'.schemas = w.schemas.push s := by
  obtain ⟨w1, hend, htold⟩ := ofMaking_ending (Schema.make ⟨c, w.built⟩ w.clock factory es) w
  rw [hmake []] at hend
  refine ⟨{ w1 with schemas := w1.schemas.push s }, ?_, congrArg (·.push s) htold.schemas⟩
  unfold makeSchema
  rw [ending_bind_ok (surroundingsAt_ending hc), ending_bind_ok (ending_get w), ending_bind_ok hend, ← htold.schemas]
  rfl

/-- A schema that is made from data is sound. -/
theorem makeSchema_houses {es : List (Key × Datum)} (hstandard : w.capabilities[standardCapabilities]? = some .standard)
    (htypes : ∀ t ∈ w.types, t.Built (· = .standard)) (hclock : w.clock.Sound) (hdated : ∀ e ∈ es, e.2.Dated)
    (hmake : (makeSchema standardCapabilities none es).ending w = (.ok h, w')) : ∃ s, w'.Houses h s := by
  obtain ⟨c, s, log, w1, hc, hgives, htold, rfl, rfl⟩ := makeSchema_ok hmake
  cases hstandard.symm.trans hc
  exact ⟨s, Array.getElem?_push_size,
    Schema.make_sound rfl (fun _ u hu => htypes u (Array.mem_of_getElem? hu)) hclock hdated hgives,
    htold.clock ▸ hclock, htold.capabilities ▸ hstandard, htold.types ▸ htypes⟩

/-- A sound schema is built again. -/
theorem rebuild_ending (hw : w.Houses h s) (hsimple : ∀ p ∈ s.types, p.2.definition.Simple) :
    ∃ w', (rebuild h).ending w = (.ok w.schemas.size, w') ∧ w'.schemas[h]? = some s ∧
      w'.schemas[w.schemas.size]? = some s.again := by
  obtain ⟨es, hes, hyields⟩ : ∃ es, s.datum = .mapping es ∧
      Making.Yields (Schema.make ⟨.standard, w.built⟩ w.clock none es) s.again :=
    hw.schema.make_datum rfl hsimple
  obtain ⟨w', hend, hschemas⟩ := makeSchema_yields hw.capabilities hyields
  refine ⟨w', ?_, ?_, ?_⟩
  · unfold rebuild
    rw [ending_bind_ok (schema_ending hw.there), hes]
    exact hend
  · obtain ⟨hlt, hget⟩ := Array.getElem?_eq_some_iff.1 hw.there
    rw [hschemas, Array.getElem?_push_lt hlt, hget]
  · rw [hschemas, Array.getElem?_push_size]

/-- **A schema is built again from its data.** Take a schema that was made under the standard capabilities, with the identity
that its data have or a fresh one, and any calls that add, set and remove types while time passes. Let references stand in its
types only as arguments that ask for them. Then the data of the schema make a schema that differs from it only by the seconds
in the zones of its moments; each type in it is written as before, and every value is validated as before. -/
theorem rebuild_faithful {w₀ : Workspace} {es : List (Key × Datum)} {steps : List SchemaStep}
    (hstandard : w.capabilities[standardCapabilities]? = some .standard) (htypes : ∀ t ∈ w.types, t.Built (· = .standard))
    (hclock : w.clock.Sound) (hdated : ∀ e ∈ es, e.2.Dated)
    (hmake : (makeSchema standardCapabilities none es).ending w = (.ok h, w₀)) (hticks : ∀ c, .tick c ∈ steps → c.Sound)
    (hs : (SchemaStep.run h steps w₀).schemas[h]? = some s) (hsimple : ∀ p ∈ s.types, p.2.definition.Simple) :
    ∃ h' s' w', (rebuild h).ending (SchemaStep.run h steps w₀) = (.ok h', w') ∧ w'.schemas[h]? = some s ∧
      w'.schemas[h']? = some s' ∧ s.Rebuilt s' ∧
      (s'.identity = s.identity ↔ s.identity.createdOn.InMinutes ∧ s.identity.updatedOn.InMinutes) ∧
      ∀ name resolver v, (validateAs h' name resolver v).ending w' = (validateAs h name resolver v).ending w' := by
  obtain ⟨s₀, hw₀⟩ := makeSchema_houses hstandard htypes hclock hdated hmake
  obtain ⟨s₁, hw⟩ := SchemaStep.run_houses steps hw₀ hticks
  cases hs.symm.trans hw.there
  obtain ⟨w', hend, hthere, hagain⟩ := rebuild_ending hw hsimple
  refine ⟨_, s.again, w', hend, hthere, hagain, Schema.again_rebuilt hw.schema.keyed hsimple, ?_,
    validateAs_again hw.schema.keyed hthere hagain⟩
  rw [← Moment.cut_eq_iff, ← Moment.cut_eq_iff]
  refine ⟨fun hsame => ⟨congrArg Identity.createdOn hsame, congrArg Identity.updatedOn hsame⟩, fun ⟨hcreated, hupdated⟩ => ?_⟩
  change { s.identity with createdOn := s.identity.createdOn.cut, updatedOn := s.identity.updatedOn.cut } = s.identity
  rw [hcreated, hupdated]

end Work

/-! A type with a reference, which is kept and set under a second name, and a schema that was created in a zone with seconds. -/

/-- Whether a constraint has plain scalars for its arguments, or references where they are asked for. -/
def Constraint.isFlat (c : Constraint) : Bool :=
  c.args.all (fun
    | .scalar (.reference _) => false
    | .scalar _ => true
    | _ => false) ||
  c.method == "objectSchemaType" && c.args.all fun
    | .scalar (.reference r) =>
      !Text.hasSurrogate r.namespaceName && !Text.hasSurrogate r.version && !Text.hasSurrogate r.name
    | _ => false

def TypeDef.isFlat (t : TypeDef) : Bool := t.within.all fun p => p.constraints.all Constraint.isFlat

theorem Constraint.simple_of_isFlat {c : Constraint} (h : c.isFlat = true) : c.Simple := by
  unfold isFlat at h
  rcases Bool.or_eq_true_iff.1 h with h | h
  · refine .values fun a ha => ?_
    have hflat := List.all_eq_true.1 h a ha
    split at hflat
    · cases hflat
    · next hnone => exact .scalar hnone
    · cases hflat
  · obtain ⟨hmethod, h⟩ := Bool.and_eq_true_iff.1 h
    refine .reference (eq_of_beq hmethod) fun a ha => ?_
    have hflat := List.all_eq_true.1 h a ha
    split at hflat
    · next r =>
      simp only [Bool.and_eq_true, Bool.not_eq_true'] at hflat
      exact ⟨r, rfl, hflat.1.1, hflat.1.2, hflat.2⟩
    · cases hflat

theorem TypeDef.simple_of_isFlat {t : TypeDef} (h : t.isFlat = true) : t.Simple := fun _ hp _ hc =>
  Constraint.simple_of_isFlat (List.all_eq_true.1 (List.all_eq_true.1 h _ hp) _ hc)

def stillClock : Clock := ⟨{ date := ⟨2024, 1, 1⟩, offset := some 0 }, "fresh"⟩

theorem stillClock_sound : stillClock.Sound := ⟨by decide, Reading.textWhere_text (by decide) (by decide)⟩

def stillWorkspace : Workspace := { clock := stillClock, files := ⟨"/", []⟩ }

/-- The data of a schema with one type, of which the properties have a bound and a reference. -/
def linkedEntries : List (Key × Datum) :=
  [(.text "namespace", .text "ns://a"), (.text "version", .text "1.0.0"), (.text "description", .text "A schema"),
    (.text "types", .record [("T", .record [("properties", .record [("size", Probe.part "Number" [("min", [.int 0])]),
      ("next", Probe.referencePart (Probe.reference 0))])])])]

def linkedWorkspace : Except Failure SchemaHandle × Workspace :=
  (Work.makeSchema standardCapabilities none linkedEntries).ending stillWorkspace

def linkedSteps : List SchemaStep :=
  [.hold "T", .setType "U" (.structured "Type" (some ⟨some "T", 0, ["size", "next"], none⟩) []), .addType "U" (.record []),
    .tick { stillClock with freshId := "later" }, .removeType "T"]

theorem linkedSteps_rebuild_faithful :
    ∃ s h' s' w', (SchemaStep.run 0 linkedSteps linkedWorkspace.2).schemas[0]? = some s ∧ s.typeNames = [some "U"] ∧
      (∀ p ∈ s.types, p.2.definition.Simple) ∧
      (Work.rebuild 0).ending (SchemaStep.run 0 linkedSteps linkedWorkspace.2) = (.ok h', w') ∧ w'.schemas[0]? = some s ∧
      w'.schemas[h']? = some s' ∧ s.Rebuilt s' ∧
      (s'.identity = s.identity ↔ s.identity.createdOn.InMinutes ∧ s.identity.updatedOn.InMinutes) ∧
      ∀ name resolver v, (Work.validateAs h' name resolver v).ending w' = (Work.validateAs 0 name resolver v).ending w' := by
  have hmade : linkedWorkspace.1.toOption = some 0 := by decide +kernel
  have hfound : ((SchemaStep.run 0 linkedSteps linkedWorkspace.2).schemas[0]?).map
      (fun s => (s.typeNames, s.types.all fun p => p.2.definition.isFlat)) = some ([some "U"], true) := by decide +kernel
  obtain ⟨s, hs, hparts⟩ := Option.map_eq_some_iff.1 hfound
  obtain ⟨hnames, hflat⟩ := Prod.ext_iff.1 hparts
  have hsimple : ∀ p ∈ s.types, p.2.definition.Simple := fun p hp =>
    TypeDef.simple_of_isFlat (List.all_eq_true.1 hflat p hp)
  have htypes : ∀ t ∈ stillWorkspace.types, t.Built (· = .standard) := fun t ht => absurd ht (Array.not_mem_empty t)
  have hdated : ∀ e ∈ linkedEntries, e.2.Dated := by
    intro e he
    simp only [linkedEntries, List.mem_cons, List.not_mem_nil, or_false] at he
    rcases he with rfl | rfl | rfl | rfl <;> exact trivial
  have hticks : ∀ c, SchemaStep.tick c ∈ linkedSteps → c.Sound := by
    intro c hc
    simp only [linkedSteps, List.mem_cons, List.not_mem_nil, or_false, reduceCtorEq, false_or, SchemaStep.tick.injEq] at hc
    subst hc
    exact ⟨by decide, Reading.textWhere_text (by decide) (by decide)⟩
  obtain ⟨h', s', w', hrebuilt⟩ := Work.rebuild_faithful rfl htypes stillClock_sound hdated (Work.eq_ok_of_toOption hmade) hticks hs
    hsimple
  exact ⟨s, h', s', w', hs, hnames, hsimple, hrebuilt⟩

/-- A moment in a zone that is half a minute away from universal time. -/
def halfMinute : Moment := { date := ⟨2024, 1, 1⟩, offset := some (-30) }

def zonedEntries : List (Key × Datum) :=
  [(.text "namespace", .text "ns://n"), (.text "version", .text "1.0.0"), (.text "description", .text "d"),
    (.text "id", .text "x"), (.text "createdOn", .scalar (.moment halfMinute))]

/-- A workspace with that schema. -/
def zonedWorkspace : Except Failure SchemaHandle × Workspace :=
  (Work.makeSchema standardCapabilities none zonedEntries).ending stillWorkspace

/-- The schema that is built again was created at another moment. -/
theorem zonedSchema_not_same :
    ∃ s h' s' w', zonedWorkspace.1.toOption = some 0 ∧ zonedWorkspace.2.schemas[0]? = some s ∧
      (Work.rebuild 0).ending zonedWorkspace.2 = (.ok h', w') ∧ w'.schemas[h']? = some s' ∧
      s'.identity.createdOn ≠ s.identity.createdOn := by
  have hmade : zonedWorkspace.1.toOption = some 0 := by decide +kernel
  have hfound : (zonedWorkspace.2.schemas[0]?).map (fun s => (s.identity.createdOn.offset, s.types.isEmpty)) =
      some (some (-30), true) := by decide +kernel
  have hdated : ∀ e ∈ zonedEntries, e.2.Dated := by
    intro e he
    simp only [zonedEntries, List.mem_cons, List.not_mem_nil, or_false] at he
    rcases he with rfl | rfl | rfl | rfl | rfl
    iterate 4 exact trivial
    exact (by decide : halfMinute.isValid = true)
  obtain ⟨s, hw⟩ := Work.makeSchema_houses rfl (fun t ht => absurd ht (Array.not_mem_empty t)) stillClock_sound hdated
    (Work.eq_ok_of_toOption hmade)
  rw [show zonedWorkspace.2.schemas[0]? = some s from hw.there, Option.map_some] at hfound
  obtain ⟨hoffset, hempty⟩ := Prod.ext_iff.1 (Option.some.inj hfound)
  have hsimple : ∀ p ∈ s.types, p.2.definition.Simple := by
    rw [List.isEmpty_iff.1 hempty]
    exact fun p hp => absurd hp List.not_mem_nil
  obtain ⟨w', hend, -, hagain⟩ := Work.rebuild_ending hw hsimple
  refine ⟨s, _, s.again, w', hmade, hw.there, hend, hagain, fun hsame => ?_⟩
  have hminutes : (60 : Int) ∣ -30 := Moment.cut_eq_iff.1 hsame (-30) hoffset
  omega

end ShapeCheck
