import ShapeCheck.Proofs.Mutations
import ShapeCheck.Proofs.Names
import ShapeCheck.Proofs.Rendering
import ShapeCheck.Proofs.TimeStamps

/-!
# Schemas as they can be

`Schema.Sound` is what making keeps of the data that a schema is made from (`Schema.make_sound`), and what changes keep of the
schema: its texts are read as they are, its moments exist, and each type is built under the standard capabilities and stands
under its own name. A workspace that `Houses` such a schema houses one after each step of a run (`SchemaStep.run_houses`).
-/

namespace ShapeCheck

open Shape

/-! ## Schemas as they can be -/

/-- A clock shows a moment that exists, and gives ids that can be read. -/
structure Clock.Sound (c : Clock) : Prop where
  now : c.now.isValid = true
  freshId : Reading.someText (.text c.freshId) = .ok c.freshId

/-- A schema as it can be after it was made under the standard capabilities and changed. -/
structure Schema.Sound (s : Schema) : Prop where
  capabilities : s.capabilities = .standard
  namespaceName : Reading.namespaceName (.text s.namespaceName) = .ok s.namespaceName
  version : Reading.version (.text s.version) = .ok s.version
  description : Reading.someText (.text s.description) = .ok s.description
  id : Reading.someText (.text s.identity.id) = .ok s.identity.id
  entityType : s.identity.entityType = Schema.entityType
  createdOn : s.identity.createdOn.isValid = true
  updatedOn : s.identity.updatedOn.isValid = true
  keyed : s.Keyed
  texts : ∀ p ∈ s.types, ∃ n, p.1 = some n
  built : ∀ p ∈ s.types, p.2.Built (· = .standard)

namespace Record

variable {α : Type} {r : Record} {f : Field} {x : α}

/-- What is read of a field that may be left out or null stands in the record. -/
theorem optional_orNull_eq_ok {read : Datum → Reading α} (h : r.optional f none (Reading.orNull read) = .ok (some x)) :
    ∃ k v, (k, v) ∈ r.entries ∧ read v = .ok x := by
  rcases Record.optional_eq_ok h with hnone | ⟨k, v, hk, hv⟩
  · cases hnone
  · unfold Reading.orNull at hv
    split at hv
    · cases hv
    · obtain ⟨y, hy, heq⟩ := Reading.map_eq_ok.1 hv
      cases heq
      exact ⟨k, v, hk, hy⟩

end Record

/-- What a header that is read keeps of the data: its texts are read as they are, and its moments exist. -/
structure Header.Sound (header : Header) : Prop where
  namespaceName : Reading.namespaceName (.text header.namespaceName) = .ok header.namespaceName
  version : Reading.version (.text header.version) = .ok header.version
  description : Reading.someText (.text header.description) = .ok header.description
  id : ∀ id, header.id = some id → Reading.someText (.text id) = .ok id
  createdOn : ∀ t, header.createdOn = some t → t.isValid = true
  updatedOn : ∀ t, header.updatedOn = some t → t.isValid = true

theorem Header.read_sound {es : List (Key × Datum)} {header : Header} (hdated : ∀ e ∈ es, e.2.Dated)
    (h : Header.read es = .ok header) : header.Sound := by
  obtain ⟨⟨⟨namespaceName, version, description, types, id, entityType, createdOn, updatedOn⟩, _⟩, hparts, rfl⟩ :=
    Reading.map_eq_ok.1 h
  obtain ⟨hparts, -⟩ := Record.closing_eq_ok.1 hparts
  obtain ⟨hnamespace, hparts⟩ := Reading.both_eq_ok.1 hparts
  obtain ⟨hversion, hparts⟩ := Reading.both_eq_ok.1 hparts
  obtain ⟨hdescription, hparts⟩ := Reading.both_eq_ok.1 hparts
  obtain ⟨-, hparts⟩ := Reading.both_eq_ok.1 hparts
  obtain ⟨hid, hparts⟩ := Reading.both_eq_ok.1 hparts
  obtain ⟨-, hparts⟩ := Reading.both_eq_ok.1 hparts
  obtain ⟨hcreated, hupdated⟩ := Reading.both_eq_ok.1 hparts
  constructor
  · obtain ⟨_, _, _, hv⟩ := Record.required_eq_ok hnamespace
    exact Reading.textWhere_again hv
  · obtain ⟨_, _, _, hv⟩ := Record.required_eq_ok hversion
    exact Reading.textWhere_again hv
  · obtain ⟨_, _, _, hv⟩ := Record.required_eq_ok hdescription
    exact Reading.textWhere_again hv
  · rintro id rfl
    obtain ⟨_, _, _, hv⟩ := Record.optional_orNull_eq_ok hid
    exact Reading.textWhere_again hv
  · rintro t rfl
    obtain ⟨_, _, hmem, hv⟩ := Record.optional_orNull_eq_ok hcreated
    exact Reading.timeStamp_valid (hdated _ hmem) hv
  · rintro t rfl
    obtain ⟨_, _, hmem, hv⟩ := Record.optional_orNull_eq_ok hupdated
    exact Reading.timeStamp_valid (hdated _ hmem) hv

namespace Schema

/-- What a definition makes is a type that is built, where the types before it are. -/
theorem Defines.built {around : Surroundings} {name definition : Datum} {t : ObjectType} (h : Defines around name definition t)
    (hstandard : around.capabilities = .standard)
    (hbefore : ∀ handle u, around.built handle = some u → u.Built (· = .standard)) : t.Built (· = .standard) := by
  cases h with
  | before _ known => exact hbefore _ _ known
  | now _ built =>
    obtain ⟨notices, hresult⟩ := built
    exact .build hstandard hbefore hresult

/-- A schema that is made from data is sound. -/
theorem make_sound {around : Surroundings} {clock : Clock} {es : List (Key × Datum)} {s : Schema}
    (hstandard : around.capabilities = .standard)
    (hbefore : ∀ handle u, around.built handle = some u → u.Built (· = .standard)) (hclock : clock.Sound)
    (hdated : ∀ e ∈ es, e.2.Dated) (h : Making.Gives (make around clock none es) s) : s.Sound := by
  have hkeyed := make_keyed h
  obtain ⟨header, types, identity, hread, htypes, hidentity, rfl⟩ := make_gives h
  obtain ⟨hnamespace, hversion, hdescription, hid, hcreated, hupdated⟩ := Header.read_sound hdated hread
  have hmoments : identity.entityType = entityType ∧ Reading.someText (.text identity.id) = .ok identity.id ∧
      identity.createdOn.isValid = true ∧ identity.updatedOn.isValid = true := by
    cases hidentity with
    | @restored id given =>
      have hcreation : (header.createdOn.getD clock.now).isValid = true := by
        cases hc : header.createdOn with
        | none => exact hclock.now
        | some t => exact hcreated t hc
      refine ⟨rfl, hid id given, hcreation, ?_⟩
      change (header.updatedOn.getD (header.createdOn.getD clock.now)).isValid = true
      cases hu : header.updatedOn with
      | none => exact hcreation
      | some t => exact hupdated t hu
    | fresh => exact ⟨rfl, hclock.freshId, hclock.now, hclock.now⟩
    | minted _ given => cases given
  have hall : ∀ p ∈ types, ∃ d : String × Datum, ∃ t, Defines around (.text d.1) d.2 t ∧ p = (some d.1, t.rename (some d.1)) := by
    intro p hp
    obtain ⟨d, _, t, ht, rfl⟩ := List.Forall₂.exists_of_mem_right (makeTypes_gives htypes) hp
    exact ⟨d, t, ht, rfl⟩
  refine ⟨hstandard, hnamespace, hversion, hdescription, hmoments.2.1, hmoments.1, hmoments.2.2.1, hmoments.2.2.2, hkeyed, ?_, ?_⟩
  · intro p hp
    obtain ⟨d, t, _, rfl⟩ := hall p hp
    exact ⟨_, rfl⟩
  · intro p hp
    obtain ⟨d, t, ht, rfl⟩ := hall p hp
    exact .rename _ (ht.built hstandard hbefore)

namespace Sound

variable {s : Schema}

theorem withTypes (h : s.Sound) {clock : Clock} (hclock : clock.Sound) {types : Assoc ObjectType (Option String)}
    (hkeyed : (s.withTypes clock types).Keyed) (htypes : ∀ p ∈ types, (∃ n, p.1 = some n) ∧ p.2.Built (· = .standard)) :
    (s.withTypes clock types).Sound where
  capabilities := h.capabilities
  namespaceName := h.namespaceName
  version := h.version
  description := h.description
  id := h.id
  entityType := h.entityType
  createdOn := h.createdOn
  updatedOn := hclock.now
  keyed := hkeyed
  texts p hp := (htypes p hp).1
  built p hp := (htypes p hp).2

theorem put (h : s.Sound) {clock : Clock} (hclock : clock.Sound) {name : String} {t : ObjectType} (ht : t.Built (· = .standard)) :
    (s.withTypes clock (s.types.put (some name) (t.rename (some name)))).Sound := by
  refine h.withTypes hclock (h.keyed.put _ _ _) fun p hp => ?_
  rcases Assoc.mem_put hp with rfl | hp
  · exact ⟨⟨name, rfl⟩, .rename _ ht⟩
  · exact ⟨h.texts p hp, h.built p hp⟩

theorem erase (h : s.Sound) {clock : Clock} (hclock : clock.Sound) (name : Option String) :
    (s.withTypes clock (s.types.erase name)).Sound :=
  h.withTypes hclock (h.keyed.erase _ _) fun p hp =>
    have hp := Assoc.mem_of_mem_erase hp
    ⟨h.texts p hp, h.built p hp⟩

end Sound

end Schema

/-! ## Runs of changes -/

/-- A workspace has a sound schema in a place, and all that later definitions are built with is sound. -/
structure Workspace.Houses (h : SchemaHandle) (s : Schema) (w : Workspace) : Prop where
  there : w.schemas[h]? = some s
  schema : s.Sound
  clock : w.clock.Sound
  capabilities : w.capabilities[standardCapabilities]? = some .standard
  types : ∀ t ∈ w.types, t.Built (· = .standard)

namespace Workspace.Houses

variable {h : SchemaHandle} {s s' : Schema} {w w' : Workspace} {log : List Event}

theorem told (hw : Houses h s w) (htold : w.Told log w') : Houses h s w' where
  there := htold.schemas ▸ hw.there
  schema := hw.schema
  clock := htold.clock ▸ hw.clock
  capabilities := htold.capabilities ▸ hw.capabilities
  types := htold.types ▸ hw.types

theorem stored (hw : Houses h s w) (hstored : Workspace.Stored h s' log w w') (hs' : s'.Sound) : Houses h s' w' where
  there := by
    rw [hstored.schemas]
    exact Array.getElem?_setIfInBounds_self_of_lt (Array.getElem?_eq_some_iff.1 hw.there).1
  schema := hs'
  clock := hstored.clock ▸ hw.clock
  capabilities := hstored.capabilities ▸ hw.capabilities
  types := hstored.types ▸ hw.types

/-- A definition that is given to the schema makes a type that is built. -/
theorem defines (hw : Houses h s w) {name definition : Datum} {t : ObjectType}
    (ht : Schema.Defines (Work.surroundingsOf w s) name definition t) : t.Built (· = .standard) :=
  ht.built hw.schema.capabilities fun _ u hu => hw.types u (Array.mem_of_getElem? hu)

end Workspace.Houses

namespace SchemaStep

variable {h : SchemaHandle} {s : Schema} {w : Workspace}

/-- Each step leaves a sound schema. -/
theorem after_houses (hw : w.Houses h s) {step : SchemaStep} (htick : ∀ c, step = .tick c → c.Sound) :
    ∃ s', (step.after h w).Houses h s' := by
  unfold after op
  cases step with
  | addType name definition =>
    dsimp only
    rw [Work.ending_bind]
    rcases Work.addSchemaType_cases hw.there name definition with
      ⟨e, w', hend, htold⟩ | ⟨t, w', _, ht, hend, hstored⟩ <;> rw [hend]
    · exact ⟨s, hw.told htold⟩
    · exact ⟨_, hw.stored hstored (hw.schema.put hw.clock (hw.defines ht))⟩
  | setType name definition =>
    dsimp only
    rw [Work.ending_bind]
    rcases Work.setSchemaType_cases hw.there name definition with ⟨e, w', hend, htold⟩ | ⟨t, w', ht, hend, hstored⟩ <;> rw [hend]
    · exact ⟨s, hw.told htold⟩
    · exact ⟨_, hw.stored hstored (hw.schema.put hw.clock (hw.defines ht))⟩
  | removeType name =>
    dsimp only
    rw [Work.ending_bind]
    obtain ⟨w', hend, ⟨-, htold⟩ | ⟨_, hstored⟩⟩ := Work.removeSchemaType_cases hw.there name <;> rw [hend]
    · exact ⟨s, hw.told htold⟩
    · exact ⟨_, hw.stored hstored (hw.schema.erase hw.clock _)⟩
  | hold name =>
    dsimp only
    rw [Work.ending_bind_ok (Work.typeNamed_ending hw.there name)]
    cases ht : s.types.get? (some name) with
    | none => exact ⟨s, hw⟩
    | some t =>
      refine ⟨s, hw.there, hw.schema, hw.clock, hw.capabilities, fun u hu => ?_⟩
      rcases Array.mem_push.1 hu with hu | rfl
      · exact hw.types u hu
      · exact hw.schema.built _ (Assoc.mem_of_get? ht)
  | tick clock => exact ⟨s, hw.there, hw.schema, htick clock rfl, hw.capabilities, hw.types⟩

/-- Runs leave a sound schema. -/
theorem run_houses (steps : List SchemaStep) : ∀ {s : Schema} {w : Workspace}, w.Houses h s →
    (∀ c, .tick c ∈ steps → c.Sound) → ∃ s', (run h steps w).Houses h s' := by
  induction steps with
  | nil => exact fun hw _ => ⟨_, hw⟩
  | cons step rest ih =>
    intro s w hw hticks
    obtain ⟨s', hs'⟩ := after_houses hw fun c hc => hticks c (hc ▸ List.mem_cons_self ..)
    exact ih hs' fun c hc => hticks c (List.mem_cons_of_mem _ hc)

end SchemaStep

end ShapeCheck
