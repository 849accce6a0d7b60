import ShapeCheck.Proofs.Outcomes
import ShapeCheck.Workspace.Registries

/-!
# Making, changing and registering schemas

What operations on schemas leave of a workspace, whether they go well or not. `Work.Reads` are the operations that leave the
schemas and the registries alone, and `Work.Extends` those that add schemas and change types, while every schema keeps its
namespace and version (`Workspace.Grows`). `Work.register_ending` is a registration, `Work.lookup_ending` and
`Work.resolve_ending` are the two ways to look a type up.
-/

namespace ShapeCheck

open Shape

/-! ## Operations that read -/

/-- The schemas and the registries of a workspace stay as they are. -/
structure Workspace.SameTables (w w' : Workspace) : Prop where
  schemas : w'.schemas = w.schemas
  registries : w'.registries = w.registries

namespace Workspace.SameTables

theorem refl (w : Workspace) : SameTables w w := ⟨rfl, rfl⟩

theorem trans {w w' w'' : Workspace} (h : SameTables w w') (h' : SameTables w' w'') : SameTables w w'' :=
  ⟨h'.schemas.trans h.schemas, h'.registries.trans h.registries⟩

end Workspace.SameTables

namespace Work

variable {α β : Type}

/-- An operation leaves the schemas and the registries as they are, whether it goes well or not. -/
def Reads (op : Work α) : Prop := ∀ w, Workspace.SameTables w (op.ending w).2

theorem reads_pure (a : α) : Reads (pure a) := .refl

theorem reads_throw (e : Failure) : Reads (throw e : Work α) := .refl

theorem reads_get : Reads get := .refl

theorem reads_tell (n : Notice) : Reads (tell n) := fun _ => ⟨rfl, rfl⟩

theorem reads_bind {op : Work α} {k : α → Work β} (h : Reads op) (hk : ∀ a, Reads (k a)) : Reads (op >>= k) := by
  intro w
  have hw := h w
  rw [ending_bind]
  rcases hop : op.ending w with ⟨e | a, w'⟩ <;> rw [hop] at hw
  · exact hw
  · exact hw.trans (hk a w')

theorem reads_tellAll : ∀ ns : List Notice, Reads (tellAll ns)
  | [] => reads_pure ()
  | n :: rest => reads_bind (reads_tell n) fun _ => reads_tellAll rest

theorem reads_ofMaking (m : Making α) : Reads (ofMaking m) := by
  refine reads_bind (reads_tellAll _) fun _ => ?_
  split
  · exact reads_pure _
  · exact reads_throw _

/-- An operation that reads, and what follows it: it fails, or what follows starts from the same tables. -/
theorem Reads.bind_cases {op : Work α} {k : α → Work β} (h : Reads op) (w : Workspace) :
    (∃ e w', (op >>= k).ending w = (.error e, w') ∧ Workspace.SameTables w w') ∨
      ∃ a w', op.ending w = (.ok a, w') ∧ Workspace.SameTables w w' ∧ (op >>= k).ending w = (k a).ending w' := by
  have hw := h w
  rw [ending_bind]
  rcases hop : op.ending w with ⟨e | a, w'⟩ <;> rw [hop] at hw
  · exact .inl ⟨e, w', rfl, hw⟩
  · exact .inr ⟨a, w', rfl, hw, rfl⟩

/-- An operation that gives a result has given one at each of its steps. -/
theorem ending_bind_eq_ok {op : Work α} {k : α → Work β} {b : β} {w w'' : Workspace}
    (h : (op >>= k).ending w = (.ok b, w'')) : ∃ a w', op.ending w = (.ok a, w') ∧ (k a).ending w' = (.ok b, w'') := by
  rw [ending_bind] at h
  rcases hop : op.ending w with ⟨e | a, w'⟩ <;> rw [hop] at h
  · cases h
  · exact ⟨a, w', rfl, h⟩

theorem ofMaking_ok {m : Making α} {a : α} {w w' : Workspace} (h : (ofMaking m).ending w = (.ok a, w')) :
    (m.run.run []).1 = .ok a := by
  unfold ofMaking at h
  obtain ⟨_, w1, -, h⟩ := ending_bind_eq_ok h
  split at h
  · next hm =>
    cases h
    exact hm
  · cases h

theorem reads_schema (h : SchemaHandle) : Reads (schema h) := by
  refine reads_bind reads_get fun w => ?_
  split
  · exact reads_pure _
  · exact reads_throw _

theorem schema_ok {h : SchemaHandle} {s : Schema} {w w' : Workspace} (hs : (schema h).ending w = (.ok s, w')) :
    w' = w ∧ w.schemas[h]? = some s := by
  unfold schema at hs
  rw [ending_bind_ok (ending_get w)] at hs
  split at hs
  · next hfound =>
    cases hs
    exact ⟨rfl, hfound⟩
  · cases hs

theorem registry_ending {r : RegistryHandle} {reg : Registry} {w : Workspace} (h : w.registries[r]? = some reg) :
    (registry r).ending w = (.ok reg, w) := by
  unfold registry
  rw [ending_bind_ok (ending_get w), h]
  rfl

/-- Variables are read, unless their file is no text, and nothing else happens. -/
theorem variableSources_ending (w : Workspace) :
    variableSources.ending w = (.error (.run .undecodable), w) ∨ ∃ sources, variableSources.ending w = (.ok sources, w) := by
  unfold variableSources
  rw [ending_bind_ok (ending_get w)]
  split
  · exact .inr ⟨_, rfl⟩
  · exact .inl rfl
  · exact .inr ⟨_, rfl⟩

theorem reads_surroundings (c : Capabilities) : Reads (surroundings c) := reads_bind reads_get fun _ => reads_pure _

theorem reads_surroundingsAt (h : CapabilitiesHandle) : Reads (surroundingsAt h) := by
  refine reads_bind reads_get fun w => ?_
  split
  · exact reads_surroundings _
  · exact reads_throw _

end Work

/-! ## Schemas that are made and changed -/

/-- The namespace and the version of a schema are well formed. -/
structure Schema.Formed (s : Schema) : Prop where
  namespaceName : isNamespace s.namespaceName = true
  version : isVersion s.version = true

/-- Two states of one schema have the same namespace and version. -/
structure Schema.SamePair (s s' : Schema) : Prop where
  namespaceName : s'.namespaceName = s.namespaceName
  version : s'.version = s.version

namespace Making

variable {α β : Type}

/-- Making gives a result, after some notices. -/
def Gives (m : Making α) (x : α) : Prop := ∃ notices, (m.run.run notices).1 = .ok x

theorem gives_pure {a x : α} (h : Gives (pure a) x) : x = a := by
  obtain ⟨_, h⟩ := h
  cases h
  rfl

/-- Making that gives a result has given one at each of its steps. -/
theorem gives_bind {m : Making α} {f : α → Making β} {y : β} (h : Gives (m >>= f) y) : ∃ x, Gives m x ∧ Gives (f x) y := by
  obtain ⟨ns, h⟩ := h
  rw [run_bind] at h
  rcases hm : m.run.run ns with ⟨e | x, ms⟩ <;> rw [hm] at h
  · cases h
  · exact ⟨x, ⟨ns, congrArg Prod.fst hm⟩, ms, h⟩

end Making

namespace Schema

theorem required_where {r : Record} {f : Field} {test : String → Bool} {defect : Defect} {s : String}
    (h : r.required f (Reading.textWhere test defect) = .ok s) : test s = true := by
  obtain ⟨_, _, _, hread⟩ := Record.required_eq_ok h
  exact (Reading.textWhere_eq_ok hread).2

theorem read_formed {es : List (Key × Datum)} {header : Header} (h : Header.read es = .ok header) :
    isNamespace header.namespaceName = true ∧ isVersion header.version = true := by
  obtain ⟨_, hparts, rfl⟩ := Reading.map_eq_ok.1 h
  obtain ⟨hparts, -⟩ := Record.closing_eq_ok.1 hparts
  obtain ⟨hnamespace, hparts⟩ := Reading.both_eq_ok.1 hparts
  obtain ⟨hversion, -⟩ := Reading.both_eq_ok.1 hparts
  exact ⟨required_where hnamespace, required_where hversion⟩

/-- The identity of a schema with a header: what the header says, or failing that a new one. -/
inductive Identifies (clock : Clock) (factory : Option IdentityFactory) (header : Header) : Identity → Prop
  | restored {id : String} (given : header.id = some id) :
      Identifies clock factory header (.restored clock entityType id header.createdOn header.updatedOn)
  | fresh (absent : header.id = none) (default : factory = none) : Identifies clock factory header (.fresh clock entityType)
  | minted {f : IdentityFactory} {i : Identity} (absent : header.id = none) (given : factory = some f) (gives : f entityType = .ok i) :
      Identifies clock factory header i

/-- A schema that is made has its header and its types from the data, and one of the identities that are meant to be. -/
theorem make_gives {around : Surroundings} {clock : Clock} {factory : Option IdentityFactory} {options : List (Key × Datum)}
    {s : Schema} (h : Making.Gives (make around clock factory options) s) :
    ∃ header types identity, Header.read options = .ok header ∧ Making.Gives (makeTypes around header.types) types ∧
      Identifies clock factory header identity ∧
      s = ⟨header.namespaceName, header.version, header.description, around.capabilities, types, identity⟩ := by
  unfold make at h
  split at h
  · obtain ⟨_, h⟩ := h
    cases h
  · next header hread =>
    obtain ⟨types, htypes, h⟩ := Making.gives_bind h
    extract_lets finish at h
    have hfinish : ∀ identity, Making.Gives (finish identity) s →
        s = ⟨header.namespaceName, header.version, header.description, around.capabilities, types, identity⟩ := by
      intro identity hs
      obtain ⟨_, -, hs⟩ := Making.gives_bind hs
      exact Making.gives_pure hs
    refine ⟨header, types, ?_⟩
    cases hid : header.id with
    | some id =>
      rw [hid] at h
      exact ⟨_, hread, htypes, .restored hid, hfinish _ h⟩
    | none =>
    cases factory with
    | none =>
      rw [hid] at h
      exact ⟨_, hread, htypes, .fresh hid rfl, hfinish _ h⟩
    | some f =>
      rw [hid] at h
      dsimp only at h
      split at h
      · next i hi => exact ⟨i, hread, htypes, .minted hid rfl hi, hfinish i h⟩
      · obtain ⟨_, ⟨_, hthrow⟩, -⟩ := Making.gives_bind h
        cases hthrow

theorem make_formed {around : Surroundings} {clock : Clock} {factory : Option IdentityFactory} {options : List (Key × Datum)}
    {s : Schema} (h : Making.Gives (make around clock factory options) s) : s.Formed := by
  obtain ⟨header, types, identity, hread, -, -, rfl⟩ := make_gives h
  exact ⟨(read_formed hread).1, (read_formed hread).2⟩

theorem addType_samePair {s s' : Schema} {around : Surroundings} {clock : Clock} {name definition : Datum} {t : ObjectType}
    (h : Making.Gives (s.addType around clock name definition) (t, s')) : s.SamePair s' := by
  unfold addType at h
  obtain ⟨_, -, h⟩ := Making.gives_bind h
  extract_lets finish at h
  have hfinish : Making.Gives (finish ()) (t, s') → s.SamePair s' := by
    intro hs
    obtain ⟨⟨n, u⟩, -, hs⟩ := Making.gives_bind hs
    obtain ⟨_, -, hs⟩ := Making.gives_bind hs
    cases Making.gives_pure hs
    exact ⟨rfl, rfl⟩
  split at h
  · split at h
    · obtain ⟨_, -, h⟩ := Making.gives_bind h
      exact hfinish h
    · exact hfinish h
  · exact hfinish h

theorem setType_samePair {s s' : Schema} {around : Surroundings} {clock : Clock} {name definition : Datum}
    {previous : Option ObjectType} (h : Making.Gives (s.setType around clock name definition) (previous, s')) : s.SamePair s' := by
  unfold setType at h
  obtain ⟨⟨n, u⟩, -, h⟩ := Making.gives_bind h
  obtain ⟨_, -, h⟩ := Making.gives_bind h
  cases Making.gives_pure h
  exact ⟨rfl, rfl⟩

theorem removeType_samePair {s s' : Schema} {clock : Clock} {name : Datum} {previous : Option ObjectType}
    (h : Making.Gives (s.removeType clock name) (previous, s')) : s.SamePair s' := by
  unfold removeType at h
  extract_lets finish at h
  have hfinish : Making.Gives (finish ()) (previous, s') → s.SamePair s' := by
    intro hs
    unfold finish at hs
    split at hs
    · obtain ⟨_, -, hs⟩ := Making.gives_bind hs
      cases Making.gives_pure hs
      exact ⟨rfl, rfl⟩
    · cases Making.gives_pure hs
      exact ⟨rfl, rfl⟩
  split at h
  · obtain ⟨_, -, h⟩ := Making.gives_bind h
    exact hfinish h
  · exact hfinish h

end Schema

/-! ## Workspaces whose schemas change -/

namespace Workspace

/-- The schemas of a workspace are well formed. -/
def SchemasFormed (w : Workspace) : Prop := ∀ (h : SchemaHandle) (s : Schema), w.schemas[h]? = some s → s.Formed

/-- A workspace and what schemas that are made and changed leave of it. -/
structure Grows (w w' : Workspace) : Prop where
  registries : w'.registries = w.registries
  kept : ∀ (h : SchemaHandle) (s : Schema), w.schemas[h]? = some s → ∃ s', w'.schemas[h]? = some s' ∧ s.SamePair s'
  formed : w.SchemasFormed → w'.SchemasFormed

theorem SameTables.grows {w w' : Workspace} (h : SameTables w w') : Grows w w' where
  registries := h.registries
  kept _ s hs := ⟨s, h.schemas ▸ hs, rfl, rfl⟩
  formed hw a s hs := hw a s (h.schemas ▸ hs)

theorem Grows.trans {w w' w'' : Workspace} (h : Grows w w') (h' : Grows w' w'') : Grows w w'' where
  registries := h'.registries.trans h.registries
  kept a s hs := by
    obtain ⟨s', hs', hpair⟩ := h.kept a s hs
    obtain ⟨s'', hs'', hpair'⟩ := h'.kept a s' hs'
    exact ⟨s'', hs'', hpair'.namespaceName.trans hpair.namespaceName, hpair'.version.trans hpair.version⟩
  formed hw := h'.formed (h.formed hw)

theorem Grows.lt_size {w w' : Workspace} (h : Grows w w') {a : SchemaHandle} (ha : a < w.schemas.size) :
    a < w'.schemas.size := by
  obtain ⟨s', hs', -⟩ := h.kept a _ (Array.getElem?_eq_getElem ha)
  exact (Array.getElem?_eq_some_iff.1 hs').1

theorem grows_push {w w' : Workspace} {s : Schema} (hs : s.Formed) (hschemas : w'.schemas = w.schemas.push s)
    (hregistries : w'.registries = w.registries) : Grows w w' where
  registries := hregistries
  kept a s' hs' := by
    have ha := (Array.getElem?_eq_some_iff.1 hs').1
    exact ⟨s', by rw [hschemas, Array.getElem?_push, if_neg (by omega)]; exact hs', rfl, rfl⟩
  formed hw a s' hs' := by
    rw [hschemas, Array.getElem?_push] at hs'
    split at hs'
    · cases hs'
      exact hs
    · exact hw a s' hs'

theorem grows_set {w : Workspace} {h : SchemaHandle} {s s' : Schema} (hs : w.schemas[h]? = some s) (hpair : s.SamePair s') :
    Grows w { w with schemas := w.schemas.setIfInBounds h s' } where
  registries := rfl
  kept a t ht := by
    by_cases ha : h = a
    · subst ha
      cases hs.symm.trans ht
      exact ⟨s', Array.getElem?_setIfInBounds_self_of_lt (Array.getElem?_eq_some_iff.1 hs).1, hpair⟩
    · exact ⟨t, by rw [Array.getElem?_setIfInBounds_ne ha]; exact ht, rfl, rfl⟩
  formed hw a t ht := by
    by_cases ha : h = a
    · subst ha
      have hformed := hw h s hs
      rw [Array.getElem?_setIfInBounds_self_of_lt (Array.getElem?_eq_some_iff.1 hs).1] at ht
      cases ht
      exact ⟨hpair.namespaceName ▸ hformed.namespaceName, hpair.version ▸ hformed.version⟩
    · rw [Array.getElem?_setIfInBounds_ne ha] at ht
      exact hw a t ht

end Workspace

namespace Work

variable {α β : Type}

/-- An operation makes and changes schemas at most, whether it goes well or not. -/
def Extends (op : Work α) : Prop := ∀ w, Workspace.Grows w (op.ending w).2

/-- What follows an operation that reads starts from the same tables. -/
theorem Reads.grows_bind {op : Work α} {k : α → Work β} (h : Reads op) {w : Workspace}
    (hk : ∀ a w', op.ending w = (.ok a, w') → Workspace.SameTables w w' → Workspace.Grows w' ((k a).ending w').2) :
    Workspace.Grows w ((op >>= k).ending w).2 := by
  rcases h.bind_cases (k := k) w with ⟨e, w', hend, hsame⟩ | ⟨a, w', hop, hsame, hend⟩ <;> rw [hend]
  · exact hsame.grows
  · exact hsame.grows.trans (hk a w' hop hsame)

/-- Making a schema fails and leaves all as it was, or adds a schema that is well formed. -/
theorem makeSchema_cases (capabilities : CapabilitiesHandle) (factory : Option IdentityFactory) (options : List (Key × Datum))
    (w : Workspace) :
    (∃ e w', (makeSchema capabilities factory options).ending w = (.error e, w') ∧ Workspace.SameTables w w') ∨
      ∃ s w', s.Formed ∧ (makeSchema capabilities factory options).ending w = (.ok w.schemas.size, w') ∧
        w'.schemas = w.schemas.push s ∧ w'.registries = w.registries := by
  unfold makeSchema
  rcases (reads_surroundingsAt capabilities).bind_cases w with
    ⟨e, w', hend, hsame⟩ | ⟨around, w1, -, hsame, hend⟩ <;> rw [hend]
  · exact .inl ⟨e, w', rfl, hsame⟩
  have hget : (get : Work Workspace).ending w1 = (.ok w1, w1) := rfl
  rw [ending_bind_ok hget]
  rcases (reads_ofMaking (Schema.make around w1.clock factory options)).bind_cases w1 with
    ⟨e, w', hend, hsame'⟩ | ⟨s, w2, hs, hsame', hend⟩ <;> rw [hend]
  · exact .inl ⟨e, w', rfl, hsame.trans hsame'⟩
  · have h := hsame.trans hsame'
    refine .inr ⟨s, { w2 with schemas := w2.schemas.push s }, Schema.make_formed ⟨[], ofMaking_ok hs⟩, ?_, ?_, h.registries⟩
    · rw [← h.schemas]
      rfl
    · rw [← h.schemas]

theorem makeSchemaOf_cases (capabilities : CapabilitiesHandle) (factory : Option IdentityFactory) (options : Datum)
    (more : List (Key × Datum)) (w : Workspace) :
    (∃ e w', (makeSchemaOf capabilities factory options more).ending w = (.error e, w') ∧ Workspace.SameTables w w') ∨
      ∃ s w', s.Formed ∧ (makeSchemaOf capabilities factory options more).ending w = (.ok w.schemas.size, w') ∧
        w'.schemas = w.schemas.push s ∧ w'.registries = w.registries := by
  unfold makeSchemaOf
  split
  · exact .inl ⟨_, w, rfl, .refl w⟩
  · exact makeSchema_cases _ _ _ w

theorem extends_makeSchemaOf (capabilities : CapabilitiesHandle) (factory : Option IdentityFactory) (options : Datum)
    (more : List (Key × Datum)) : Extends (makeSchemaOf capabilities factory options more) := by
  intro w
  rcases makeSchemaOf_cases capabilities factory options more w with
    ⟨e, w', hend, hsame⟩ | ⟨s, w', hs, hend, hschemas, hregistries⟩ <;> rw [hend]
  · exact hsame.grows
  · exact Workspace.grows_push hs hschemas hregistries

/-- Storing what a change makes of a schema, if the change keeps its namespace and version. -/
theorem grows_commit {w : Workspace} {h : SchemaHandle} {s : Schema} (hs : w.schemas[h]? = some s) {m : Making (α × Schema)}
    (hm : ∀ a s', m.Gives (a, s') → s.SamePair s') :
    Workspace.Grows w ((do
      let (a, s') ← ofMaking m
      setSchema h s'
      return a : Work α).ending w).2 := by
  refine (reads_ofMaking m).grows_bind fun ⟨a, s'⟩ w' hop hsame => ?_
  exact Workspace.grows_set (hsame.schemas ▸ hs) (hm a s' ⟨[], ofMaking_ok hop⟩)

theorem extends_addSchemaType (h : SchemaHandle) (name definition : Datum) : Extends (addSchemaType h name definition) := by
  intro w
  refine (reads_schema h).grows_bind fun s w1 hs _ => ?_
  obtain ⟨rfl, hs⟩ := schema_ok hs
  refine (reads_surroundings _).grows_bind fun _ w2 _ hsame => ?_
  refine reads_get.grows_bind fun _ w3 _ hsame' => ?_
  exact grows_commit ((hsame.trans hsame').schemas ▸ hs) fun _ _ => Schema.addType_samePair

theorem extends_setSchemaType (h : SchemaHandle) (name definition : Datum) : Extends (setSchemaType h name definition) := by
  intro w
  refine (reads_schema h).grows_bind fun s w1 hs _ => ?_
  obtain ⟨rfl, hs⟩ := schema_ok hs
  refine (reads_surroundings _).grows_bind fun _ w2 _ hsame => ?_
  refine reads_get.grows_bind fun _ w3 _ hsame' => ?_
  exact grows_commit ((hsame.trans hsame').schemas ▸ hs) fun _ _ => Schema.setType_samePair

theorem extends_removeSchemaType (h : SchemaHandle) (name : Datum) : Extends (removeSchemaType h name) := by
  intro w
  refine (reads_schema h).grows_bind fun s w1 hs _ => ?_
  obtain ⟨rfl, hs⟩ := schema_ok hs
  refine reads_get.grows_bind fun _ w2 _ hsame => ?_
  exact grows_commit (hsame.schemas ▸ hs) fun _ _ => Schema.removeType_samePair

theorem schema_ending {h : SchemaHandle} {s : Schema} {w : Workspace} (hs : w.schemas[h]? = some s) :
    (schema h).ending w = (.ok s, w) := by
  unfold schema
  rw [ending_bind_ok (ending_get w), hs]
  rfl

section Register

variable {r : RegistryHandle} {reg : Registry} {w : Workspace} {h : SchemaHandle}

/-- Registering a schema puts it under its key. -/
theorem register_ending {s : Schema} (hreg : w.registries[r]? = some reg) (hs : w.schemas[h]? = some s) :
    ∃ w', (register r h).ending w = (.ok (), w') ∧ w'.schemas = w.schemas ∧
      w'.registries = w.registries.setIfInBounds r (reg.register s.key h) := by
  unfold register
  rw [ending_bind_ok (registry_ending hreg), ending_bind_ok (schema_ending hs)]
  cases reg.tellsReplacing s.key with
  | false => exact ⟨_, rfl, rfl, rfl⟩
  | true => exact ⟨_, rfl, rfl, rfl⟩

/-- There is nothing to register without a schema. -/
theorem register_stray (hreg : w.registries[r]? = some reg) (hs : w.schemas[h]? = none) :
    (register r h).ending w = (.error .strayHandle, w) := by
  have hschema : (schema h).ending w = (.error .strayHandle, w) := by
    unfold schema
    rw [ending_bind_ok (ending_get w), hs]
    rfl
  unfold register
  rw [ending_bind_ok (registry_ending hreg), ending_bind, hschema]

end Register

/-- The error of a lookup key holds the key. -/
theorem key_of_ofKey {key : Datum} {e : LookupError} (h : TypeRef.ofKey key = .error e) : e.key = key := by
  unfold TypeRef.ofKey at h
  split at h <;> (try split at h) <;> cases h <;> rfl

/-- A text can be written, so the failure of a text as a lookup key is the error of it. -/
theorem ofLookup_text {s : String} {e : LookupError} (h : TypeRef.ofKey (.text s) = .error e) :
    Failure.ofLookup e = .lookup e := by
  unfold Failure.ofLookup
  rw [key_of_ofKey h]
  rfl

theorem lookup_ending {r : RegistryHandle} {reg : Registry} {w : Workspace} (h : w.registries[r]? = some reg) (key : Datum) :
    ((lookup r key).ending w).1 =
      match TypeRef.ofKey key with
      | .ok ref => .ok (w.typeAt? reg ref)
      | .error e => .error (.ofLookup e) := by
  unfold lookup reference
  rw [ending_bind_ok (registry_ending h)]
  cases TypeRef.ofKey key <;> rfl

theorem resolve_ending {r : RegistryHandle} {reg : Registry} {w : Workspace} (h : w.registries[r]? = some reg)
    (ns version name : Datum) :
    ((resolve r ns version name).ending w).1 =
      match TypeRef.read (Datum.record [("namespace", ns), ("version", version), ("type_name", name)]) with
      | .ok ref => .ok (w.typeAt? reg ref)
      | .bad _ => .ok none := by
  unfold resolve
  rw [ending_bind_ok (registry_ending h)]
  cases TypeRef.read (Datum.record [("namespace", ns), ("version", version), ("type_name", name)]) <;> rfl

end Work

end ShapeCheck
