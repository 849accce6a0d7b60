import ShapeCheck.Proofs.Registering

/-!
# What operations tell

Notices are only ever added, and few of them are events. Building a type tells that it was compiled, which is no event
(`Building.type_eventless`), so the event of a change to a schema is the only one of the whole change. `Workspace.Told` is what
telling some events leaves of a workspace, and `Work.commit_ending` is the last part of each change to a schema: what was made
is stored, or all stays as it was.
-/

namespace ShapeCheck

open Shape

/-- The event that a notice tells of. -/
def Notice.event? : Notice → Option Event
  | .event e => some e
  | _ => none

/-- The events that were logged, in order. -/
def Workspace.events (w : Workspace) : List Event := w.notices.toList.filterMap Notice.event?

/-! ## Making that logs nothing -/

/-- Making adds notices, none of which is an event. -/
def Eventless {ε α : Type} (m : ExceptT ε (StateM (List Notice)) α) : Prop :=
  ∀ notices, ∃ told, (m.run.run notices).2 = notices ++ told ∧ told.filterMap Notice.event? = []

section Eventless

variable {ε α β : Type}

theorem eventless_pure (a : α) : Eventless (pure a : ExceptT ε (StateM (List Notice)) α) :=
  fun ns => ⟨[], (List.append_nil ns).symm, rfl⟩

theorem eventless_throw (e : ε) : Eventless (throw e : ExceptT ε (StateM (List Notice)) α) :=
  fun ns => ⟨[], (List.append_nil ns).symm, rfl⟩

theorem eventless_bind {m : ExceptT ε (StateM (List Notice)) α} {k : α → ExceptT ε (StateM (List Notice)) β} (h : Eventless m)
    (hk : ∀ a, Eventless (k a)) : Eventless (m >>= k) := by
  intro ns
  obtain ⟨told, htold, hquiet⟩ := h ns
  rw [run_bind]
  rcases hm : m.run.run ns with ⟨e | a, ms⟩ <;> rw [hm] at htold
  · exact ⟨told, htold, hquiet⟩
  · obtain ⟨told', htold', hquiet'⟩ := hk a ms
    refine ⟨told ++ told', ?_, by rw [List.filterMap_append, hquiet, hquiet']; rfl⟩
    rw [htold', show ms = ns ++ told from htold, List.append_assoc]

end Eventless

namespace Building

variable {α : Type}

theorem eventless_tell_compiled (name : Option String) (properties references : Nat) :
    Eventless (tell (.compiled name properties references)) := fun _ => ⟨[.compiled name properties references], rfl, rfl⟩

theorem eventless_optional {r : Record} {f : Field} {absent : α}
    {read : (d : Datum) → (∃ k, (k, d) ∈ r.entries) → Building (Reading α)} (h : ∀ d hd, Eventless (read d hd)) :
    Eventless (optional r f absent read) := by
  unfold optional
  split
  · exact eventless_bind (h _ _) fun _ => eventless_pure _
  · exact eventless_pure _

theorem eventless_entries : ∀ {es : List (Key × Datum)} {read : (d : Datum) → (∃ k, (k, d) ∈ es) → Building (Reading α)},
    (∀ d hd, Eventless (read d hd)) → Eventless (entries es read)
  | [], _, _ => by
    unfold entries
    exact eventless_pure _
  | (k, d) :: rest, read, h => by
    unfold entries
    exact eventless_bind (h _ _) fun _ => eventless_bind (eventless_entries fun _ _ => h _ _) fun _ => eventless_pure _

theorem eventless_items : ∀ {i : Nat} {xs : List Datum} {read : (d : Datum) → d ∈ xs → Building (Reading α)},
    (∀ d hd, Eventless (read d hd)) → Eventless (items i xs read)
  | _, [], _, _ => by
    unfold items
    exact eventless_pure _
  | _, d :: rest, read, h => by
    unfold items
    exact eventless_bind (h _ _) fun _ => eventless_bind (eventless_items fun _ _ => h _ _) fun _ => eventless_pure _

end Building

theorem Capabilities.eventless_finishProperty (caps : Capabilities) (d : Datum) (p : PropertyDef)
    (inlineTypes : Option (List TypeChecker)) : Eventless (caps.finishProperty d p inlineTypes) := by
  unfold finishProperty
  split
  · exact eventless_pure _
  · exact eventless_pure _
  · split
    · exact eventless_pure _
    · exact eventless_throw _

theorem ObjectType.eventless_finish (name description : Option String) (leniency : Leniency)
    (properties : List (String × (PropertyDef × PropertyChecker))) :
    Eventless (ObjectType.finish name description leniency properties) :=
  eventless_bind (Building.eventless_tell_compiled _ _ _) fun _ => eventless_pure _

mutual
theorem Building.property_eventless (around : Surroundings) (d : Datum) : Eventless (Building.property around d) := by
  unfold Building.property
  split
  · split
    · exact eventless_pure _
    · exact Capabilities.eventless_finishProperty _ _ _ _
  split
  · exact eventless_pure _
  · next r hr =>
    refine eventless_bind (eventless_optional fun v hv => ?_) fun inlineTypes => ?_
    · split
      · exact eventless_pure _
      split
      · exact eventless_pure _
      · next xs hi =>
        refine eventless_bind (eventless_items fun x hx => ?_) fun _ => eventless_pure _
        have hsmaller : sizeOf x < sizeOf d := Nat.lt_trans (Datum.sizeOf_member hi hx)
          (hv.elim fun _ hm => Datum.sizeOf_entry (Record.ofDatum_eq_ok hr) hm)
        exact Building.type_eventless around x
    · split
      · exact eventless_pure _
      · exact Capabilities.eventless_finishProperty _ _ _ _
termination_by sizeOf d
/-- Building a type logs nothing. -/
theorem Building.type_eventless (around : Surroundings) (d : Datum) : Eventless (Building.type around d) := by
  unfold Building.type
  split
  · split
    · exact eventless_pure _
    · exact eventless_bind (eventless_tell_compiled _ _ _) fun _ => eventless_pure _
  · split
    · exact eventless_pure _
    · next r hr =>
      refine eventless_bind (eventless_optional fun v hv => ?_) fun properties => ?_
      · split
        · exact eventless_pure _
        · next es he =>
          refine eventless_bind (eventless_entries fun p hp => ?_) fun _ => eventless_pure _
          have hsmaller : sizeOf p < sizeOf d := hp.elim fun _ hm => Nat.lt_trans (Datum.sizeOf_entry he hm)
            (hv.elim fun _ hn => Datum.sizeOf_entry (Record.ofDatum_eq_ok hr) hn)
          exact Building.property_eventless around p
      · split
        · exact eventless_pure _
        · exact eventless_bind (ObjectType.eventless_finish _ _ _ _) fun _ => eventless_pure _
termination_by sizeOf d
end

namespace Making

/-- A building in its place gives the same notices. -/
theorem run_ofBuilding {α : Type} (location : String) (b : Building α) (ns : List Notice) :
    (ofBuilding location b).run.run ns = ((b.run.run ns).1.mapError (.compile location), (b.run.run ns).2) := by
  have hget : (get : Making (List Notice)).run.run ns = (.ok ns, ns) := rfl
  unfold ofBuilding
  rw [run_bind, hget]
  dsimp only
  rcases b.run.run ns with ⟨e | x, ms⟩ <;> rfl

theorem eventless_ofBuilding {α : Type} (location : String) {b : Building α} (h : Eventless b) : Eventless (ofBuilding location b) := by
  intro ns
  obtain ⟨told, htold, hquiet⟩ := h ns
  refine ⟨told, ?_, hquiet⟩
  rw [run_ofBuilding, ← htold]

theorem gives_ofBuilding {α : Type} {location : String} {b : Building α} {x : α} (h : Gives (ofBuilding location b) x) :
    Building.Gives b x := by
  obtain ⟨ns, h⟩ := h
  rw [run_ofBuilding] at h
  refine ⟨ns, ?_⟩
  rcases hb : (b.run.run ns).1 with e | y <;> rw [hb] at h <;> cases h
  rfl

end Making

namespace Schema

variable {around : Surroundings} {definition : Datum}

theorem requireKey_eventless (name : Datum) : Eventless (requireKey name) := by
  unfold requireKey
  split
  · exact eventless_pure _
  · exact eventless_throw _

theorem location_eventless (name : Datum) : Eventless (location name) := by
  unfold location
  split
  · exact eventless_pure _
  · exact eventless_throw _

@[simp] theorem location_text (name : String) : location (.text name) = pure ("types." ++ name) := rfl

/-- Making a type logs nothing. -/
theorem makeType_eventless (around : Surroundings) (name definition : Datum) : Eventless (makeType around name definition) := by
  unfold makeType
  refine eventless_bind (location_eventless _) fun location => ?_
  extract_lets refuse known finish
  have hrefuse : ∀ issues, Eventless (refuse issues) := fun _ => eventless_throw _
  have hfinish : ∀ made, Eventless (finish made) := by
    intro made
    unfold finish
    split
    · exact eventless_pure _
    · exact eventless_bind (requireKey_eventless _) fun _ => eventless_throw _
  split
  · exact eventless_bind (eventless_pure _) hfinish
  · exact eventless_bind (hrefuse _) hfinish
  · refine eventless_bind (Making.eventless_ofBuilding _ (Building.type_eventless _ _)) fun read => ?_
    split
    · exact eventless_bind (eventless_pure _) hfinish
    · exact eventless_bind (hrefuse _) hfinish

/-- What a definition makes in some surroundings: a type that was built before, or one that is built now under the name. -/
inductive Defines (around : Surroundings) (name definition : Datum) : ObjectType → Prop
  | before {handle : TypeHandle} {parts : List (String × Datum)} {t : ObjectType}
      (structured : definition = .structured "Type" (some handle) parts) (known : around.built handle = some t) :
      Defines around name definition t
  | now {es : List (Key × Datum)} {t : ObjectType} (entries : definition.entries? = some es)
      (built : Building.Gives (Building.type around (.mapping (Entries.put (.text "name") name es))) (.ok t)) :
      Defines around name definition t

theorem makeType_gives {name : String} {made : Option String × ObjectType}
    (h : Making.Gives (makeType around (.text name) definition) made) :
    ∃ t, Defines around (.text name) definition t ∧ made = (some name, t.rename (some name)) := by
  unfold makeType at h
  rw [location_text, pure_bind] at h
  extract_lets refuse known finish at h
  have hrefuse : ∀ {issues : List Issue} {x : ObjectType}, ¬ Making.Gives (refuse issues) x := fun ⟨_, h⟩ => nomatch h
  have hfinish : ∀ {t}, Making.Gives (finish t) made → made = (some name, t.rename (some name)) := fun h => Making.gives_pure h
  split at h
  · next t _ hknown =>
    obtain ⟨t', ht, h⟩ := Making.gives_bind h
    obtain rfl := Making.gives_pure ht
    unfold known at hknown
    split at hknown
    · exact ⟨t', .before rfl hknown, hfinish h⟩
    · cases hknown
  · exact absurd (Making.gives_bind h).choose_spec.1 hrefuse
  · next es _ hentries =>
    obtain ⟨read, hread, h⟩ := Making.gives_bind h
    split at h
    · next t =>
      obtain ⟨t', ht, h⟩ := Making.gives_bind h
      obtain rfl := Making.gives_pure ht
      exact ⟨t', .now hentries (Making.gives_ofBuilding hread), hfinish h⟩
    · exact absurd (Making.gives_bind h).choose_spec.1 hrefuse

/-- Each definition makes the type in its place, under the name that it stands under. -/
theorem makeTypes_gives : ∀ {definitions : List (String × Datum)} {types : Assoc ObjectType (Option String)},
    Making.Gives (makeTypes around definitions) types →
    List.Forall₂ (fun d p => ∃ t, Defines around (.text d.1) d.2 t ∧ p = (some d.1, t.rename (some d.1))) definitions types
  | [], types, h => by
    unfold makeTypes at h
    obtain rfl := Making.gives_pure h
    exact .nil
  | (name, definition) :: rest, types, h => by
    unfold makeTypes at h
    obtain ⟨made, hmade, h⟩ := Making.gives_bind h
    obtain ⟨others, hothers, h⟩ := Making.gives_bind h
    obtain rfl := Making.gives_pure h
    exact .cons (makeType_gives hmade) (makeTypes_gives hothers)

end Schema

/-! ## Workspaces that were told -/

/-- A workspace and what telling leaves of it: some events are logged, and the tables and the clock stay. -/
structure Workspace.Told (log : List Event) (w w' : Workspace) : Prop extends Workspace.SameTables w w' where
  clock : w'.clock = w.clock
  capabilities : w'.capabilities = w.capabilities
  types : w'.types = w.types
  events : w'.events = w.events ++ log

/-- What a type that was built before is, by its place in the table. -/
def Workspace.built (w : Workspace) : TypeHandle → Option ObjectType := fun handle => w.types[handle.index]?

namespace Work

variable {α : Type}

theorem tell_told (n : Notice) (w : Workspace) :
    ∃ w', (tell n).ending w = (.ok (), w') ∧ Workspace.Told (n.event?.toList) w w' := by
  refine ⟨_, rfl, ⟨rfl, rfl⟩, rfl, rfl, rfl, ?_⟩
  unfold Workspace.events
  rw [Array.toList_push, List.filterMap_append]
  cases h : n.event? <;> simp [h]

theorem tellAll_told : ∀ (ns : List Notice) (w : Workspace),
    ∃ w', (tellAll ns).ending w = (.ok (), w') ∧ Workspace.Told (ns.filterMap Notice.event?) w w'
  | [], w => ⟨w, rfl, ⟨rfl, rfl⟩, rfl, rfl, rfl, (List.append_nil _).symm⟩
  | n :: rest, w => by
    obtain ⟨w1, hfirst, htold⟩ := tell_told n w
    obtain ⟨w2, hrest, htold'⟩ := tellAll_told rest w1
    refine ⟨w2, ?_, ⟨htold'.schemas.trans htold.schemas, htold'.registries.trans htold.registries⟩, htold'.clock.trans htold.clock,
      htold'.capabilities.trans htold.capabilities, htold'.types.trans htold.types, ?_⟩
    · change (tell n >>= fun _ => tellAll rest).ending w = _
      rw [ending_bind_ok hfirst, hrest]
    · rw [htold'.events, htold.events, List.append_assoc]
      cases h : n.event? <;> simp [h]

/-- Making something gives what it gives, after its notices were told. -/
theorem ofMaking_ending (m : Making α) (w : Workspace) :
    ∃ w', (ofMaking m).ending w = ((m.run.run []).1.mapError Failure.schema, w') ∧
      Workspace.Told ((m.run.run []).2.filterMap Notice.event?) w w' := by
  unfold ofMaking
  rcases m.run.run [] with ⟨result, ns⟩
  obtain ⟨w', hend, htold⟩ := tellAll_told ns w
  refine ⟨w', ?_, htold⟩
  dsimp only
  rw [ending_bind_ok hend]
  cases result <;> rfl

/-- The last part of a change to a schema: what is made of it is stored. -/
def commit (h : SchemaHandle) (m : Making (α × Schema)) : Work α := do
  let (a, s) ← ofMaking m
  setSchema h s
  return a

/-- A change that fails tells its notices and leaves the rest as it was. -/
theorem commit_error {h : SchemaHandle} {m : Making (α × Schema)} {e : SchemaError} {ns : List Notice}
    (hm : m.run.run [] = (.error e, ns)) (w : Workspace) :
    ∃ w', (commit h m).ending w = (.error (.schema e), w') ∧ Workspace.Told (ns.filterMap Notice.event?) w w' := by
  obtain ⟨w', hend, htold⟩ := ofMaking_ending m w
  rw [hm] at hend htold
  refine ⟨w', ?_, htold⟩
  unfold commit
  rw [ending_bind, hend]
  rfl

/-- A change that goes well tells its notices and stores the schema. -/
theorem commit_ok {h : SchemaHandle} {m : Making (α × Schema)} {a : α} {s : Schema} {ns : List Notice}
    (hm : m.run.run [] = (.ok (a, s), ns)) (w : Workspace) :
    ∃ w', (commit h m).ending w = (.ok a, { w' with schemas := w.schemas.setIfInBounds h s }) ∧
      Workspace.Told (ns.filterMap Notice.event?) w w' := by
  obtain ⟨w', hend, htold⟩ := ofMaking_ending m w
  rw [hm] at hend htold
  refine ⟨w', ?_, htold⟩
  unfold commit
  rw [ending_bind_ok hend, ← htold.schemas]
  rfl

/-- The surroundings of a schema in a workspace. -/
def surroundingsOf (w : Workspace) (s : Schema) : Surroundings := ⟨s.capabilities, w.built⟩

variable {h : SchemaHandle} {s : Schema} {w : Workspace}

theorem addSchemaType_ending (hs : w.schemas[h]? = some s) (name definition : Datum) :
    (addSchemaType h name definition).ending w = (commit h (s.addType (surroundingsOf w s) w.clock name definition)).ending w := by
  unfold addSchemaType
  rw [ending_bind_ok (schema_ending hs)]
  rfl

theorem setSchemaType_ending (hs : w.schemas[h]? = some s) (name definition : Datum) :
    (setSchemaType h name definition).ending w = (commit h (s.setType (surroundingsOf w s) w.clock name definition)).ending w := by
  unfold setSchemaType
  rw [ending_bind_ok (schema_ending hs)]
  rfl

theorem removeSchemaType_ending (hs : w.schemas[h]? = some s) (name : Datum) :
    (removeSchemaType h name).ending w = (commit h (s.removeType w.clock name)).ending w := by
  unfold removeSchemaType
  rw [ending_bind_ok (schema_ending hs)]
  rfl

theorem surroundingsAt_ok {capabilities : CapabilitiesHandle} {around : Surroundings} {w' : Workspace}
    (haround : (surroundingsAt capabilities).ending w = (.ok around, w')) :
    ∃ c, w.capabilities[capabilities]? = some c ∧ around = ⟨c, w.built⟩ ∧ w' = w := by
  unfold surroundingsAt at haround
  rw [ending_bind_ok (ending_get w)] at haround
  split at haround
  · next c hc =>
    cases haround
    exact ⟨c, hc, rfl, rfl⟩
  · cases haround

theorem surroundingsAt_ending {capabilities : CapabilitiesHandle} {c : Capabilities} (hc : w.capabilities[capabilities]? = some c) :
    (surroundingsAt capabilities).ending w = (.ok ⟨c, w.built⟩, w) := by
  unfold surroundingsAt
  rw [ending_bind_ok (ending_get w), hc]
  rfl

/-- A schema that was made comes from its data, in the surroundings of its capabilities, and stands last in the table. -/
theorem makeSchema_ok {capabilities : CapabilitiesHandle} {factory : Option IdentityFactory} {options : List (Key × Datum)}
    {w' : Workspace} (hmake : (makeSchema capabilities factory options).ending w = (.ok h, w')) :
    ∃ c s log w1, w.capabilities[capabilities]? = some c ∧
      Making.Gives (Schema.make ⟨c, w.built⟩ w.clock factory options) s ∧
      w.Told log w1 ∧ h = w.schemas.size ∧ w' = { w1 with schemas := w.schemas.push s } := by
  unfold makeSchema at hmake
  obtain ⟨around, w1, haround, hmake⟩ := ending_bind_eq_ok hmake
  obtain ⟨c, hc, rfl, rfl⟩ := surroundingsAt_ok haround
  rw [ending_bind_ok (ending_get w1)] at hmake
  obtain ⟨s, w2, hs, hmake⟩ := ending_bind_eq_ok hmake
  obtain ⟨w2', hend, htold⟩ := ofMaking_ending (Schema.make ⟨c, w1.built⟩ w1.clock factory options) w1
  have hw2 : w2 = w2' := (congrArg Prod.snd hs).symm.trans (congrArg Prod.snd hend)
  cases hmake
  subst hw2
  refine ⟨c, s, _, w2, hc, ⟨[], ofMaking_ok hs⟩, htold, ?_, ?_⟩
  · rw [htold.schemas]
  · rw [htold.schemas]

theorem makeSchemaOf_ok {capabilities : CapabilitiesHandle} {factory : Option IdentityFactory} {options : Datum}
    {more : List (Key × Datum)} {w' : Workspace}
    (hmake : (makeSchemaOf capabilities factory options more).ending w = (.ok h, w')) :
    ∃ es, (makeSchema capabilities factory es).ending w = (.ok h, w') := by
  unfold makeSchemaOf at hmake
  split at hmake
  · cases hmake
  · exact ⟨_, hmake⟩

end Work

end ShapeCheck
