import ShapeCheck.Proofs.Lookups
import ShapeCheck.Proofs.Names
import ShapeCheck.Proofs.Telling

/-!
# Schemas that change

A schema changes as a whole or not at all, and its events tell what happened. A `SchemaStep` adds, sets or removes a type;
between such calls time passes, and types of the schema may be kept, to be given as definitions later. `SchemaStep.leaves`
lists what a step can do, and `SchemaStep.run_follows` goes from there to runs: each type is stored under its own name, and
`replay` takes the names of the types from what they were at first to what they are now, along the events that were logged.
-/

namespace ShapeCheck

open Shape

/-! ## Runs of changes -/

/-- A step in the life of a schema. -/
inductive SchemaStep where
  | addType (name : String) (definition : Datum)
  | setType (name : String) (definition : Datum)
  | removeType (name : String)
  /-- Keeps the type under a name, so that later definitions can be that type. -/
  | hold (name : String)
  | tick (clock : Clock)

namespace SchemaStep

/-- The operation of a step. -/
def op (h : SchemaHandle) : SchemaStep → Work Unit
  | .addType name definition => do
    let _ ← Work.addSchemaType h (.text name) definition
  | .setType name definition => do
    let _ ← Work.setSchemaType h (.text name) definition
  | .removeType name => do
    let _ ← Work.removeSchemaType h (.text name)
  | .hold name => do
    match ← Work.typeNamed h (.text name) with
    | some t => let _ ← Work.addType t
    | none => return
  | .tick clock => modify fun w => { w with clock }

/-- What a step leaves of a workspace, whether it goes well or not. -/
def after (h : SchemaHandle) (w : Workspace) (step : SchemaStep) : Workspace := ((step.op h).ending w).2

def run (h : SchemaHandle) (steps : List SchemaStep) (w : Workspace) : Workspace := steps.foldl (after h) w

end SchemaStep

/-! ## What one call does -/

/-- A schema was stored in the place of another one, and events were logged. -/
structure Workspace.Stored (h : SchemaHandle) (s' : Schema) (log : List Event) (w w' : Workspace) : Prop where
  schemas : w'.schemas = w.schemas.setIfInBounds h s'
  registries : w'.registries = w.registries
  clock : w'.clock = w.clock
  capabilities : w'.capabilities = w.capabilities
  types : w'.types = w.types
  events : w'.events = w.events ++ log

theorem Workspace.Told.stored {log : List Event} {w w' : Workspace} (h : w.Told log w') (a : SchemaHandle) (s : Schema) :
    Workspace.Stored a s log w { w' with schemas := w.schemas.setIfInBounds a s } :=
  ⟨rfl, h.registries, h.clock, h.capabilities, h.types, h.events⟩

namespace Schema

variable {around : Surroundings} {clock : Clock}

theorem makeType_cases (around : Surroundings) (name : String) (definition : Datum) :
    (∃ e told, (makeType around (.text name) definition).run.run [] = (.error e, told) ∧ told.filterMap Notice.event? = []) ∨
      ∃ t told, Defines around (.text name) definition t ∧
        (makeType around (.text name) definition).run.run [] = (.ok (some name, t.rename (some name)), told) ∧
        told.filterMap Notice.event? = [] := by
  obtain ⟨told, htold, hquiet⟩ := makeType_eventless around (.text name) definition []
  rcases hrun : (makeType around (.text name) definition).run.run [] with ⟨e | made, ns⟩ <;> rw [hrun] at htold <;>
    obtain rfl := htold
  · exact .inl ⟨e, _, rfl, hquiet⟩
  · obtain ⟨t, ht, rfl⟩ := makeType_gives ⟨[], congrArg Prod.fst hrun⟩
    exact .inr ⟨t, _, ht, rfl, hquiet⟩

/-- The surroundings with the capabilities of a schema. -/
def within (s : Schema) (around : Surroundings) : Surroundings := { around with capabilities := s.capabilities }

/-- Adding a type fails and logs nothing, or puts the type under a name that was not taken and logs that. -/
theorem addType_cases (s : Schema) (around : Surroundings) (clock : Clock) (name : String) (definition : Datum) :
    (∃ e told, (s.addType around clock (.text name) definition).run.run [] = (.error e, told) ∧
      told.filterMap Notice.event? = []) ∨
    ∃ t told, some name ∉ s.typeNames ∧ Defines (s.within around) (.text name) definition t ∧
      (s.addType around clock (.text name) definition).run.run [] =
        (.ok (t.rename (some name), s.withTypes clock (s.types.put (some name) (t.rename (some name)))), told) ∧
      told.filterMap Notice.event? = [.typeChanged .added s.key (some name)] := by
  by_cases hname : some name ∈ s.typeNames
  · have hhas : s.types.has (some name) = true := by
      rw [Assoc.has, Option.isSome_iff_ne_none]
      exact fun h => Assoc.get?_eq_none_iff.1 h hname
    refine .inl ⟨.duplicateType s.key (some name), [], ?_, rfl⟩
    change ((if s.types.has (some name) then throw (.duplicateType s.key (some name)) else _ : Making _).run.run []) = _
    rw [if_pos hhas]
    rfl
  · have hhas : ¬ s.types.has (some name) = true := by
      rw [Assoc.has, Assoc.get?_eq_none_iff.2 hname]
      exact Bool.false_ne_true
    have hrest : s.addType around clock (.text name) definition =
        (makeType (s.within around) (.text name) definition >>= fun made => do
          Making.tell (.event (.typeChanged .added s.key made.1))
          return (made.2, s.withTypes clock (s.types.put made.1 made.2))) := by
      change (if s.types.has (some name) then throw (.duplicateType s.key (some name)) else _ : Making _) = _
      rw [if_neg hhas]
      rfl
    rw [hrest, run_bind]
    rcases makeType_cases (s.within around) name definition with ⟨e, told, hrun, hquiet⟩ | ⟨t, told, ht, hrun, hquiet⟩ <;>
      rw [hrun]
    · exact .inl ⟨e, told, rfl, hquiet⟩
    · refine .inr ⟨t, _, hname, ht, rfl, ?_⟩
      rw [List.filterMap_append, hquiet]
      rfl

/-- Setting a type fails and logs nothing, or puts the type under the name and logs that. -/
theorem setType_cases (s : Schema) (around : Surroundings) (clock : Clock) (name : String) (definition : Datum) :
    (∃ e told, (s.setType around clock (.text name) definition).run.run [] = (.error e, told) ∧
      told.filterMap Notice.event? = []) ∨
    ∃ t told, Defines (s.within around) (.text name) definition t ∧
      (s.setType around clock (.text name) definition).run.run [] =
        (.ok (s.types.get? (some name), s.withTypes clock (s.types.put (some name) (t.rename (some name)))), told) ∧
      told.filterMap Notice.event? =
        [.typeChanged (if (s.types.get? (some name)).isSome then .replaced else .added) s.key (some name)] := by
  unfold setType
  rw [run_bind]
  rcases makeType_cases (s.within around) name definition with ⟨e, told, hrun, hquiet⟩ | ⟨t, told, ht, hrun, hquiet⟩ <;>
    unfold within at hrun <;> rw [hrun]
  · exact .inl ⟨e, told, rfl, hquiet⟩
  · refine .inr ⟨t, _, ht, rfl, ?_⟩
    rw [List.filterMap_append, hquiet]
    rfl

/-- Removing a type takes it out and logs that, or there is none and nothing changes. -/
theorem removeType_cases (s : Schema) (clock : Clock) (name : String) :
    (some name ∉ s.typeNames ∧ (s.removeType clock (.text name)).run.run [] = (.ok (none, s), [])) ∨
      ∃ t, s.types.get? (some name) = some t ∧ (s.removeType clock (.text name)).run.run [] =
        (.ok (some t, s.withTypes clock (s.types.erase (some name))), [.event (.typeChanged .removed s.key (some name))]) := by
  have hrest : s.removeType clock (.text name) = (match s.types.get? (some name) with
      | some t => do
        Making.tell (.event (.typeChanged .removed s.key (some name)))
        return (some t, s.withTypes clock (s.types.erase (some name)))
      | none => return (none, s)) := by
    unfold removeType
    have htype : s.type? (.text name) = s.types.get? (some name) := rfl
    rw [htype]
    cases s.types.isEmpty <;> cases s.types.get? (some name) <;> rfl
  rw [hrest]
  cases ht : s.types.get? (some name) with
  | none => exact .inl ⟨Assoc.get?_eq_none_iff.1 ht, rfl⟩
  | some t => exact .inr ⟨t, rfl, rfl⟩

end Schema

/-- Storing a schema where it is changes nothing. -/
theorem setIfInBounds_same {ss : Array Schema} {h : SchemaHandle} {s : Schema} (hs : ss[h]? = some s) :
    ss.setIfInBounds h s = ss := by
  refine Array.ext_getElem? fun a => ?_
  by_cases ha : h = a
  · subst ha
    rw [Array.getElem?_setIfInBounds_self_of_lt (Array.getElem?_eq_some_iff.1 hs).1, hs]
  · rw [Array.getElem?_setIfInBounds_ne ha]

namespace Work

variable {h : SchemaHandle} {s : Schema} {w : Workspace}

theorem addSchemaType_cases (hs : w.schemas[h]? = some s) (name : String) (definition : Datum) :
    (∃ e w', (addSchemaType h (.text name) definition).ending w = (.error e, w') ∧ w.Told [] w') ∨
      ∃ t w', some name ∉ s.typeNames ∧ Schema.Defines (surroundingsOf w s) (.text name) definition t ∧
        (addSchemaType h (.text name) definition).ending w = (.ok (t.rename (some name)), w') ∧
        Workspace.Stored h (s.withTypes w.clock (s.types.put (some name) (t.rename (some name))))
          [.typeChanged .added s.key (some name)] w w' := by
  rw [addSchemaType_ending hs]
  rcases s.addType_cases (surroundingsOf w s) w.clock name definition with
    ⟨e, told, hrun, hlog⟩ | ⟨t, told, hname, ht, hrun, hlog⟩
  · obtain ⟨w', hend, htold⟩ := commit_error hrun w
    exact .inl ⟨_, w', hend, hlog ▸ htold⟩
  · obtain ⟨w', hend, htold⟩ := commit_ok hrun w
    exact .inr ⟨t, _, hname, ht, hend, hlog ▸ htold.stored h _⟩

theorem setSchemaType_cases (hs : w.schemas[h]? = some s) (name : String) (definition : Datum) :
    (∃ e w', (setSchemaType h (.text name) definition).ending w = (.error e, w') ∧ w.Told [] w') ∨
      ∃ t w', Schema.Defines (surroundingsOf w s) (.text name) definition t ∧
        (setSchemaType h (.text name) definition).ending w = (.ok (s.types.get? (some name)), w') ∧
        Workspace.Stored h (s.withTypes w.clock (s.types.put (some name) (t.rename (some name))))
          [.typeChanged (if (s.types.get? (some name)).isSome then .replaced else .added) s.key (some name)] w w' := by
  rw [setSchemaType_ending hs]
  rcases s.setType_cases (surroundingsOf w s) w.clock name definition with
    ⟨e, told, hrun, hlog⟩ | ⟨t, told, ht, hrun, hlog⟩
  · obtain ⟨w', hend, htold⟩ := commit_error hrun w
    exact .inl ⟨_, w', hend, hlog ▸ htold⟩
  · obtain ⟨w', hend, htold⟩ := commit_ok hrun w
    exact .inr ⟨t, _, ht, hend, hlog ▸ htold.stored h _⟩

theorem removeSchemaType_cases (hs : w.schemas[h]? = some s) (name : String) :
    ∃ w', (removeSchemaType h (.text name)).ending w = (.ok (s.types.get? (some name)), w') ∧
      ((some name ∉ s.typeNames ∧ w.Told [] w') ∨ some name ∈ s.typeNames ∧
        Workspace.Stored h (s.withTypes w.clock (s.types.erase (some name))) [.typeChanged .removed s.key (some name)] w w') := by
  rw [removeSchemaType_ending hs]
  rcases s.removeType_cases w.clock name with ⟨hname, hrun⟩ | ⟨t, ht, hrun⟩
  · obtain ⟨w', hend, htold⟩ := commit_ok hrun w
    rw [Assoc.get?_eq_none_iff.2 hname]
    refine ⟨_, hend, .inl ⟨hname, ?_⟩⟩
    exact ⟨⟨setIfInBounds_same hs, htold.registries⟩, htold.clock, htold.capabilities, htold.types, htold.events⟩
  · obtain ⟨w', hend, htold⟩ := commit_ok hrun w
    have hname : some name ∈ s.typeNames :=
      Classical.not_not.1 fun hname => nomatch ht.symm.trans (Assoc.get?_eq_none_iff.2 hname)
    rw [ht]
    exact ⟨_, hend, .inr ⟨hname, htold.stored h _⟩⟩

end Work

/-! ## What a step leaves -/

theorem Schema.isSome_get?_iff (s : Schema) (name : String) :
    (s.types.get? (some name)).isSome = true ↔ some name ∈ s.typeNames := by
  rw [Option.isSome_iff_ne_none, Ne, Assoc.get?_eq_none_iff, Classical.not_not, typeNames]

theorem Work.typeNamed_ending {h : SchemaHandle} {s : Schema} {w : Workspace} (hs : w.schemas[h]? = some s) (name : String) :
    (typeNamed h (.text name)).ending w = (.ok (s.types.get? (some name)), w) := by
  have hkey : (ofMaking (Schema.requireKey (.text name))).ending w = (.ok (), w) := rfl
  unfold typeNamed
  rw [ending_bind_ok hkey, ending_bind_ok (schema_ending hs)]
  rfl

namespace SchemaStep

variable {h : SchemaHandle} {s : Schema} {w : Workspace}

/-- All that a step can leave of a workspace with a schema. -/
inductive Leaves (h : SchemaHandle) (s : Schema) (w : Workspace) : Workspace → Prop
  /-- A call failed, or had nothing to do. -/
  | same {w' : Workspace} (told : w.Told [] w') : Leaves h s w w'
  | bound {name : String} {definition : Datum} {t : ObjectType} {w' : Workspace}
      (defined : Schema.Defines (Work.surroundingsOf w s) (.text name) definition t)
      (stored : Workspace.Stored h (s.withTypes w.clock (s.types.put (some name) (t.rename (some name))))
        [.typeChanged (if some name ∈ s.typeNames then .replaced else .added) s.key (some name)] w w') : Leaves h s w w'
  | freed {name : String} {w' : Workspace} (found : some name ∈ s.typeNames)
      (stored : Workspace.Stored h (s.withTypes w.clock (s.types.erase (some name))) [.typeChanged .removed s.key (some name)] w w') :
      Leaves h s w w'
  | held {name : String} {t : ObjectType} (found : s.types.get? (some name) = some t) :
      Leaves h s w { w with types := w.types.push t }
  | ticked (clock : Clock) : Leaves h s w { w with clock }

theorem leaves (hs : w.schemas[h]? = some s) (step : SchemaStep) : Leaves h s w (step.after h w) := by
  unfold after op
  cases step with
  | addType name definition =>
    dsimp only
    rw [Work.ending_bind]
    rcases Work.addSchemaType_cases hs name definition with
      ⟨e, w', hend, htold⟩ | ⟨t, w', hname, ht, hend, hstored⟩ <;> rw [hend]
    · exact .same htold
    · refine .bound ht ?_
      rw [if_neg hname]
      exact hstored
  | setType name definition =>
    dsimp only
    rw [Work.ending_bind]
    rcases Work.setSchemaType_cases hs name definition with ⟨e, w', hend, htold⟩ | ⟨t, w', ht, hend, hstored⟩ <;> rw [hend]
    · exact .same htold
    · refine .bound ht ?_
      rw [← if_congr (s.isSome_get?_iff name) rfl rfl]
      exact hstored
  | removeType name =>
    dsimp only
    rw [Work.ending_bind]
    obtain ⟨w', hend, ⟨-, htold⟩ | ⟨hname, hstored⟩⟩ := Work.removeSchemaType_cases hs name <;> rw [hend]
    · exact .same htold
    · exact .freed hname hstored
  | hold name =>
    dsimp only
    rw [Work.ending_bind_ok (Work.typeNamed_ending hs name)]
    cases ht : s.types.get? (some name) with
    | none => exact .same ⟨⟨rfl, rfl⟩, rfl, rfl, rfl, (List.append_nil _).symm⟩
    | some t => exact .held ht
  | tick clock => exact .ticked clock

end SchemaStep

/-! ## What stays, and what the events tell -/

/-- What a schema is and stays while its types change. -/
structure Schema.SameOwner (s s' : Schema) : Prop extends s.SamePair s' where
  description : s'.description = s.description
  capabilities : s'.capabilities = s.capabilities
  id : s'.identity.id = s.identity.id
  entityType : s'.identity.entityType = s.identity.entityType
  createdOn : s'.identity.createdOn = s.identity.createdOn

/-- Each type stands under its own name, and no name stands twice. -/
structure Schema.Keyed (s : Schema) : Prop where
  distinct : s.typeNames.Nodup
  named : ∀ p ∈ s.types, p.2.name = p.1

/-- The names of the types of a schema after an event, if the event can be one of the schema. -/
def Event.replay (key : String) (names : List (Option String)) : Event → Option (List (Option String))
  | .typeChanged change schemaKey name =>
    match change with
    | .added => if schemaKey = key ∧ name ∉ names then some (names ++ [name]) else none
    | .replaced => if schemaKey = key ∧ name ∈ names then some names else none
    | .removed => if schemaKey = key ∧ name ∈ names then some (names.erase name) else none
  | _ => none

/-- The names of the types of a schema after some events. -/
def replay (key : String) (names : List (Option String)) (log : List Event) : Option (List (Option String)) :=
  log.foldlM (Event.replay key) names

theorem Schema.SameOwner.refl (s : Schema) : s.SameOwner s := ⟨⟨rfl, rfl⟩, rfl, rfl, rfl, rfl, rfl⟩

theorem Schema.SameOwner.trans {s s' s'' : Schema} (h : s.SameOwner s') (h' : s'.SameOwner s'') : s.SameOwner s'' :=
  ⟨⟨h'.namespaceName.trans h.namespaceName, h'.version.trans h.version⟩, h'.description.trans h.description,
    h'.capabilities.trans h.capabilities, h'.id.trans h.id, h'.entityType.trans h.entityType, h'.createdOn.trans h.createdOn⟩

theorem Schema.SamePair.key_eq {s s' : Schema} (h : s.SamePair s') : s'.key = s.key := by
  rw [key, key, h.namespaceName, h.version]

theorem Schema.withTypes_sameOwner (s : Schema) (clock : Clock) (types : Assoc ObjectType (Option String)) :
    s.SameOwner (s.withTypes clock types) := ⟨⟨rfl, rfl⟩, rfl, rfl, rfl, rfl, rfl⟩

theorem Schema.Keyed.put {s : Schema} (h : s.Keyed) (clock : Clock) (name : Option String) (t : ObjectType) :
    (s.withTypes clock (s.types.put name (t.rename name))).Keyed where
  distinct := Assoc.nodup_put h.distinct _ _
  named p hp := by
    rcases Assoc.mem_put hp with rfl | hp
    · rfl
    · exact h.named p hp

theorem Schema.Keyed.erase {s : Schema} (h : s.Keyed) (clock : Clock) (name : Option String) :
    (s.withTypes clock (s.types.erase name)).Keyed where
  distinct := by
    rw [typeNames, withTypes, Assoc.names_erase]
    exact h.distinct.erase _
  named p hp := h.named p (Assoc.mem_of_mem_erase hp)

/-- A schema in one workspace and what has become of it in another, with the events that tell how. -/
structure Workspace.Follows (h : SchemaHandle) (s s' : Schema) (log : List Event) (w w' : Workspace) : Prop where
  schema : w'.schemas[h]? = some s'
  owner : s.SameOwner s'
  keyed : s.Keyed → s'.Keyed
  events : w'.events = w.events ++ log
  replayed : replay s.key s.typeNames log = some s'.typeNames

namespace Workspace.Follows

variable {h : SchemaHandle} {s s' s'' : Schema} {w w' w'' : Workspace} {log log' : List Event}

theorem refl (hs : w.schemas[h]? = some s) (hschemas : w'.schemas = w.schemas) (hevents : w'.events = w.events) :
    Follows h s s [] w w' := ⟨hschemas ▸ hs, .refl s, id, hevents.trans (List.append_nil _).symm, rfl⟩

theorem trans (first : Follows h s s' log w w') (second : Follows h s' s'' log' w' w'') :
    Follows h s s'' (log ++ log') w w'' where
  schema := second.schema
  owner := first.owner.trans second.owner
  keyed hs := second.keyed (first.keyed hs)
  events := by rw [second.events, first.events, List.append_assoc]
  replayed := by
    have hsecond := second.replayed
    rw [first.owner.key_eq] at hsecond
    rw [replay, List.foldlM_append]
    exact (congrArg (· >>= _) first.replayed).trans hsecond

/-- A schema that was stored is the one that is there. -/
theorem of_stored (hs : w.schemas[h]? = some s) (hstored : Stored h s' log w w') (howner : s.SameOwner s')
    (hkeyed : s.Keyed → s'.Keyed) (hreplay : replay s.key s.typeNames log = some s'.typeNames) : Follows h s s' log w w' where
  schema := by
    rw [hstored.schemas]
    exact Array.getElem?_setIfInBounds_self_of_lt (Array.getElem?_eq_some_iff.1 hs).1
  owner := howner
  keyed := hkeyed
  events := hstored.events
  replayed := hreplay

end Workspace.Follows

namespace SchemaStep

variable {h : SchemaHandle} {s : Schema} {w w' : Workspace}

/-- A step is followed by the schema that it leaves. -/
theorem Leaves.follows (hs : w.schemas[h]? = some s) (hleaves : Leaves h s w w') : ∃ s' log, Workspace.Follows h s s' log w w' := by
  cases hleaves with
  | same told =>
    exact ⟨s, [], .refl hs told.schemas (told.events.trans (List.append_nil _))⟩
  | @bound name definition t _ defined stored =>
    refine ⟨_, _, .of_stored hs stored (s.withTypes_sameOwner _ _) (fun hk => hk.put _ _ _) ?_⟩
    change (Event.replay s.key s.typeNames _ >>= pure) = _
    rw [bind_pure]
    by_cases hname : some name ∈ s.typeNames
    · have hnames : (s.withTypes w.clock (s.types.put (some name) (t.rename (some name)))).typeNames = s.typeNames :=
        Assoc.names_put_of_mem hname _
      simp [Event.replay, hname, hnames]
    · have hnames : (s.withTypes w.clock (s.types.put (some name) (t.rename (some name)))).typeNames =
        s.typeNames ++ [some name] := Assoc.names_put_of_not_mem hname _
      simp [Event.replay, hname, hnames]
  | @freed name _ found stored =>
    refine ⟨_, _, .of_stored hs stored (s.withTypes_sameOwner _ _) (fun hk => hk.erase _ _) ?_⟩
    change (Event.replay s.key s.typeNames _ >>= pure) = _
    have hnames : (s.withTypes w.clock (s.types.erase (some name))).typeNames = s.typeNames.erase (some name) :=
      Assoc.names_erase ..
    rw [bind_pure, hnames]
    exact if_pos ⟨rfl, found⟩
  | held | ticked => exact ⟨s, [], .refl hs rfl rfl⟩

theorem run_follows (steps : List SchemaStep) : ∀ {s : Schema} {w : Workspace}, w.schemas[h]? = some s →
    ∃ s' log, Workspace.Follows h s s' log w (run h steps w) := by
  induction steps with
  | nil => exact fun hs => ⟨_, [], .refl hs rfl rfl⟩
  | cons step rest ih =>
    intro s w hs
    obtain ⟨s1, log1, hstep⟩ := (leaves hs step).follows hs
    obtain ⟨s2, log2, hrest⟩ := ih hstep.schema
    exact ⟨s2, log1 ++ log2, hstep.trans hrest⟩

end SchemaStep

/-! ## Schemas that are made -/

theorem Header.read_distinct {es : List (Key × Datum)} {header : Header} (h : Header.read es = .ok header) :
    header.types.names.Nodup := by
  obtain ⟨⟨⟨_, _, _, types, _⟩, _⟩, hparts, rfl⟩ := Reading.map_eq_ok.1 h
  change (Assoc.names types).Nodup
  obtain ⟨hparts, -⟩ := Record.closing_eq_ok.1 hparts
  obtain ⟨-, hparts⟩ := Reading.both_eq_ok.1 hparts
  obtain ⟨-, hparts⟩ := Reading.both_eq_ok.1 hparts
  obtain ⟨-, hparts⟩ := Reading.both_eq_ok.1 hparts
  rcases Record.optional_eq_ok (Reading.both_eq_ok.1 hparts).1 with rfl | ⟨_, d, _, hread⟩
  · exact List.nodup_nil
  · unfold Header.readTypes at hread
    split at hread
    · obtain ⟨xs, -, rfl⟩ := Reading.map_eq_ok.1 hread
      exact Assoc.nodup_ofList xs
    · cases hread

namespace Schema

variable {around : Surroundings} {clock : Clock} {factory : Option IdentityFactory}

theorem makeTypes_names {definitions : List (String × Datum)} {types : Assoc ObjectType (Option String)}
    (h : Making.Gives (makeTypes around definitions) types) : types.names = definitions.map fun d => some d.1 := by
  have hall := makeTypes_gives h
  clear h
  induction hall with
  | nil => rfl
  | cons hmade _ ih =>
    obtain ⟨t, -, rfl⟩ := hmade
    exact congrArg (some _ :: ·) ih

/-- Types of a schema that was made stand under their own names. -/
theorem make_keyed {options : List (Key × Datum)} {s : Schema} (h : Making.Gives (make around clock factory options) s) :
    s.Keyed := by
  obtain ⟨header, types, identity, hread, htypes, -, rfl⟩ := make_gives h
  constructor
  · have hdistinct : (header.types.names.map some).Nodup := (Header.read_distinct hread).map (Option.some_injective _)
    rw [Assoc.names, List.map_map] at hdistinct
    change types.names.Nodup
    rw [makeTypes_names htypes]
    exact hdistinct
  · intro p hp
    obtain ⟨d, -, t, -, rfl⟩ := List.Forall₂.exists_of_mem_right (makeTypes_gives htypes) hp
    rfl

end Schema

/-! ## Changes as a whole or not at all -/

/-- Nothing has become of the schemas and of the log of events. -/
structure Workspace.Untouched (w w' : Workspace) : Prop where
  schemas : w'.schemas = w.schemas
  events : w'.events = w.events

/-- A schema of which one binding has changed, at a moment: a name stands for a type now, or for none any more. -/
structure Schema.Rebound (name : String) (bound : Option ObjectType) (now : Moment) (s s' : Schema) : Prop
    extends s.SameOwner s' where
  here : s'.types.get? (some name) = bound
  elsewhere : ∀ other, other ≠ some name → s'.types.get? other = s.types.get? other
  order : s'.typeNames =
    if bound.isNone then s.typeNames.erase (some name)
    else if some name ∈ s.typeNames then s.typeNames else s.typeNames ++ [some name]
  updatedOn : s'.identity.updatedOn = now

/-- A call has changed one binding of a schema and logged one event. -/
structure Workspace.Rebinds (h : SchemaHandle) (s : Schema) (change : TypeChange) (name : String) (bound : Option ObjectType)
    (w w' : Workspace) : Prop where
  schema : ∃ s', w'.schemas[h]? = some s' ∧ s.Rebound name bound w.clock.now s'
  others : ∀ a, a ≠ h → w'.schemas[a]? = w.schemas[a]?
  events : w'.events = w.events ++ [.typeChanged change s.key (some name)]

/-- The type that a definition makes for a schema: one of its own, or one that was built before, under the name. -/
def Workspace.Makes (w : Workspace) (s : Schema) (name : String) (definition : Datum) (t : ObjectType) : Prop :=
  ∃ u, Schema.Defines (Work.surroundingsOf w s) (.text name) definition u ∧ t = u.rename (some name)

/-- Each call on a schema does all that it is meant to do, or nothing. -/
structure Workspace.Atomic (w : Workspace) (h : SchemaHandle) (s : Schema) : Prop where
  /-- A call that fails leaves the schema as it was. -/
  failing : ∀ (step : SchemaStep) e w', (step.op h).ending w = (.error e, w') → w.Untouched w'
  adding : ∀ name definition t w', (Work.addSchemaType h (.text name) definition).ending w = (.ok t, w') →
    some name ∉ s.typeNames ∧ w.Makes s name definition t ∧ w.Rebinds h s .added name (some t) w'
  setting : ∀ name definition previous w', (Work.setSchemaType h (.text name) definition).ending w = (.ok previous, w') →
    previous = s.types.get? (some name) ∧ ∃ t, w.Makes s name definition t ∧
      w.Rebinds h s (if some name ∈ s.typeNames then .replaced else .added) name (some t) w'
  /-- Taking a type out never fails, and without such a type nothing changes. -/
  removing : ∀ name, ∃ w', (Work.removeSchemaType h (.text name)).ending w = (.ok (s.types.get? (some name)), w') ∧
    if some name ∈ s.typeNames then w.Rebinds h s .removed name none w' else w.Untouched w'

section Atomic

variable {h : SchemaHandle} {s : Schema} {w w' : Workspace}

theorem Workspace.Told.untouched (htold : w.Told [] w') : w.Untouched w' :=
  ⟨htold.schemas, htold.events.trans (List.append_nil _)⟩

theorem Schema.put_rebound (s : Schema) (clock : Clock) (name : String) (t : ObjectType) :
    s.Rebound name (some t) clock.now (s.withTypes clock (s.types.put (some name) t)) where
  toSameOwner := s.withTypes_sameOwner _ _
  here := Assoc.get?_put_self ..
  elsewhere _ hother := Assoc.get?_put_other _ _ hother.symm
  order := by
    rw [if_neg (by simp)]
    split
    · next hname => exact Assoc.names_put_of_mem hname _
    · next hname => exact Assoc.names_put_of_not_mem hname _
  updatedOn := rfl

theorem Schema.erase_rebound {s : Schema} (hs : s.Keyed) (clock : Clock) (name : String) :
    s.Rebound name none clock.now (s.withTypes clock (s.types.erase (some name))) where
  toSameOwner := s.withTypes_sameOwner _ _
  here := Assoc.get?_erase_self hs.distinct
  elsewhere _ hother := Assoc.get?_erase_other hother.symm _
  order := by
    rw [if_pos (show (none : Option ObjectType).isNone = true from rfl)]
    exact Assoc.names_erase ..
  updatedOn := rfl

/-- A schema that was stored is rebound as the stored one is. -/
theorem Workspace.Stored.rebinds {s' : Schema} {change : TypeChange} {name : String} {bound : Option ObjectType}
    (hstored : Workspace.Stored h s' [.typeChanged change s.key (some name)] w w') (hs : w.schemas[h]? = some s)
    (hrebound : s.Rebound name bound w.clock.now s') : w.Rebinds h s change name bound w' where
  schema := by
    refine ⟨s', ?_, hrebound⟩
    rw [hstored.schemas, Array.getElem?_setIfInBounds_self_of_lt (Array.getElem?_eq_some_iff.1 hs).1]
  others a ha := by rw [hstored.schemas, Array.getElem?_setIfInBounds_ne ha.symm]
  events := hstored.events

theorem Workspace.atomic (hs : w.schemas[h]? = some s) (hkeyed : s.Keyed) : w.Atomic h s where
  failing step e w' herror := by
    unfold SchemaStep.op at herror
    cases step with
    | addType name definition =>
      dsimp only at herror
      rw [Work.ending_bind] at herror
      rcases Work.addSchemaType_cases hs name definition with ⟨e, w1, hend, htold⟩ | ⟨t, w1, -, -, hend, -⟩ <;>
        rw [hend] at herror <;> cases herror
      exact htold.untouched
    | setType name definition =>
      dsimp only at herror
      rw [Work.ending_bind] at herror
      rcases Work.setSchemaType_cases hs name definition with ⟨e, w1, hend, htold⟩ | ⟨t, w1, -, hend, -⟩ <;>
        rw [hend] at herror <;> cases herror
      exact htold.untouched
    | removeType name =>
      dsimp only at herror
      obtain ⟨w1, hend, -⟩ := Work.removeSchemaType_cases hs name
      rw [Work.ending_bind_ok hend] at herror
      cases herror
    | hold name =>
      dsimp only at herror
      rw [Work.ending_bind_ok (Work.typeNamed_ending hs name)] at herror
      cases ht : s.types.get? (some name) <;> rw [ht] at herror <;> cases herror
    | tick clock => cases herror
  adding name definition t w' hok := by
    rcases Work.addSchemaType_cases hs name definition with ⟨e, w1, hend, -⟩ | ⟨u, w1, hname, hu, hend, hstored⟩ <;>
      rw [hend] at hok <;> cases hok
    exact ⟨hname, ⟨u, hu, rfl⟩, hstored.rebinds hs (s.put_rebound _ _ _)⟩
  setting name definition previous w' hok := by
    rcases Work.setSchemaType_cases hs name definition with ⟨e, w1, hend, -⟩ | ⟨u, w1, hu, hend, hstored⟩ <;>
      rw [hend] at hok <;> cases hok
    rw [if_congr (s.isSome_get?_iff name) rfl rfl] at hstored
    exact ⟨rfl, _, ⟨u, hu, rfl⟩, hstored.rebinds hs (s.put_rebound _ _ _)⟩
  removing name := by
    obtain ⟨w1, hend, ⟨hname, htold⟩ | ⟨hname, hstored⟩⟩ := Work.removeSchemaType_cases hs name
    · refine ⟨w1, hend, ?_⟩
      rw [if_neg hname]
      exact htold.untouched
    · refine ⟨w1, hend, ?_⟩
      rw [if_pos hname]
      exact hstored.rebinds hs (Schema.erase_rebound hkeyed _ _)

end Atomic

/-- **Changes are whole, and the events tell them.** Take a schema that was made, and any calls that add, set and remove types,
with whatever definitions, while time passes and types are kept to be used again. Then each type stands under its own name;
namespace, version, description, id and creation stay; the events that were logged, replayed on the names of the types as they
were at first, give the names as they are; and each further call does all that it is meant to do or nothing. -/
theorem SchemaStep.run_faithful {capabilities : CapabilitiesHandle} {factory : Option IdentityFactory} {options : Datum}
    {more : List (Key × Datum)} {w w₀ : Workspace} {h : SchemaHandle}
    (hmake : (Work.makeSchemaOf capabilities factory options more).ending w = (.ok h, w₀)) (steps : List SchemaStep) :
    ∃ s₀ s log, w₀.schemas[h]? = some s₀ ∧ (run h steps w₀).schemas[h]? = some s ∧ s.Keyed ∧ s₀.SameOwner s ∧
      (run h steps w₀).events = w₀.events ++ log ∧ replay s.key s₀.typeNames log = some s.typeNames ∧
      (run h steps w₀).Atomic h s := by
  obtain ⟨es, hes⟩ := Work.makeSchemaOf_ok hmake
  obtain ⟨c, s₀, log₀, w₁, -, hgives, -, rfl, rfl⟩ := Work.makeSchema_ok hes
  have hs₀ : (w.schemas.push s₀)[w.schemas.size]? = some s₀ := Array.getElem?_push_size
  obtain ⟨s, log, hfollows⟩ := run_follows steps (w := { w₁ with schemas := w.schemas.push s₀ }) hs₀
  have hkeyed := hfollows.keyed (Schema.make_keyed hgives)
  refine ⟨s₀, s, log, hs₀, hfollows.schema, hkeyed, hfollows.owner, hfollows.events, ?_, Workspace.atomic hfollows.schema hkeyed⟩
  rw [hfollows.owner.key_eq]
  exact hfollows.replayed

/-! A type that is kept and set under a second name, a name that is taken, and names that are taken out. -/

/-- A workspace with a schema of one type. -/
def plainWorkspace : Except Failure SchemaHandle × Workspace :=
  (Work.makeSchemaOf standardCapabilities none (plainSchema "ns://a" "1.0.0" "T") []).ending emptyRegistry

def mutations : List SchemaStep :=
  [.hold "T", .setType "U" (.structured "Type" (some ⟨some "T", 0, [], none⟩) []), .addType "T" (.record []), .removeType "V",
    .addType "V" (.record []), .removeType "T", .setType "U" (.list []), .setType "U" (.record [])]

theorem mutations_faithful :
    plainWorkspace.1.toOption = some 0 ∧
      ((SchemaStep.run 0 mutations plainWorkspace.2).schemas[0]?).map Schema.typeNames = some [some "U", some "V"] ∧
      ∃ s₀ s log, plainWorkspace.2.schemas[0]? = some s₀ ∧ (SchemaStep.run 0 mutations plainWorkspace.2).schemas[0]? = some s ∧
        s.Keyed ∧ s₀.SameOwner s ∧ (SchemaStep.run 0 mutations plainWorkspace.2).events = plainWorkspace.2.events ++ log ∧
        replay s.key s₀.typeNames log = some s.typeNames ∧ (SchemaStep.run 0 mutations plainWorkspace.2).Atomic 0 s := by
  have hmade : plainWorkspace.1.toOption = some 0 := by decide +kernel
  exact ⟨hmade, by decide +kernel, SchemaStep.run_faithful (Work.eq_ok_of_toOption hmade) mutations⟩

end ShapeCheck
