import ShapeCheck.Proofs.Mutations
import ShapeCheck.Proofs.Rewriting

/-!
# Types that pass

A definition `Passes` under some capabilities if a type is built of what is written of it. That is so exactly if each property
inside of it, at any level, compiles from its constraints as they are written (`TypeDef.passes_iff_recompiles`), so the parts of a
definition can be told of one by one. A type that is built from data passes if the types that were built before and stand in the
data do (`Building.type_recompiles`), and so do all types of a schema, after each step of a run (`SchemaStep.run_passes`).
-/

namespace ShapeCheck

open Relation Shape

/-- A definition passes under some capabilities: of what is written of it a type is built, where no type was built before. -/
def TypeDef.Passes (caps : Capabilities) (t : TypeDef) : Prop :=
  ∃ u, Building.Yields (Building.type ⟨caps, fun _ => none⟩ t.datum) (.ok u)

/-- A property compiles from its constraints as they are written. Of its types in place only the number counts. -/
def PropertyDef.Recompiles (caps : Capabilities) (p : PropertyDef) : Prop :=
  ∃ c, caps.compileProperty p.kind (p.constraints.map Constraint.plain) (p.inlineTypes.map (·.map fun _ => ⟨[], {}⟩)) = .ok c

section Passes

variable {caps : Capabilities}

/-! ## Building what is written -/

/-- What is written of the types in place of a property. -/
def PropertyDef.typeEntries (types : Option (List TypeDef)) : List (String × Datum) :=
  types.elim [] fun ts => [("typeArgs", .list (TypeDef.namedData ts))]

theorem PropertyDef.typeEntries_cases (types : Option (List TypeDef)) :
    PropertyDef.typeEntries types = [] ∨ ∃ v, PropertyDef.typeEntries types = [("typeArgs", v)] := by
  cases types with
  | none => exact .inl rfl
  | some ts => exact .inr ⟨_, rfl⟩

theorem PropertyDef.datum_eq (description : Option String) (kind : String) (constraints : List Constraint)
    (types : Option (List TypeDef)) : PropertyDef.datum ⟨description, kind, constraints, types⟩ =
      .mapping (PropertyDef.writtenEntries description kind constraints (PropertyDef.typeEntries types)) := by
  cases types <;> rw [PropertyDef.datum] <;> rfl

/-- A property that recompiles is built from what is written of it, if its types in place are. -/
theorem PropertyDef.Recompiles.yields {p : PropertyDef} (h : p.Recompiles caps)
    (htypes : ∀ ts, p.inlineTypes = some ts → ∃ us : List ObjectType, us.length = ts.length ∧ List.Forall₂
      (fun x u => Building.Yields (Building.type ⟨caps, fun _ => none⟩ x) (.ok u)) (TypeDef.namedData ts) us) :
    ∃ x, Building.Yields (Building.property ⟨caps, fun _ => none⟩ p.datum) (.ok x) := by
  obtain ⟨description, kind, constraints, types⟩ := p
  obtain ⟨c, hc⟩ := h
  obtain ⟨k, checker, hk, hcs, -⟩ := Capabilities.compileProperty_eq_ok hc
  have hread : ∀ x ∈ constraints, Constraint.read x.datum = .ok x.plain := by
    intro x hx
    obtain ⟨m, hm⟩ := Capabilities.compileConstraints_methods hcs x.plain (List.mem_map_of_mem hx)
    exact Constraint.read_datum (Method.someText_name hm)
  rw [PropertyDef.datum_eq]
  obtain ⟨hnote, hkind, hconstraints, hclose, hfound⟩ := PropertyDef.read_writtenEntries
    (.mapping (PropertyDef.writtenEntries description kind constraints (PropertyDef.typeEntries types))) description
    (PropertyDef.typeEntries_cases types) (Kind.someText_name (Capabilities.kindNamed_eq_ok hk)) hread
  cases types with
  | none => exact ⟨_, Building.yields_property none rfl hnote hkind hconstraints hclose hc hfound⟩
  | some ts =>
    obtain ⟨us, hlength, hus⟩ := htypes ts rfl
    have hretyped : ∃ c', caps.compileProperty kind (constraints.map Constraint.plain) (some (us.map ObjectType.checker)) = .ok c' :=
      Capabilities.compileProperty_retyped (by simp [hlength]) hc
    obtain ⟨c', hc'⟩ := hretyped
    exact ⟨_, Building.yields_property (some us) rfl hnote hkind hconstraints hclose hc' ⟨_, _, hfound, hus⟩⟩

mutual
theorem PropertyDef.yields_datum : ∀ {p : PropertyDef}, (∀ q ∈ p.within, q.Recompiles caps) →
    ∃ x, Building.Yields (Building.property ⟨caps, fun _ => none⟩ p.datum) (.ok x)
  | ⟨description, kind, constraints, none⟩, h => by
    rw [PropertyDef.within, List.forall_mem_singleton] at h
    exact h.yields nofun
  | ⟨description, kind, constraints, some types⟩, h => by
    rw [PropertyDef.within, List.forall_mem_cons] at h
    refine h.1.yields fun ts hts => ?_
    obtain rfl := Option.some.inj hts
    exact TypeDef.yields_namedData h.2
theorem TypeDef.yields_namedData : ∀ {ts : List TypeDef}, (∀ q ∈ TypeDef.withinAll ts, q.Recompiles caps) →
    ∃ us : List ObjectType, us.length = ts.length ∧ List.Forall₂
      (fun x u => Building.Yields (Building.type ⟨caps, fun _ => none⟩ x) (.ok u)) (TypeDef.namedData ts) us
  | [], _ => by
    rw [TypeDef.namedData]
    exact ⟨[], rfl, .nil⟩
  | ⟨name, description, leniency, properties⟩ :: rest, h => by
    rw [TypeDef.withinAll, TypeDef.within, List.forall_mem_append] at h
    obtain ⟨ps, hps⟩ := PropertyDef.yields_entries h.1
    obtain ⟨us, hlength, hus⟩ := TypeDef.yields_namedData h.2
    have hfirst := Building.yields_writtenEntries name description leniency (.inl ⟨rfl, rfl⟩) hps
    unfold TypeDef.writtenEntries at hfirst
    rw [List.append_nil] at hfirst
    rw [TypeDef.namedData]
    exact ⟨_ :: us, congrArg (· + 1) hlength, .cons hfirst hus⟩
theorem PropertyDef.yields_entries : ∀ {ps : List (String × PropertyDef)}, (∀ q ∈ PropertyDef.withinFields ps, q.Recompiles caps) →
    ∃ xs : List (String × (PropertyDef × PropertyChecker)), List.Forall₂ (fun e p => e.1 = p.1 ∧
      Building.Yields (Building.property ⟨caps, fun _ => none⟩ e.2) (.ok p.2)) (PropertyDef.entries ps) xs
  | [], _ => by
    rw [PropertyDef.entries]
    exact ⟨[], .nil⟩
  | (name, p) :: rest, h => by
    rw [PropertyDef.withinFields, List.forall_mem_append] at h
    obtain ⟨x, hx⟩ := PropertyDef.yields_datum h.1
    obtain ⟨xs, hxs⟩ := PropertyDef.yields_entries h.2
    rw [PropertyDef.entries]
    exact ⟨(name, x) :: xs, .cons ⟨rfl, hx⟩ hxs⟩
end

/-! ## What is read of what is written -/

theorem Record.required_found {α : Type} {r : Record} {f : Field} {read : Datum → Reading α} {x : α} {s : String} {d : Datum}
    (hf : f.find? r.entries = some (s, d)) (h : r.required f read = .ok x) : read d = .ok x := by
  unfold required at h
  rw [hf] at h
  exact Reading.under_eq_ok.1 h

theorem Record.optional_found {α : Type} {r : Record} {f : Field} {read : Datum → Reading α} {absent x : α} {s : String} {d : Datum}
    (hf : f.find? r.entries = some (s, d)) (h : r.optional f absent read = .ok x) : read d = .ok x := by
  unfold optional at h
  rw [hf] at h
  exact Reading.under_eq_ok.1 h

theorem Reading.someText_text {s t : String} (h : Reading.someText (.text s) = .ok t) : t = s :=
  (TypeRef.textWhere_eq_ok.1 h).2.symm

theorem Constraint.eq_plain_of_read {c c' : Constraint} (h : Constraint.read c.datum = .ok c') : c' = c.plain := by
  change ofRecord ⟨c.datum, [(Key.text "method", Datum.text c.method), (Key.text "args", .list (Datum.plainItems c.args))]⟩ =
    .ok c' at h
  obtain ⟨⟨⟨method, args⟩, _⟩, hp, rfl⟩ := Reading.map_eq_ok.1 h
  obtain ⟨hmethod, hargs⟩ := Reading.both_eq_ok.1 (Record.closing_eq_ok.1 hp).1
  obtain rfl : method = c.method := Reading.someText_text (Record.required_found rfl hmethod)
  cases Record.optional_found rfl hargs
  rfl

theorem Reading.eq_plain_of_constraints {cs cs' : List Constraint}
    (h : Reading.constraints (.list (cs.map Constraint.datum)) = .ok cs') : cs' = cs.map Constraint.plain := by
  have hitems : ∀ {cs cs' : List Constraint} {i : Nat},
      Reading.itemsFrom Constraint.read i (cs.map Constraint.datum) = .ok cs' → cs' = cs.map Constraint.plain := by
    intro cs
    induction cs with
    | nil =>
      intro cs' i h
      cases h
      rfl
    | cons x rest ih =>
      intro cs' i h
      obtain ⟨⟨y, zs⟩, hboth, rfl⟩ := Reading.map_eq_ok.1 h
      obtain ⟨hy, hzs⟩ := Reading.both_eq_ok.1 hboth
      rw [Constraint.eq_plain_of_read (Reading.under_eq_ok.1 hy), ih hzs, List.map_cons]
  exact hitems h

theorem TypeDef.length_namedData : ∀ ts : List TypeDef, (TypeDef.namedData ts).length = ts.length
  | [] => by
    rw [TypeDef.namedData]
    rfl
  | ⟨name, description, leniency, properties⟩ :: rest => by
    rw [TypeDef.namedData, List.length_cons, List.length_cons, TypeDef.length_namedData rest]

/-- A property that is built of what is written of it recompiles, and its types in place are built of what is written of them. -/
theorem PropertyDef.recompiles_of_gives {p : PropertyDef} {x : PropertyDef × PropertyChecker}
    (h : Building.Gives (Building.property ⟨caps, fun _ => none⟩ p.datum) (.ok x)) :
    p.Recompiles caps ∧ ∀ ts, p.inlineTypes = some ts → ∃ us : List ObjectType, List.Forall₂
      (fun x u => Building.Gives (Building.type ⟨caps, fun _ => none⟩ x) (.ok u)) (TypeDef.namedData ts) us := by
  obtain ⟨description, kind, constraints, types⟩ := p
  rw [PropertyDef.datum_eq] at h
  rcases Building.gives_property h with ⟨_, _, _, hd, _⟩ |
    ⟨r, _, kind', constraints', inlineTypes, hr, hkind, hconstraints, hinline, -, hcompile⟩
  · cases hd
  cases hr
  have hinlineFound : Field.inlineTypes.find?
      (PropertyDef.writtenEntries description kind constraints (PropertyDef.typeEntries types)) =
      (PropertyDef.typeEntries types).head? := by
    cases types <;> cases description <;> rfl
  obtain rfl : kind' = kind :=
    Reading.someText_text (Record.required_found (by cases types <;> cases description <;> rfl) hkind)
  obtain rfl : constraints' = constraints.map Constraint.plain :=
    Reading.eq_plain_of_constraints (Record.optional_found (by cases types <;> cases description <;> rfl) hconstraints)
  cases types with
  | none =>
    cases hinline with
    | absent => exact ⟨⟨_, hcompile⟩, nofun⟩
    | null found => cases hinlineFound.symm.trans found
    | given found => cases hinlineFound.symm.trans found
  | some ts =>
    cases hinline with
    | absent found => cases hinlineFound.symm.trans found
    | null found null =>
      cases hinlineFound.symm.trans found
      cases null
    | @given s v xs us found members built =>
      cases hinlineFound.symm.trans found
      cases members
      have hlength : us.length = ts.length := built.length_eq.symm.trans (TypeDef.length_namedData ts)
      refine ⟨Capabilities.compileProperty_retyped (by simp [hlength]) hcompile, ?_⟩
      rintro _ ⟨⟩
      exact ⟨us, built⟩

theorem Building.gives_writtenEntries {around : Surroundings} {name : Option String} {before : List (String × Datum)}
    (hname : before = noteField "name" name ∨ before = []) {description : Option String} {leniency : Leniency}
    {fields : List (String × Datum)} {t : ObjectType}
    (h : Gives (Building.type around (.mapping (TypeDef.writtenEntries before description leniency fields []))) (.ok t)) :
    ∃ ps : List (String × (PropertyDef × PropertyChecker)),
      List.Forall₂ (fun e p => Gives (Building.property around e.2) (.ok p.2)) fields ps := by
  have hfound : Field.properties.find? (TypeDef.writtenEntries before description leniency fields []) =
      some ("properties", .record fields) := by
    rcases hname with rfl | rfl <;> try cases name
    all_goals cases description <;> rfl
  rcases gives_type h with ⟨_, _, hd, _⟩ | ⟨r, _, _, _, ps, hr, hfields, _⟩
  · cases hd
  · cases hr
    cases hfields with
    | absent found => cases hfound.symm.trans found
    | given found entries built =>
      cases hfound.symm.trans found
      cases entries
      exact ⟨_, (List.forall₂_map_left_iff.1 built).imp fun _ _ h => h.2⟩

mutual
theorem PropertyDef.recompiles_within : ∀ {p : PropertyDef} {x : PropertyDef × PropertyChecker},
    Building.Gives (Building.property ⟨caps, fun _ => none⟩ p.datum) (.ok x) → ∀ q ∈ p.within, q.Recompiles caps
  | ⟨description, kind, constraints, none⟩, x, h => by
    rw [PropertyDef.within, List.forall_mem_singleton]
    exact (PropertyDef.recompiles_of_gives h).1
  | ⟨description, kind, constraints, some types⟩, x, h => by
    rw [PropertyDef.within, List.forall_mem_cons]
    obtain ⟨hown, hinline⟩ := PropertyDef.recompiles_of_gives h
    obtain ⟨us, hus⟩ := hinline types rfl
    exact ⟨hown, TypeDef.recompiles_withinAll hus⟩
theorem TypeDef.recompiles_withinAll : ∀ {ts : List TypeDef} {us : List ObjectType}, List.Forall₂
    (fun x u => Building.Gives (Building.type ⟨caps, fun _ => none⟩ x) (.ok u)) (TypeDef.namedData ts) us →
    ∀ q ∈ TypeDef.withinAll ts, q.Recompiles caps
  | [], _, _ => by
    rw [TypeDef.withinAll]
    exact List.forall_mem_nil _
  | ⟨name, description, leniency, properties⟩ :: rest, us, h => by
    rw [TypeDef.namedData] at h
    cases h with
    | cons hfirst hrest =>
      have hwritten : Datum.record (noteField "name" name ++ noteField "description" description ++ leniency.entries ++
          [("properties", Datum.record (PropertyDef.entries properties))]) = .mapping
            (TypeDef.writtenEntries (noteField "name" name) description leniency (PropertyDef.entries properties) []) := by
        unfold TypeDef.writtenEntries
        rw [List.append_nil]
        rfl
      rw [hwritten] at hfirst
      obtain ⟨ps, hps⟩ := Building.gives_writtenEntries (.inl rfl) hfirst
      rw [TypeDef.withinAll, TypeDef.within, List.forall_mem_append]
      exact ⟨PropertyDef.recompiles_withinFields hps, TypeDef.recompiles_withinAll hrest⟩
theorem PropertyDef.recompiles_withinFields : ∀ {ps : List (String × PropertyDef)}
    {xs : List (String × (PropertyDef × PropertyChecker))}, List.Forall₂
    (fun e p => Building.Gives (Building.property ⟨caps, fun _ => none⟩ e.2) (.ok p.2)) (PropertyDef.entries ps) xs →
    ∀ q ∈ PropertyDef.withinFields ps, q.Recompiles caps
  | [], _, _ => by
    rw [PropertyDef.withinFields]
    exact List.forall_mem_nil _
  | (name, p) :: rest, xs, h => by
    rw [PropertyDef.entries] at h
    cases h with
    | cons hfirst hrest =>
      rw [PropertyDef.withinFields, List.forall_mem_append]
      exact ⟨PropertyDef.recompiles_within hfirst, PropertyDef.recompiles_withinFields hrest⟩
end

/-- **A definition passes exactly if all properties inside of it recompile.** -/
theorem TypeDef.passes_iff_recompiles {t : TypeDef} : t.Passes caps ↔ ∀ q ∈ t.within, q.Recompiles caps := by
  obtain ⟨name, description, leniency, properties⟩ := t
  have hdatum : TypeDef.datum ⟨name, description, leniency, properties⟩ =
      .mapping (TypeDef.writtenEntries [] description leniency (PropertyDef.entries properties) []) := by
    rw [TypeDef.datum]
    unfold TypeDef.writtenEntries
    rw [List.append_nil]
    rfl
  unfold Passes
  rw [TypeDef.within, hdatum]
  constructor
  · rintro ⟨u, hu⟩
    obtain ⟨ps, hps⟩ := @Building.gives_writtenEntries _ none _ (.inr rfl) _ _ _ _ ⟨[], hu []⟩
    exact PropertyDef.recompiles_withinFields hps
  · intro h
    obtain ⟨ps, hps⟩ := PropertyDef.yields_entries h
    exact ⟨_, Building.yields_writtenEntries none description leniency (.inl ⟨rfl, rfl⟩) hps⟩

end Passes

/-! ## Types that are built from data -/

/-- A property that was built before is ready to be compiled again. Either all of it passes, or it was compiled under any
capabilities, its references can be read back, what it mentions is still compared to an end as it is written, and its types in
place pass. -/
inductive PropertyDef.Ready (caps : Capabilities) (p : PropertyDef) (checker : PropertyChecker) : Prop
  | passing (within : ∀ q ∈ p.within, q.Recompiles caps)
  | compiled {legal : Capabilities → Prop} (before : p.Compiles legal checker)
    (arguments : ∀ c ∈ p.constraints, ∀ a ∈ c.args, a.RefersInUnicode ∧ a.Settled) (settled : Constraint.Settled p.constraints)
    (types : ∀ ts, p.inlineTypes = some ts → ∀ t ∈ ts, t.Passes caps)

/-- Data that are ready to be built: their references can be read back, what they mention is still compared to an end as it is
written, and of the types that were built before and stand in them the definitions pass. Of the properties that were built before
only the types in place have to. -/
structure Datum.Ready (around : Surroundings) (d : Datum) : Prop where
  references : d.RefersInUnicode
  settled : d.Settled
  types : ∀ handle parts t, ReflTransGen Datum.Holds d (.structured "Type" (some handle) parts) →
    around.built handle = some t → t.definition.Passes around.capabilities
  properties : ∀ handle parts p, ReflTransGen Datum.Holds d (.structured "Property" (some handle) parts) →
    handle.property? around.built = some p → p.1.Ready around.capabilities p.2

section Ready

variable {around : Surroundings} {d e : Datum}

theorem Datum.Ready.of_held (h : d.Ready around) (hd : ReflTransGen Datum.Holds d e) : e.Ready around where
  references := h.references.of_held hd
  settled := h.settled.of_held hd
  types handle parts t hs := h.types handle parts t (hd.trans hs)
  properties handle parts p hs := h.properties handle parts p (hd.trans hs)

/-- A mapping is no list of constraints. -/
theorem Constraint.Settled.of_mapping {cs : List Constraint} (hmapping : d.entries?.isSome) (h : Reading.constraints d = .ok cs) :
    Constraint.Settled cs := by
  cases d with
  | mapping | readOnly => cases h
  | _ => cases hmapping

theorem Datum.Simple.of_held {allowed : TypeRef → Prop} (h : d.Simple allowed) (hd : ReflTransGen Datum.Holds d e) :
    e.Simple allowed := by
  induction hd with
  | refl => exact h
  | tail _ hstep ih =>
    cases hstep with
    | item members mem => exact ih.member members mem
    | entry entries mem => exact ih.entry entries ⟨_, mem⟩
    | part structured =>
      subst structured
      cases ih
    | around mark =>
      subst mark
      cases ih

/-- Data without references and types are ready. -/
theorem Datum.IsPlain.ready (h : d.IsPlain) : d.Ready around where
  references r hr := by
    cases Datum.Simple.of_held h hr with
    | scalar reference => exact (reference r rfl).elim
  settled x cs hx hcs := by
    refine .inr fun c hc => ?_
    obtain ⟨xs, y, hxs, hy, hread⟩ := Reading.listOf_member hcs hc
    have hargs : ∀ a ∈ c.args, a.plainData = a := fun a ha =>
      IsPlain.plainData_eq <| Datum.Simple.of_held h <|
        (hx.trans x.holds_target).trans (.head (.item hxs hy) (Constraint.args_held hread ha).to_reflTransGen)
    unfold Constraint.plain
    rw [Datum.plainItems_eq, List.map_congr_left hargs, List.map_id']
  types handle parts t hs := by
    cases Datum.Simple.of_held h hs
  properties handle parts p hs := by
    cases Datum.Simple.of_held h hs

/-- Nothing stands in what was built before. -/
theorem Datum.eq_of_held {sort : String} {handle : TypeHandle} {parts : List (String × Datum)} {x : Datum}
    (h : ReflTransGen Datum.Holds (.structured sort (some handle) parts) x) : x = .structured sort (some handle) parts := by
  rcases h.cases_head with rfl | ⟨y, hy, _⟩
  · rfl
  · cases hy with
    | item members => cases members
    | entry entries => cases entries
    | part structured => cases structured
    | around mark => cases mark

/-- A type itself is ready if its definition passes. -/
theorem Datum.ready_type {handle : TypeHandle} {parts : List (String × Datum)}
    (h : ∀ t, around.built handle = some t → t.definition.Passes around.capabilities) :
    (Datum.structured "Type" (some handle) parts).Ready around where
  references r hr := by cases Datum.eq_of_held hr
  settled x cs hx hcs := by
    obtain rfl := Datum.eq_of_held hx
    cases hcs
  types handle' parts' t hs ht := by
    cases Datum.eq_of_held hs
    exact h t ht
  properties handle' parts' p hs := by
    have hsame := Datum.eq_of_held hs
    simp at hsame

/-- A property itself is ready as it is. -/
theorem Datum.ready_property {handle : TypeHandle} {parts : List (String × Datum)}
    (h : ∀ p, handle.property? around.built = some p → p.1.Ready around.capabilities p.2) :
    (Datum.structured "Property" (some handle) parts).Ready around where
  references r hr := by cases Datum.eq_of_held hr
  settled x cs hx hcs := by
    obtain rfl := Datum.eq_of_held hx
    cases hcs
  types handle' parts' t hs := by
    have hsame := Datum.eq_of_held hs
    simp at hsame
  properties handle' parts' p hs hp := by
    cases Datum.eq_of_held hs
    exact h p hp

/-- A mapping is ready if what stands in it is. -/
theorem Datum.ready_mapping {es : List (Key × Datum)} (h : ∀ p ∈ es, p.2.Ready around) : (Datum.mapping es).Ready around := by
  have hheld : ∀ x, ReflTransGen Datum.Holds (.mapping es) x → x.entries?.isSome ∨ ∃ p ∈ es, ReflTransGen Datum.Holds p.2 x := by
    intro x hx
    rcases hx.cases_head with rfl | ⟨y, hy, hyx⟩
    · exact .inl rfl
    · cases hy with
      | item members => cases members
      | entry entries mem =>
        cases entries
        exact .inr ⟨_, mem, hyx⟩
      | part structured => cases structured
      | around mark => cases mark
  constructor
  · intro r hr
    rcases hheld _ hr with hnone | ⟨p, hp, hd⟩
    · cases hnone
    · exact (h p hp).references r hd
  · intro x cs hx hcs
    rcases hheld _ hx with hmapping | ⟨p, hp, hd⟩
    · exact .of_mapping hmapping hcs
    · exact (h p hp).settled x cs hd hcs
  · intro handle parts t hs
    rcases hheld _ hs with hnone | ⟨p, hp, hd⟩
    · cases hnone
    · exact (h p hp).types handle parts t hd
  · intro handle parts q hs
    rcases hheld _ hs with hnone | ⟨p, hp, hd⟩
    · cases hnone
    · exact (h p hp).properties handle parts q hd

/-- Data with a name put into them are ready where they were ready before. -/
theorem Datum.Ready.named (h : d.Ready around) {es : List (Key × Datum)} (hes : d.entries? = some es) (name : String) :
    (Datum.mapping (Entries.put (.text "name") (.text name) es)).Ready around := by
  have hname : (Datum.text name).IsPlain := .scalar nofun
  refine Datum.ready_mapping fun p hp => ?_
  rcases Entries.mem_put hp with rfl | hmem
  · exact hname.ready
  · exact h.of_held (.single (.entry hes hmem))

/-- What stands in a record is ready where the record is. -/
theorem Datum.Ready.constraints (h : d.Ready around) {r : Record} {cs : List Constraint} (hr : d.entries? = some r.entries)
    (hcs : r.optional .constraints [] Reading.constraints = .ok cs) : ∀ c ∈ cs, ∀ a ∈ c.args, a.RefersInUnicode ∧ a.Settled := by
  intro c hc a ha
  obtain ⟨x, hx, hread⟩ := Record.constraints_held hr hcs c hc
  have hheld := (hx.trans (Constraint.args_held hread ha)).to_reflTransGen
  exact ⟨h.references.of_held hheld, h.settled.of_held hheld⟩

end Ready

section Build

variable {around : Surroundings}

theorem PropertyDef.within_types (description : Option String) (kind : String) (constraints : List Constraint)
    (types : Option (List TypeDef)) {P : PropertyDef → Prop} (hown : P ⟨description, kind, constraints, types⟩)
    (htypes : ∀ ts, types = some ts → ∀ t ∈ ts, ∀ q ∈ t.within, P q) :
    ∀ q ∈ (⟨description, kind, constraints, types⟩ : PropertyDef).within, P q := by
  rw [PropertyDef.within_eq, List.forall_mem_cons]
  refine ⟨hown, List.forall_mem_flatMap.2 fun t ht => ?_⟩
  cases types with
  | none => cases ht
  | some ts => exact htypes ts rfl t ht

mutual
/-- A property that is built from data that are ready recompiles, with all that is inside of it. -/
theorem Building.property_recompiles (d : Datum) (hd : d.Ready around) {p : PropertyDef × PropertyChecker}
    (h : Gives (Building.property around d) (.ok p)) : ∀ q ∈ p.1.within, q.Recompiles around.capabilities := by
  rcases gives_property h with ⟨handle, parts, ⟨⟨_, _, _, types⟩, _⟩, rfl, hq, hp, hcompile⟩ |
    ⟨r, description, kind, constraints, inlineTypes, hr, _, hconstraints, hinline, hp, hcompile⟩
  · rw [hp]
    cases hd.properties handle parts _ .refl hq with
    | passing hwithin => exact hwithin
    | compiled hbefore hargs hsettled htypes =>
      obtain ⟨c, hc⟩ := Capabilities.compileProperty_written hargs hsettled hcompile
      refine PropertyDef.within_types _ _ _ _ ?_ fun ts hts t ht => TypeDef.passes_iff_recompiles.1 (htypes ts hts t ht)
      refine Capabilities.compileProperty_retyped ?_ hc
      rw [hbefore.length_inlineTypes]
      cases types <;> simp
  have hentries := Record.ofDatum_eq_ok hr
  rw [hp]
  refine PropertyDef.within_types _ _ _ _ ?_ fun ts hts t ht => ?_
  · obtain ⟨c, hc⟩ := Capabilities.compileProperty_written (hd.constraints hentries hconstraints)
      (hd.settled.constraints hentries hconstraints) hcompile
    exact Capabilities.compileProperty_retyped (by cases inlineTypes <;> simp) hc
  · obtain ⟨us, rfl, rfl⟩ := Option.map_eq_some_iff.1 hts
    obtain ⟨u, hu, rfl⟩ := List.mem_map.1 ht
    obtain ⟨x, hx, hgives⟩ := hinline.held hentries u hu
    have hsmaller := Datum.sizeOf_held hx
    exact Building.type_recompiles x (hd.of_held hx.to_reflTransGen) hgives
termination_by sizeOf d
/-- So does a type. One that was built before recompiles since its definition passes. -/
theorem Building.type_recompiles (d : Datum) (hd : d.Ready around) {t : ObjectType}
    (h : Gives (Building.type around d) (.ok t)) : ∀ q ∈ t.definition.within, q.Recompiles around.capabilities := by
  rcases gives_type h with ⟨handle, parts, rfl, hbuilt⟩ | ⟨r, name, description, leniency, ps, hr, hfields, rfl⟩
  · exact TypeDef.passes_iff_recompiles.1 (hd.types handle parts t .refl hbuilt)
  · rw [TypeDef.within_eq]
    refine List.forall_mem_flatMap.2 fun e he => ?_
    obtain ⟨p, hp, rfl⟩ := List.mem_map.1 he
    obtain ⟨x, hx, hgives⟩ := hfields.held (Record.ofDatum_eq_ok hr) p hp
    have hsmaller := Datum.sizeOf_held hx
    exact Building.property_recompiles x (hd.of_held hx.to_reflTransGen) hgives
termination_by sizeOf d
end

end Build

/-! ## Types of schemas -/

theorem Header.mem_of_typeEntries : ∀ {es : List (Key × Datum)} {ps : List (String × Datum)}, typeEntries es = .ok ps →
    ∀ {p : String × Datum}, p ∈ ps → ∃ k, (k, p.2) ∈ es
  | [], ps, h, p, hp => by
    cases h
    cases hp
  | (k, d) :: rest, ps, h, p, hp => by
    obtain ⟨⟨name, others⟩, hboth, rfl⟩ := Reading.map_eq_ok.1 h
    rcases List.mem_cons.1 hp with rfl | hp
    · exact ⟨k, List.mem_cons_self ..⟩
    · obtain ⟨k', hk'⟩ := mem_of_typeEntries (Reading.both_eq_ok.1 hboth).2 hp
      exact ⟨k', List.mem_cons_of_mem _ hk'⟩

/-- The name of a type says nothing about whether its definition passes. -/
theorem ObjectType.rename_passes {caps : Capabilities} {t : ObjectType} (h : t.definition.Passes caps) (name : Option String) :
    (t.rename name).definition.Passes caps := by
  rw [TypeDef.passes_iff_recompiles, TypeDef.within_eq] at h ⊢
  exact h

namespace Schema

/-- What a definition that is ready makes passes, under any name. -/
theorem Defines.passes {around : Surroundings} {name : String} {definition : Datum} {t : ObjectType}
    (h : Defines around (.text name) definition t) (hready : definition.Ready around) :
    t.definition.Passes around.capabilities := by
  cases h with
  | before structured known =>
    subst structured
    exact hready.types _ _ t .refl known
  | now entries built => exact TypeDef.passes_iff_recompiles.2 (Building.type_recompiles _ (hready.named entries name) built)

/-- The definitions of types stand in the mapping that a header is read from. -/
theorem header_types_held {es : List (Key × Datum)} {header : Header} (h : Header.read es = .ok header) :
    ∀ p ∈ header.types, ∃ e ∈ es, TransGen Datum.Holds e.2 p.2 := by
  have htypes : Record.optional ⟨.mapping es, es⟩ .types [] Header.readTypes = .ok header.types := by
    obtain ⟨⟨⟨_, _, _, types, _⟩, _⟩, hparts, rfl⟩ := Reading.map_eq_ok.1 h
    obtain ⟨hparts, -⟩ := Record.closing_eq_ok.1 hparts
    exact (Reading.both_eq_ok.1 (Reading.both_eq_ok.1 (Reading.both_eq_ok.1 (Reading.both_eq_ok.1 hparts).2).2).2).1
  intro p hp
  rcases Record.optional_eq_ok htypes with hnone | ⟨k, v, hmem, hv⟩
  · rw [hnone] at hp
    cases hp
  · refine ⟨(k, v), hmem, ?_⟩
    unfold Header.readTypes at hv
    split at hv
    · next fields hfields =>
      obtain ⟨ps, hps, heq⟩ := Reading.map_eq_ok.1 hv
      rw [← heq] at hp
      obtain ⟨k', hk'⟩ := Header.mem_of_typeEntries hps (Assoc.mem_ofList hp)
      exact .single (.entry hfields hk')
    · cases hv

/-- The types of a schema that is made of data that are ready pass. -/
theorem make_passes {around : Surroundings} {clock : Clock} {factory : Option IdentityFactory} {options : List (Key × Datum)}
    {s : Schema} (h : Making.Gives (make around clock factory options) s) (hready : ∀ e ∈ options, e.2.Ready around) :
    s.capabilities = around.capabilities ∧ ∀ p ∈ s.types, p.2.definition.Passes around.capabilities := by
  obtain ⟨header, types, identity, hread, htypes, -, rfl⟩ := make_gives h
  refine ⟨rfl, fun p hp => ?_⟩
  obtain ⟨d, hd, t, ht, rfl⟩ := List.Forall₂.exists_of_mem_right (makeTypes_gives htypes) hp
  obtain ⟨e, he, hheld⟩ := header_types_held hread d hd
  exact ObjectType.rename_passes (ht.passes ((hready e he).of_held hheld.to_reflTransGen)) _

end Schema

/-! ## Runs of changes -/

/-- A workspace has a schema in a place whose types pass under its own capabilities. Each type that definitions can name was known
before, or passes as well. -/
structure Workspace.Abides (caps : Capabilities) (known : Array ObjectType) (h : SchemaHandle) (s : Schema) (w : Workspace) :
    Prop where
  there : w.schemas[h]? = some s
  capabilities : s.capabilities = caps
  passing : ∀ p ∈ s.types, p.2.definition.Passes caps
  types : ∀ (i : Nat) t, w.types[i]? = some t → known[i]? = some t ∨ t.definition.Passes caps

namespace Workspace.Abides

variable {caps : Capabilities} {known : Array ObjectType} {h : SchemaHandle} {s s' : Schema} {w w' : Workspace} {log : List Event}

theorem told (hw : Abides caps known h s w) (htold : w.Told log w') : Abides caps known h s w' where
  there := htold.schemas ▸ hw.there
  capabilities := hw.capabilities
  passing := hw.passing
  types := htold.types ▸ hw.types

theorem stored (hw : Abides caps known h s w) {types : Assoc ObjectType (Option String)}
    (hstored : Workspace.Stored h (s.withTypes w.clock types) log w w') (htypes : ∀ p ∈ types, p.2.definition.Passes caps) :
    Abides caps known h (s.withTypes w.clock types) w' where
  there := by
    rw [hstored.schemas]
    exact Array.getElem?_setIfInBounds_self_of_lt (Array.getElem?_eq_some_iff.1 hw.there).1
  capabilities := hw.capabilities
  passing := htypes
  types := hstored.types ▸ hw.types

/-- A definition that was ready at the start of a run is so later. -/
theorem ready (hw : Abides caps known h s w) {d : Datum} (hd : d.Ready ⟨caps, fun handle => known[handle.index]?⟩) :
    d.Ready (Work.surroundingsOf w s) where
  references := hd.references
  settled := hd.settled
  types handle parts t hs ht := by
    change t.definition.Passes s.capabilities
    rw [hw.capabilities]
    exact (hw.types handle.index t ht).elim (hd.types handle parts t hs) id
  properties handle parts p hs hp := by
    change p.1.Ready s.capabilities p.2
    rw [hw.capabilities]
    obtain ⟨t, name, ht, hpart, hname⟩ := TypeHandle.property?_eq_some.1 hp
    rcases hw.types handle.index t ht with hknown | hpasses
    · exact hd.properties handle parts p hs (TypeHandle.property?_eq_some.2 ⟨t, name, hknown, hpart, hname⟩)
    · have hmem := Assoc.mem_of_get? (ObjectType.property?_eq_some.1 hname).1
      refine .passing fun q hq => TypeDef.passes_iff_recompiles.1 hpasses q ?_
      rw [TypeDef.within_eq]
      exact List.mem_flatMap.2 ⟨_, hmem, hq⟩

/-- Under any name a type can be put that passes. -/
theorem put (hw : Abides caps known h s w) {name : String} {t : ObjectType}
    (hstored : Workspace.Stored h (s.withTypes w.clock (s.types.put (some name) (t.rename (some name)))) log w w')
    (ht : t.definition.Passes caps) :
    Abides caps known h (s.withTypes w.clock (s.types.put (some name) (t.rename (some name)))) w' := by
  refine hw.stored hstored fun p hp => ?_
  rcases Assoc.mem_put hp with rfl | hp
  · exact ObjectType.rename_passes ht _
  · exact hw.passing p hp

end Workspace.Abides

namespace SchemaStep

variable {caps : Capabilities} {known : Array ObjectType} {h : SchemaHandle} {s : Schema} {w w' : Workspace}

/-- The definition that a step gives to the schema. -/
def definition? : SchemaStep → Option Datum
  | .addType _ definition | .setType _ definition => some definition
  | .removeType _ | .hold _ | .tick _ => none

/-- Each step leaves a schema whose types pass. -/
theorem after_abides (hw : w.Abides caps known h s) {step : SchemaStep}
    (hready : ∀ d, step.definition? = some d → d.Ready ⟨caps, fun handle => known[handle.index]?⟩) :
    ∃ s', (step.after h w).Abides caps known h s' := by
  have hpasses : ∀ {name : String} {d : Datum} {t : ObjectType}, step.definition? = some d →
      Schema.Defines (Work.surroundingsOf w s) (.text name) d t → t.definition.Passes caps :=
    fun hd ht => hw.capabilities ▸ ht.passes (hw.ready (hready _ hd))
  unfold after op
  cases step with
  | addType name definition =>
    dsimp only
    rw [Work.ending_bind]
    rcases Work.addSchemaType_cases hw.there name definition with
      ⟨e, w', hend, htold⟩ | ⟨t, w', _, ht, hend, hstored⟩ <;> rw [hend]
    · exact ⟨s, hw.told htold⟩
    · exact ⟨_, hw.put hstored (hpasses rfl ht)⟩
  | setType name definition =>
    dsimp only
    rw [Work.ending_bind]
    rcases Work.setSchemaType_cases hw.there name definition with ⟨e, w', hend, htold⟩ | ⟨t, w', ht, hend, hstored⟩ <;> rw [hend]
    · exact ⟨s, hw.told htold⟩
    · exact ⟨_, hw.put hstored (hpasses rfl ht)⟩
  | removeType name =>
    dsimp only
    rw [Work.ending_bind]
    obtain ⟨w', hend, ⟨-, htold⟩ | ⟨_, hstored⟩⟩ := Work.removeSchemaType_cases hw.there name <;> rw [hend]
    · exact ⟨s, hw.told htold⟩
    · exact ⟨_, hw.stored hstored fun p hp => hw.passing p (Assoc.mem_of_mem_erase hp)⟩
  | hold name =>
    dsimp only
    rw [Work.ending_bind_ok (Work.typeNamed_ending hw.there name)]
    cases ht : s.types.get? (some name) with
    | none => exact ⟨s, hw⟩
    | some t =>
      refine ⟨s, hw.there, hw.capabilities, hw.passing, fun i u hu => ?_⟩
      change (w.types.push t)[i]? = some u at hu
      rw [Array.getElem?_push] at hu
      split at hu
      · cases hu
        exact .inr (hw.passing _ (Assoc.mem_of_get? ht))
      · exact hw.types i u hu
  | tick clock => exact ⟨s, hw.there, hw.capabilities, hw.passing, hw.types⟩

theorem run_abides (steps : List SchemaStep) : ∀ {s : Schema} {w : Workspace}, w.Abides caps known h s →
    (∀ step ∈ steps, ∀ d, step.definition? = some d → d.Ready ⟨caps, fun handle => known[handle.index]?⟩) →
    ∃ s', (run h steps w).Abides caps known h s' := by
  induction steps with
  | nil => exact fun hw _ => ⟨_, hw⟩
  | cons step rest ih =>
    intro s w hw hready
    rw [List.forall_mem_cons] at hready
    obtain ⟨s', hs'⟩ := after_abides hw hready.1
    exact ih hs' hready.2

/-- **All types that a schema ever has pass under its own capabilities**, if all types that are put into it as they are do,
whether in place of a definition or inside of one. -/
theorem run_passes {capabilities : CapabilitiesHandle} {factory : Option IdentityFactory} {options : List (Key × Datum)}
    {w₀ : Workspace} (hcaps : w.capabilities[capabilities]? = some caps)
    (hmake : (Work.makeSchema capabilities factory options).ending w = (.ok h, w₀))
    (hoptions : ∀ e ∈ options, e.2.Ready ⟨caps, w.built⟩) (steps : List SchemaStep)
    (hsteps : ∀ step ∈ steps, ∀ d, step.definition? = some d → d.Ready ⟨caps, w.built⟩) :
    ∃ s, (run h steps w₀).schemas[h]? = some s ∧ s.capabilities = caps ∧ ∀ p ∈ s.types, p.2.definition.Passes caps := by
  obtain ⟨c, s₀, log, w₁, hc, hgives, htold, rfl, rfl⟩ := Work.makeSchema_ok hmake
  cases hcaps.symm.trans hc
  obtain ⟨hsame, hpassing⟩ := Schema.make_passes hgives hoptions
  have hstart : Workspace.Abides caps w.types w.schemas.size s₀ { w₁ with schemas := w.schemas.push s₀ } :=
    ⟨Array.getElem?_push_size, hsame, hpassing, fun i t ht => .inl (htold.types ▸ ht)⟩
  obtain ⟨s, hs⟩ := run_abides steps hstart hsteps
  exact ⟨s, hs.there, hs.capabilities, hs.passing⟩

/-- Capabilities with a single kind, and without constraints. -/
def anyOnly : Capabilities := ⟨[("Any", [])], []⟩

/-- The data of a type with one property of a kind. -/
def kindData (kind : String) : Datum := .record [("properties", .record [("a", .record [("type", .text kind)])])]

/-- A type that was built under the standard capabilities. -/
def textType : ObjectType := (ObjectType.ofDatum? (kindData "String")).get (by decide +kernel)

def anyType : ObjectType := ⟨⟨none, none, {}, [("a", ⟨none, "Any", [], none⟩)]⟩, ⟨[("a", .ofKind .any)], {}⟩⟩

/-- A workspace with other capabilities, and with two types that were built before. -/
def anyWorkspace : Workspace := { emptyRegistry with capabilities := #[.standard, anyOnly], types := #[textType, anyType] }

def anyOptions : List (Key × Datum) :=
  [(.text "namespace", .text "ns://a"), (.text "version", .text "1.0.0"), (.text "description", .text "A schema"),
    (.text "types", .record [("T", kindData "Any")])]

/-- A schema that is made under these capabilities. -/
def anySchema : Except Failure SchemaHandle × Workspace := (Work.makeSchema 1 none anyOptions).ending anyWorkspace

/-- The type that was built before and has a place in the table. -/
def readyType (index : Nat) : Datum := .structured "Type" (some ⟨none, index, [], none⟩) []

/-- The data of a type with the property of a type that was built before. -/
def readyPart (index : Nat) : Datum :=
  .record [("properties", .record [("b", .structured "Property" (some ⟨none, index, [], some "a"⟩) [])])]

theorem kindData_isPlain (kind : String) : (kindData kind).IsPlain := by
  have hrecord : ∀ (name : String) {d : Datum}, d.IsPlain → (Datum.record [(name, d)]).IsPlain :=
    fun _ _ h => .mapping (List.forall_mem_singleton.2 h)
  exact hrecord _ (hrecord _ (hrecord _ (.scalar nofun)))

theorem anyType_passes : anyType.definition.Passes anyOnly := by
  rw [TypeDef.passes_iff_recompiles]
  have hwithin : anyType.definition.within = [⟨none, "Any", [], none⟩] := rfl
  rw [hwithin, List.forall_mem_singleton]
  exact ⟨_, rfl⟩

theorem anyType_ready : (readyType 1).Ready ⟨anyOnly, anyWorkspace.built⟩ := by
  refine Datum.ready_type fun t ht => ?_
  obtain rfl : anyType = t := Option.some.inj ht
  exact anyType_passes

/-- Data with the property of a type that was built before are ready if the property is. -/
theorem readyPart_ready {around : Surroundings} {index : Nat} {t : ObjectType}
    (ht : around.built ⟨none, index, [], some "a"⟩ = some t)
    (h : ∀ p, t.property? "a" = some p → p.1.Ready around.capabilities p.2) : (readyPart index).Ready around := by
  refine Datum.ready_mapping (List.forall_mem_singleton.2 (Datum.ready_mapping (List.forall_mem_singleton.2 ?_)))
  refine Datum.ready_property fun p hp => ?_
  obtain ⟨u, name, hu, hname, hp⟩ := TypeHandle.property?_eq_some.1 hp
  cases ht.symm.trans hu
  cases hname
  exact h p hp

theorem anyPart_ready : (readyPart 1).Ready ⟨anyOnly, anyWorkspace.built⟩ :=
  readyPart_ready (t := anyType) rfl fun p hp => by
    obtain ⟨hd, -⟩ := ObjectType.property?_eq_some.1 hp
    refine .passing fun q hq => TypeDef.passes_iff_recompiles.1 anyType_passes q ?_
    rw [TypeDef.within_eq]
    exact List.mem_flatMap.2 ⟨_, Assoc.mem_of_get? hd, hq⟩

/-- A property is ready also where its kind is not legal. -/
theorem textPart_ready : (readyPart 0).Ready ⟨anyOnly, anyWorkspace.built⟩ :=
  readyPart_ready (t := textType) rfl fun p hp => by
    have hbare : (textType.property? "a").all (fun p => p.1.constraints.isEmpty && p.1.inlineTypes.isNone) = true := by
      decide +kernel
    rw [hp, Option.all_some, Bool.and_eq_true, List.isEmpty_iff, Option.isNone_iff_eq_none] at hbare
    have hbuilt : textType.Built (· = .standard) := ObjectType.ofDatum?_built (Option.some_get _).symm
    refine .compiled (ObjectType.property?_compiles hbuilt.compiles hp) ?_ (.inl ?_) ?_
    · rw [hbare.1]
      exact List.forall_mem_nil _
    · rw [hbare.1]
      exact List.forall_mem_nil _
    · rw [hbare.2]
      exact nofun

theorem anyRun_passes :
    anyWorkspace.capabilities[1]? = some anyOnly ∧ anySchema.1.toOption = some 0 ∧
      ∃ s, (run 0 [.setType "U" (readyType 1), .addType "V" (readyPart 1), .removeType "T", .setType "W" (readyPart 0)]
          anySchema.2).schemas[0]? = some s ∧
        s.capabilities = anyOnly ∧ ∀ p ∈ s.types, p.2.definition.Passes anyOnly := by
  have hmade : anySchema.1.toOption = some 0 := by decide +kernel
  refine ⟨rfl, hmade, run_passes (w := anyWorkspace) rfl (Work.eq_ok_of_toOption hmade) ?_ _ ?_⟩
  · have htexts : ∀ s : String, (Datum.text s).IsPlain := fun s => .scalar nofun
    have htypes : (Datum.record [("T", kindData "Any")]).IsPlain := .mapping (List.forall_mem_singleton.2 (kindData_isPlain _))
    intro e he
    rcases List.mem_cons.1 he with rfl | he
    · exact (htexts _).ready
    rcases List.mem_cons.1 he with rfl | he
    · exact (htexts _).ready
    rcases List.mem_cons.1 he with rfl | he
    · exact (htexts _).ready
    · obtain rfl := List.mem_singleton.1 he
      exact htypes.ready
  · intro step hstep d hd
    rcases List.mem_cons.1 hstep with rfl | hstep
    · cases hd
      exact anyType_ready
    rcases List.mem_cons.1 hstep with rfl | hstep
    · cases hd
      exact anyPart_ready
    rcases List.mem_cons.1 hstep with rfl | hstep
    · cases hd
    · obtain rfl := List.mem_singleton.1 hstep
      cases hd
      exact textPart_ready

/-- The kinds of the properties of a definition that passes are legal. -/
theorem hasKind_of_passes {caps : Capabilities} {t : TypeDef} (h : t.Passes caps) {p : String × PropertyDef}
    (hp : p ∈ t.properties) : caps.hasKind (.text p.2.kind) = true := by
  have hmem : p.2 ∈ t.within := by
    rw [TypeDef.within_eq]
    refine List.mem_flatMap.2 ⟨p, hp, ?_⟩
    rw [PropertyDef.within_eq]
    exact List.mem_cons_self ..
  obtain ⟨c, hc⟩ := TypeDef.passes_iff_recompiles.1 h p.2 hmem
  obtain ⟨kind, _, hkind, _⟩ := Capabilities.compileProperty_eq_ok hc
  unfold Capabilities.kindNamed Capabilities.requireKind at hkind
  unfold Capabilities.hasKind
  cases hown : caps.own? (.text p.2.kind) with
  | some own => rfl
  | none =>
    rw [hown] at hkind
    cases hkind

/-- A type that was built before is put into a schema as it is, also where its definition does not pass. -/
theorem textType_not_passing :
    anyOnly.missing = [] ∧ textType.Built (· = .standard) ∧ anyWorkspace.capabilities[1]? = some anyOnly ∧
      (Work.makeSchema 1 none anyOptions).ending anyWorkspace = (.ok 0, anySchema.2) ∧
      ∃ s, (run 0 [.setType "U" (readyType 0)] anySchema.2).schemas[0]? = some s ∧ s.capabilities = anyOnly ∧
        ∃ p ∈ s.types, ¬ p.2.definition.Passes anyOnly := by
  have hmake : (Work.makeSchema 1 none anyOptions).ending anyWorkspace = (.ok 0, anySchema.2) :=
    Work.eq_ok_of_toOption (by decide +kernel)
  have hrun : ((run 0 [.setType "U" (readyType 0)] anySchema.2).schemas[0]?).any (fun s =>
      s.types.any fun p => p.2.definition.properties.any fun q => q.2.kind == "String") = true := by decide +kernel
  refine ⟨rfl, ObjectType.ofDatum?_built (Option.some_get _).symm, rfl, hmake, ?_⟩
  obtain ⟨c, s₀, log, w₁, hc, hgives, -, -, hafter⟩ := Work.makeSchema_ok hmake
  obtain ⟨_, _, _, -, -, -, rfl⟩ := Schema.make_gives hgives
  obtain ⟨s, _, hfollows⟩ := run_follows [.setType "U" (readyType 0)] (h := 0) (w := anySchema.2)
    (by rw [hafter]; exact Array.getElem?_push_size)
  rw [hfollows.schema, Option.any_some, List.any_eq_true] at hrun
  obtain ⟨p, hp, hkind⟩ := hrun
  obtain ⟨q, hq, hkind⟩ := List.any_eq_true.1 hkind
  have hcaps : s.capabilities = anyOnly := hfollows.owner.capabilities.trans (Option.some.inj hc).symm
  refine ⟨s, hfollows.schema, hcaps, p, hp, fun hpasses => ?_⟩
  have hlegal := hasKind_of_passes hpasses hq
  rw [eq_of_beq hkind] at hlegal
  cases hlegal

end SchemaStep

end ShapeCheck
