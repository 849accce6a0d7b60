import ShapeCheck.Proofs.Demands

/-!
# What definitions lead to

A definition leads to the types that are given in place in it and to those behind the references that it names, in
descriptions of elements too. `TypeDef.Plain` is asked of all these types: they leave candidates as they are, and their
constants are `Datum.Proper`. `Demand.Placed` says what of it a single property or element needs, and goes from a
demand to those of its elements and from a type to its properties.
-/

namespace ShapeCheck

variable {described : Descriptions} {registry : TypeRef → Option TypeDef} {good : TypeDef → Prop}

/-- A type neither strips keys nor saves conversions, and its constants are proper data. -/
structure TypeDef.Plain (described : Descriptions) (t : TypeDef) : Prop where
  keeps : t.leniency.stripExtraKeys = false
  reads : t.leniency.saveConversions = false
  constants : ∀ p ∈ t.properties, ∀ x ∈ p.2.constraints, ∀ a ∈ x.args, a.Proper described

/-- The constants of a demand are proper, and it leads to good types only. -/
structure Demand.Placed (described : Descriptions) (registry : TypeRef → Option TypeDef) (good : TypeDef → Prop) (q : Demand) :
    Prop where
  constants : ∀ x ∈ q.constraints, ∀ a ∈ x.args, a.Proper described
  references : ∀ x ∈ q.constraints, ∀ ref ∈ x.references, ∀ t, registry ref = some t → good t
  types : ∀ t ∈ q.types, good t

theorem Demand.Placed.mentions {q : Demand} (h : q.Placed described registry good) :
    ∀ m ∈ q.mentions, m.1.Proper described := by
  intro m hm
  unfold Demand.mentions at hm
  obtain ⟨x, hx, hm⟩ := List.mem_flatMap.1 hm
  cases hs : (q.method? x).bind Method.sense? with
  | none =>
      rw [hs] at hm
      cases hm
  | some s =>
      rw [hs] at hm
      obtain ⟨a, ha, rfl⟩ := List.mem_map.1 hm
      exact h.constants x hx a ha

/-- The arguments of a constraint are proper if its record is. -/
theorem Constraint.args_proper {d : Datum} {c : Constraint} (h : Constraint.read d = .ok c) (hd : d.Proper described) {a : Datum}
    (ha : a ∈ c.args) : a.Proper described := by
  obtain ⟨es, k, v, hes, hv, hmembers⟩ := Constraint.args_entry h ha
  have hwhole := hd.target
  refine Datum.Proper.member (Datum.Proper.target ?_) hmembers ha
  rcases Constraint.entries?_cases hes with hes | ⟨parts, hparts, rfl⟩
  · exact (hwhole.entries hes).1 _ hv
  · obtain ⟨p, hp, heq⟩ := List.mem_map.1 hv
    cases heq
    rw [hparts, Datum.Proper, Datum.partsProper_iff] at hwhole
    exact hwhole.2 p hp

/-- The arguments inside the description of an element are proper if the description is. -/
theorem ElementDef.args_proper {d : Datum} {e : ElementDef} (h : ElementDef.read d = .ok e) (hd : d.Proper described)
    {c : Constraint} (hc : c ∈ e.constraints) {a : Datum} (ha : a ∈ c.args) : a.Proper described := by
  obtain ⟨es, k, v, xs, x, hes, hv, hxs, hx, hread⟩ := ElementDef.constraints_entry (ElementDef.constraintsOf_eq h) hc
  exact Constraint.args_proper hread (((hd.target.entries hes).1 _ hv).target.member hxs hx) ha

/-- The references of a description of an element are those of its constraints. -/
theorem ElementDef.referencesOf_eq {d : Datum} {e : ElementDef} (h : ElementDef.read d = .ok e) :
    ElementDef.referencesOf d = e.constraints.flatMap Constraint.references := by
  have hconstraints := ElementDef.constraintsOf_eq h
  rw [ElementDef.referencesOf]
  split
  · next h' => cases h'.symm.trans hconstraints
  · next cs h' =>
    cases h'.symm.trans hconstraints
    exact List.flatMap_subtype (fun c _ => rfl) |>.trans (by rw [List.unattach_attach])

theorem Method.name_of_elements {k : Kind} {name : String} {m : Method} (h : Method.ofName? k name = some m)
    (hm : m = .includes ∨ m = .excludes) : k = .array ∧ (name = "includes" ∨ name = "excludes") := by
  have hmem := Method.ofName?_mem h
  have hall : ∀ k, ∀ p ∈ Method.own k ++ Method.base, p.2 = .includes ∨ p.2 = .excludes →
      k = .array ∧ (p.1 = "includes" ∨ p.1 = "excludes") := by
    intro k
    cases k <;> decide
  exact hall k _ hmem hm

theorem Method.name_of_reference {k : Kind} {name : String} (h : Method.ofName? k name = some .reference) :
    k = .object ∧ name = "objectSchemaType" := by
  have hmem := Method.ofName?_mem h
  have hall : ∀ k, ∀ p ∈ Method.own k ++ Method.base, p.2 = .reference → k = .object ∧ p.1 = "objectSchemaType" := by
    intro k
    cases k <;> decide
  exact hall k _ hmem rfl

/-- The references of a constraint that describes elements are those of the descriptions. -/
theorem Constraint.references_of_elements {c : Constraint} (h : c.method = "includes" ∨ c.method = "excludes") :
    c.references = c.args.flatMap ElementDef.referencesOf := by
  unfold references referencesWith
  rw [if_neg (by rcases h with h | h <;> rw [h] <;> decide), if_pos (by rcases h with h | h <;> rw [h] <;> decide)]
  exact (List.flatMap_subtype fun a _ => rfl).trans (by rw [List.unattach_attach])

theorem Constraint.references_of_reference {c : Constraint} (h : c.method = "objectSchemaType") {d : Datum}
    (hd : c.args.head? = some d) {ref : TypeRef} (href : TypeRef.read d = .ok ref) : c.references = [ref] := by
  unfold references referencesWith
  rw [if_pos h]
  obtain ⟨rest, hargs⟩ := List.head?_eq_some_iff.1 hd
  rw [hargs]
  dsimp only
  rw [href]

/-- What a demand asks of elements leads nowhere else. -/
theorem Demand.Placed.element {q : Demand} (h : q.Placed described registry good) {x : Constraint} (hx : x ∈ q.constraints)
    {m : Method} (hm : q.method? x = some m) (helements : m = .includes ∨ m = .excludes) {a : Datum} (ha : a ∈ x.args)
    {e : ElementDef} (he : ElementDef.read a = .ok e) : e.demand.Placed described registry good := by
  obtain ⟨k, _, hname⟩ := Option.bind_eq_some_iff.1 hm
  obtain ⟨_, hname⟩ := Method.name_of_elements hname helements
  refine ⟨fun y hy b hb => ElementDef.args_proper he (h.constants x hx a ha) hy hb, fun y hy ref href => ?_, nofun⟩
  refine h.references x hx ref ?_
  have hmem : ref ∈ x.args.flatMap ElementDef.referencesOf := by
    refine List.mem_flatMap.2 ⟨a, ha, ?_⟩
    rw [ElementDef.referencesOf_eq he]
    exact List.mem_flatMap.2 ⟨y, hy, href⟩
  rw [Constraint.references_of_elements hname]
  exact hmem

/-- A demand leads to the type behind a reference that it asks for. -/
theorem Demand.Placed.referent {q : Demand} (h : q.Placed described registry good) {x : Constraint} (hx : x ∈ q.constraints)
    (hm : q.method? x = some .reference) {a : Datum} (ha : x.args.head? = some a) {ref : TypeRef} (href : TypeRef.read a = .ok ref)
    {t : TypeDef} (ht : registry ref = some t) : good t := by
  obtain ⟨k, _, hname⟩ := Option.bind_eq_some_iff.1 hm
  obtain ⟨_, hname⟩ := Method.name_of_reference hname
  refine h.references x hx ref ?_ t ht
  rw [Constraint.references_of_reference hname ha href]
  exact List.mem_singleton_self _

theorem PropertyDef.mem_references {p : PropertyDef} {x : Constraint} (hx : x ∈ p.constraints) {ref : TypeRef}
    (href : ref ∈ x.references) : ref ∈ p.references := by
  obtain ⟨description, kind, constraints, inlineTypes⟩ := p
  unfold PropertyDef.references
  exact List.mem_append_left _ (List.mem_flatMap.2 ⟨x, hx, href⟩)

theorem PropertyDef.mem_referencesOfAll {ps : List (String × PropertyDef)} {p : String × PropertyDef} (hp : p ∈ ps)
    {ref : TypeRef} (href : ref ∈ p.2.references) : ref ∈ PropertyDef.referencesOfAll ps := by
  induction ps with
  | nil => cases hp
  | cons p' rest ih =>
      obtain ⟨name, d⟩ := p'
      rw [PropertyDef.referencesOfAll]
      rcases List.mem_cons.1 hp with rfl | hp
      · exact List.mem_append_left _ href
      · exact List.mem_append_right _ (ih hp)

/-- The properties of the types that a definition leads to lead to such types. -/
theorem TypeDef.Reaches.placed {root : TypeDef} (hplain : ∀ t, root.Reaches registry t → t.Plain described) {t : TypeDef}
    (ht : root.Reaches registry t) {p : String × PropertyDef} (hp : p ∈ t.properties) :
    p.2.demand.Placed described registry (root.Reaches registry) where
  constants := (hplain t ht).constants p hp
  references x hx ref href w hw := by
    refine .named ht ?_ hw
    obtain ⟨name, description, leniency, properties⟩ := t
    rw [TypeDef.references]
    exact PropertyDef.mem_referencesOfAll hp (PropertyDef.mem_references hx href)
  types w hw := .inside ht hp hw

end ShapeCheck
