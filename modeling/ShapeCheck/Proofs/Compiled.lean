import Mathlib.Data.List.Forall2
import Mathlib.Logic.Relation
import ShapeCheck.Definition.Build
import ShapeCheck.Proofs.Steps

/-!
# What building gives

`TypeDef.Compiles` relates a definition to its checker, part by part: each property compiles under some legal capabilities,
its inline types to checkers of their own. `ObjectType.Built` are the types that building gives, from data in which types
that were built before may stand, also under other names. `Building.gives_property` and `Building.gives_type` say what a build
that gives a result has read, so that what follows can forget how types are read.
-/

namespace ShapeCheck

/-! ## Definitions and their checkers -/

section Compiles

variable (legal : Capabilities → Prop)

mutual
/-- A property compiles to a checker under legal capabilities, given what its inline types compile to. -/
def PropertyDef.Compiles : PropertyDef → PropertyChecker → Prop
  | ⟨_, kind, constraints, none⟩, c => ∃ caps, legal caps ∧ caps.compileProperty kind constraints none = .ok c
  | ⟨_, kind, constraints, some types⟩, c => ∃ caps checkers, legal caps ∧ TypeDef.CompilesAll types checkers ∧
      caps.compileProperty kind constraints (some checkers) = .ok c
def TypeDef.CompilesAll : List TypeDef → List TypeChecker → Prop
  | [], [] => True
  | d :: ds, t :: ts => d.Compiles t ∧ TypeDef.CompilesAll ds ts
  | _, _ => False
/-- A definition compiles to a checker: property by property, with the same leniency. -/
def TypeDef.Compiles : TypeDef → TypeChecker → Prop
  | ⟨_, _, leniency, properties⟩, t => leniency = t.leniency ∧ PropertyDef.CompilesFields properties t.properties
def PropertyDef.CompilesFields : List (String × PropertyDef) → List (String × PropertyChecker) → Prop
  | [], [] => True
  | (m, d) :: ds, (n, c) :: cs => m = n ∧ d.Compiles c ∧ PropertyDef.CompilesFields ds cs
  | _, _ => False
end

end Compiles

/-- A definition and its checker are as lenient. -/
theorem TypeDef.Compiles.leniency_eq {legal : Capabilities → Prop} {d : TypeDef} {t : TypeChecker} (h : d.Compiles legal t) :
    d.leniency = t.leniency := by
  obtain ⟨_, _, leniency, properties⟩ := d
  rw [TypeDef.Compiles] at h
  exact h.1

/-- The types that building with legal capabilities gives, also under other names. -/
inductive ObjectType.Built (legal : Capabilities → Prop) : ObjectType → Prop
  | build {around : Surroundings} {d : Datum} {notices : List Notice} {t : ObjectType} (capabilities : legal around.capabilities)
      (before : ∀ handle u, around.built handle = some u → u.Built legal)
      (result : ((Building.type around d).run.run notices).1 = .ok (.ok t)) : t.Built legal
  | rename {t : ObjectType} (name : Option String) (before : t.Built legal) : (t.rename name).Built legal

/-- The type that some data describe under the standard capabilities, where no type was built before. -/
def ObjectType.ofDatum? (d : Datum) : Option ObjectType :=
  match ((Building.type ⟨.standard, fun _ => none⟩ d).run.run []).1 with
  | .ok (.ok t) => some t
  | _ => none

theorem ObjectType.ofDatum?_built {d : Datum} {t : ObjectType} (h : ObjectType.ofDatum? d = some t) :
    t.Built (· = .standard) := by
  unfold ofDatum? at h
  split at h
  · next t' hbuild =>
    cases h
    exact .build rfl (fun _ _ hu => by cases hu) hbuild
  · cases h

/-! ## Parts of data -/

/-- A datum stands directly in another one: it is an item, stands under a key, is a part of something that was not built
before, or is a container around a mark. -/
inductive Datum.Holds (d : Datum) : Datum → Prop
  | item {xs : List Datum} {x : Datum} (members : d.members? = some xs) (mem : x ∈ xs) : Holds d x
  | entry {es : List (Key × Datum)} {k : Key} {x : Datum} (entries : d.entries? = some es) (mem : (k, x) ∈ es) : Holds d x
  | part {sort name : String} {parts : List (String × Datum)} {x : Datum} (structured : d = .structured sort none parts)
      (mem : (name, x) ∈ parts) : Holds d x
  | around {names : List Nat} {trees : List Datum} {level : Nat} {x : Datum} (mark : d = @Datum.back names trees level)
      (mem : x ∈ trees) : Holds d x

/-- What stands in a datum, at any depth, is smaller. -/
theorem Datum.sizeOf_held {d e : Datum} (h : Relation.TransGen Datum.Holds d e) : sizeOf e < sizeOf d := by
  have hstep : ∀ {d e : Datum}, d.Holds e → sizeOf e < sizeOf d := by
    rintro d e (⟨members, mem⟩ | ⟨entries, mem⟩ | ⟨rfl, mem⟩ | ⟨rfl, mem⟩)
    · exact Datum.sizeOf_member members mem
    · exact Datum.sizeOf_entry entries mem
    · exact Datum.sizeOf_part mem
    · have hlt := List.sizeOf_lt_of_mem mem
      simp only [Datum.back.sizeOf_spec]
      omega
  induction h with
  | single h => exact hstep h
  | tail _ h ih => exact Nat.lt_trans (hstep h) ih

/-- The container that a mark stands for is one of those around it. -/
theorem Datum.holds_target (d : Datum) : Relation.ReflTransGen Datum.Holds d d.target := by
  cases d with
  | @back names trees level =>
      change Relation.ReflTransGen _ _ (trees[level]?.getD (@back names trees level))
      cases htree : trees[level]? with
      | none => exact .refl
      | some t => exact .single (.around rfl (List.mem_of_getElem? htree))
  | _ => exact .refl

/-! ## Results of building -/

/-- Each member of the second of two related lists is related to a member of the first. -/
theorem List.Forall₂.exists_of_mem_right {α β : Type} {R : α → β → Prop} {xs : List α} {ys : List β} (h : List.Forall₂ R xs ys)
    {y : β} (hy : y ∈ ys) : ∃ x ∈ xs, R x y := by
  induction h with
  | nil => cases hy
  | @cons x z _ _ hxz _ ih =>
      rcases List.mem_cons.1 hy with rfl | hy
      · exact ⟨x, List.mem_cons_self .., hxz⟩
      · obtain ⟨w, hw, hwy⟩ := ih hy
        exact ⟨w, List.mem_cons_of_mem _ hw, hwy⟩

namespace Building

variable {α β : Type}

/-- A build gives a result, after some notices. -/
def Gives (b : Building α) (x : α) : Prop := ∃ notices, (b.run.run notices).1 = .ok x

theorem gives_pure {a x : α} (h : Gives (pure a : Building α) x) : x = a := by
  obtain ⟨_, h⟩ := h
  cases h
  rfl

theorem not_gives_throw {e : CompileError} {x : α} : ¬ Gives (throw e : Building α) x := by
  rintro ⟨_, h⟩
  cases h

/-- A build that gives a result has given one at each of its steps. -/
theorem gives_bind {b : Building α} {f : α → Building β} {y : β} (h : Gives (b >>= f) y) :
    ∃ x, Gives b x ∧ Gives (f x) y := by
  obtain ⟨ns, h⟩ := h
  rw [run_bind] at h
  rcases hb : b.run.run ns with ⟨e | x, ms⟩ <;> rw [hb] at h
  · cases h
  · exact ⟨x, ⟨ns, congrArg Prod.fst hb⟩, ms, h⟩

theorem gives_map {b : Building α} {f : α → β} {y : β} (h : Gives (b >>= fun x => pure (f x)) y) :
    ∃ x, Gives b x ∧ y = f x := by
  obtain ⟨x, hx, hy⟩ := gives_bind h
  exact ⟨x, hx, gives_pure hy⟩

theorem gives_optional {r : Record} {f : Field} {absent x : α}
    {read : (d : Datum) → (∃ k, (k, d) ∈ r.entries) → Building (Reading α)}
    (h : Gives (optional r f absent read) (.ok x)) :
    (f.find? r.entries = none ∧ x = absent) ∨ ∃ s d hd, f.find? r.entries = some (s, d) ∧ Gives (read d hd) (.ok x) := by
  unfold optional at h
  split at h
  · next s d hfound =>
    obtain ⟨y, hy, hx⟩ := gives_map h
    obtain rfl := Reading.under_eq_ok.1 hx.symm
    exact .inr ⟨s, d, _, hfound, hy⟩
  · next hnone =>
    cases gives_pure h
    exact .inl ⟨hnone, rfl⟩

theorem gives_entries : ∀ {es : List (Key × Datum)} {read : (d : Datum) → (∃ k, (k, d) ∈ es) → Building (Reading α)}
    {ps : List (String × α)}, Gives (entries es read) (.ok ps) →
    List.Forall₂ (fun e p => Reading.keyText e.1 = .ok p.1 ∧ ∃ hd, Gives (read e.2 hd) (.ok p.2)) es ps := by
  intro es
  induction es with
  | nil =>
      intro read ps h
      unfold entries at h
      cases gives_pure h
      exact .nil
  | cons e rest ih =>
      intro read ps h
      obtain ⟨k, d⟩ := e
      unfold entries at h
      obtain ⟨value, hvalue, h⟩ := gives_bind h
      obtain ⟨others, hothers, h⟩ := gives_map h
      obtain ⟨⟨q, qs⟩, hq, rfl⟩ := Reading.map_eq_ok.1 h.symm
      obtain ⟨hq, hqs⟩ := Reading.both_eq_ok.1 hq
      obtain ⟨hkey, hq⟩ := Reading.both_eq_ok.1 hq
      obtain rfl := Reading.under_eq_ok.1 hq
      obtain rfl := hqs
      exact .cons ⟨hkey, _, hvalue⟩ ((ih hothers).imp fun _ _ h => ⟨h.1, h.2.elim fun hd h => ⟨_, h⟩⟩)

theorem gives_items : ∀ {i : Nat} {xs : List Datum} {read : (d : Datum) → d ∈ xs → Building (Reading α)}
    {ys : List α}, Gives (items i xs read) (.ok ys) →
    List.Forall₂ (fun d y => ∃ hd, Gives (read d hd) (.ok y)) xs ys := by
  intro i xs
  induction xs generalizing i with
  | nil =>
      intro read ys h
      unfold items at h
      cases gives_pure h
      exact .nil
  | cons d rest ih =>
      intro read ys h
      unfold items at h
      obtain ⟨value, hvalue, h⟩ := gives_bind h
      obtain ⟨others, hothers, h⟩ := gives_map h
      obtain ⟨⟨q, qs⟩, hq, rfl⟩ := Reading.map_eq_ok.1 h.symm
      obtain ⟨hq, hqs⟩ := Reading.both_eq_ok.1 hq
      obtain rfl := Reading.under_eq_ok.1 hq
      obtain rfl := hqs
      exact .cons ⟨_, hvalue⟩ ((ih hothers).imp fun _ _ h => h.elim fun hd h => ⟨_, h⟩)

end Building

/-- A property is finished with the checker that it compiles to. -/
theorem Capabilities.finishProperty_gives {caps : Capabilities} {d : Datum} {q : PropertyDef}
    {inlineTypes : Option (List TypeChecker)} {p : PropertyDef × PropertyChecker}
    (h : Building.Gives (caps.finishProperty d q inlineTypes) (.ok p)) :
    p.1 = q ∧ caps.compileProperty q.kind q.constraints inlineTypes = .ok p.2 := by
  unfold finishProperty at h
  split at h
  · next checker hchecker =>
    cases Building.gives_pure h
    exact ⟨rfl, hchecker⟩
  · cases Building.gives_pure h
  · split at h
    · cases Building.gives_pure h
    · exact absurd h Building.not_gives_throw

theorem ObjectType.finish_gives {name description : Option String} {leniency : Leniency}
    {properties : List (String × (PropertyDef × PropertyChecker))} {t : ObjectType}
    (h : Building.Gives (ObjectType.finish name description leniency properties) t) :
    t = ⟨⟨name, description, leniency, properties.map fun (n, p) => (n, p.1)⟩,
      ⟨properties.map fun (n, p) => (n, p.2), leniency⟩⟩ := by
  unfold finish at h
  obtain ⟨_, _, h⟩ := Building.gives_bind h
  exact Building.gives_pure h

namespace Building

/-- What the types in place of a property are built from, if there are any. -/
inductive InlineGives (around : Surroundings) (r : Record) : Option (List ObjectType) → Prop
  | absent (found : Field.inlineTypes.find? r.entries = none) : InlineGives around r none
  | null {s : String} {v : Datum} (found : Field.inlineTypes.find? r.entries = some (s, v)) (null : v.isNull = true) :
      InlineGives around r none
  | given {s : String} {v : Datum} {xs : List Datum} {us : List ObjectType}
      (found : Field.inlineTypes.find? r.entries = some (s, v)) (members : v.members? = some xs)
      (built : List.Forall₂ (fun x u => Gives (Building.type around x) (.ok u)) xs us) : InlineGives around r (some us)

/-- What the properties of a type are built from. Of two properties under one name the later one stays. -/
inductive FieldsGive (around : Surroundings) (r : Record) : List (String × (PropertyDef × PropertyChecker)) → Prop
  | absent (found : Field.properties.find? r.entries = none) : FieldsGive around r []
  | given {s : String} {v : Datum} {es : List (Key × Datum)} {ps : List (String × (PropertyDef × PropertyChecker))}
      (found : Field.properties.find? r.entries = some (s, v)) (entries : v.entries? = some es)
      (built : List.Forall₂ (fun e p => Reading.keyText e.1 = .ok p.1 ∧ Gives (Building.property around e.2) (.ok p.2)) es ps) :
      FieldsGive around r (Assoc.ofList ps)

variable {around : Surroundings} {d : Datum}

/-- A property that is built is one of a type that was built before, or has been read from a record. It compiles from what it is, or
from what was read. -/
theorem gives_property {p : PropertyDef × PropertyChecker} (h : Gives (Building.property around d) (.ok p)) :
    (∃ handle parts q, d = .structured "Property" (some handle) parts ∧ handle.property? around.built = some q ∧ p.1 = q.1 ∧
      around.capabilities.compileProperty q.1.kind q.1.constraints (q.1.inlineTypes.map fun _ => q.2.inlineTypes) = .ok p.2) ∨
    ∃ r description kind constraints inlineTypes, Record.ofDatum "Property" d = .ok r ∧
      r.required .kind Reading.someText = .ok kind ∧ r.optional .constraints [] Reading.constraints = .ok constraints ∧
      InlineGives around r inlineTypes ∧
      p.1 = ⟨description, kind, constraints, inlineTypes.map (·.map ObjectType.definition)⟩ ∧
      around.capabilities.compileProperty kind constraints (inlineTypes.map (·.map ObjectType.checker)) = .ok p.2 := by
  unfold Building.property at h
  split at h
  · next handle parts =>
    split at h
    · cases gives_pure h
    · next q checker hq =>
      obtain ⟨hp, hcompile⟩ := Capabilities.finishProperty_gives h
      exact .inl ⟨handle, parts, (q, checker), rfl, hq, hp, hcompile⟩
  split at h
  · cases gives_pure h
  next r hr =>
  dsimp only at h
  obtain ⟨inlineTypes, hinline, h⟩ := gives_bind h
  split at h
  · cases gives_pure h
  next description kind constraints types _ hread =>
  obtain ⟨hp, hcompile⟩ := Capabilities.finishProperty_gives h
  obtain ⟨hfields, rfl⟩ := Reading.both_eq_ok.1 (Record.closing_eq_ok.1 hread).1
  obtain ⟨hkind, hconstraints⟩ := Reading.both_eq_ok.1 (Reading.both_eq_ok.1 hfields).2
  refine .inr ⟨r, description, kind, constraints, types, hr, hkind, hconstraints, ?_, hp, hcompile⟩
  rcases gives_optional hinline with ⟨hfound, rfl⟩ | ⟨s, v, _, hfound, hread⟩
  · exact .absent hfound
  split at hread
  · next hnull =>
    cases gives_pure hread
    exact .null hfound hnull
  split at hread
  · cases gives_pure hread
  · next xs hmembers =>
    obtain ⟨read, hitems, hsome⟩ := gives_map hread
    obtain ⟨us, rfl, hus⟩ := Reading.map_eq_ok.1 hsome.symm
    cases hus
    exact .given hfound hmembers ((gives_items hitems).imp fun _ _ h => h.elim fun _ h => h)

/-- A type that is built was built before, or has been read from a record with its properties. -/
theorem gives_type {t : ObjectType} (h : Gives (Building.type around d) (.ok t)) :
    (∃ handle parts, d = .structured "Type" (some handle) parts ∧ around.built handle = some t) ∨
      ∃ r name description leniency ps, Record.ofDatum "Type" d = .ok r ∧ FieldsGive around r ps ∧
        t = ⟨⟨name, description, leniency, ps.map fun (n, p) => (n, p.1)⟩, ⟨ps.map fun (n, p) => (n, p.2), leniency⟩⟩ := by
  unfold Building.type at h
  split at h
  · next handle parts =>
    split at h
    · cases gives_pure h
    · next u hu =>
      obtain ⟨_, _, h⟩ := gives_bind h
      cases gives_pure h
      exact .inl ⟨handle, parts, rfl, hu⟩
  split at h
  · cases gives_pure h
  next r hr =>
  dsimp only at h
  obtain ⟨properties, hproperties, h⟩ := gives_bind h
  split at h
  · cases gives_pure h
  next name description leniency ps _ hread =>
  obtain ⟨t', hfinish, ht⟩ := gives_map h
  cases ht
  obtain rfl := (Reading.both_eq_ok.1 (Record.closing_eq_ok.1 hread).1).2
  refine .inr ⟨r, name, description, leniency, ps, hr, ?_, ObjectType.finish_gives hfinish⟩
  rcases gives_optional hproperties with ⟨hfound, rfl⟩ | ⟨s, v, _, hfound, hread⟩
  · exact .absent hfound
  split at hread
  · cases gives_pure hread
  · next es hes =>
    obtain ⟨read, hentries, hlist⟩ := gives_map hread
    obtain ⟨ps', rfl, rfl⟩ := Reading.map_eq_ok.1 hlist.symm
    exact .given hfound hes ((gives_entries hentries).imp fun _ _ h => ⟨h.1, h.2.elim fun _ h => h⟩)

end Building

theorem Assoc.mem_put {α κ : Type} [DecidableEq κ] {name : κ} {x : α} {a : Assoc α κ} {e : κ × α} (h : e ∈ a.put name x) :
    e = (name, x) ∨ e ∈ a := by
  induction a with
  | nil =>
      unfold put at h
      exact .inl (List.mem_singleton.1 h)
  | cons f rest ih =>
      obtain ⟨n, w⟩ := f
      unfold put at h
      split at h
      · next hn =>
        subst hn
        rcases List.mem_cons.1 h with rfl | h
        · exact .inl rfl
        · exact .inr (List.mem_cons_of_mem _ h)
      · rcases List.mem_cons.1 h with rfl | h
        · exact .inr (List.mem_cons_self ..)
        · rcases ih h with h | h
          · exact .inl h
          · exact .inr (List.mem_cons_of_mem _ h)

theorem Assoc.mem_update {α κ : Type} [DecidableEq κ] {xs : List (κ × α)} {e : κ × α} :
    ∀ {a : Assoc α κ}, e ∈ a.update xs → e ∈ a ∨ e ∈ xs := by
  induction xs with
  | nil => exact fun h => .inl h
  | cons x rest ih =>
      intro a h
      rcases ih (a := a.put x.1 x.2) h with h | h
      · rcases mem_put h with rfl | h
        · exact .inr (List.mem_cons_self ..)
        · exact .inl h
      · exact .inr (List.mem_cons_of_mem _ h)

/-- Whatever stays of a list, when later values replace earlier ones, was in the list. -/
theorem Assoc.mem_ofList {α κ : Type} [DecidableEq κ] {xs : List (κ × α)} {e : κ × α} (h : e ∈ Assoc.ofList xs) : e ∈ xs := by
  rcases mem_update h with h | h
  · cases h
  · exact h

namespace Building

variable {around : Surroundings} {d : Datum} {r : Record}

/-- A type in place is built from a part of the property. -/
theorem InlineGives.held {us : List ObjectType} (h : InlineGives around r (some us)) (hr : d.entries? = some r.entries) :
    ∀ u ∈ us, ∃ x, Relation.TransGen Datum.Holds d x ∧ Gives (Building.type around x) (.ok u) := by
  intro u hu
  cases h with
  | given found members built =>
    obtain ⟨k, hk⟩ := Field.find?_mem found
    obtain ⟨x, hx, hgives⟩ := List.Forall₂.exists_of_mem_right built hu
    exact ⟨x, .head (.entry hr hk) (.single (.item members hx)), hgives⟩

/-- A property is built from a part of the type. -/
theorem FieldsGive.held {ps : List (String × (PropertyDef × PropertyChecker))} (h : FieldsGive around r ps)
    (hr : d.entries? = some r.entries) :
    ∀ p ∈ ps, ∃ x, Relation.TransGen Datum.Holds d x ∧ Gives (Building.property around x) (.ok p.2) := by
  intro p hp
  cases h with
  | absent found => cases hp
  | given found entries built =>
    obtain ⟨k, hk⟩ := Field.find?_mem found
    obtain ⟨⟨k', x⟩, hx, -, hgives⟩ := List.Forall₂.exists_of_mem_right built (Assoc.mem_ofList hp)
    exact ⟨x, .head (.entry hr hk) (.single (.entry entries hx)), hgives⟩

end Building

end ShapeCheck
