import Mathlib.Data.List.Nodup
import ShapeCheck.Proofs.Constraints

/-!
# The names of properties

No type that is built declares a key twice, and neither do the types that stand in place inside of it: names are gathered
in lists in which a later value replaces an earlier one.
-/

namespace ShapeCheck

namespace Assoc

variable {α κ : Type} [DecidableEq κ]

theorem nodup_put {a : Assoc α κ} (h : a.names.Nodup) (name : κ) (x : α) : (a.put name x).names.Nodup := by
  rw [names_put]
  split
  · exact h
  · next hname => exact List.nodup_append.2 ⟨h, List.nodup_singleton name, fun n hn m hm heq => hname (by
      obtain rfl := List.mem_singleton.1 hm
      exact heq ▸ hn)⟩

theorem nodup_update {xs : List (κ × α)} : ∀ {a : Assoc α κ}, a.names.Nodup → (a.update xs).names.Nodup := by
  induction xs with
  | nil => exact id
  | cons x rest ih => exact fun h => ih (nodup_put h x.1 x.2)

theorem nodup_ofList (xs : List (κ × α)) : (Assoc.ofList xs).names.Nodup := nodup_update List.nodup_nil

theorem put_of_not_mem {name : κ} {a : Assoc α κ} (h : name ∉ a.names) (x : α) : a.put name x = a ++ [(name, x)] := by
  induction a with
  | nil => rfl
  | cons p rest ih =>
    obtain ⟨n, w⟩ := p
    obtain ⟨hn, hrest⟩ := not_or.1 (mt List.mem_cons.2 h)
    rw [put, if_neg (Ne.symm hn), ih hrest, List.cons_append]

/-- A list in which no name stands twice stays as it is. -/
theorem ofList_of_nodup {xs : List (κ × α)} (h : (names xs).Nodup) : Assoc.ofList xs = xs := by
  have happend : ∀ (xs : List (κ × α)) (a : Assoc α κ), (names (a ++ xs)).Nodup → a.update xs = a ++ xs := by
    intro xs
    induction xs with
    | nil => exact fun a _ => (List.append_nil a).symm
    | cons x rest ih =>
      intro a ha
      have hx : x.1 ∉ a.names := by
        rw [names, List.map_append, List.nodup_append] at ha
        exact fun hmem => ha.2.2 x.1 hmem x.1 (List.mem_cons_self ..) rfl
      rw [List.append_cons] at ha ⊢
      rw [← ih _ ha, ← put_of_not_mem hx x.2]
      rfl
  exact happend xs [] h

theorem get?_map {β : Type} (f : κ → α → β) (name : κ) (a : Assoc α κ) :
    Assoc.get? name (a.map fun (n, x) => (n, f n x)) = (a.get? name).map (f name) := by
  induction a with
  | nil => rfl
  | cons p rest ih =>
    obtain ⟨n, x⟩ := p
    rw [List.map_cons, get?, get?, ih]
    split
    · next hn =>
      subst hn
      rfl
    · rfl

end Assoc

/-- The types in place of a property declare no key twice. -/
def PropertyChecker.NamesInside (c : PropertyChecker) : Prop := ∀ u, .inlineType u ∈ c.rules → (u.properties.map Prod.fst).Nodup

/-- No key is declared twice, by a type or by those in place inside of it. -/
structure TypeChecker.Named (t : TypeChecker) : Prop where
  own : (t.properties.map Prod.fst).Nodup
  inside : t.Every PropertyChecker.NamesInside

/-- The types in place of a property declare no key twice, however deep they stand. -/
theorem PropertyChecker.named_of_every {c : PropertyChecker} (h : c.Every PropertyChecker.NamesInside) {t : TypeChecker}
    (ht : .inlineType t ∈ c.rules) : t.Named := by
  obtain ⟨hown, hrules⟩ := PropertyChecker.every_iff.1 h
  exact ⟨hown t ht, Rule.every_inlineType.1 (hrules _ ht)⟩

variable {legal : Capabilities → Prop}

/-- Constraints bring in no inline types. -/
theorem PropertyChecker.namesInside_accrues (legal : Capabilities → Prop) : Accrues legal PropertyChecker.NamesInside where
  ofKind _ _ h := nomatch h
  constraint _ _ _ _ happly hc u hu := by
    rcases Method.apply_cases happly with ⟨_, rfl⟩ | ⟨r, hr, rfl⟩
    · rw [Method.adjust_rules] at hu
      exact hc u hu
    · rw [PropertyChecker.addRule_rules] at hu
      rcases List.mem_append.1 hu with hu | hu
      · exact hc u hu
      · cases List.mem_singleton.1 hu
        cases hr

theorem Capabilities.compileProperty_named {caps : Capabilities} {kindName : String} {constraints : List Constraint}
    {inlineTypes : Option (List TypeChecker)} {c : PropertyChecker} (htypes : ∀ ts ∈ inlineTypes, ∀ t ∈ ts, t.Named)
    (h : caps.compileProperty kindName constraints inlineTypes = .ok c) : c.Every PropertyChecker.NamesInside := by
  obtain ⟨kind, checker, _, hcs, hc⟩ := compileProperty_eq_ok h
  have haccrues := PropertyChecker.namesInside_accrues (· = caps)
  have hevery := (compileConstraints_every haccrues rfl (fun k hk a ha m e he => compileElement_every haccrues rfl a m e he) hcs).2
  rcases hc with ⟨_, rfl⟩ | ⟨t, rfl, _, _, rfl⟩
  · exact hevery
  · have ht := htypes [t] rfl t (List.mem_singleton_self _)
    obtain ⟨hinside, hrules⟩ := PropertyChecker.every_iff.1 hevery
    rw [PropertyChecker.every_iff, PropertyChecker.NamesInside, PropertyChecker.addRule_rules]
    refine ⟨fun u hu => ?_, fun r hr => ?_⟩
    · rcases List.mem_append.1 hu with hu | hu
      · exact hinside u hu
      · cases List.mem_singleton.1 hu
        exact ht.own
    · rcases List.mem_append.1 hr with hr | hr
      · exact hrules r hr
      · obtain rfl := List.mem_singleton.1 hr
        exact Rule.every_inlineType.2 ht.inside

section

variable {around : Surroundings}

/-- Under each name there is one property. -/
theorem Building.FieldsGive.nodup {r : Record} {ps : List (String × (PropertyDef × PropertyChecker))}
    (h : Building.FieldsGive around r ps) : (ps.map Prod.fst).Nodup := by
  cases h with
  | absent => exact List.nodup_nil
  | given => exact Assoc.nodup_ofList _

mutual
theorem Building.property_named (hbefore : ∀ handle u, around.built handle = some u → u.checker.Named) (d : Datum)
    {p : PropertyDef × PropertyChecker} (h : Gives (Building.property around d) (.ok p)) :
    p.2.Every PropertyChecker.NamesInside := by
  rcases gives_property h with ⟨handle, _, q, _, hq, _, hcompile⟩ |
    ⟨r, _, kind, constraints, inlineTypes, hr, _, _, hinline, _, hcompile⟩
  · obtain ⟨u, name, hu, -, hmem⟩ := handle.property?_mem hq
    have hevery := PropertyChecker.everyOfFields_iff.1 (hbefore handle u hu).inside _ hmem
    refine Capabilities.compileProperty_named (fun ts hts t ht => ?_) hcompile
    obtain ⟨_, -, rfl⟩ := Option.map_eq_some_iff.1 hts
    exact PropertyChecker.named_of_every hevery (PropertyChecker.mem_inlineTypes.1 ht)
  refine Capabilities.compileProperty_named (fun ts hts u hu => ?_) hcompile
  obtain ⟨types, rfl, rfl⟩ := Option.map_eq_some_iff.1 hts
  obtain ⟨t, ht, rfl⟩ := List.mem_map.1 hu
  obtain ⟨x, hheld, hx⟩ := hinline.held (Record.ofDatum_eq_ok hr) t ht
  have hsmaller := Datum.sizeOf_held hheld
  exact Building.type_named hbefore x hx
termination_by sizeOf d
theorem Building.type_named (hbefore : ∀ handle u, around.built handle = some u → u.checker.Named) (d : Datum)
    {t : ObjectType} (h : Gives (Building.type around d) (.ok t)) : t.checker.Named := by
  rcases gives_type h with ⟨handle, _, _, hbuilt⟩ | ⟨r, _, _, _, ps, hr, hfields, rfl⟩
  · exact hbefore handle t hbuilt
  · refine ⟨?_, PropertyChecker.everyOfFields_iff.2 fun q hq => ?_⟩
    · rw [List.map_map]
      exact hfields.nodup
    · obtain ⟨p, hp, rfl⟩ := List.mem_map.1 hq
      obtain ⟨x, hheld, hx⟩ := hfields.held (Record.ofDatum_eq_ok hr) p hp
      have hsmaller := Datum.sizeOf_held hheld
      exact Building.property_named hbefore x hx
termination_by sizeOf d
end

/-- **No key is declared twice** by a type that is built, nor by the types in place inside of it. -/
theorem ObjectType.Built.named {t : ObjectType} (h : t.Built legal) : t.checker.Named := by
  induction h with
  | build _ _ hresult ih => exact Building.type_named ih _ ⟨_, hresult⟩
  | rename _ _ ih => exact ih

end

end ShapeCheck
