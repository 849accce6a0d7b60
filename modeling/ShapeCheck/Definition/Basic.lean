import ShapeCheck.Shape.Record

/-!
# Definitions

A `TypeDef` describes mappings: how lenient it is, and its properties. A `PropertyDef` has a kind, constraints in order,
and perhaps inline types. The arguments of `includes` and `excludes` describe elements: an `ElementDef` is a property
without presence and without inline types. `ElementDef.args_smaller` says that what a description holds is smaller than
the description, so descriptions inside of descriptions come to an end.
-/

namespace ShapeCheck

open Shape

/-- A method with arguments. -/
structure Constraint where
  method : String
  args : List Datum

/-- What an element of an array has to be. -/
structure ElementDef where
  kind : String
  constraints : List Constraint
  description : Option String

/-- How a type treats what it does not declare, and texts that stand for numbers and truth values. -/
structure Leniency where
  allowExtraKeys : Bool := false
  skipFunctions : Bool := false
  saveConversions : Bool := false
  skipConversions : Bool := false
  stripExtraKeys : Bool := false
deriving DecidableEq, Repr

mutual
structure PropertyDef where
  description : Option String
  kind : String
  constraints : List Constraint
  /-- Types of the value itself, given in place. -/
  inlineTypes : Option (List TypeDef)
structure TypeDef where
  name : Option String
  description : Option String
  leniency : Leniency
  properties : List (String × PropertyDef)
end

namespace Field

def method : Field := { name := "method" }
def args : Field := { name := "args" }
def kind : Field := { name := "type", second := some "kind" }
def constraints : Field := { name := "constraints" }
def description : Field := { name := "description" }
def inlineTypes : Field := { name := "typeArgs", second := some "type_args" }
def typeName : Field := { name := "name" }
def allowExtraKeys : Field := { name := "allowExtraKeys", second := some "allow_extra_keys" }
def skipFunctions : Field := { name := "skipFunctions", second := some "skip_functions" }
def saveConversions : Field := { name := "saveConversions", second := some "save_conversions" }
def skipConversions : Field := { name := "skipConversions", second := some "skip_conversions" }
def stripExtraKeys : Field := { name := "stripExtraKeys", second := some "strip_extra_keys" }
def properties : Field := { name := "properties" }

end Field

namespace Constraint

/-- The arguments of a method; they may be a list around the constraint. -/
def arguments (d : Datum) : Reading (List Datum) := Reading.items d.target

/-- A constraint from a record. -/
def ofRecord (r : Record) : Reading Constraint :=
  (r.closing [.method, .args] ((r.required .method Reading.someText).both (r.optional .args [] arguments))).map fun ((method, args), _) => ⟨method, args⟩

/-- The entries of a record of a constraint. Those of a constraint that was made before are its parts. -/
def entries? (d : Datum) : Option (List (Key × Datum)) :=
  match d.target with
  | .structured "Constraint" none [("method", method), ("args", args)] => some [(.text "method", method), (.text "args", args)]
  | d => d.entries?

def read (d : Datum) : Reading Constraint :=
  match entries? d with
  | some es => ofRecord ⟨d, es⟩
  | none => .fail (.notRecord "Constraint") d

end Constraint

/-- A list of constraints. -/
def Reading.constraints (d : Datum) : Reading (List Constraint) := Reading.listOf Constraint.read d.target

/-- A text that may be null. -/
def Reading.note (d : Datum) : Reading (Option String) := Reading.orNull Reading.text d

namespace ElementDef

/-- The description of an element from a record. -/
def ofRecord (r : Record) : Reading ElementDef :=
  (r.closing [.kind, .constraints, .description] ((r.required .kind Reading.someText).both
    ((r.optional .constraints [] Reading.constraints).both (r.optional .description none Reading.note)))).map fun ((kind, constraints, description), _) =>
      ⟨kind, constraints, description⟩

/-- A description of an element, which may be a record around it. -/
def read (d : Datum) : Reading ElementDef :=
  match Record.ofDatum "ElementSpec" d.target with
  | .bad issues => .bad issues
  | .ok r => ofRecord r

/-- The constraints in the description of an element, whatever else stands in it. -/
def constraintsOf (d : Datum) : Reading (List Constraint) :=
  match d.target.entries?.bind Field.constraints.find? with
  | some (_, v) => Reading.constraints v
  | none => .ok []

/-- Whether the constraints of a constraint list that is part of a description lead back without being known: the list
itself, one of its members, or the arguments of one. -/
def constraintsTurn (d : Datum) : Bool :=
  d.isTurn || (d.target.members?.getD []).any fun c => c.isTurn ||
    ((Constraint.entries? c).bind Field.args.find?).any fun (_, args) => args.isTurn

/-- Whether a description leads back to one that it is part of, which is not known by itself. -/
def turns (d : Datum) : Bool :=
  d.isTurn || (d.target.entries?.bind Field.constraints.find?).any fun (_, constraints) => constraintsTurn constraints

end ElementDef

namespace Leniency

def fields : List Field :=
  [.allowExtraKeys, .skipFunctions, .saveConversions, .skipConversions, .stripExtraKeys]

/-- The leniency that a record of a type asks for. -/
def ofRecord (r : Record) : Reading Leniency :=
  let flag (f : Field) : Reading Bool := r.optional f false Reading.bool
  ((flag .allowExtraKeys).both ((flag .skipFunctions).both ((flag .saveConversions).both
    ((flag .skipConversions).both (flag .stripExtraKeys))))).map fun (a, b, c, d, e) => ⟨a, b, c, d, e⟩

end Leniency

/-- The fields of a property. -/
def PropertyDef.fields : List Field := [.description, .kind, .constraints, .inlineTypes]

/-- The fields of a type. -/
def TypeDef.fields : List Field := [.typeName, .description] ++ Leniency.fields ++ [.properties]

/-! ## What is read is smaller than what it is read from -/

theorem Entries.find?_mem {α : Type} {k : Key} {es : List (Key × α)} {v : α} (h : Entries.find? k es = some v) :
    ∃ k', (k', v) ∈ es := by
  induction es with
  | nil => simp [Entries.find?] at h
  | cons p rest ih =>
    obtain ⟨k', w⟩ := p
    by_cases hk : k'.same k = true
    · simp only [Entries.find?, hk, if_true, Option.some.injEq] at h
      exact ⟨k', by simp [h]⟩
    · simp only [Entries.find?, hk] at h
      obtain ⟨k'', hm⟩ := ih h
      exact ⟨k'', List.mem_cons_of_mem _ hm⟩

theorem Field.find?_mem {f : Field} {es : List (Key × Datum)} {s : String} {v : Datum}
    (h : f.find? es = some (s, v)) : ∃ k, (k, v) ∈ es := by
  simp only [Field.find?] at h
  split at h
  · next d hd =>
    simp only [Option.some.injEq, Prod.mk.injEq] at h
    exact Entries.find?_mem (h.2 ▸ hd)
  · next hd =>
    cases hs : f.second with
    | none => simp [hs] at h
    | some t =>
      simp only [hs, Option.bind_some, Option.map_eq_some_iff, Prod.mk.injEq] at h
      obtain ⟨d, hd, _, rfl⟩ := h
      exact Entries.find?_mem hd

theorem Datum.sizeOf_entry {d : Datum} {es : List (Key × Datum)} {k : Key} {v : Datum}
    (h : d.entries? = some es) (hm : (k, v) ∈ es) : sizeOf v < sizeOf d := by
  have hlt := List.sizeOf_lt_of_mem hm
  cases d <;> simp only [Datum.entries?, Option.some.injEq, reduceCtorEq] at h
  all_goals
    subst h
    simp only [Datum.mapping.sizeOf_spec, Datum.readOnly.sizeOf_spec, Prod.mk.sizeOf_spec] at *
    omega

theorem Datum.sizeOf_member {d v : Datum} {xs : List Datum} (h : d.members? = some xs) (hm : v ∈ xs) :
    sizeOf v < sizeOf d := by
  have hlt := List.sizeOf_lt_of_mem hm
  cases d <;> simp only [Datum.members?, Option.some.injEq, reduceCtorEq] at h
  all_goals
    subst h
    simp only [Datum.list.sizeOf_spec, Datum.tuple.sizeOf_spec, Datum.set.sizeOf_spec] at *
    omega

/-- What a mark stands for is part of it. -/
theorem Datum.sizeOf_target_le (d : Datum) : sizeOf d.target ≤ sizeOf d := by
  cases d with
  | @back names trees level =>
    change sizeOf (trees[level]?.getD (@back names trees level)) ≤ _
    cases htree : trees[level]? with
    | none => exact Nat.le_refl _
    | some t =>
      have hlt := List.sizeOf_lt_of_mem (List.mem_of_getElem? htree)
      simp only [Option.getD_some, Datum.back.sizeOf_spec]
      omega
  | _ => exact Nat.le_refl _

theorem Datum.sizeOf_part {sort name : String} {handle : Option TypeHandle} {parts : List (String × Datum)} {v : Datum}
    (hm : (name, v) ∈ parts) : sizeOf v < sizeOf (Datum.structured sort handle parts) := by
  have hlt := List.sizeOf_lt_of_mem hm
  simp only [Datum.structured.sizeOf_spec, Prod.mk.sizeOf_spec] at *
  omega

namespace Record

variable {α : Type}

/-- What a field gives is read from a part of the record. -/
theorem required_eq_ok {r : Record} {f : Field} {x : α} {read : Datum → Reading α} (h : r.required f read = .ok x) :
    ∃ k v, (k, v) ∈ r.entries ∧ read v = .ok x := by
  unfold required at h
  split at h
  · next hfound =>
    obtain ⟨k, hk⟩ := Field.find?_mem hfound
    exact ⟨k, _, hk, Reading.under_eq_ok.1 h⟩
  · cases h

/-- What an optional field gives is read from a part of the record, or stands for a missing one. -/
theorem optional_eq_ok {r : Record} {f : Field} {absent x : α} {read : Datum → Reading α}
    (h : r.optional f absent read = .ok x) :
    x = absent ∨ ∃ k v, (k, v) ∈ r.entries ∧ read v = .ok x := by
  simp only [optional] at h
  split at h
  · next s d hd =>
    obtain ⟨k, hm⟩ := Field.find?_mem hd
    exact .inr ⟨k, d, hm, Reading.under_eq_ok.1 h⟩
  · simp only [Reading.ok.injEq] at h
    exact .inl h.symm

theorem ofDatum_eq_ok {name : String} {d : Datum} {r : Record} (h : ofDatum name d = .ok r) :
    d.entries? = some r.entries := by
  simp only [ofDatum] at h
  split at h
  · next es he =>
    simp only [Reading.ok.injEq] at h
    simp [← h, he]
  · simp [Reading.fail] at h

end Record

theorem Reading.items_eq_ok {d : Datum} {xs : List Datum} (h : Reading.items d = .ok xs) :
    d.members? = some xs := by
  simp only [Reading.items] at h
  split at h
  · next ys hy => simp only [Reading.ok.injEq] at h; rw [hy, h]
  · simp [Reading.fail] at h

theorem Reading.itemsFrom_mem {α : Type} {read : Datum → Reading α} {x : α} {ys : List α} :
    ∀ {i : Nat} {xs : List Datum}, Reading.itemsFrom read i xs = .ok ys → x ∈ ys → ∃ d ∈ xs, read d = .ok x := by
  intro i xs
  induction xs generalizing i ys with
  | nil => intro h hx; simp only [Reading.itemsFrom, Reading.ok.injEq] at h; simp [← h] at hx
  | cons d rest ih =>
    intro h hx
    simp only [Reading.itemsFrom] at h
    obtain ⟨⟨y, zs⟩, hp, rfl⟩ := Reading.map_eq_ok.1 h
    obtain ⟨h1, h2⟩ := Reading.both_eq_ok.1 hp
    rcases List.mem_cons.1 hx with rfl | hx
    · exact ⟨d, by simp, Reading.under_eq_ok.1 h1⟩
    · obtain ⟨e, he, hr⟩ := ih h2 hx
      exact ⟨e, List.mem_cons_of_mem _ he, hr⟩

theorem Reading.listOf_member {α : Type} {read : Datum → Reading α} {d : Datum} {x : α} {ys : List α}
    (h : Reading.listOf read d = .ok ys) (hx : x ∈ ys) : ∃ xs e, d.members? = some xs ∧ e ∈ xs ∧ read e = .ok x := by
  simp only [Reading.listOf] at h
  split at h
  · next xs hxs =>
    obtain ⟨e, he, hr⟩ := Reading.itemsFrom_mem h hx
    exact ⟨xs, e, hxs, he, hr⟩
  · simp [Reading.fail] at h

theorem Reading.listOf_mem {α : Type} {read : Datum → Reading α} {d : Datum} {x : α} {ys : List α}
    (h : Reading.listOf read d = .ok ys) (hx : x ∈ ys) : ∃ e, sizeOf e < sizeOf d ∧ read e = .ok x := by
  obtain ⟨xs, e, hxs, he, hr⟩ := Reading.listOf_member h hx
  exact ⟨e, Datum.sizeOf_member hxs he, hr⟩

namespace Constraint

variable {d : Datum} {c : Constraint}

/-- A record of a constraint is a mapping, or a constraint that was made before. -/
theorem entries?_cases {es : List (Key × Datum)} (h : entries? d = some es) :
    d.target.entries? = some es ∨
      ∃ parts, d.target = .structured "Constraint" none parts ∧ es = parts.map fun p => (.text p.1, p.2) := by
  unfold entries? at h
  split at h
  · next hparts => exact .inr ⟨_, hparts, (Option.some.inj h).symm⟩
  · exact .inl h

theorem entries?_of_mapping {es : List (Key × Datum)} (h : d.target.entries? = some es) : entries? d = some es := by
  unfold entries?
  split
  · next hparts =>
    rw [hparts] at h
    cases h
  · exact h

theorem read_eq_ok (h : read d = .ok c) : ∃ es, entries? d = some es ∧ ofRecord ⟨d, es⟩ = .ok c := by
  unfold read at h
  split at h
  · next es hes => exact ⟨es, hes, h⟩
  · cases h

/-- The arguments of a constraint stand under one entry of its record. -/
theorem args_entry (h : read d = .ok c) {a : Datum} (ha : a ∈ c.args) :
    ∃ es k v, entries? d = some es ∧ (k, v) ∈ es ∧ v.target.members? = some c.args := by
  obtain ⟨es, hes, h⟩ := read_eq_ok h
  obtain ⟨⟨⟨method, args⟩, _⟩, hparts, rfl⟩ := Reading.map_eq_ok.1 h
  have hargs := (Reading.both_eq_ok.1 (Record.closing_eq_ok.1 hparts).1).2
  rcases Record.optional_eq_ok hargs with rfl | ⟨k, v, hv, hitems⟩
  · cases ha
  · exact ⟨es, k, v, hes, hv, Reading.items_eq_ok hitems⟩

/-- The arguments of a constraint are smaller than its record. -/
theorem args_smaller (h : read d = .ok c) {a : Datum} (ha : a ∈ c.args) : sizeOf a < sizeOf d := by
  obtain ⟨es, k, v, hes, hv, hmembers⟩ := args_entry h ha
  have hmember := Datum.sizeOf_member hmembers ha
  have htarget := v.sizeOf_target_le
  have hwhole := d.sizeOf_target_le
  rcases entries?_cases hes with hes | ⟨parts, hparts, rfl⟩
  · have hentry := Datum.sizeOf_entry hes hv
    omega
  · obtain ⟨p, hp, heq⟩ := List.mem_map.1 hv
    cases heq
    have hpart : sizeOf p.2 < sizeOf (Datum.structured "Constraint" none parts) := Datum.sizeOf_part hp
    rw [hparts] at hwhole
    omega

end Constraint

namespace ElementDef

variable {d : Datum} {e : ElementDef}

/-- A description that is read has the constraints that are read by themselves. -/
theorem constraintsOf_eq (h : read d = .ok e) : constraintsOf d = .ok e.constraints := by
  unfold read at h
  split at h
  · cases h
  next r hr =>
  obtain ⟨⟨⟨kind, constraints, description⟩, _⟩, hparts, rfl⟩ := Reading.map_eq_ok.1 h
  have hconstraints := (Reading.both_eq_ok.1 (Reading.both_eq_ok.1 (Record.closing_eq_ok.1 hparts).1).2).1
  unfold constraintsOf
  rw [Record.ofDatum_eq_ok hr, Option.bind_some]
  unfold Record.optional at hconstraints
  cases hfound : Field.constraints.find? r.entries with
  | none =>
    rw [hfound] at hconstraints
    exact hconstraints
  | some found =>
    rw [hfound] at hconstraints
    exact Reading.under_eq_ok.1 hconstraints

/-- The constraints in a description are read from the members of one of its entries. -/
theorem constraints_entry {cs : List Constraint} (h : constraintsOf d = .ok cs) {c : Constraint} (hc : c ∈ cs) :
    ∃ es k v xs x, d.target.entries? = some es ∧ (k, v) ∈ es ∧ v.target.members? = some xs ∧ x ∈ xs ∧
      Constraint.read x = .ok c := by
  unfold constraintsOf at h
  split at h
  · next s v hfound =>
    obtain ⟨es, hes, hv⟩ := Option.bind_eq_some_iff.1 hfound
    obtain ⟨k, hk⟩ := Field.find?_mem hv
    obtain ⟨xs, x, hxs, hx, hread⟩ := Reading.listOf_member h hc
    exact ⟨es, k, v, xs, x, hes, hk, hxs, hx, hread⟩
  · cases h
    cases hc

/-- The arguments of constraints in the description of an element are smaller than the description. -/
theorem constraintsOf_smaller {cs : List Constraint} (h : constraintsOf d = .ok cs) {c : Constraint} (hc : c ∈ cs) {a : Datum}
    (ha : a ∈ c.args) : sizeOf a < sizeOf d := by
  obtain ⟨es, k, v, xs, x, hes, hv, hxs, hx, hread⟩ := constraints_entry h hc
  have harg := Constraint.args_smaller hread ha
  have hmember := Datum.sizeOf_member hxs hx
  have htarget := v.sizeOf_target_le
  have hentry := Datum.sizeOf_entry hes hv
  have hwhole := d.sizeOf_target_le
  omega

/-- The arguments inside the description of an element are smaller than the description. -/
theorem args_smaller (h : read d = .ok e) {c : Constraint} (hc : c ∈ e.constraints) {a : Datum} (ha : a ∈ c.args) :
    sizeOf a < sizeOf d :=
  constraintsOf_smaller (constraintsOf_eq h) hc ha

end ElementDef

end ShapeCheck
