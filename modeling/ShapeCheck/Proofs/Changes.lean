import ShapeCheck.Proofs.Meetings
import ShapeCheck.Proofs.Outcomes
import ShapeCheck.Proofs.Reaching

/-!
# What a validation changes

A validation changes mappings alone, and of a mapping only two things: a type that strips keys takes out entries that it does
not declare, and a type that saves conversions puts in place of a text what the text counts as. `Entries.Changed` says so of
one mapping and goes along a run, since what was put in place of a text is no text, and is lost later only for a reason for
which the text would have been lost (`Entries.Changed.trans`). That a saved value replaces the one that was converted is due
to texts: a check of a text changes nothing, and a value that is no text counts as itself. `Work.validate_changes` is about
whole validations.
-/

namespace ShapeCheck

open Relation

/-! ## Changes of entries -/

/-- Entries before and after, in one order: each one stays, is lost, or has its value replaced. -/
inductive Entries.Changed (lost : Key × Value → Prop) (replaced : String → Value → Value → Prop) :
    List (Key × Value) → List (Key × Value) → Prop
  | nil : Changed lost replaced [] []
  | stay {es fs : List (Key × Value)} (e : Key × Value) (rest : Changed lost replaced es fs) :
      Changed lost replaced (e :: es) (e :: fs)
  | lose {es fs : List (Key × Value)} {e : Key × Value} (reason : lost e) (rest : Changed lost replaced es fs) :
      Changed lost replaced (e :: es) fs
  | replace {es fs : List (Key × Value)} {name : String} {v w : Value} (reason : replaced name v w)
      (rest : Changed lost replaced es fs) : Changed lost replaced ((.text name, v) :: es) ((.text name, w) :: fs)

namespace Entries.Changed

variable {lost : Key × Value → Prop} {replaced : String → Value → Value → Prop} {es fs gs : List (Key × Value)}

theorem refl (es : List (Key × Value)) : Changed lost replaced es es := by
  induction es with
  | nil => exact .nil
  | cons e rest ih => exact .stay e ih

/-- Changes one after the other, where no value is replaced twice, and one that replaced another is lost as that would be. -/
theorem trans (htwice : ∀ {name v w x}, replaced name v w → ¬ replaced name w x)
    (hlost : ∀ {name v w}, replaced name v w → lost (.text name, w) → lost (.text name, v)) (h : Changed lost replaced es fs)
    (h' : Changed lost replaced fs gs) : Changed lost replaced es gs := by
  induction h generalizing gs with
  | nil => exact h'
  | stay e _ ih =>
      cases h' with
      | stay _ rest => exact .stay e (ih rest)
      | lose reason rest => exact .lose reason (ih rest)
      | replace reason rest => exact .replace reason (ih rest)
  | lose reason _ ih => exact .lose reason (ih h')
  | replace reason _ ih =>
      cases h' with
      | stay _ rest => exact .replace reason (ih rest)
      | lose reason' rest => exact .lose (hlost reason reason') (ih rest)
      | replace reason' _ => exact absurd reason' (htwice reason)

/-- Entries that do not pass are lost. -/
theorem filter {p : Key × Value → Bool} (h : ∀ e, p e = false → lost e) (es : List (Key × Value)) :
    Changed lost replaced es (es.filter p) := by
  induction es with
  | nil => exact .nil
  | cons e rest ih =>
      cases hp : p e with
      | true =>
          rw [List.filter_cons_of_pos hp]
          exact .stay e ih
      | false =>
          rw [List.filter_cons_of_neg (by rw [hp]; exact Bool.false_ne_true)]
          exact .lose (h e hp) ih

/-- A value is put in the place of the one that stood there. -/
theorem put {name : String} {v w : Value} (hv : Entries.get? name es = some v) (hvw : replaced name v w) :
    Changed lost replaced es (Entries.put (.text name) w es) := by
  unfold Entries.get? at hv
  induction es with
  | nil => cases hv
  | cons e rest ih =>
      obtain ⟨k, x⟩ := e
      unfold Entries.find? at hv
      unfold Entries.put
      split at hv
      · next hk =>
        cases hv
        rw [if_pos hk, same_text hk]
        exact .replace hvw (.refl rest)
      · next hk =>
        rw [if_neg hk]
        exact .stay _ (ih hv)

/-- Keys that survive keep their order. -/
theorem keys_sublist (h : Changed lost replaced es fs) : (fs.map Prod.fst).Sublist (es.map Prod.fst) := by
  induction h with
  | nil => exact .slnil
  | stay _ _ ih => exact ih.cons_cons _
  | lose _ _ ih => exact ih.cons _
  | replace _ _ ih => exact ih.cons_cons _

/-- An entry after the changes was there before, or replaces one. -/
theorem mem {e : Key × Value} (h : Changed lost replaced es fs) (he : e ∈ fs) :
    e ∈ es ∨ ∃ name v, e.1 = .text name ∧ (.text name, v) ∈ es ∧ replaced name v e.2 := by
  induction h with
  | nil => cases he
  | stay f _ ih =>
      rcases List.mem_cons.1 he with rfl | he
      · exact .inl (List.mem_cons_self ..)
      · exact (ih he).imp (List.mem_cons_of_mem _) fun ⟨name, v, hk, hv, h⟩ => ⟨name, v, hk, List.mem_cons_of_mem _ hv, h⟩
  | lose _ _ ih =>
      exact (ih he).imp (List.mem_cons_of_mem _) fun ⟨name, v, hk, hv, h⟩ => ⟨name, v, hk, List.mem_cons_of_mem _ hv, h⟩
  | replace reason _ ih =>
      rcases List.mem_cons.1 he with rfl | he
      · exact .inr ⟨_, _, rfl, List.mem_cons_self .., reason⟩
      · exact (ih he).imp (List.mem_cons_of_mem _) fun ⟨name, v, hk, hv, h⟩ => ⟨name, v, hk, List.mem_cons_of_mem _ hv, h⟩

end Entries.Changed

/-! ## Changes of stores -/

/-- A content before and after: the same, or a mapping with changed entries. -/
inductive Cell.Changed (lost : Key × Value → Prop) (replaced : String → Value → Value → Prop) : Cell → Cell → Prop
  | same (c : Cell) : Changed lost replaced c c
  | mapping {es fs : List (Key × Value)} (h : Entries.Changed lost replaced es fs) :
      Changed lost replaced (.mapping es) (.mapping fs)

namespace Store

variable {lost : Address → Key × Value → Prop} {replaced : Address → String → Value → Value → Prop}

/-- A store before and after: there are the same containers, and only mappings change. -/
def Changed (lost : Address → Key × Value → Prop) (replaced : Address → String → Value → Value → Prop) (σ ρ : Store) : Prop :=
  ∀ a, Option.Rel (Cell.Changed (lost a) (replaced a)) (σ.read? a) (ρ.read? a)

namespace Changed

variable {σ ρ τ : Store}

theorem refl (σ : Store) : Changed lost replaced σ σ := by
  intro a
  cases σ.read? a with
  | none => exact .none
  | some c => exact .some (.same c)

theorem trans (htwice : ∀ {a name v w x}, replaced a name v w → ¬ replaced a name w x)
    (hlost : ∀ {a name v w}, replaced a name v w → lost a (.text name, w) → lost a (.text name, v))
    (h : Changed lost replaced σ ρ) (h' : Changed lost replaced ρ τ) : Changed lost replaced σ τ := by
  intro a
  have ha := h a
  have ha' := h' a
  generalize σ.read? a = c at ha ⊢
  generalize ρ.read? a = d at ha ha'
  generalize τ.read? a = e at ha' ⊢
  cases ha with
  | none => exact ha'
  | some hcd =>
      cases ha' with
      | some hde =>
          refine .some ?_
          cases hcd with
          | same => exact hde
          | mapping hes =>
              cases hde with
              | same => exact .mapping hes
              | mapping hfs => exact .mapping (hes.trans htwice hlost hfs)

theorem write {a : Address} {es fs : List (Key × Value)} (ha : σ.read? a = some (.mapping es))
    (h : Entries.Changed (lost a) (replaced a) es fs) : Changed lost replaced σ (σ.write a (.mapping fs)) := by
  intro b
  by_cases hab : a = b
  · subst hab
    rw [read?_write_same σ a _ (lt_of_read? ha), ha]
    exact .some (.mapping h)
  · rw [read?_write_other σ _ hab]
    exact refl σ b

theorem missing (h : Changed lost replaced σ ρ) {a : Address} (ha : σ.read? a = none) : ρ.read? a = none := by
  have hrel := h a
  rw [ha] at hrel
  generalize ρ.read? a = d at hrel ⊢
  cases hrel
  rfl

/-- Contents other than mappings stay. -/
theorem other (h : Changed lost replaced σ ρ) {a : Address} {c : Cell} (hc : σ.read? a = some c) (hother : ∀ es, c ≠ .mapping es) :
    ρ.read? a = some c := by
  have hrel := h a
  rw [hc] at hrel
  generalize ρ.read? a = d at hrel ⊢
  cases hrel with
  | some hcd =>
      cases hcd with
      | same => rfl
      | mapping => exact absurd rfl (hother _)

theorem mapping (h : Changed lost replaced σ ρ) {a : Address} {es : List (Key × Value)} (ha : σ.read? a = some (.mapping es)) :
    ∃ fs, ρ.read? a = some (.mapping fs) ∧ Entries.Changed (lost a) (replaced a) es fs := by
  have hrel := h a
  rw [ha] at hrel
  generalize ρ.read? a = d at hrel ⊢
  cases hrel with
  | some hcd =>
      cases hcd with
      | same => exact ⟨es, rfl, .refl es⟩
      | mapping h => exact ⟨_, rfl, h⟩

/-- Entries after the changes go back to entries of the same container. -/
theorem entries? (h : Changed lost replaced σ ρ) {a : Address} {fs : List (Key × Value)}
    (hfs : ρ.entries? (.container a) = some fs) :
    ∃ es, σ.entries? (.container a) = some es ∧ Entries.Changed (lost a) (replaced a) es fs := by
  have hrel := h a
  unfold Store.entries? Store.cell? at hfs ⊢
  dsimp only at hfs ⊢
  generalize σ.read? a = c at hrel ⊢
  generalize ρ.read? a = d at hrel hfs
  cases hrel with
  | none => cases hfs
  | some hcd =>
      cases hcd with
      | same => exact ⟨fs, hfs, .refl fs⟩
      | mapping h =>
          cases hfs
          exact ⟨_, rfl, h⟩

theorem distinctKeys (h : Changed lost replaced σ ρ) (hσ : σ.DistinctKeys) : ρ.DistinctKeys := by
  intro v fs hfs
  obtain ⟨a, rfl⟩ := Store.entries?_eq_some hfs
  obtain ⟨es, hes, hchanged⟩ := h.entries? hfs
  have hdistinct : (es.map Prod.fst).Pairwise fun a b => a.same b = false := List.pairwise_map.2 (hσ _ es hes)
  exact List.pairwise_map.1 (hdistinct.sublist hchanged.keys_sublist)

end Changed

end Store

/-! ## Conversions -/

/-- What a text counts as where a number or a truth value is asked for. -/
inductive Kind.Reads : Kind → String → Value → Prop
  | number {s : String} {n : Number} (read : Number.ofText? s = some n) : Reads .number s (.scalar (.number n))
  | boolean {s : String} {b : Bool} (read : truth? s = some b) : Reads .boolean s (.scalar (.bool b))

theorem Kind.Reads.scalar {k : Kind} {text : String} {x : Value} (h : k.Reads text x) : ∃ y, x = .scalar y := by
  cases h <;> exact ⟨_, rfl⟩

/-- A value that counts as another one is a text, and it is read as that. -/
theorem Kind.convert_reads {k : Kind} {convert : Bool} {σ : Store} {v w : Value} (h : k.convert convert σ v = .ok (some w))
    (hne : w ≠ v) : ∃ s, v = .scalar (.text s) ∧ k.Reads s w := by
  unfold Kind.convert at h
  split at h
  · split at h <;> cases h
    exact absurd rfl hne
  · split at h
    · exact absurd (finite?_eq h).1 hne
    · next s =>
      split at h
      · split at h
        · next hread =>
          obtain ⟨rfl, _⟩ := finite?_eq h
          exact ⟨s, rfl, .number hread⟩
        · cases h
      · cases h
    · cases h
  · split at h
    · cases h
      exact absurd rfl hne
    · next s =>
      split at h
      · cases ht : truth? s <;> rw [ht] at h <;> cases h
        exact ⟨s, rfl, .boolean ht⟩
      · cases h
    · cases h
  · cases hi : σ.items? v <;> rw [hi] at h <;> cases h
    exact absurd rfl hne
  · cases he : σ.entries? v <;> rw [he] at h <;> cases h
    exact absurd rfl hne
  · split at h <;> cases h
    exact absurd rfl hne
  · cases h
    exact absurd rfl hne

/-- A value that a property counts as another one is a text, and it is read as that. -/
theorem PropertyChecker.collect_reads {c : PropertyChecker} {f : Follow} {ctx : Context} {path : Path} {present : Bool}
    {parent : Option Value} {v x : Value} {found : Findings} {r s : Run}
    (h : (c.collect f ctx path present parent v).ending r = (.ok (found, x), s)) (hne : x ≠ v) :
    ∃ text, v = .scalar (.text text) ∧ c.kind.Reads text x :=
  Kind.convert_reads ((PropertyChecker.collect_converts h).resolve_left hne) hne

/-! ## Scalars -/

section Scalars

variable {resolve : Resolver} {p q : Point} {r s : Run} {b : Bool}

/-- From a scalar a run comes to scalars alone. -/
theorem Call.isScalar (h : Call resolve b p r q s) (hp : p.value.isScalar = true) : q.value.isScalar = true := by
  have hno : ∀ {v item : Value} {before after : List Value}, v.isScalar = true →
      (r.store.items? v).getD [] ≠ before ++ item :: after := by
    intro v item before after hv
    cases v with
    | scalar a => exact fun h => by simp [Store.items?, Store.cell?] at h
    | container a => cases hv
  cases h with
  | field hmapping =>
      obtain ⟨es, hes⟩ := Option.isSome_iff_exists.1 hmapping
      obtain ⟨a, rfl⟩ := Store.entries?_eq_some hes
      cases hp
  | rule hearly =>
      rcases Kind.convert_eq (PropertyChecker.early_goOn hearly) with rfl | hw
      · exact hp
      · exact hw.isScalar
  | included hitems => exact absurd hitems (hno hp)
  | excluded hitems => exact absurd hitems (hno hp)
  | reference => exact hp
  | inlineType => exact hp

theorem Reached.isScalar (h : Reached resolve p r b q s) (hp : p.value.isScalar = true) : q.value.isScalar = true := by
  induction h with
  | start => exact hp
  | call _ hcall ih => exact hcall.isScalar ih

/-- The check of a scalar leaves the store as it is. -/
theorem Point.check_scalar (hp : p.value.isScalar = true) : ((p.check resolve).ending r).2.store = r.store :=
  Account.still_check (Account.still_lawful fun hreached => nomatch hreached.isScalar hp)

end Scalars

/-! ## Changes along a run -/

section Runs

variable (resolve : Resolver) (start : Point) (first : Run)

/-- A run applies a type to a container. -/
def TypeChecker.AppliedIn (t : TypeChecker) (a : Address) : Prop :=
  ∃ b n ctx path r, Reached resolve start first b (.type n ctx path t (.container a)) r

/-- An entry may be lost: a type is applied that strips keys and does not declare this one, and if it lets functions be, the
value is none. -/
inductive Loses (a : Address) (e : Key × Value) : Prop
  | strips {t : TypeChecker} (applied : t.AppliedIn resolve start first a) (strips : t.leniency.stripExtraKeys = true)
      (undeclared : ∀ p ∈ t.properties, e.1.text? ≠ some p.1)
      (noFunction : ¬ (t.leniency.skipFunctions = true ∧ isFunction e.2 = true)) : Loses a e

/-- A value may be replaced: a type is applied that saves conversions and declares a number or a truth value under the key,
the value is a text, and it is replaced by what it is read as. -/
inductive Replaces (a : Address) (name : String) : Value → Value → Prop
  | saves {t : TypeChecker} {c : PropertyChecker} {text : String} {w : Value} (applied : t.AppliedIn resolve start first a)
      (saves : t.leniency.saveConversions = true) (converts : t.leniency.skipConversions = false)
      (declared : (name, c) ∈ t.properties) (read : c.kind.Reads text w) : Replaces a name (.scalar (.text text)) w

/-- The store changes as the types of a run say, from a store in which no mapping has a key twice. -/
def Account.changes : Account := fun _ r _ s =>
  r.store.DistinctKeys → r.store.Changed (Loses resolve start first) (Replaces resolve start first) s.store

variable {resolve start first}

theorem isStray_iff {leniency : Leniency} {names : List String} {e : Key × Value} :
    isStray leniency names e = true ↔
      (∀ name ∈ names, e.1.text? ≠ some name) ∧ ¬ (leniency.skipFunctions = true ∧ isFunction e.2 = true) := by
  unfold isStray
  rw [Bool.and_eq_true, Bool.not_eq_true', Bool.not_eq_true', ← Bool.not_eq_true, ← Bool.not_eq_true, Bool.and_eq_true]
  refine and_congr_left fun _ => ?_
  cases e.1.text? with
  | none => simp
  | some s => simpa using ⟨fun h name hname heq => h (heq ▸ hname), fun h hs => h s hs rfl⟩

theorem Kind.Reads.not_text {k : Kind} {s text : String} (h : k.Reads s (.scalar (.text text))) : False := by
  cases h

theorem Replaces.not_twice {a : Address} {name : String} {v w x : Value} (h : Replaces resolve start first a name v w) :
    ¬ Replaces resolve start first a name w x := by
  obtain ⟨_, _, _, _, read⟩ := h
  rintro ⟨⟩
  exact read.not_text

theorem Replaces.loses {a : Address} {name : String} {v w : Value} (h : Replaces resolve start first a name v w)
    (hw : Loses resolve start first a (.text name, w)) : Loses resolve start first a (.text name, v) := by
  obtain ⟨applied, strips, undeclared, _⟩ := hw
  refine .strips applied strips undeclared fun hfunction => ?_
  cases h
  cases hfunction.2

theorem Store.under?_of_mapping {σ : Store} {a : Address} {es : List (Key × Value)} (h : σ.read? a = some (.mapping es))
    (name : String) : σ.under? (.container a) name = Entries.get? name es := by
  unfold Store.under? Store.entries?
  rw [show σ.cell? (.container a) = some (.mapping es) from h]
  rfl

/-- What stands under a key after changes stood there before, or replaces the text that did. -/
theorem Store.Changed.get? {σ ρ : Store} {lost : Address → Key × Value → Prop} {replaced : Address → String → Value → Value → Prop}
    (h : σ.Changed lost replaced ρ) (hσ : σ.DistinctKeys) {a : Address} {name : String} {v w : Value}
    (hv : σ.under? (.container a) name = some v) (hw : ρ.under? (.container a) name = some w) : w = v ∨ replaced a name v w := by
  obtain ⟨fs, hfs, hw⟩ := Option.bind_eq_some_iff.1 hw
  obtain ⟨es, hes, hchanged⟩ := h.entries? hfs
  unfold Store.under? at hv
  rw [hes] at hv
  have honly : ∀ {x}, (.text name, x) ∈ es → x = v := fun hx => Option.some.inj ((hσ.get? hes hx).symm.trans hv)
  rcases hchanged.mem (Entries.mem_of_get? hw) with hx | ⟨other, x, hk, hx, hreplaced⟩
  · exact .inl (honly hx)
  · obtain rfl : name = other := by
      injection hk with hk
      injection hk
    exact .inr (honly hx ▸ hreplaced)

/-- A saved conversion replaces the text that was converted. For the check of a scalar changes nothing, and a container counts
as itself, and is not replaced meanwhile. -/
theorem Account.changes_save {n : Nat} {ctx : Context} {path : Path} {t : TypeChecker} {a : Address} {name : String}
    {c : PropertyChecker} {w x current : Value} {s s' : Run} {es : List (Key × Value)}
    (happlied : t.AppliedIn resolve start first a) (hdeclared : (name, c) ∈ t.properties)
    (hsaves : t.leniency.saveConversions = true) (hconverts : t.leniency.skipConversions = false)
    (hw : s.store.under? (.container a) name = some w)
    (hends : (c.collect (follow resolve n) ctx path true (some (.container a)) w).ending s = (.ok ([], x), s'))
    (htold : Account.changes resolve start first true s [] s') (hread : s'.store.read? a = some (.mapping es))
    (hget : Entries.get? name es = some current) (hne : current ≠ x) :
    Account.changes resolve start first true s [] { s' with store := s'.store.write a (.mapping (Entries.put (.text name) x es)) } := by
  intro hdistinct
  have hchanged := htold hdistinct
  cases w with
  | container d =>
      have hx : x = .container d := by
        by_contra hxw
        obtain ⟨text, htext, _⟩ := PropertyChecker.collect_reads hends hxw
        cases htext
      have hcurrent : s'.store.under? (.container a) name = some current := (Store.under?_of_mapping hread name).trans hget
      rcases hchanged.get? hdistinct hw hcurrent with hcurrent | hreplaced
      · exact absurd (hcurrent.trans hx.symm) hne
      · cases hreplaced
  | scalar y =>
      have hstore : s'.store = s.store := by
        have hcheck : ((Point.check resolve (.property n ctx path true (some (.container a)) c (.scalar y))).ending s).2.store =
            s.store := Point.check_scalar rfl
        rw [Point.check_property_run, hends] at hcheck
        exact hcheck
      rw [hstore] at hread ⊢
      rw [Store.under?_of_mapping hread, hget] at hw
      obtain rfl : current = .scalar y := Option.some.inj hw
      obtain ⟨text, htext, hreads⟩ := PropertyChecker.collect_reads hends fun h => hne h.symm
      cases htext
      exact Store.Changed.write hread (.put hget (.saves happlied hsaves hconverts hdeclared hreads))

theorem Account.changes_lawful : (Account.changes resolve start first).Lawful resolve start first where
  refl _ := .refl _
  append h h' hr := (h hr).trans Replaces.not_twice Replaces.loses (h' ((h hr).distinctKeys hr))
  forget h := h
  plain h _ := h
  strip {b n ctx path t a r es} hp hstrips hread _ := by
    refine Store.Changed.write hread (.filter (fun e he => ?_) es)
    rw [Bool.not_eq_false'] at he
    obtain ⟨undeclared, noFunction⟩ := isStray_iff.1 he
    exact .strips ⟨b, n, ctx, path, r, hp⟩ hstrips (fun p hp => undeclared _ (List.mem_map_of_mem hp)) noFunction
  save {b n ctx path t a r _ _ _ _ _ _ _ _} hp hc hsaves hconverts _ hw hends htold hread hget hne :=
    Account.changes_save ⟨b, n, ctx, path, r, hp⟩ hc hsaves hconverts hw hends htold hread hget hne
  meet _ _ _ := .refl _
  leave _ _ _ := .refl _

end Runs

/-! ## Whole validations -/

/-- A whole run changes the store as its types say. -/
theorem TypeChecker.validate_changed {σ : Store} (hσ : σ.DistinctKeys) (t : TypeChecker) (resolve : Resolver) (maxDepth : Int)
    (v : Value) : σ.Changed (Loses resolve (.whole t maxDepth v) { store := σ })
      (Replaces resolve (.whole t maxDepth v) { store := σ }) (t.validate resolve maxDepth v σ).run.store := by
  have htold := (Account.changes_lawful : Account.Lawful _ resolve (.whole t maxDepth v) { store := σ }).whole
  rw [TypeChecker.validate_eq]
  rcases hends : ((Point.whole t maxDepth v).check resolve).ending { store := σ } with ⟨e | found, s⟩
  all_goals
    rw [hends] at htold
    exact htold hσ

/-- **What a validation changes.** For any type, resolver and bound, and any store in which no mapping has a key twice, with
shared containers and cycles or not, compare the store before and after, whatever the validation ends with. There are the
same containers. Lists, tuples, sets and read-only mappings are as before. A mapping has lost an entry only if a type was
applied to it that strips keys and does not declare that one, unless that type lets functions be and the value is one. It has
another value under a key only if the old one is a text, a type was applied to it that saves conversions and declares a number
or a truth value under the key, and the new value is what the text is read as. Entries that survive keep their order. If no
type that the type leads to strips keys or saves conversions, the store is as before. -/
theorem Work.validate_changes {t : ObjectType} {resolve : Resolver} {maxDepth : Option Int} {v : Value} {w : Workspace} {n : Int}
    (hn : Work.bound? maxDepth w = some n) (hkeys : w.store.DistinctKeys) :
    let after := ((Work.validate t resolve maxDepth v).ending w).2.store
    let start := Point.whole t.checker n v
    (∀ a, w.store.read? a = none → after.read? a = none) ∧
    (∀ a c, w.store.read? a = some c → (∀ es, c ≠ .mapping es) → after.read? a = some c) ∧
    (∀ a es, w.store.read? a = some (.mapping es) → ∃ fs, after.read? a = some (.mapping fs) ∧
      Entries.Changed (Loses resolve start { store := w.store } a) (Replaces resolve start { store := w.store } a) es fs) ∧
    ((∀ u, t.checker.Reaches resolve u → u.Keeps) → after = w.store) := by
  intro after start
  have hafter : after = (t.checker.validate resolve n v w.store).run.store := Work.validate_store hn
  have hchanged := TypeChecker.validate_changed hkeys t.checker resolve n v
  rw [← hafter] at hchanged
  refine ⟨fun a ha => hchanged.missing ha, fun a c hc hother => hchanged.other hc hother, fun a es hes => hchanged.mapping hes,
    fun hkeep => ?_⟩
  rw [hafter, TypeChecker.validate_eq]
  exact Point.check_store (show start.Inside (Territory.keeping resolve) from hkeep)

/-! A mapping with a numeral where a number is declared, and with a key that is not declared. -/

def cleaningData : Datum :=
  .record [("stripExtraKeys", .bool true), ("saveConversions", .bool true),
    ("properties", .record [("n", .record [("type", .text "Number"), ("constraints", .list [])])])]

def cleaningType : ObjectType := (ObjectType.ofDatum? cleaningData).get (by decide +kernel)

def numeralWork : Workspace where
  clock := ⟨default, ""⟩
  files := ⟨"/", []⟩
  store := ⟨#[.mapping [(.text "m", .scalar (.int 1)), (.text "n", .scalar (.text "12"))]]⟩

theorem numeralWork_distinctKeys : numeralWork.store.DistinctKeys := by
  intro v es hes
  match v, hes with
  | .container 0, hes =>
      cases hes
      refine List.pairwise_pair.2 ?_
      decide +kernel
  | .container (a + 1), hes => cases hes

example : (((Work.validate cleaningType (fun _ => none) (some 64) (.container 0)).ending numeralWork).2.store.entries?
    (.container 0)).map (List.map Prod.snd) = some [.scalar (.int 12)] := by decide +kernel

theorem cleaningType_changes :
    let after := ((Work.validate cleaningType (fun _ => none) (some 64) (.container 0)).ending numeralWork).2.store
    let start := Point.whole cleaningType.checker 64 (.container 0)
    (∀ a, numeralWork.store.read? a = none → after.read? a = none) ∧
    (∀ a c, numeralWork.store.read? a = some c → (∀ es, c ≠ .mapping es) → after.read? a = some c) ∧
    (∀ a es, numeralWork.store.read? a = some (.mapping es) → ∃ fs, after.read? a = some (.mapping fs) ∧
      Entries.Changed (Loses (fun _ => none) start { store := numeralWork.store } a)
        (Replaces (fun _ => none) start { store := numeralWork.store } a) es fs) ∧
    ((∀ u, cleaningType.checker.Reaches (fun _ => none) u → u.Keeps) → after = numeralWork.store) :=
  Work.validate_changes rfl numeralWork_distinctKeys

end ShapeCheck
