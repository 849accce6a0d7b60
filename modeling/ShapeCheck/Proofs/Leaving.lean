import ShapeCheck.Proofs.Fields
import ShapeCheck.Proofs.Trials

/-!
# What checks leave

How a check ends depends on the store, and not on what its run noted before (`Check.OfStore`). So a check that ends in no
fault is a relation of stores, `Check.Leaves`: from one store it comes to a result and leaves another one. A check of a
property changes what its value leads to and nothing else (`Store.ChangedBelow`), and if it leaves a store as it is, then it
does so in every store that is the same there (`PropertyChecker.leaves_elsewhere`).
-/

namespace ShapeCheck

open Relation

/-! ## Checks as relations of stores -/

namespace Check

variable {α β : Type}

/-- From every run with one store a check comes to a result, and leaves another store. -/
def Leaves (c : Check α) (σ : Store) (x : α) (τ : Store) : Prop :=
  ∀ r : Run, r.store = σ → ∃ s : Run, c.ending r = (.ok x, s) ∧ s.store = τ

/-- How a check ends depends on the store alone. -/
def OfStore (c : Check α) : Prop := ∀ r s : Run, s.store = r.store → Alike (c.ending r) (c.ending s)

variable {c : Check α} {k : α → Check β} {σ τ ρ : Store} {x : α} {y : β}

theorem OfStore.leaves (h : c.OfStore) {r s : Run} (hends : c.ending r = (.ok x, s)) : c.Leaves r.store x s.store := by
  intro r' hr'
  have halike := h r r' hr'
  rw [hends] at halike
  generalize c.ending r' = z at halike ⊢
  cases halike with
  | done _ hstore => exact ⟨_, rfl, hstore⟩

theorem OfStore.pure (x : α) : OfStore (Pure.pure x) := fun _ _ hr => .pure trivial hr

theorem OfStore.bind (hc : c.OfStore) (hk : ∀ x, (k x).OfStore) : (c >>= k).OfStore :=
  fun _ _ hr => (hc _ _ hr).bind fun x _ _ _ _ hr => hk x _ _ hr

theorem leaves_pure {x' : α} : (Pure.pure x : Check α).Leaves σ x' τ ↔ x' = x ∧ τ = σ := by
  constructor
  · intro h
    obtain ⟨s, hs, rfl⟩ := h { store := σ } rfl
    cases hs
    exact ⟨rfl, rfl⟩
  · rintro ⟨rfl, rfl⟩ r rfl
    exact ⟨r, rfl, rfl⟩

theorem leaves_store {k : Store → Check β} : (Check.store >>= k).Leaves σ y τ ↔ (k σ).Leaves σ y τ := by
  refine forall_congr' fun r => forall_congr' fun hr => ?_
  rw [ending_bind_ok (ending_store r), hr]

theorem leaves_ofExcept {e : Except Fault α} : (Check.ofExcept e >>= k).Leaves σ y τ ↔ ∃ x, e = .ok x ∧ (k x).Leaves σ y τ := by
  cases e with
  | ok x =>
      rw [show Check.ofExcept (.ok x) = Pure.pure x from rfl, pure_bind]
      exact ⟨fun h => ⟨x, rfl, h⟩, fun ⟨_, hx, h⟩ => by cases hx; exact h⟩
  | error e =>
      refine ⟨fun h => ?_, fun ⟨_, he, _⟩ => nomatch he⟩
      obtain ⟨s, hs, _⟩ := h { store := σ } rfl
      cases hs

theorem Leaves.bind (hc : c.Leaves σ x τ) (hk : (k x).Leaves τ y ρ) : (c >>= k).Leaves σ y ρ := by
  intro r hr
  obtain ⟨s, hs, hstore⟩ := hc r hr
  rw [ending_bind_ok hs]
  exact hk s hstore

theorem OfStore.record (e : RunEvent) : OfStore (Check.record e) := fun _ _ hr => .done trivial hr

theorem leaves_record {e : RunEvent} {k : Unit → Check β} (hk : (k ()).OfStore) :
    (Check.record e >>= k).Leaves σ y τ ↔ (k ()).Leaves σ y τ := by
  constructor
  · intro h
    obtain ⟨s, hs, rfl⟩ := h { store := σ } rfl
    rw [ending_bind_ok (ending_record e _)] at hs
    exact hk.leaves hs
  · intro h r hr
    rw [ending_bind_ok (ending_record e r)]
    exact h _ hr

/-- A check in two steps leaves what the second one leaves of what the first one does. -/
theorem OfStore.leaves_bind (hc : c.OfStore) (hk : ∀ x, (k x).OfStore) (h : (c >>= k).Leaves σ y ρ) :
    ∃ x τ, c.Leaves σ x τ ∧ (k x).Leaves τ y ρ := by
  obtain ⟨s, hs, rfl⟩ := h { store := σ } rfl
  obtain ⟨x, r, hx, hy⟩ := ending_bind_eq_ok hs
  exact ⟨x, r.store, hc.leaves hx, (hk x).leaves hy⟩

/-- Findings of two checks after each other. -/
theorem OfStore.leaves_append {c d : Check Findings} (hc : c.OfStore) (hd : d.OfStore)
    (h : (do let found ← c; return found ++ (← d)).Leaves σ [] ρ) : ∃ τ, c.Leaves σ [] τ ∧ d.Leaves τ [] ρ := by
  obtain ⟨found, τ, hfound, h⟩ := hc.leaves_bind (fun _ => hd.bind fun _ => .pure _) h
  obtain ⟨others, _, hothers, h⟩ := hd.leaves_bind (fun _ => .pure _) h
  obtain ⟨hnil, rfl⟩ := leaves_pure.1 h
  obtain ⟨rfl, rfl⟩ := List.append_eq_nil_iff.1 hnil.symm
  exact ⟨τ, hfound, hothers⟩

theorem Leaves.append {c d : Check Findings} (hc : c.Leaves σ [] τ) (hd : d.Leaves τ [] ρ) :
    (do let found ← c; return found ++ (← d)).Leaves σ [] ρ :=
  hc.bind (hd.bind (leaves_pure.2 ⟨rfl, rfl⟩))

end Check

section OfStore

variable {resolve : Resolver} {n : Nat} {ctx : Context} {path : Path} {v : Value}

open Check

theorem PropertyChecker.collect_ofStore (c : PropertyChecker) {present : Bool} {parent : Option Value} :
    (c.collect (follow resolve n) ctx path present parent v).OfStore := fun _ _ hr => c.collect_alike hr

theorem TypeChecker.collect_ofStore (t : TypeChecker) : (t.collect (follow resolve n) ctx path v).OfStore :=
  fun _ _ hr => t.collect_alike (fun hr => follow_alike resolve n hr) hr

theorem Rule.run_ofStore (x : Rule) : (x.run (follow resolve n) ctx path v).OfStore := by
  intro r s hr
  have hlawful : (Keeping.alike (follow resolve n) ctx).Lawful := Keeping.alike_lawful fun hr => follow_alike resolve n hr
  have hrule : x ∈ ({ PropertyChecker.ofKind .any with rules := [x] } : PropertyChecker).rules := List.mem_singleton_self x
  exact (Rule.run_ends hlawful x trivial hrule (fun _ _ => trivial) hr trivial fun _ => trivial).mono (fun _ _ => trivial)
    fun _ _ h => h

theorem Rule.runAll_ofStore (rules : List Rule) : (Rule.runAll (follow resolve n) ctx path rules v).OfStore := by
  induction rules with
  | nil =>
      rw [Rule.runAll]
      exact .pure _
  | cons x rest ih =>
      rw [Rule.runAll]
      exact x.run_ofStore.bind fun _ => ih.bind fun _ => .pure _

theorem eachItem_ofStore {check : Path → Value → Check Findings} (h : ∀ p item, (check p item).OfStore) (items : List Value) :
    ∀ i, (eachItem path check i items).OfStore := by
  induction items with
  | nil => exact fun _ => .pure _
  | cons item rest ih => exact fun i => (h _ item).bind fun _ => (ih (i + 1)).bind fun _ => .pure _

theorem PropertyChecker.attempts_ofStore (cs : List PropertyChecker) :
    (PropertyChecker.attempts (follow resolve n) ctx path cs v).OfStore := by
  induction cs with
  | nil =>
      rw [attempts]
      exact .pure _
  | cons c rest ih =>
      rw [attempts]
      exact c.collect_ofStore.bind fun _ => ih.bind fun _ => .pure _

theorem PropertyChecker.someAccepts_ofStore (cs : List PropertyChecker) :
    (PropertyChecker.someAccepts (follow resolve n) ctx path cs v).OfStore := by
  induction cs with
  | nil =>
      rw [someAccepts]
      exact .pure _
  | cons c rest ih =>
      rw [someAccepts]
      refine c.collect_ofStore.bind fun x => ?_
      dsimp only
      split
      · exact .pure _
      · exact ih

end OfStore

/-! ## Stores that are the same below a value -/

namespace Store

variable {σ τ : Store} {v w : Value}

theorem contains_congr (h : τ.cell? v = σ.cell? v) : τ.Contains v w ↔ σ.Contains v w := by
  unfold Contains
  rw [h]

/-- Where the containers that a value leads to are the same, so are the contents of the values that it leads to. -/
theorem cell?_below (h : ∀ b, ReflTransGen σ.Contains v (.container b) → τ.read? b = σ.read? b)
    (hw : ReflTransGen σ.Contains v w) : τ.cell? w = σ.cell? w := by
  cases w with
  | scalar x => rfl
  | container b => exact h b hw

/-- What a value leads to depends on the containers that it leads to alone. -/
theorem reaches_congr (h : ∀ b, ReflTransGen σ.Contains v (.container b) → τ.read? b = σ.read? b) :
    ReflTransGen τ.Contains v w ↔ ReflTransGen σ.Contains v w := by
  constructor
  · intro hw
    induction hw with
    | refl => exact .refl
    | tail _ hxy ih => exact ih.tail ((contains_congr (cell?_below h ih)).1 hxy)
  · intro hw
    induction hw with
    | refl => exact .refl
    | tail hx hxy ih => exact ih.tail ((contains_congr (cell?_below h hx)).2 hxy)

theorem Unshared.congr (hv : σ.Unshared v) (h : ∀ b, ReflTransGen σ.Contains v (.container b) → τ.read? b = σ.read? b) :
    τ.Unshared v := by
  have hbelow : ∀ {x}, ReflTransGen σ.Contains v x → ∀ b, ReflTransGen σ.Contains x (.container b) → τ.read? b = σ.read? b :=
    fun hx b hb => h b (hx.trans hb)
  refine ⟨fun x hx hcycle => ?_, fun {a c} ha hc => ?_⟩
  · have hx := (reaches_congr h).1 hx
    obtain ⟨y, hxy, hyx⟩ := TransGen.tail'_iff.1 hcycle
    have hxy : ReflTransGen σ.Contains x y := (reaches_congr (hbelow hx)).1 hxy
    have hyx : σ.Contains y x := (contains_congr (cell?_below h (hx.trans hxy))).1 hyx
    exact hv.acyclic x hx (TransGen.tail' hxy hyx)
  · have ha := (reaches_congr h).1 ha
    rw [h a ha] at hc
    refine (hv.apart ha hc).imp_of_mem fun {x y} hx hy hxy b hb hb' => ?_
    have hin : ∀ {z}, z ∈ c.values → ReflTransGen σ.Contains v z := fun hz => ha.tail ⟨c, hc, hz⟩
    exact hxy b ((reaches_congr (hbelow (hin hx))).1 hb) ((reaches_congr (hbelow (hin hy))).1 hb')

end Store

/-- A store in which only what a value led to has changed, and what it leads to now it led to before. -/
structure Store.ChangedBelow (σ : Store) (v : Value) (τ : Store) : Prop where
  size : τ.cells.size = σ.cells.size
  outside : ∀ b, ¬ ReflTransGen σ.Contains v (.container b) → τ.read? b = σ.read? b
  closed : ∀ b, ReflTransGen τ.Contains v (.container b) → ReflTransGen σ.Contains v (.container b)

section Local

variable {resolve : Resolver} {n : Nat} {ctx : Context} {path : Path} {present : Bool} {parent : Option Value} {v : Value}
  {σ τ : Store} {x : Findings × Value}

/-- A check of a property changes what its value leads to and nothing else. -/
theorem PropertyChecker.changedBelow (c : PropertyChecker)
    (h : (c.collect (follow resolve n) ctx path present parent v).Leaves σ x τ) : σ.ChangedBelow v τ := by
  obtain ⟨s, hs, rfl⟩ := h { store := σ } rfl
  have hlocal : Agrees (Area.below σ v σ).Runs Eq ((c.collect (follow resolve n) ctx path present parent v).ending { store := σ })
      ((c.collect (follow resolve n) ctx path present parent v).ending { store := σ }) :=
    c.collect_local (fun _ _ _ => rfl) (Area.below_start (q := { store := σ }) rfl fun _ _ => rfl)
  rw [hs] at hlocal
  cases hlocal with
  | done _ hruns =>
      refine ⟨hruns.kept, hruns.left, fun b hb => ?_⟩
      have hmet : ∀ {w}, ReflTransGen s.store.Contains v w → (Area.below σ v σ).met w := by
        intro w hw
        induction hw with
        | refl => exact .inr .refl
        | @tail y w _ hyw ih =>
            cases y with
            | scalar a => exact absurd hyw Store.not_contains_scalar
            | container a => exact hruns.contains (Area.has_met _ ih) hyw
      exact Area.has_met _ (hmet hb)

/-- A check that leaves a store as it is does so in every store that is the same below its value. -/
theorem PropertyChecker.leaves_elsewhere (c : PropertyChecker)
    (h : (c.collect (follow resolve n) ctx path present parent v).Leaves σ x σ) (hsize : τ.cells.size = σ.cells.size)
    (hsame : ∀ b, ReflTransGen σ.Contains v (.container b) → τ.read? b = σ.read? b)
    (hparent : ∀ p ∈ parent, ∀ d, τ.holds p d = σ.holds p d) :
    (c.collect (follow resolve n) ctx path present parent v).Leaves τ x τ := by
  intro r hr
  subst hr
  obtain ⟨s, hs, hstore⟩ := h { store := σ } rfl
  have hlocal : Agrees (Area.below σ v r.store).Runs Eq
      ((c.collect (follow resolve n) ctx path present parent v).ending { store := σ })
      ((c.collect (follow resolve n) ctx path present parent v).ending r) :=
    c.collect_local hparent (Area.below_start (q := { store := σ }) hsize hsame)
  rw [hs] at hlocal
  generalize (c.collect (follow resolve n) ctx path present parent v).ending r = z at hlocal ⊢
  cases hlocal with
  | @done _ y _ t heq hruns =>
      subst heq
      refine ⟨t, rfl, Store.ext_read? fun b => ?_⟩
      by_cases hb : ReflTransGen σ.Contains v (.container b)
      · rw [hruns.same b hb, hstore, hsame b hb]
      · exact hruns.right b hb

end Local

end ShapeCheck
