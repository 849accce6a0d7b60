import Mathlib.Data.List.Forall2
import ShapeCheck.Proofs.Collecting
import ShapeCheck.Proofs.Shrinking
import ShapeCheck.Proofs.Trees

/-!
# Two runs in tandem

Two runs of one checker may start from different stores and follow references in different ways, and still do the same as
long as what they look at is the same. A `Tandem` names the containers that both runs have in common, its area, and says
when a violation of one run stands for one of the other. `Tandem.Lawful` says what has to hold: what stands in the area
leads nowhere else, and references are followed alike. Then both runs end alike, `PropertyChecker.collect_tandem`: with
findings that correspond, with the same changes to the area, and with no changes outside of it.
-/

namespace ShapeCheck

/-! ## Ends that agree -/

section Agrees

variable {α β γ δ : Type} {J : Run → Run → Prop} {R : α → β → Prop} {Q : γ → δ → Prop}

/-- Two ends agree: with related results, or with one fault, and with related runs either way. -/
inductive Agrees (J : Run → Run → Prop) (R : α → β → Prop) : Except Fault α × Run → Except Fault β × Run → Prop
  | done {a : α} {b : β} {r s : Run} (results : R a b) (runs : J r s) : Agrees J R (.ok a, r) (.ok b, s)
  | fault {e : Fault} {r s : Run} (runs : J r s) : Agrees J R (.error e, r) (.error e, s)

namespace Agrees

theorem pure {a : α} {b : β} {r s : Run} (hr : R a b) (hj : J r s) :
    Agrees J R ((pure a : Check α).ending r) ((pure b : Check β).ending s) := .done hr hj

theorem throw {e : Fault} {r s : Run} (hj : J r s) :
    Agrees J R ((throw e : Check α).ending r) ((throw e : Check β).ending s) := .fault hj

/-- A check that only computes. -/
theorem ofExcept {R : α → α → Prop} {x : Except Fault α} {r s : Run} (hr : ∀ a, x = .ok a → R a a) (hj : J r s) :
    Agrees J R ((Check.ofExcept x).ending r) ((Check.ofExcept x).ending s) := by
  rw [Check.ending_ofExcept, Check.ending_ofExcept]
  cases x with
  | ok a => exact .done (hr a rfl) hj
  | error e => exact .fault hj

/-- Two checks in order. What follows may use the results of the first ones. -/
theorem bind {c : Check α} {d : Check β} {k : α → Check γ} {l : β → Check δ} {r s : Run}
    (h : Agrees J R (c.ending r) (d.ending s))
    (hk : ∀ a b r' s', c.ending r = (.ok a, r') → R a b → J r' s' → Agrees J Q ((k a).ending r') ((l b).ending s')) :
    Agrees J Q ((c >>= k).ending r) ((d >>= l).ending s) := by
  rw [Check.ending_bind, Check.ending_bind]
  generalize hx : c.ending r = x at h
  generalize d.ending s = y at h
  cases h with
  | done hr hj => exact hk _ _ _ _ hx hr hj
  | fault hj => exact .fault hj

/-- A check of the first run alone. -/
theorem bind_left {c : Check α} {k : α → Check γ} {r : Run} {y : Except Fault β × Run} {Q : γ → β → Prop}
    (h : Agrees J R (c.ending r) y)
    (hk : ∀ a b r' s', R a b → J r' s' → Agrees J Q ((k a).ending r') (.ok b, s')) : Agrees J Q ((c >>= k).ending r) y := by
  rw [Check.ending_bind]
  generalize c.ending r = x at h
  cases h with
  | done hr hj => exact hk _ _ _ _ hr hj
  | fault hj => exact .fault hj

/-- A look at the stores. -/
theorem store {k l : Store → Check γ} {r s : Run} {Q : γ → γ → Prop} (h : Agrees J Q ((k r.store).ending r) ((l s.store).ending s)) :
    Agrees J Q ((Check.store >>= k).ending r) ((Check.store >>= l).ending s) := by
  rw [Check.ending_bind_ok (Check.ending_store r), Check.ending_bind_ok (Check.ending_store s)]
  exact h

theorem mono {J' : Run → Run → Prop} {R' : α → β → Prop} {x : Except Fault α × Run} {y : Except Fault β × Run}
    (h : Agrees J R x y) (hR : ∀ a b, R a b → R' a b) (hJ : ∀ r s, J r s → J' r s) : Agrees J' R' x y := by
  cases h with
  | done hr hj => exact .done (hR _ _ hr) (hJ _ _ hj)
  | fault hj => exact .fault (hJ _ _ hj)

theorem runs {x : Except Fault α × Run} {y : Except Fault β × Run} (h : Agrees J R x y) : J x.2 y.2 := by
  cases h with
  | done _ hj => exact hj
  | fault hj => exact hj

theorem result_eq {x y : Except Fault α × Run} (h : Agrees J Eq x y) : y.1 = x.1 := by
  cases h with
  | done heq _ => exact congrArg Except.ok heq.symm
  | fault _ => rfl

/-- Two checks that agree with one agree with each other. -/
theorem both {K L : Run → Run → Prop} {x y z : Except Fault α × Run} (hy : Agrees J Eq x y) (hz : Agrees K Eq x z)
    (h : ∀ q r s, J q r → K q s → L r s) : Agrees L Eq y z := by
  cases hy with
  | done hy hj => cases hz with
    | done hz hk => exact .done (hy.symm.trans hz) (h _ _ _ hj hk)
  | fault hj => cases hz with
    | fault hk => exact .fault (h _ _ _ hj hk)

end Agrees

end Agrees

/-! ## Stores that are the same in an area -/

namespace Store

/-- What stands at an address after a container was changed. -/
theorem read?_write (σ : Store) (a b : Address) (c : Cell) :
    (σ.write a c).read? b = if a = b ∧ a < σ.cells.size then some c else σ.read? b := by
  by_cases hab : a = b
  · subst hab
    by_cases hsize : a < σ.cells.size <;> simp [write, read?, hsize]
  · rw [read?_write_other σ c hab, if_neg fun h => hab h.1]

/-- Stores with the same containers are one. -/
theorem ext_read? {σ τ : Store} (h : ∀ a, τ.read? a = σ.read? a) : τ = σ := by
  have hcells : τ.cells = σ.cells := Array.ext_getElem? h
  calc τ = ⟨τ.cells⟩ := rfl
    _ = σ := by rw [hcells]

/-- What is read of a value depends on the containers that it leads to alone. -/
theorem unfold_congr {σ τ : Store} {lies : Value → Prop} (same : ∀ a, lies (.container a) → τ.read? a = σ.read? a)
    (closed : ∀ a c, lies (.container a) → σ.read? a = some c → ∀ w ∈ c.values, lies w) :
    ∀ (mark : Mark) (fuel : Nat) (around : List Address) (v : Value), lies v →
      τ.unfold #[] mark fuel around v = σ.unfold #[] mark fuel around v := by
  intro mark fuel
  induction fuel with
  | zero =>
      rintro around (a | a) _
      · rw [unfold, unfold]
      · rw [unfold, unfold]
  | succ fuel ih =>
      rintro around (a | a) hv
      · rw [unfold, unfold]
      · by_cases ha : a ∈ around
        · obtain ⟨level, hlevel⟩ : ∃ level, around.findIdx? (· == a) = some level := by
            rw [← Option.isSome_iff_exists, List.findIdx?_isSome]
            exact List.any_eq_true.2 ⟨a, ha, beq_self_eq_true a⟩
          rw [unfold, unfold, hlevel]
        · rcases hc : σ.read? a with _ | c
          · have hindex : around.findIdx? (· == a) = none := by
              rw [List.findIdx?_eq_none_iff]
              exact fun b hb => beq_eq_false_iff_ne.2 fun heq => ha (heq ▸ hb)
            rw [unfold, unfold, hindex, same a hv, hc]
          · rw [unfold_container hc ha, unfold_container ((same a hv).trans hc) ha]
            exact Cell.tree_congr fun w hw => ih (a :: around) w (closed a c hv hc w hw)

theorem datum_congr {σ τ : Store} {lies : Value → Prop} (size : τ.cells.size = σ.cells.size)
    (same : ∀ a, lies (.container a) → τ.read? a = σ.read? a)
    (closed : ∀ a c, lies (.container a) → σ.read? a = some c → ∀ w ∈ c.values, lies w) {v : Value} (hv : lies v) :
    τ.datum v = σ.datum v := by
  unfold datum treeWith
  rw [size]
  exact unfold_congr same closed _ _ _ v hv

end Store

/-! ## Checks that look at one value -/

section Congr

variable {σ τ : Store} {v : Value}

theorem Store.items?_congr (h : τ.cell? v = σ.cell? v) : τ.items? v = σ.items? v := by
  unfold items?
  rw [h]

theorem lengthOf_congr (h : τ.cell? v = σ.cell? v) : lengthOf τ v = lengthOf σ v := by
  unfold lengthOf
  split
  · rfl
  · rw [Store.items?_congr h]

theorem Store.entries?_congr (h : τ.cell? v = σ.cell? v) : τ.entries? v = σ.entries? v := by
  unfold entries?
  rw [h]

theorem Kind.convert_congr (h : τ.cell? v = σ.cell? v) (k : Kind) (convert : Bool) :
    k.convert convert τ v = k.convert convert σ v := by
  unfold Kind.convert
  rw [Store.items?_congr h, Store.entries?_congr h]

/-- What is decided about a value before the rules run depends on the tree of the value alone. -/
theorem PropertyChecker.early_congr (hcell : τ.cell? v = σ.cell? v) (hdatum : τ.datum v = σ.datum v) (c : PropertyChecker)
    (convert : Bool) (path : Path) (present : Bool) : c.early convert path present τ v = c.early convert path present σ v := by
  unfold early
  rw [Kind.convert_congr hcell, hdatum]
  rcases hk : c.kind.convert convert σ v with e | counted
  · rfl
  · have hcounted : counted.getD v = v ∨ ∃ x, counted.getD v = .scalar x := by
      rcases counted with _ | w
      · exact .inl rfl
      · exact (Kind.convert_eq hk).imp_right fun hw => by cases hw <;> exact ⟨_, rfl⟩
    have hamong : ∀ data, (readings v (counted.getD v)).any (τ.isAmong data) =
        (readings v (counted.getD v)).any (σ.isAmong data) := by
      intro data
      have hv : τ.isAmong data v = σ.isAmong data v := by
        unfold Store.isAmong
        rw [hdatum]
      have hw : τ.isAmong data (counted.getD v) = σ.isAmong data (counted.getD v) := by
        rcases hcounted with heq | ⟨x, heq⟩
        · rw [heq, hv]
        · unfold Store.isAmong
          rw [heq, Store.datum_scalar, Store.datum_scalar]
      unfold readings
      split <;> simp [hv, hw]
    have hcompares : c.comparesOn τ v = c.comparesOn σ v := by
      unfold comparesOn Store.seeksOn Store.isAmong
      rw [hdatum]
    simp only [bind, Except.bind, hamong, hcompares]

/-- What is shown of some peers depends on which of them a value holds. -/
theorem peersShown_congr {p : Value} {peers : List Datum} (h : ∀ d ∈ peers, τ.holds p d = σ.holds p d) (standing : Bool) :
    peersShown τ p standing peers = peersShown σ p standing peers := by
  induction peers with
  | nil => rfl
  | cons d rest ih =>
      rw [List.forall_mem_cons] at h
      unfold peersShown
      rw [h.1, ih h.2]

/-- What is found about the keys beside a value depends on which of its peers its parent holds. -/
theorem peerFindings_congr {c : PropertyChecker} {path : Path} {parent : Option Value}
    (h : ∀ p ∈ parent, ∀ d ∈ c.peersWith ++ c.peersWithout, τ.holds p d = σ.holds p d) :
    peerFindings c path τ parent v = peerFindings c path σ parent v := by
  cases parent with
  | none => rfl
  | some p =>
      obtain ⟨hwith, hwithout⟩ := List.forall_mem_append.1 (h p rfl)
      unfold peerFindings
      simp only [peersShown_congr hwith, peersShown_congr hwithout]

end Congr

/-! ## Areas and tandems -/

/-- Containers that two runs have in common, the values that their parts are checked for, and the rest of both stores. -/
structure Area where
  /-- The containers of the area. -/
  has : Address → Prop
  /-- The values that a property or an element is checked for. -/
  met : Value → Prop
  /-- The store that the first run keeps outside of the area. -/
  left : Store
  /-- The store that the second run keeps outside of the area. -/
  right : Store
  met_scalar : ∀ x, met (.scalar x)
  has_met : ∀ {a}, met (.container a) → has a

namespace Area

/-- Whether a value is a scalar or a container of the area. -/
def Lies (A : Area) : Value → Prop
  | .scalar _ => True
  | .container a => A.has a

/-- Two runs that are the same in the area, from which nothing leads away, and as they were outside of it. -/
structure Runs (A : Area) (r s : Run) : Prop where
  size : s.store.cells.size = r.store.cells.size
  kept : r.store.cells.size = A.left.cells.size
  same : ∀ a, A.has a → s.store.read? a = r.store.read? a
  closed : ∀ a c, A.has a → r.store.read? a = some c → ∀ w ∈ c.values, A.met w
  left : ∀ a, ¬ A.has a → r.store.read? a = A.left.read? a
  right : ∀ a, ¬ A.has a → s.store.read? a = A.right.read? a

variable {A : Area} {r s : Run}

theorem lies {v : Value} (hv : A.met v) : A.Lies v := by
  cases v with
  | scalar x => trivial
  | container a => exact A.has_met hv

theorem met_counted (A : Area) {v : Value} (hv : v.Counted) : A.met v := by
  cases hv <;> exact A.met_scalar _

namespace Runs

theorem write (h : A.Runs r s) {a : Address} (ha : A.has a) {c : Cell} (hc : ∀ w ∈ c.values, A.met w) :
    A.Runs { r with store := r.store.write a c } { s with store := s.store.write a c } where
  size := by rw [Store.size_write, Store.size_write, h.size]
  kept := by rw [Store.size_write, h.kept]
  same b hb := by
    rw [Store.read?_write, Store.read?_write, h.size, h.same b hb]
  closed b d hb hd := by
    rw [Store.read?_write] at hd
    split at hd
    · cases hd
      exact hc
    · exact h.closed b d hb hd
  left b hb := by
    have hab : a ≠ b := fun hab => hb (hab ▸ ha)
    rw [Store.read?_write_other _ _ hab]
    exact h.left b hb
  right b hb := by
    have hab : a ≠ b := fun hab => hb (hab ▸ ha)
    rw [Store.read?_write_other _ _ hab]
    exact h.right b hb

theorem cell (h : A.Runs r s) {v : Value} (hv : A.Lies v) : s.store.cell? v = r.store.cell? v := by
  cases v with
  | scalar x => rfl
  | container a => exact h.same a hv

/-- What a container of the area holds. -/
theorem contains (h : A.Runs r s) {a : Address} (ha : A.has a) {w : Value} (hw : r.store.Contains (.container a) w) : A.met w := by
  obtain ⟨c, hc, hmem⟩ := hw
  exact h.closed a c ha hc w hmem

theorem datum (h : A.Runs r s) {v : Value} (hv : A.Lies v) : s.store.datum v = r.store.datum v := by
  refine Store.datum_congr h.size (fun a ha => h.same a ha) (fun a c ha hc w hw => ?_) hv
  exact lies (h.closed a c ha hc w hw)

theorem items (h : A.Runs r s) {v : Value} (hv : A.met v) : ∀ x ∈ (r.store.items? v).getD [], A.met x := by
  intro x hx
  cases v with
  | scalar y => cases hx
  | container a =>
      cases hi : r.store.items? (.container a) with
      | none =>
          rw [hi] at hx
          cases hx
      | some xs =>
          rw [hi] at hx
          exact h.contains (A.has_met hv) (Store.contains_item hi hx)

/-- Whether a value holds a datum is one answer in the area. -/
theorem holds (h : A.Runs r s) {v : Value} (hv : A.Lies v) (d : Datum) : s.store.holds v d = r.store.holds v d := by
  unfold Store.holds
  rw [Store.entries?_congr (h.cell hv), h.datum hv]

/-- Runs that were one outside of their area are one everywhere. -/
theorem store_eq (h : A.Runs r s) (hout : A.right = A.left) : s.store = r.store := by
  refine Store.ext_read? fun a => ?_
  by_cases ha : A.has a
  · exact h.same a ha
  · exact (h.right a ha).trans (hout ▸ (h.left a ha).symm)

end Runs

end Area

/-- Two runs of one checker in an area. -/
structure Tandem extends Area where
  /-- How references are followed in the first run. -/
  first : Follow
  /-- How references are followed in the second run. -/
  second : Follow
  /-- The context of the first run, up to conversions. -/
  here : Context
  /-- The context of the second run, up to conversions. -/
  there : Context
  /-- When a violation of the first run stands for one of the second. -/
  alike : Violation Value → Violation Value → Prop

namespace Tandem

/-- Findings of the first run stand for findings of the second, one by one. -/
abbrev Alike (k : Tandem) : Findings → Findings → Prop := List.Forall₂ k.alike

/-- Two ends agree on results and on the area. -/
abbrev Agrees {α β : Type} (k : Tandem) (R : α → β → Prop) : Except Fault α × Run → Except Fault β × Run → Prop :=
  ShapeCheck.Agrees k.Runs R

/-- What each place of a checker has to keep. -/
structure Lawful (k : Tandem) : Prop where
  plain : ∀ {f}, f.IsPlain → k.alike f f
  noMatch : ∀ {path item xs ys}, List.Forall₂ k.Alike xs ys → k.Alike (noMatch path item xs) (noMatch path item ys)
  follow : ∀ {r s convert path ref v}, k.Runs r s → k.met v →
    k.Agrees k.Alike ((k.first { k.here with convert := convert } path ref v).ending r)
      ((k.second { k.there with convert := convert } path ref v).ending s)

variable {k : Tandem} {r s : Run}

namespace Lawful

variable (hk : k.Lawful)

include hk

theorem alike_plain {found : Findings} (h : ∀ f ∈ found, f.IsPlain) : k.Alike found found := by
  induction found with
  | nil => exact .nil
  | cons f rest ih =>
      rw [List.forall_mem_cons] at h
      exact .cons (hk.plain h.1) (ih h.2)

theorem alike_finding {path : Path} {code : Code} {constraint message : String} {v : Value}
    (h : code ∉ [Code.unresolved, .cycle, .depth]) :
    k.Alike [finding path code constraint message v] [finding path code constraint message v] :=
  .cons (hk.plain (finding_isPlain h)) .nil

end Lawful

theorem alike_append {xs ys xs' ys' : Findings} (h : k.Alike xs ys) (h' : k.Alike xs' ys') : k.Alike (xs ++ xs') (ys ++ ys') :=
  List.rel_append h h'

theorem isEmpty_eq {xs ys : Findings} (h : k.Alike xs ys) : ys.isEmpty = xs.isEmpty := by
  cases h <;> rfl

/-- Whether some attempt finds nothing is one answer in both runs. -/
theorem any_isEmpty_eq {xs ys : List Findings} (h : List.Forall₂ k.Alike xs ys) : ys.any List.isEmpty = xs.any List.isEmpty := by
  induction h with
  | nil => rfl
  | cons hfirst _ ih => rw [List.any_cons, List.any_cons, isEmpty_eq hfirst, ih]

/-- The items of an array, one after the other. -/
theorem eachItem_agrees {f g : Path → Value → Check Findings}
    (h : ∀ {path v r s}, k.Runs r s → k.met v → k.Agrees k.Alike ((f path v).ending r) ((g path v).ending s)) (path : Path) :
    ∀ (i : Nat) {vs : List Value} {r s : Run}, (∀ v ∈ vs, k.met v) → k.Runs r s →
      k.Agrees k.Alike ((eachItem path f i vs).ending r) ((eachItem path g i vs).ending s) := by
  intro i vs
  induction vs generalizing i with
  | nil => exact fun _ hr => .pure .nil hr
  | cons v rest ih =>
      intro r s hv hr
      rw [List.forall_mem_cons] at hv
      unfold eachItem
      refine (h hr hv.1).bind fun found found' r s _ hfound hr => ?_
      refine (ih (i + 1) hv.2 hr).bind fun others others' r s _ hothers hr => ?_
      exact .pure (alike_append hfound hothers) hr

/-- The keys that are not declared. -/
theorem strays_agrees (hk : k.Lawful) (hr : k.Runs r s) {leniency : Leniency} {names : List String} {path : Path}
    {a : Address} (ha : k.has a) :
    k.Agrees k.Alike ((strays leniency names path (.container a)).ending r)
      ((strays leniency names path (.container a)).ending s) := by
  have hcell := hr.cell (v := .container a) ha
  unfold strays
  refine .store ?_
  rw [hcell, Store.entries?_congr hcell]
  dsimp only
  split
  · next b es hstrip hb hc =>
    cases hb
    have hes : (r.store.entries? (.container a)).getD [] = es := by
      unfold Store.entries?
      rw [hc]
      rfl
    rw [hes]
    refine .done .nil (hr.write ha fun w hw => ?_)
    obtain ⟨e, he, rfl⟩ := List.mem_map.1 hw
    exact hr.closed a _ ha hc _ (List.mem_map_of_mem (List.mem_filter.1 he).1)
  · exact .ofExcept (fun found h => hk.alike_plain (Keeping.Lawful.strayFindings_isPlain h)) hr

/-- Saving what a value under a key counts as. -/
theorem saveConversion_agrees (hr : k.Runs r s) {leniency : Leniency} {a : Address} (ha : k.has a) {name : String} {x : Value}
    (hx : k.met x) :
    k.Agrees (fun _ _ => True) ((saveConversion leniency (.container a) name x).ending r)
      ((saveConversion leniency (.container a) name x).ending s) := by
  unfold saveConversion
  split
  · refine .store ?_
    rw [hr.cell (v := .container a) ha]
    cases hc : r.store.cell? (.container a) with
    | none => exact .done trivial hr
    | some c =>
        cases c with
        | mapping es =>
            dsimp only
            cases hg : Entries.get? name es with
            | none => exact .throw hr
            | some current =>
                dsimp only
                split
                · refine .done trivial (hr.write ha fun w hw => ?_)
                  obtain ⟨e, he, rfl⟩ := List.mem_map.1 hw
                  rcases Entries.mem_put he with rfl | he
                  · exact hx
                  · exact hr.closed a _ ha hc _ (List.mem_map_of_mem he)
                · exact .done trivial hr
        | list | tuple | set | readOnly | structured => exact .done trivial hr
  · exact .done trivial hr

/-- The result of a property: findings that correspond, and one value that it counts as. -/
def Collected (k : Tandem) (v : Value) (x y : Findings × Value) : Prop :=
  k.Alike x.1 y.1 ∧ y.2 = x.2 ∧ (x.2 = v ∨ x.2.Counted)

theorem Collected.met {v : Value} {x y : Findings × Value} (h : k.Collected v x y) (hv : k.met v) : k.met x.2 := by
  rcases h.2.2 with heq | hcounted
  · exact heq ▸ hv
  · exact k.met_counted hcounted

end Tandem

section Collecting

variable {k : Tandem}

open Tandem

/-- A property is checked alike in both runs, if its parent answers its questions alike and its rules run alike. -/
theorem PropertyChecker.collect_agrees (hk : k.Lawful) {c : PropertyChecker} {convert present : Bool} {path : Path}
    {parent : Option Value} {v : Value} {r s : Run} (hr : k.Runs r s) (hv : k.met v)
    (hpeers : ∀ w, c.early convert path present r.store v = .ok (.goOn w) →
      peerFindings c path s.store parent v = peerFindings c path r.store parent v)
    (hrules : ∀ {w r s}, k.Runs r s → k.met w →
      k.Agrees k.Alike ((Rule.runAll k.first { k.here with convert := convert } path c.rules w).ending r)
        ((Rule.runAll k.second { k.there with convert := convert } path c.rules w).ending s)) :
    k.Agrees (k.Collected v) ((c.collect k.first { k.here with convert := convert } path present parent v).ending r)
      ((c.collect k.second { k.there with convert := convert } path present parent v).ending s) := by
  obtain ⟨_, _, _, _, _, _, _, _, _, rules⟩ := c
  rw [PropertyChecker.collect, PropertyChecker.collect]
  refine .store ?_
  rw [PropertyChecker.early_congr (hr.cell (Area.lies hv)) (hr.datum (Area.lies hv))]
  rw [Check.ending_bind, Check.ending_bind, Check.ending_ofExcept, Check.ending_ofExcept]
  rcases hearly : PropertyChecker.early _ convert path present r.store v with e | x
  · exact .fault hr
  cases x with
  | done found w =>
      obtain ⟨hfound, hw⟩ := PropertyChecker.early_done hearly
      exact .pure ⟨hk.alike_plain hfound, rfl, hw⟩ hr
  | goOn w =>
      have hw := Kind.convert_eq (PropertyChecker.early_goOn hearly)
      have hmet : k.met w := by
        rcases hw with rfl | hcounted
        · exact hv
        · exact k.met_counted hcounted
      refine .store ?_
      rw [hpeers w hearly]
      refine (Agrees.ofExcept (fun found h => hk.alike_plain (peerFindings_isPlain h)) hr).bind
        fun peers peers' r s _ hpeers hr => ?_
      refine (hrules hr hmet).bind fun found found' r s _ hfound hr => ?_
      exact .pure ⟨alike_append hpeers hfound, rfl, hw⟩ hr

mutual
theorem Rule.run_tandem (hk : k.Lawful) :
    ∀ (rule : Rule) {convert : Bool} {path : Path} {v : Value} {r s : Run}, k.Runs r s → k.met v →
    k.Agrees k.Alike ((rule.run k.first { k.here with convert := convert } path v).ending r)
      ((rule.run k.second { k.there with convert := convert } path v).ending s)
  | .length bound unit limit, _, _, v, r, s, hr, hv => by
      rw [Rule.run, Rule.run]
      refine .store ?_
      rw [lengthOf_congr (hr.cell (Area.lies hv))]
      refine (Agrees.ofExcept (fun _ _ => Eq.refl _) hr).bind fun allowed allowed' r s _ heq hr => ?_
      subst heq
      exact .pure (hk.alike_plain judged_isPlain) hr
  | .pattern source program, _, _, v, r, s, hr, _ => by
      rw [Rule.run, Rule.run]
      cases program.search (textOf v) with
      | found => exact .pure .nil hr
      | missing => exact .pure (hk.alike_plain judged_isPlain) hr
  | .alphanumeric spaces, _, _, v, r, s, hr, _ => by
      rw [Rule.run, Rule.run]
      exact .pure (hk.alike_plain judged_isPlain) hr
  | .email, _, _, v, r, s, hr, _ => by
      rw [Rule.run, Rule.run]
      exact .pure (hk.alike_plain judged_isPlain) hr
  | .date, _, _, v, r, s, hr, _ => by
      rw [Rule.run, Rule.run]
      exact .pure (hk.alike_plain judged_isPlain) hr
  | .whole, _, _, v, r, s, hr, _ => by
      rw [Rule.run, Rule.run]
      exact .pure (hk.alike_plain judged_isPlain) hr
  | .fraction, _, _, v, r, s, hr, _ => by
      rw [Rule.run, Rule.run]
      exact .pure (hk.alike_plain judged_isPlain) hr
  | .atLeast limit, _, _, v, r, s, hr, _ => by
      rw [Rule.run, Rule.run]
      refine (Agrees.ofExcept (fun _ _ => Eq.refl _) hr).bind fun allowed allowed' r s _ heq hr => ?_
      subst heq
      exact .pure (hk.alike_plain judged_isPlain) hr
  | .atMost limit, _, _, v, r, s, hr, _ => by
      rw [Rule.run, Rule.run]
      refine (Agrees.ofExcept (fun _ _ => Eq.refl _) hr).bind fun allowed allowed' r s _ heq hr => ?_
      subst heq
      exact .pure (hk.alike_plain judged_isPlain) hr
  | .includes elements, convert, path, v, r, s, hr, hv => by
      rw [Rule.run, Rule.run]
      refine .store ?_
      rw [Store.items?_congr (hr.cell (Area.lies hv))]
      refine eachItem_agrees (fun {path item r s} hr hi => ?_) path 0 (hr.items hv) hr
      refine (PropertyChecker.attempts_tandem hk elements hr hi).bind fun attempts attempts' r s _ hattempts hr => ?_
      refine .pure ?_ hr
      rw [any_isEmpty_eq hattempts]
      split
      · exact .nil
      · exact hk.noMatch hattempts
  | .excludes elements, convert, path, v, r, s, hr, hv => by
      rw [Rule.run, Rule.run]
      refine .store ?_
      rw [Store.items?_congr (hr.cell (Area.lies hv))]
      refine eachItem_agrees (fun {path item r s} hr hi => ?_) path 0 (hr.items hv) hr
      refine (PropertyChecker.someAccepts_tandem hk elements hr hi).bind fun matched matched' r s _ heq hr => ?_
      subst heq
      refine .pure ?_ hr
      split
      · exact hk.alike_finding (by decide)
      · exact .nil
  | .reference ref, _, _, v, r, s, hr, hv => by
      rw [Rule.run, Rule.run]
      exact hk.follow hr hv
  | .inlineType ⟨properties, leniency⟩, _, _, v, r, s, hr, hv => by
      rw [Rule.run, Rule.run]
      exact TypeChecker.collect_tandem hk ⟨properties, leniency⟩ hr (Area.lies hv)
theorem Rule.runAll_tandem (hk : k.Lawful) : ∀ (rules : List Rule) {convert : Bool} {path : Path} {v : Value} {r s : Run},
    k.Runs r s → k.met v →
    k.Agrees k.Alike ((Rule.runAll k.first { k.here with convert := convert } path rules v).ending r)
      ((Rule.runAll k.second { k.there with convert := convert } path rules v).ending s)
  | [], _, _, v, r, s, hr, _ => by
      rw [Rule.runAll, Rule.runAll]
      exact .pure .nil hr
  | rule :: rest, _, _, v, r, s, hr, hv => by
      rw [Rule.runAll, Rule.runAll]
      refine (Rule.run_tandem hk rule hr hv).bind fun found found' r s _ hfound hr => ?_
      refine (Rule.runAll_tandem hk rest hr hv).bind fun others others' r s _ hothers hr => ?_
      exact .pure (alike_append hfound hothers) hr
/-- A property is checked alike in both runs, if its parent answers alike. -/
theorem PropertyChecker.collect_tandem (hk : k.Lawful) : ∀ (c : PropertyChecker) {convert present : Bool} {path : Path}
    {parent : Option Value} {v : Value} {r s : Run}, k.Runs r s → k.met v →
    (∀ p ∈ parent, ∀ d, s.store.holds p d = r.store.holds p d) →
    k.Agrees (k.Collected v) ((c.collect k.first { k.here with convert := convert } path present parent v).ending r)
      ((c.collect k.second { k.there with convert := convert } path present parent v).ending s)
  | ⟨_, _, _, _, _, _, _, _, _, rules⟩, _, _, _, _, _, _, _, hr, hv, hp =>
      PropertyChecker.collect_agrees hk hr hv (fun _ _ => peerFindings_congr fun p hmem d _ => hp p hmem d) fun hr hmet =>
        Rule.runAll_tandem hk rules hr hmet
theorem PropertyChecker.attempts_tandem (hk : k.Lawful) : ∀ (cs : List PropertyChecker) {convert : Bool} {path : Path} {v : Value}
    {r s : Run}, k.Runs r s → k.met v →
    k.Agrees (List.Forall₂ k.Alike) ((PropertyChecker.attempts k.first { k.here with convert := convert } path cs v).ending r)
      ((PropertyChecker.attempts k.second { k.there with convert := convert } path cs v).ending s)
  | [], _, _, v, r, s, hr, _ => by
      rw [PropertyChecker.attempts, PropertyChecker.attempts]
      exact .pure .nil hr
  | c :: rest, _, _, v, r, s, hr, hv => by
      rw [PropertyChecker.attempts, PropertyChecker.attempts]
      refine (PropertyChecker.collect_tandem hk c hr hv fun _ h => by cases h).bind fun x y r s _ hx hr => ?_
      refine (PropertyChecker.attempts_tandem hk rest hr hv).bind fun others others' r s _ hothers hr => ?_
      exact .pure (.cons hx.1 hothers) hr
theorem PropertyChecker.someAccepts_tandem (hk : k.Lawful) : ∀ (cs : List PropertyChecker) {convert : Bool} {path : Path} {v : Value}
    {r s : Run}, k.Runs r s → k.met v →
    k.Agrees (fun b b' => b' = b)
      ((PropertyChecker.someAccepts k.first { k.here with convert := convert } path cs v).ending r)
      ((PropertyChecker.someAccepts k.second { k.there with convert := convert } path cs v).ending s)
  | [], _, _, v, r, s, hr, _ => by
      rw [PropertyChecker.someAccepts, PropertyChecker.someAccepts]
      exact .pure rfl hr
  | c :: rest, _, _, v, r, s, hr, hv => by
      rw [PropertyChecker.someAccepts, PropertyChecker.someAccepts]
      refine (PropertyChecker.collect_tandem hk c hr hv fun _ h => by cases h).bind fun x y r s _ hx hr => ?_
      dsimp only
      rw [isEmpty_eq hx.1]
      split
      · exact .pure rfl hr
      · exact PropertyChecker.someAccepts_tandem hk rest hr hv
/-- A type is checked alike in both runs. -/
theorem TypeChecker.collect_tandem (hk : k.Lawful) : ∀ (t : TypeChecker) {convert : Bool} {path : Path} {v : Value} {r s : Run},
    k.Runs r s → k.Lies v →
    k.Agrees k.Alike ((t.collect k.first { k.here with convert := convert } path v).ending r)
      ((t.collect k.second { k.there with convert := convert } path v).ending s)
  | ⟨properties, leniency⟩, _, path, v, r, s, hr, hv => by
      rw [TypeChecker.collect, TypeChecker.collect]
      refine .store ?_
      rw [Store.entries?_congr (hr.cell hv)]
      split
      · exact .pure (hk.alike_finding (by decide)) hr
      · next hsome =>
        cases v with
        | scalar x => exact absurd rfl hsome
        | container a =>
            refine (strays_agrees hk hr hv).bind fun extra extra' r s _ hextra hr => ?_
            refine (PropertyChecker.collectFields_tandem hk properties hr hv).bind fun found found' r s _ hfound hr => ?_
            exact .pure (alike_append hextra hfound) hr
theorem PropertyChecker.collectFields_tandem (hk : k.Lawful) : ∀ (ps : List (String × PropertyChecker)) {leniency : Leniency}
    {convert : Bool} {path : Path} {a : Address} {r s : Run}, k.Runs r s → k.has a →
    k.Agrees k.Alike
      ((PropertyChecker.collectFields k.first { k.here with convert := convert } path leniency (.container a) ps).ending r)
      ((PropertyChecker.collectFields k.second { k.there with convert := convert } path leniency (.container a) ps).ending s)
  | [], _, _, _, a, r, s, hr, _ => by
      rw [PropertyChecker.collectFields, PropertyChecker.collectFields]
      exact .pure .nil hr
  | (name, c) :: rest, leniency, _, path, a, r, s, hr, ha => by
      rw [PropertyChecker.collectFields, PropertyChecker.collectFields]
      refine .store ?_
      rw [Store.entries?_congr (hr.cell (v := .container a) ha)]
      dsimp only
      generalize hcurrent : (r.store.entries? (.container a)).bind (Entries.get? name) = current
      have hmet : k.met (current.getD default) := by
        cases current with
        | none => exact k.met_scalar .null
        | some w =>
            obtain ⟨es, hes, hw⟩ := Option.bind_eq_some_iff.1 hcurrent
            exact hr.contains ha (Store.contains_entry hes (Entries.mem_of_get? hw))
      have hparent : ∀ p ∈ some (Value.container a), ∀ d, s.store.holds p d = r.store.holds p d := by
        intro p hp d
        obtain rfl := Option.mem_some.1 hp
        exact hr.holds (v := .container a) ha d
      refine (PropertyChecker.collect_tandem hk c hr hmet hparent).bind fun x y r s _ hx hr => ?_
      rw [isEmpty_eq hx.1, hx.2.1]
      split
      · refine (saveConversion_agrees hr ha (hx.met hmet)).bind fun _ _ r s _ _ hr => ?_
        refine (PropertyChecker.collectFields_tandem hk rest hr ha).bind fun found found' r s _ hfound hr => ?_
        exact .pure (alike_append hx.1 hfound) hr
      · refine (PropertyChecker.collectFields_tandem hk rest hr ha).bind fun found found' r s _ hfound hr => ?_
        exact .pure (alike_append hx.1 hfound) hr
end

end Collecting

/-! ## References in tandem -/

/-- Two contexts in which references are refused alike for the values that are met. -/
structure Context.Alike (A : Area) (alike : Violation Value → Violation Value → Prop) (here there : Context) : Prop where
  inFlight : ∀ {ref w}, A.met w → ((ref, w) ∈ there.inFlight ↔ (ref, w) ∈ here.inFlight)
  tooDeep : ∀ ref path w, alike (causedBy (.tooDeep ref here.maxDepth) path w) (causedBy (.tooDeep ref there.maxDepth) path w)

theorem Context.Alike.enter {A : Area} {alike : Violation Value → Violation Value → Prop} {here there : Context}
    (h : here.Alike A alike there) (ref : TypeRef) (v : Value) : (here.enter ref v).Alike A alike (there.enter ref v) where
  inFlight hw := by
    change _ ∈ (ref, v) :: there.inFlight ↔ _ ∈ (ref, v) :: here.inFlight
    rw [List.mem_cons, List.mem_cons, h.inFlight hw]
  tooDeep := h.tooDeep

/-- What a run notes makes no difference to an area. -/
theorem Area.Runs.note {A : Area} {r s : Run} (h : A.Runs r s) (xs ys : List RunEvent) :
    A.Runs { r with events := xs } { s with events := ys } := ⟨h.size, h.kept, h.same, h.closed, h.left, h.right⟩

/-- Two runs that follow references in one way and with one budget, in two contexts. -/
def Tandem.following (A : Area) (alike : Violation Value → Violation Value → Prop) (resolve : Resolver) (n : Nat)
    (here there : Context) : Tandem where
  toArea := A
  first := follow resolve n
  second := follow resolve n
  here := here
  there := there
  alike := alike

/-- In contexts that refuse references alike, references are followed alike. The induction is on the budget. -/
theorem Tandem.following_lawful {A : Area} {alike : Violation Value → Violation Value → Prop} (hrefl : ∀ f, alike f f)
    (hno : ∀ {path item xs ys}, List.Forall₂ (List.Forall₂ alike) xs ys →
      List.Forall₂ alike (ShapeCheck.noMatch path item xs) (ShapeCheck.noMatch path item ys)) (resolve : Resolver) (n : Nat) :
    ∀ {here there : Context}, here.Alike A alike there → (Tandem.following A alike resolve n here there).Lawful := by
  induction n using Nat.strong_induction_on with
  | _ n ih =>
      intro here there h
      refine ⟨fun _ => hrefl _, hno, fun {r s convert path ref v} hr hv => ?_⟩
      change ShapeCheck.Agrees A.Runs (List.Forall₂ alike) ((follow resolve n { here with convert := convert } path ref v).ending r)
        ((follow resolve n { there with convert := convert } path ref v).ending s)
      unfold follow
      cases hres : resolve ref with
      | none => exact .done (.cons (hrefl _) .nil) (hr.note _ _)
      | some t =>
          dsimp only
          by_cases hmem : (ref, v) ∈ here.inFlight
          · rw [if_pos hmem, if_pos ((h.inFlight hv).2 hmem)]
            exact .done (.cons (hrefl _) .nil) (hr.note _ _)
          rw [if_neg hmem, if_neg fun hthere => hmem ((h.inFlight hv).1 hthere)]
          cases n with
          | zero => exact .done (.cons (h.tooDeep ref path v) .nil) (hr.note _ _)
          | succ n =>
              rw [Check.ending_bind_ok (Check.ending_record ..), Check.ending_bind_ok (Check.ending_record ..)]
              refine (TypeChecker.collect_tandem (ih n n.lt_succ_self (h.enter ref v)) t (hr.note _ _) (Area.lies hv)).bind
                fun found found' r s _ hfound hr => ?_
              exact .done hfound (hr.note _ _)

/-- A whole run of one property, with references inside of each other up to a bound. -/
def PropertyChecker.alone (c : PropertyChecker) (resolve : Resolver) (maxDepth : Int) (convert : Bool) (path : Path)
    (present : Bool) (parent : Option Value) (v : Value) : Check (Findings × Value) :=
  c.collect (follow resolve maxDepth.toNat) { maxDepth := maxDepth, convert := convert } path present parent v

end ShapeCheck
