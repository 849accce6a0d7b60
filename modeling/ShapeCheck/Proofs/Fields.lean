import Mathlib.Data.List.Pairwise
import Mathlib.Data.List.Perm.Basic
import ShapeCheck.Proofs.Calls
import ShapeCheck.Proofs.Tandem

/-!
# Declared keys by themselves

On data without shared or cyclic containers, `Store.Unshared`, what stands under one key of a mapping has its own containers,
and the check of a key looks at these and at the keys of the mapping, and changes nothing else
(`PropertyChecker.collect_below`). So each declared key is checked as if it were the only one. `Store.After` is what
some keys leave of a store, each one checked by itself, and `PropertyChecker.collectFields_after` says that this is
what a run over the keys leaves, and that it finds what they find.
-/

namespace ShapeCheck

open Relation

/-! ## Entries under texts -/

namespace Entries

variable {α : Type} {name other : String} {x y : α} {es : List (Key × α)}

theorem not_same_text {k : Key} (hk : k.same (.text name) = true) (h : name ≠ other) : ¬ k.same (.text other) = true := by
  intro hother
  have htexts : Key.text name = Key.text other := (same_text hk).symm.trans (same_text hother)
  injection htexts with htexts
  injection htexts with htexts
  exact h htexts

theorem get?_put_self : get? name (put (.text name) x es) = some x := by
  induction es with
  | nil =>
      unfold put get? find?
      rw [if_pos (text_same name)]
  | cons e rest ih =>
      obtain ⟨k, w⟩ := e
      unfold put
      split
      · next hk =>
        unfold get? find?
        rw [if_pos hk]
      · next hk =>
        unfold get? find?
        rw [if_neg hk]
        exact ih

theorem get?_put_other (h : name ≠ other) : get? other (put (.text name) x es) = get? other es := by
  induction es with
  | nil =>
      unfold put get? find?
      rw [if_neg (not_same_text (text_same name) h)]
      rfl
  | cons e rest ih =>
      obtain ⟨k, w⟩ := e
      unfold put
      split
      · next hk =>
        unfold get? find?
        rw [if_neg (not_same_text hk h), if_neg (not_same_text hk h)]
      · unfold get? find?
        split
        · rfl
        · exact ih

/-- Putting a value under a key that is there already leaves the keys as they are. -/
theorem keys_put (h : (get? name es).isSome = true) : (put (.text name) x es).map Prod.fst = es.map Prod.fst := by
  induction es with
  | nil => cases h
  | cons e rest ih =>
      obtain ⟨k, w⟩ := e
      unfold get? find? at h
      unfold put
      split
      · rfl
      · next hk =>
        rw [if_neg hk] at h
        rw [List.map_cons, List.map_cons, ih h]

theorem put_same (h : get? name es = some x) : put (.text name) x es = es := by
  induction es with
  | nil => cases h
  | cons e rest ih =>
      obtain ⟨k, w⟩ := e
      unfold get? find? at h
      unfold put
      split
      · next hk =>
        rw [if_pos hk] at h
        cases h
        rfl
      · next hk =>
        rw [if_neg hk] at h
        rw [ih h]

theorem put_comm (h : name ≠ other) (hname : (get? name es).isSome = true) (hother : (get? other es).isSome = true) :
    put (.text other) y (put (.text name) x es) = put (.text name) x (put (.text other) y es) := by
  induction es with
  | nil => cases hname
  | cons e rest ih =>
      obtain ⟨k, w⟩ := e
      unfold get? find? at hname hother
      by_cases hk : k.same (.text name) = true
      · have hl := not_same_text hk h
        simp [put, hk, hl]
      · by_cases hl : k.same (.text other) = true
        · simp [put, hk, hl]
        · rw [if_neg hk] at hname
          rw [if_neg hl] at hother
          simp only [put, if_neg hk, if_neg hl, ih hname hother]

/-- Whether something stands under a key depends on the keys alone. -/
theorem find?_isSome_congr {β : Type} {k : Key} {es : List (Key × α)} {fs : List (Key × β)}
    (h : es.map Prod.fst = fs.map Prod.fst) : (find? k es).isSome = (find? k fs).isSome := by
  induction es generalizing fs with
  | nil =>
      obtain rfl := List.map_eq_nil_iff.1 h.symm
      rfl
  | cons e rest ih =>
      cases fs with
      | nil => cases h
      | cons f more =>
          obtain ⟨l, w⟩ := e
          obtain ⟨m, u⟩ := f
          obtain ⟨rfl, hrest⟩ := List.cons_eq_cons.1 h
          unfold find?
          split
          · rfl
          · exact ih hrest

end Entries

/-! ## Data without shared containers -/

namespace Store

/-- No container is inside of both of two values. -/
def Apart (σ : Store) (v w : Value) : Prop :=
  ∀ a, ReflTransGen σ.Contains v (.container a) → ¬ ReflTransGen σ.Contains w (.container a)

/-- No container that a value holds, at any depth, holds itself or stands in two places. -/
structure Unshared (σ : Store) (v : Value) : Prop where
  acyclic : σ.Acyclic v
  apart : ∀ {a c}, ReflTransGen σ.Contains v (.container a) → σ.read? a = some c → c.values.Pairwise σ.Apart

variable {σ : Store} {v w : Value}

theorem Unshared.of_reaches (h : σ.Unshared v) (hw : ReflTransGen σ.Contains v w) : σ.Unshared w :=
  ⟨h.acyclic.of_reaches hw, fun ha hc => h.apart (hw.trans ha) hc⟩

theorem not_reaches_scalar {x : Scalar} {a : Address} : ¬ ReflTransGen σ.Contains (.scalar x) (.container a) := by
  intro h
  rcases ReflTransGen.cases_head h with h | ⟨_, h, _⟩
  · cases h
  · exact not_contains_scalar h

/-- What stands under a text in a mapping, or nothing at all. -/
def child (σ : Store) (v : Value) (name : String) : Value := (σ.under? v name).getD default

/-- What stands under a text depends on the mapping alone. -/
theorem under?_congr {τ : Store} {a : Address} (h : τ.read? a = σ.read? a) (name : String) :
    τ.under? (.container a) name = σ.under? (.container a) name := by
  unfold under?
  rw [entries?_congr (v := .container a) h]

theorem contains_under {name : String} (h : σ.under? v name = some w) : σ.Contains v w := by
  obtain ⟨es, hes, hw⟩ := Option.bind_eq_some_iff.1 h
  exact contains_entry hes (Entries.mem_of_get? hw)

theorem child_reaches {name : String} {a : Address} (h : ReflTransGen σ.Contains (σ.child v name) (.container a)) :
    σ.Contains v (σ.child v name) := by
  unfold child at h ⊢
  cases hw : σ.under? v name with
  | none =>
      rw [hw] at h
      exact absurd h not_reaches_scalar
  | some w => exact contains_under hw

/-- A mapping is not inside of what it holds. -/
theorem Unshared.not_child {a : Address} (h : σ.Unshared (.container a)) (name : String) :
    ¬ ReflTransGen σ.Contains (σ.child (.container a) name) (.container a) :=
  fun hback => h.acyclic _ .refl (TransGen.head' (child_reaches hback) hback)

/-- What stands under different keys has different containers. -/
theorem Unshared.children_apart {a : Address} (h : σ.Unshared (.container a)) {name other : String} (hne : name ≠ other) :
    σ.Apart (σ.child (.container a) name) (σ.child (.container a) other) := by
  intro b hb hb'
  have hfirst := child_reaches hb
  have hsecond := child_reaches hb'
  unfold child at hb hb'
  cases hx : σ.under? (.container a) name with
  | none =>
      rw [hx] at hb
      exact not_reaches_scalar hb
  | some x =>
      cases hy : σ.under? (.container a) other with
      | none =>
          rw [hy] at hb'
          exact not_reaches_scalar hb'
      | some y =>
          rw [hx] at hb
          rw [hy] at hb'
          obtain ⟨es, hes, hxe⟩ := Option.bind_eq_some_iff.1 hx
          obtain ⟨fs, hfs, hye⟩ := Option.bind_eq_some_iff.1 hy
          cases hes.symm.trans hfs
          have hpairs : es.Pairwise fun e f => σ.Apart e.2 f.2 := by
            unfold entries? at hes
            split at hes
            · next hc =>
              cases hes
              exact List.pairwise_map.1 (h.apart .refl hc)
            · next hc =>
              cases hes
              exact List.pairwise_map.1 (h.apart .refl hc)
            · cases hes
          have hsymm : Std.Symm fun e f : Key × Value => σ.Apart e.2 f.2 := ⟨fun e f hef c hc hc' => hef c hc' hc⟩
          have hentries : (Key.text name, x) ≠ (Key.text other, y) := by
            intro heq
            injection heq with hkeys
            injection hkeys with hkeys
            injection hkeys with hkeys
            exact hne hkeys
          exact hpairs.forall (Entries.mem_of_get? hxe) (Entries.mem_of_get? hye) hentries b hb hb'

/-- Items of an array are without shared containers as it is, and share none with each other. -/
theorem Unshared.items (h : σ.Unshared v) :
    (∀ w ∈ (σ.items? v).getD [], σ.Unshared w) ∧ ((σ.items? v).getD []).Pairwise σ.Apart := by
  cases hitems : σ.items? v with
  | none => exact ⟨nofun, .nil⟩
  | some xs =>
      refine ⟨fun w hw => h.of_reaches (.single (contains_item hitems hw)), ?_⟩
      cases v with
      | scalar y => cases hitems
      | container a =>
          unfold items? at hitems
          split at hitems
          · next hc =>
            cases hitems
            exact h.apart .refl hc
          · next hc =>
            cases hitems
            exact h.apart .refl hc
          · cases hitems

end Store

/-! ## Checks look at their value alone -/

/-- A value and what it holds, at any depth, in a store and in another one that is the same there. -/
def Area.below (σ : Store) (v : Value) (τ : Store) : Area where
  has a := ReflTransGen σ.Contains v (.container a)
  met w := w.isScalar = true ∨ ReflTransGen σ.Contains v w
  left := σ
  right := τ
  met_scalar _ := .inl rfl
  has_met h := h.elim nofun id

section Below

variable {σ : Store} {v : Value} {q r : Run}

/-- Two runs whose stores are as large and the same below the value. -/
theorem Area.below_start (hsize : r.store.cells.size = q.store.cells.size)
    (hsame : ∀ a, ReflTransGen q.store.Contains v (.container a) → r.store.read? a = q.store.read? a) :
    (Area.below q.store v r.store).Runs q r where
  size := hsize
  kept := rfl
  same := hsame
  closed _ c ha hc _ hw := .inr (ha.tail ⟨c, hc, hw⟩)
  left _ _ := rfl
  right _ _ := rfl

theorem Area.below_lawful (σ : Store) (v : Value) (τ : Store) (resolve : Resolver) (n : Nat) (ctx : Context) :
    (Tandem.following (Area.below σ v τ) Eq resolve n ctx ctx).Lawful := by
  refine Tandem.following_lawful (fun _ => rfl) (fun h => ?_) resolve n ⟨fun _ => Iff.rfl, fun _ _ _ => rfl⟩
  rw [List.forall₂_eq_eq_eq] at h ⊢
  rw [List.forall₂_eq_eq_eq] at h
  rw [h]

/-- A check looks at its value and, if it comes to its peers, at what is found about them. -/
theorem PropertyChecker.collect_beside (c : PropertyChecker) {τ : Store} {resolve : Resolver} {n : Nat} {ctx : Context}
    {path : Path} {present : Bool} {parent : Option Value}
    (hpeers : ∀ w, c.early ctx.convert path present q.store v = .ok (.goOn w) →
      peerFindings c path r.store parent v = peerFindings c path q.store parent v) (hr : (Area.below σ v τ).Runs q r) :
    Agrees (Area.below σ v τ).Runs Eq ((c.collect (follow resolve n) ctx path present parent v).ending q)
      ((c.collect (follow resolve n) ctx path present parent v).ending r) := by
  have hlawful := Area.below_lawful σ v τ resolve n ctx
  refine (PropertyChecker.collect_agrees hlawful hr (.inr .refl) hpeers fun hr hmet =>
    Rule.runAll_tandem hlawful c.rules hr hmet).mono (fun x y h => ?_) fun _ _ h => h
  have hfound : List.Forall₂ Eq x.1 y.1 := h.1
  rw [List.forall₂_eq_eq_eq] at hfound
  exact Prod.ext hfound h.2.1.symm

/-- **A check looks at its value and at the keys beside it alone.** In a store that is the same there it gives the same, and
what it changes is below the value. -/
theorem PropertyChecker.collect_local (c : PropertyChecker) {τ : Store} {resolve : Resolver} {n : Nat} {ctx : Context}
    {path : Path} {present : Bool} {parent : Option Value}
    (hparent : ∀ p ∈ parent, ∀ d, r.store.holds p d = q.store.holds p d) (hr : (Area.below σ v τ).Runs q r) :
    Agrees (Area.below σ v τ).Runs Eq ((c.collect (follow resolve n) ctx path present parent v).ending q)
      ((c.collect (follow resolve n) ctx path present parent v).ending r) :=
  c.collect_beside (fun _ _ => peerFindings_congr fun p hp d _ => hparent p hp d) hr

end Below

/-! ## What declared keys leave of a mapping -/

/-- Whether conversions are saved. -/
def Leniency.saves (l : Leniency) : Bool := l.saveConversions && !l.skipConversions

/-- A content in which what a key counts as is saved, if nothing was found about it. -/
def Cell.settle (leniency : Leniency) (name : String) (found : Findings) (x : Value) : Cell → Cell
  | .mapping es =>
    if leniency.saves && (Entries.get? name es).isSome && found.isEmpty then .mapping (Entries.put (.text name) x es)
    else .mapping es
  | c => c

/-- The entries of a content that is a mapping of either sort. -/
def Cell.entries? : Cell → Option (List (Key × Value))
  | .mapping es => some es
  | .readOnly es => some es
  | _ => none

theorem Store.entries?_of_read {σ : Store} {a : Address} {c : Cell} (h : σ.read? a = some c) :
    σ.entries? (.container a) = c.entries? := by
  unfold Store.entries?
  rw [show σ.cell? (.container a) = some c from h]
  cases c <;> rfl

theorem Store.entries?_cell {σ : Store} {a : Address} {es : List (Key × Value)} (h : σ.entries? (.container a) = some es) :
    ∃ c, σ.read? a = some c ∧ c.entries? = some es := by
  cases hc : σ.read? a with
  | none =>
      unfold Store.entries? at h
      rw [show σ.cell? (.container a) = none from hc] at h
      cases h
  | some c => exact ⟨c, rfl, (Store.entries?_of_read hc).symm.trans h⟩

/-- What a mapping answers about a datum depends on its keys alone. -/
theorem Store.holds_of_keys {σ ρ : Store} {v : Value} {es fs : List (Key × Value)} (hes : σ.entries? v = some es)
    (hfs : ρ.entries? v = some fs) (hkeys : fs.map Prod.fst = es.map Prod.fst) (d : Datum) : ρ.holds v d = σ.holds v d := by
  unfold Store.holds
  rw [hes, hfs]
  dsimp only
  cases d.key with
  | error e => rfl
  | ok k =>
      simp only [bind, Except.bind, pure, Except.pure]
      rw [Entries.find?_isSome_congr hkeys]

section Settle

variable {leniency : Leniency} {name other : String} {found : Findings} {x : Value} {c : Cell}

theorem Cell.settle_keys :
    (c.settle leniency name found x).entries?.map (List.map Prod.fst) = c.entries?.map (List.map Prod.fst) := by
  cases c with
  | mapping es =>
      rw [settle]
      split
      · next h =>
        rw [Bool.and_eq_true, Bool.and_eq_true] at h
        exact congrArg some (Entries.keys_put h.1.2)
      · rfl
  | _ => rfl

theorem Cell.settle_get?_other (h : name ≠ other) :
    (c.settle leniency name found x).entries?.bind (Entries.get? other) = c.entries?.bind (Entries.get? other) := by
  cases c with
  | mapping es =>
      rw [settle]
      split
      · exact Entries.get?_put_other h
      · rfl
  | _ => rfl

/-- Saving under two keys comes to the same in both orders. -/
theorem Cell.settle_comm {found' : Findings} {y : Value} (h : name ≠ other) :
    (c.settle leniency name found x).settle leniency other found' y =
      (c.settle leniency other found' y).settle leniency name found x := by
  cases c with
  | mapping es =>
      have hname : Entries.get? name (Entries.put (.text other) y es) = Entries.get? name es := Entries.get?_put_other h.symm
      have hother : Entries.get? other (Entries.put (.text name) x es) = Entries.get? other es := Entries.get?_put_other h
      by_cases hx : (leniency.saves && (Entries.get? name es).isSome && found.isEmpty) = true
      · by_cases hy : (leniency.saves && (Entries.get? other es).isSome && found'.isEmpty) = true
        · have hkeys := And.intro hx hy
          simp only [Bool.and_eq_true] at hkeys
          simp only [settle, hx, hy, hname, hother, if_true]
          rw [Entries.put_comm h hkeys.1.1.2 hkeys.2.1.2]
        · simp only [settle, hx, hy, hother, if_true, if_false, Bool.false_eq_true]
      · by_cases hy : (leniency.saves && (Entries.get? other es).isSome && found'.isEmpty) = true
        · simp only [settle, hx, hy, hname, if_true, if_false, Bool.false_eq_true]
        · simp only [settle, hx, hy, if_false, Bool.false_eq_true]
  | _ => rfl

end Settle

/-- What the check of one declared key by itself ends with. -/
structure FieldEnd where
  found : Findings
  value : Value
  run : Run

/-- A declared key of a mapping, checked by itself in a store. -/
def PropertyChecker.field (f : Follow) (ctx : Context) (path : Path) (σ : Store) (v : Value) (p : String × PropertyChecker) :
    Except Fault (Findings × Value) × Run :=
  (p.2.collect f ctx (path.key p.1) (σ.under? v p.1).isSome (some v) (σ.child v p.1)).ending { store := σ }

/-- A content after what some keys count as was saved. -/
def Cell.settleAll (leniency : Leniency) (ends : String × PropertyChecker → FieldEnd) (done : List (String × PropertyChecker))
    (c : Cell) : Cell :=
  done.foldl (fun c p => c.settle leniency p.1 (ends p).found (ends p).value) c

/-- What some declared keys of a mapping leave of a store, if each is checked by itself: below each key what its check leaves
there, in the mapping what the keys count as, and elsewhere what was there. -/
structure Store.After (σ : Store) (a : Address) (leniency : Leniency) (ends : String × PropertyChecker → FieldEnd)
    (done : List (String × PropertyChecker)) (ρ : Store) : Prop where
  size : ρ.cells.size = σ.cells.size
  below : ∀ p ∈ done, ∀ b, ReflTransGen σ.Contains (σ.child (.container a) p.1) (.container b) →
    ρ.read? b = (ends p).run.store.read? b
  cell : ρ.read? a = (σ.read? a).map (Cell.settleAll leniency ends done)
  elsewhere : ∀ b, b ≠ a → (∀ p ∈ done, ¬ ReflTransGen σ.Contains (σ.child (.container a) p.1) (.container b)) →
    ρ.read? b = σ.read? b

section After

variable {σ ρ : Store} {a : Address} {leniency : Leniency} {ends : String × PropertyChecker → FieldEnd}
  {done : List (String × PropertyChecker)}

theorem Cell.settleAll_keys (c : Cell) :
    (c.settleAll leniency ends done).entries?.map (List.map Prod.fst) = c.entries?.map (List.map Prod.fst) := by
  induction done generalizing c with
  | nil => rfl
  | cons p rest ih => exact (ih _).trans settle_keys

theorem Cell.settleAll_get? {name : String} (h : name ∉ done.map Prod.fst) (c : Cell) :
    (c.settleAll leniency ends done).entries?.bind (Entries.get? name) = c.entries?.bind (Entries.get? name) := by
  induction done generalizing c with
  | nil => rfl
  | cons p rest ih =>
      rw [List.map_cons, List.mem_cons, not_or] at h
      exact (ih h.2 _).trans (settle_get?_other (Ne.symm h.1))

namespace Store.After

theorem nil (σ : Store) (a : Address) (leniency : Leniency) (ends : String × PropertyChecker → FieldEnd) :
    σ.After a leniency ends [] σ where
  size := rfl
  below _ h := absurd h List.not_mem_nil
  cell := by
    cases σ.read? a <;> rfl
  elsewhere _ _ _ := rfl

variable (h : σ.After a leniency ends done ρ)

include h

/-- The keys of the mapping stay as they are. -/
theorem keys : (ρ.entries? (.container a)).map (List.map Prod.fst) = (σ.entries? (.container a)).map (List.map Prod.fst) := by
  have hcell := h.cell
  cases hc : σ.read? a with
  | none =>
      rw [hc] at hcell
      unfold Store.entries?
      rw [show ρ.cell? (.container a) = none from hcell, show σ.cell? (.container a) = none from hc]
  | some c =>
      rw [hc] at hcell
      rw [Store.entries?_of_read hcell, Store.entries?_of_read hc, Cell.settleAll_keys]

theorem under? {name : String} (hname : name ∉ done.map Prod.fst) :
    ρ.under? (.container a) name = σ.under? (.container a) name := by
  have hcell := h.cell
  unfold Store.under?
  cases hc : σ.read? a with
  | none =>
      rw [hc] at hcell
      unfold Store.entries?
      rw [show ρ.cell? (.container a) = none from hcell, show σ.cell? (.container a) = none from hc]
  | some c =>
      rw [hc] at hcell
      rw [Store.entries?_of_read hcell, Store.entries?_of_read hc, Cell.settleAll_get? hname]

/-- The mapping holds the same keys. -/
theorem holds (hmapping : (σ.entries? (.container a)).isSome = true) (d : Datum) :
    ρ.holds (.container a) d = σ.holds (.container a) d := by
  have hkeys := h.keys
  obtain ⟨es, hes⟩ := Option.isSome_iff_exists.1 hmapping
  rw [hes] at hkeys
  obtain ⟨fs, hfs, heq⟩ := Option.map_eq_some_iff.1 hkeys
  exact Store.holds_of_keys hes hfs heq d

variable (hσ : σ.Unshared (.container a))

include hσ

/-- Below another key nothing has changed. -/
theorem read?_child {name : String} (hname : name ∉ done.map Prod.fst) {b : Address}
    (hb : ReflTransGen σ.Contains (σ.child (.container a) name) (.container b)) : ρ.read? b = σ.read? b := by
  refine h.elsewhere b ?_ fun p hp hpb => ?_
  · rintro rfl
    exact hσ.not_child name hb
  · have hne : p.1 ≠ name := fun heq => hname (heq ▸ List.mem_map_of_mem hp)
    exact hσ.children_apart hne b hpb hb

end Store.After

/-! ## One declared key after others -/

section Step

variable {resolve : Resolver} {n : Nat} {ctx : Context} {path : Path} {r : Run} {p : String × PropertyChecker}

/-- A key is checked after others as it is checked by itself. -/
theorem Store.After.collect (resolve : Resolver) (n : Nat) (ctx : Context) (path : Path)
    (h : σ.After a leniency ends done r.store) (hσ : σ.Unshared (.container a))
    (hmapping : (σ.entries? (.container a)).isSome = true) (hp : p.1 ∉ done.map Prod.fst) :
    Agrees (Area.below σ (σ.child (.container a) p.1) r.store).Runs Eq
      (PropertyChecker.field (follow resolve n) ctx path σ (.container a) p)
      ((p.2.collect (follow resolve n) ctx (path.key p.1) (r.store.under? (.container a) p.1).isSome (some (.container a))
        ((r.store.under? (.container a) p.1).getD default)).ending r) := by
  rw [h.under? hp]
  refine p.2.collect_local (fun v hv d => ?_)
    (Area.below_start (q := { store := σ }) h.size fun b hb => h.read?_child hσ hp hb)
  obtain rfl := Option.mem_some.1 hv
  exact h.holds hmapping d

theorem Store.write_same {σ : Store} {a : Address} {c : Cell} (h : σ.read? a = some c) : σ.write a c = σ := by
  refine Store.ext_read? fun b => ?_
  rw [Store.read?_write]
  split
  · next hab => rw [← h, hab.1]
  · rfl

/-- Saving under a key that is there does not fail, and writes what is then to stand in the mapping. -/
theorem saveConversion_settles {c : Cell} {name : String} {x : Value} (hc : r.store.read? a = some c)
    (hname : (r.store.under? (.container a) name).isSome = true) :
    (saveConversion leniency (.container a) name x).ending r =
      (.ok (), { r with store := r.store.write a (c.settle leniency name [] x) }) := by
  unfold saveConversion
  rw [show (leniency.saveConversions && !leniency.skipConversions) = leniency.saves from rfl]
  by_cases hsaves : leniency.saves = true
  · rw [if_pos hsaves, Check.ending_bind_ok (Check.ending_store r), show r.store.cell? (.container a) = some c from hc]
    unfold Store.under? at hname
    rw [Store.entries?_of_read hc] at hname
    cases c with
    | mapping es =>
        obtain ⟨current, hcurrent⟩ := Option.isSome_iff_exists.1 hname
        change Entries.get? name es = some current at hcurrent
        have hkeep : (leniency.saves && (Entries.get? name es).isSome && List.isEmpty ([] : Findings)) = true := by
          simp [hsaves, hcurrent]
        rw [Cell.settle, if_pos hkeep]
        dsimp only
        rw [hcurrent]
        dsimp only
        split
        · rfl
        · next heq =>
          rw [Classical.not_not] at heq
          rw [Entries.put_same (heq ▸ hcurrent), Store.write_same hc]
          rfl
    | _ =>
        dsimp only [Cell.settle]
        rw [Store.write_same hc]
        rfl
  · rw [if_neg hsaves]
    have hsettle : c.settle leniency name [] x = c := by
      cases c with
      | mapping es => simp [Cell.settle, hsaves]
      | _ => rfl
    rw [hsettle, Store.write_same hc]
    rfl

/-- What a key that was checked by itself leaves, where nothing is to be saved. -/
theorem Cell.settle_unsaved {c : Cell} {name : String} {found : Findings} {x : Value}
    (h : ¬ ((c.entries?.bind (Entries.get? name)).isSome && found.isEmpty) = true) : c.settle leniency name found x = c := by
  cases c with
  | mapping es =>
      have hkeep : ¬ (leniency.saves && (Entries.get? name es).isSome && found.isEmpty) = true := by
        rw [Bool.and_assoc, Bool.and_eq_true]
        exact fun hkeep => h hkeep.2
      rw [settle, if_neg hkeep]
  | _ => rfl

/-- The changes of one key more, made beside those of others. -/
theorem Store.After.snoc (h : σ.After a leniency ends done ρ) (hσ : σ.Unshared (.container a)) (hp : p.1 ∉ done.map Prod.fst)
    {s : Run} (hruns : (Area.below σ (σ.child (.container a) p.1) ρ).Runs (ends p).run s) {c : Cell} (hc : s.store.read? a = some c) :
    σ.After a leniency ends (done ++ [p]) (s.store.write a (c.settle leniency p.1 (ends p).found (ends p).value)) := by
  have houtside : s.store.read? a = ρ.read? a := hruns.right a (hσ.not_child p.1)
  have hother : ∀ {b d}, b ≠ a → (s.store.write a d).read? b = s.store.read? b :=
    fun hne => Store.read?_write_other _ _ hne.symm
  constructor
  case size => rw [Store.size_write, hruns.size, hruns.kept]; rfl
  case below =>
    intro q hq b hb
    have hne : b ≠ a := by
      rintro rfl
      exact hσ.not_child q.1 hb
    rw [hother hne]
    rcases List.mem_append.1 hq with hq | hq
    · have hnames : p.1 ≠ q.1 := fun heq => hp (heq ▸ List.mem_map_of_mem hq)
      rw [hruns.right b fun hpb => hσ.children_apart hnames b hpb hb]
      exact h.below q hq b hb
    · obtain rfl := List.mem_singleton.1 hq
      exact hruns.same b hb
  case cell =>
    rw [Store.read?_write_same _ _ _ (Store.lt_of_read? hc)]
    have hcell := houtside.symm.trans hc
    rw [h.cell] at hcell
    obtain ⟨c', hc', rfl⟩ := Option.map_eq_some_iff.1 hcell
    rw [hc', Option.map_some]
    unfold Cell.settleAll
    rw [List.foldl_append, List.foldl_cons, List.foldl_nil]
  case elsewhere =>
    intro b hne hb
    rw [hother hne, hruns.right b (hb p (List.mem_append_right _ (List.mem_singleton_self p)))]
    exact h.elsewhere b hne fun q hq => hb q (List.mem_append_left _ hq)

/-- One key more: what its check by itself finds is found, and its changes are made beside those of the others. -/
theorem Store.After.step (h : σ.After a leniency ends done r.store) (hσ : σ.Unshared (.container a))
    (hmapping : (σ.entries? (.container a)).isSome = true) (hp : p.1 ∉ done.map Prod.fst)
    (hends : PropertyChecker.field (follow resolve n) ctx path σ (.container a) p =
      (.ok ((ends p).found, (ends p).value), (ends p).run)) :
    ∃ r', (PropertyChecker.collectFields (follow resolve n) ctx path leniency (.container a) [p]).ending r =
      (.ok (ends p).found, r') ∧ σ.After a leniency ends (done ++ [p]) r'.store := by
  have hcollect := h.collect resolve n ctx path hσ hmapping hp
  rw [hends] at hcollect
  generalize hx : (p.2.collect _ _ _ _ _ _).ending r = y at hcollect
  cases hcollect with
  | @done _ x _ s heq hruns =>
      subst heq
      have hout : s.store.read? a = r.store.read? a := hruns.right a (hσ.not_child p.1)
      obtain ⟨c, hc⟩ : ∃ c, s.store.read? a = some c := by
        obtain ⟨es, hes⟩ := Option.isSome_iff_exists.1 hmapping
        obtain ⟨c, hc, -⟩ := Store.entries?_cell hes
        exact ⟨_, hout.trans (h.cell.trans (by rw [hc, Option.map_some]))⟩
      have hsnoc := h.snoc hσ hp hruns hc
      obtain ⟨name, checker⟩ := p
      rw [PropertyChecker.collectFields_singleton, Check.ending_bind_ok (Check.ending_store r), Check.ending_bind_ok hx]
      dsimp only
      split
      · next hsave =>
        rw [Bool.and_eq_true] at hsave
        have hfound : (ends (name, checker)).found = [] := List.isEmpty_iff.1 hsave.2
        have hname : (s.store.under? (.container a) name).isSome = true := by
          rw [Store.under?_congr hout]
          exact hsave.1
        rw [Check.ending_bind_ok (saveConversion_settles hc hname)]
        rw [hfound] at hsnoc ⊢
        exact ⟨_, rfl, hsnoc⟩
      · next hsave =>
        have hunsaved : ¬ ((c.entries?.bind (Entries.get? name)).isSome && (ends (name, checker)).found.isEmpty) = true := by
          rw [← Store.under?_congr hout, Store.under?, Store.entries?_of_read hc] at hsave
          exact hsave
        rw [Cell.settle_unsaved hunsaved, Store.write_same hc] at hsnoc
        exact ⟨s, rfl, hsnoc⟩

end Step

/-! ## All declared keys -/

/-- What the check of a declared key by itself ends with, if it ends in no fault. -/
def PropertyChecker.fieldEnd (f : Follow) (ctx : Context) (path : Path) (σ : Store) (v : Value) (p : String × PropertyChecker) :
    FieldEnd :=
  match PropertyChecker.field f ctx path σ v p with
  | (.ok (found, x), s) => ⟨found, x, s⟩
  | (.error _, s) => ⟨[], default, s⟩

theorem PropertyChecker.field_of_ok {f : Follow} {ctx : Context} {path : Path} {v : Value} {p : String × PropertyChecker}
    {y : Findings × Value} {s : Run} (h : PropertyChecker.field f ctx path σ v p = (.ok y, s)) :
    PropertyChecker.field f ctx path σ v p = (.ok ((PropertyChecker.fieldEnd f ctx path σ v p).found,
      (PropertyChecker.fieldEnd f ctx path σ v p).value), (PropertyChecker.fieldEnd f ctx path σ v p).run) := by
  unfold fieldEnd
  rw [h]

section Fields

variable {resolve : Resolver} {n : Nat} {ctx : Context} {path : Path} {ps : List (String × PropertyChecker)}

theorem not_mem_done {p : String × PropertyChecker} (hnames : ((done ++ p :: ps).map Prod.fst).Nodup) : p.1 ∉ done.map Prod.fst := by
  rw [List.map_append, List.map_cons] at hnames
  exact fun hmem => (List.nodup_append.1 hnames).2.2 _ hmem _ (List.mem_cons_self ..) rfl

/-- Keys that are checked after others, where the check of each by itself ends in no fault. The induction is on the keys that
are left. -/
theorem Store.After.run (hσ : σ.Unshared (.container a)) (hmapping : (σ.entries? (.container a)).isSome = true)
    (hends : ∀ p ∈ ps, PropertyChecker.field (follow resolve n) ctx path σ (.container a) p =
      (.ok ((ends p).found, (ends p).value), (ends p).run)) :
    ∀ {done : List (String × PropertyChecker)} {r : Run}, ((done ++ ps).map Prod.fst).Nodup → σ.After a leniency ends done r.store →
      ∃ r', (PropertyChecker.collectFields (follow resolve n) ctx path leniency (.container a) ps).ending r =
        (.ok (ps.flatMap fun p => (ends p).found), r') ∧ σ.After a leniency ends (done ++ ps) r'.store := by
  induction ps with
  | nil =>
      intro done r _ h
      rw [List.append_nil, PropertyChecker.collectFields]
      exact ⟨r, rfl, h⟩
  | cons p rest ih =>
      intro done r hnames h
      rw [List.forall_mem_cons] at hends
      have hp : p.1 ∉ done.map Prod.fst := not_mem_done hnames
      obtain ⟨s, hs, hafter⟩ := h.step hσ hmapping hp hends.1
      rw [List.append_cons] at hnames
      obtain ⟨r', hr', hafter'⟩ := ih hends.2 hnames hafter
      rw [List.append_assoc] at hafter'
      refine ⟨r', ?_, hafter'⟩
      have hsplit : p :: rest = [p] ++ rest := rfl
      rw [hsplit, PropertyChecker.collectFields_append, Check.ending_bind_ok hs, Check.ending_bind_ok hr', List.flatMap_append,
        List.flatMap_singleton]
      rfl

/-- Where keys are checked without a fault, the check of each by itself ends in none. -/
theorem Store.After.field_ok (hσ : σ.Unshared (.container a)) (hmapping : (σ.entries? (.container a)).isSome = true) :
    ∀ {done : List (String × PropertyChecker)} {r r' : Run} {found : Findings}, ((done ++ ps).map Prod.fst).Nodup →
      σ.After a leniency (PropertyChecker.fieldEnd (follow resolve n) ctx path σ (.container a)) done r.store →
      (PropertyChecker.collectFields (follow resolve n) ctx path leniency (.container a) ps).ending r = (.ok found, r') →
      ∀ p ∈ ps, ∃ y s, PropertyChecker.field (follow resolve n) ctx path σ (.container a) p = (.ok y, s) := by
  induction ps with
  | nil => exact fun _ _ _ _ hp => absurd hp List.not_mem_nil
  | cons p rest ih =>
      intro done r r' found hnames h hfields
      have hp : p.1 ∉ done.map Prod.fst := not_mem_done hnames
      have hsplit : p :: rest = [p] ++ rest := rfl
      rw [hsplit, PropertyChecker.collectFields_append] at hfields
      obtain ⟨first, s, hfirst, hfields⟩ := Check.ending_bind_eq_ok hfields
      obtain ⟨others, s', hothers, -⟩ := Check.ending_bind_eq_ok hfields
      have hok : ∃ y s, PropertyChecker.field (follow resolve n) ctx path σ (.container a) p = (.ok y, s) := by
        have hcollect := h.collect resolve n ctx path hσ hmapping hp
        obtain ⟨name, c⟩ := p
        rw [PropertyChecker.collectFields_singleton, Check.ending_bind_ok (Check.ending_store r)] at hfirst
        obtain ⟨x, s₁, hx, -⟩ := Check.ending_bind_eq_ok hfirst
        rw [hx] at hcollect
        generalize PropertyChecker.field _ _ _ _ _ _ = y at hcollect ⊢
        cases hcollect with
        | done => exact ⟨_, _, rfl⟩
      rw [List.forall_mem_cons]
      refine ⟨hok, ?_⟩
      obtain ⟨y, s₁, hy⟩ := hok
      obtain ⟨s₂, hs₂, hafter⟩ := h.step hσ hmapping hp (PropertyChecker.field_of_ok hy)
      obtain rfl : s₂ = s := (Prod.mk.inj (hs₂.symm.trans hfirst)).2
      rw [List.append_cons] at hnames
      exact ih hnames hafter hothers

/-- **Declared keys are checked one by one.** On data without shared containers a run over some keys with different names that
ends in no fault finds what the check of each key by itself finds, and leaves what these checks leave. -/
theorem PropertyChecker.collectFields_after (hσ : σ.Unshared (.container a))
    (hmapping : (σ.entries? (.container a)).isSome = true) (hnames : (ps.map Prod.fst).Nodup) {r r' : Run} (hr : r.store = σ)
    {found : Findings} (h : (collectFields (follow resolve n) ctx path leniency (.container a) ps).ending r = (.ok found, r')) :
    let ends := fieldEnd (follow resolve n) ctx path σ (.container a)
    (∀ p ∈ ps, field (follow resolve n) ctx path σ (.container a) p = (.ok ((ends p).found, (ends p).value), (ends p).run)) ∧
      found = ps.flatMap (fun p => (ends p).found) ∧ σ.After a leniency ends ps r'.store := by
  intro ends
  have hstart : σ.After a leniency ends [] r.store := hr ▸ .nil r.store a leniency ends
  have hnil : (([] ++ ps).map Prod.fst).Nodup := hnames
  have hends : ∀ p ∈ ps, field (follow resolve n) ctx path σ (.container a) p =
      (.ok ((ends p).found, (ends p).value), (ends p).run) := by
    intro p hp
    obtain ⟨y, s, hy⟩ := Store.After.field_ok hσ hmapping hnil hstart h p hp
    exact field_of_ok hy
  obtain ⟨s, hs, hafter⟩ := Store.After.run hσ hmapping hends hnil hstart
  cases h.symm.trans hs
  exact ⟨hends, rfl, hafter⟩

/-- In another order keys leave the same. -/
theorem Store.After.perm {ρ' : Store} {qs : List (String × PropertyChecker)} (h : σ.After a leniency ends ps ρ)
    (h' : σ.After a leniency ends qs ρ') (hperm : ps.Perm qs) (hnames : (ps.map Prod.fst).Nodup) : ρ' = ρ := by
  refine Store.ext_read? fun b => ?_
  by_cases hba : b = a
  · subst hba
    rw [h.cell, h'.cell]
    cases σ.read? b with
    | none => rfl
    | some c =>
        refine congrArg some (hperm.foldl_eq' (fun p hp q hq c => ?_) c).symm
        by_cases hpq : p.1 = q.1
        · obtain rfl := List.inj_on_of_nodup_map hnames hp hq hpq
          rfl
        · exact Cell.settle_comm hpq
  · by_cases hb : ∃ p ∈ ps, ReflTransGen σ.Contains (σ.child (.container a) p.1) (.container b)
    · obtain ⟨p, hp, hpb⟩ := hb
      rw [h.below p hp b hpb, h'.below p (hperm.mem_iff.1 hp) b hpb]
    · rw [h.elsewhere b hba fun p hp hpb => hb ⟨p, hp, hpb⟩,
        h'.elsewhere b hba fun p hp hpb => hb ⟨p, hperm.mem_iff.2 hp, hpb⟩]

end Fields

end After

end ShapeCheck
