import ShapeCheck.Proofs.Conformance
import ShapeCheck.Proofs.Faults
import ShapeCheck.Proofs.Trees

/-!
# Verdicts of checks

`Judges` says of a check what it decides, from any run with one store: it ends in a fault exactly if `F`, and otherwise its
result passes exactly if `P`, and the store is as before. The rules after it go along a check, as for checks one after the
other, whose findings are put together, and for lists of checks. A rule that asks for no other definition is judged by what
its method admits, `Rule.run_judges`.
-/

namespace ShapeCheck

section Judges

variable {α β : Type} {σ : Store} {passes : α → Prop} {passes' : β → Prop} {P P' F F' : Prop}

/-- The end of a check that was meant to give a fault if `F`, and otherwise a result that passes if `P`. -/
inductive Judged (σ : Store) (passes : α → Prop) (P F : Prop) : Except Fault α × Run → Prop
  | fault {e : Fault} {s : Run} (stumbles : F) : Judged σ passes P F (.error e, s)
  | done {a : α} {s : Run} (store : s.store = σ) (answers : ¬ F) (verdict : passes a ↔ P) : Judged σ passes P F (.ok a, s)

/-- What a check decides in a store. -/
def Judges (σ : Store) (c : Check α) (passes : α → Prop) (P F : Prop) : Prop :=
  ∀ r : Run, r.store = σ → Judged σ passes P F (c.ending r)

/-- Nothing was found. -/
abbrev Clean (found : Findings) : Prop := found = []

namespace Judges

theorem congr {c : Check α} (h : Judges σ c passes P F) (hP : P ↔ P') (hF : F ↔ F') : Judges σ c passes P' F' := by
  intro r hr
  have hend := h r hr
  generalize c.ending r = x at hend ⊢
  cases hend with
  | fault hf => exact .fault (hF.1 hf)
  | done hs hf hp => exact .done hs (fun hf' => hf (hF.2 hf')) (hp.trans hP)

theorem pure {a : α} (hp : passes a ↔ P) (hF : ¬ F) : Judges σ (Pure.pure a) passes P F := fun _ hr => .done hr hF hp

theorem throw {e : Fault} (hF : F) : Judges σ (throw e) passes P F := fun _ _ => .fault hF

/-- A check and what depends on its result. -/
theorem bind {c : Check α} {k : α → Check β} (hc : Judges σ c passes P F) (hF : F → F')
    (hk : ∀ a, ¬ F → (passes a ↔ P) → Judges σ (k a) passes' P' F') : Judges σ (c >>= k) passes' P' F' := by
  intro r hr
  rw [Check.ending_bind]
  have hend := hc r hr
  generalize c.ending r = x at hend ⊢
  cases hend with
  | fault hf => exact .fault (hF hf)
  | done hs hf hp => exact hk _ hf hp _ hs

theorem store {k : Store → Check α} (h : Judges σ (k σ) passes P F) : Judges σ (Check.store >>= k) passes P F := by
  intro r hr
  rw [Check.ending_bind_ok (Check.ending_store r), hr]
  exact h r hr

/-- A step that only computes, and what depends on its result. -/
theorem ofExcept {x : Except Fault β} {k : β → Check α} (herror : ∀ e, x = .error e → F)
    (hok : ∀ b, x = .ok b → Judges σ (k b) passes P F) : Judges σ (Check.ofExcept x >>= k) passes P F := by
  cases x with
  | error e => exact fun _ _ => .fault (herror e rfl)
  | ok b => exact hok b rfl

/-- An event that is kept changes no verdict. -/
theorem record {e : RunEvent} {k : Unit → Check α} (h : Judges σ (k ()) passes P F) :
    Judges σ (Check.record e >>= k) passes P F := by
  intro r hr
  rw [Check.ending_bind_ok (Check.ending_record e r)]
  exact h _ hr

/-- Findings put together are none if there are none on either side. -/
theorem append {c d : Check Findings} (hc : Judges σ c Clean P F) (hd : Judges σ d Clean P' F') :
    Judges σ (do return (← c) ++ (← d)) Clean (P ∧ P') (F ∨ F') := by
  refine hc.bind .inl fun found hf hfound => hd.bind .inr fun others hf' hothers => pure ?_ (not_or.2 ⟨hf, hf'⟩)
  rw [← hfound, ← hothers]
  exact List.append_eq_nil_iff

end Judges

/-! ## Lists of checks -/

/-- Each item is checked. -/
theorem eachItem_judges {path : Path} {check : Path → Value → Check Findings} {P F : Value → Prop} {xs : List Value}
    (h : ∀ p, ∀ x ∈ xs, Judges σ (check p x) Clean (P x) (F x)) :
    ∀ i, Judges σ (eachItem path check i xs) Clean (∀ x ∈ xs, P x) (∃ x ∈ xs, F x) := by
  induction xs with
  | nil => exact fun i => .pure ⟨fun _ _ hx => (nomatch hx), fun _ => rfl⟩ (by rintro ⟨_, hx, _⟩; cases hx)
  | cons x rest ih =>
      intro i
      unfold eachItem
      have hrest := ih (fun p y hy => h p y (List.mem_cons_of_mem _ hy)) (i + 1)
      refine ((h _ x (List.mem_cons_self ..)).append hrest).congr ?_ ?_
      · rw [List.forall_mem_cons]
      · simp only [List.mem_cons, exists_eq_or_imp]

variable {follow : Follow} {ctx : Context} {path : Path} {v : Value}

/-- Each rule is run. -/
theorem Rule.runAll_judges {ι : Type} {P F : ι → Prop} {xs : List ι} {rules : List Rule}
    (h : List.Forall₂ (fun x r => Judges σ (Rule.run follow ctx path r v) Clean (P x) (F x)) xs rules) :
    Judges σ (Rule.runAll follow ctx path rules v) Clean (∀ x ∈ xs, P x) (∃ x ∈ xs, F x) := by
  induction h with
  | nil =>
      unfold Rule.runAll
      exact .pure ⟨fun _ _ hx => (nomatch hx), fun _ => rfl⟩ (by rintro ⟨_, hx, _⟩; cases hx)
  | @cons x r xs rules hr _ ih =>
      unfold Rule.runAll
      refine (hr.append ih).congr ?_ ?_
      · rw [List.forall_mem_cons]
      · simp only [List.mem_cons, exists_eq_or_imp]

/-- Rules of two sorts are run one after the other. -/
theorem Rule.runAll_append_judges {ι κ : Type} {P F : ι → Prop} {Q G : κ → Prop} {xs : List ι} {ys : List κ}
    {own inner : List Rule} (h : List.Forall₂ (fun x r => Judges σ (Rule.run follow ctx path r v) Clean (P x) (F x)) xs own)
    (h' : List.Forall₂ (fun y r => Judges σ (Rule.run follow ctx path r v) Clean (Q y) (G y)) ys inner) :
    Judges σ (Rule.runAll follow ctx path (own ++ inner) v) Clean ((∀ x ∈ xs, P x) ∧ ∀ y ∈ ys, Q y)
      ((∃ x ∈ xs, F x) ∨ ∃ y ∈ ys, G y) := by
  induction h with
  | nil =>
      refine (Rule.runAll_judges h').congr ?_ ?_
      · exact ⟨fun h => ⟨fun _ hx => (nomatch hx), h⟩, fun h => h.2⟩
      · exact ⟨.inr, fun h => h.resolve_left (by rintro ⟨_, hx, _⟩; cases hx)⟩
  | @cons x r xs rules hr _ ih =>
      rw [List.cons_append]
      unfold Rule.runAll
      refine (hr.append ih).congr ?_ ?_
      · rw [List.forall_mem_cons, and_assoc]
      · simp only [List.mem_cons, exists_eq_or_imp, or_assoc]

/-- What a checker of an element decides about an item. -/
abbrev PropertyChecker.JudgesItem (σ : Store) (follow : Follow) (ctx : Context) (path : Path) (v : Value) (P F : Prop)
    (c : PropertyChecker) : Prop := Judges σ (c.collect follow ctx path true none v) (fun x => x.1 = []) P F

/-- Each element is tried. -/
theorem PropertyChecker.attempts_judges {ι : Type} {P F : ι → Prop} {xs : List ι} {elements : List PropertyChecker}
    (h : List.Forall₂ (fun x c => c.JudgesItem σ follow ctx path v (P x) (F x)) xs elements) :
    Judges σ (PropertyChecker.attempts follow ctx path elements v) (fun attempts => attempts.any List.isEmpty = true)
      (∃ x ∈ xs, P x) (∃ x ∈ xs, F x) := by
  induction h with
  | nil =>
      unfold PropertyChecker.attempts
      exact .pure ⟨nofun, by rintro ⟨_, hx, _⟩; cases hx⟩ (by rintro ⟨_, hx, _⟩; cases hx)
  | @cons x c xs cs hc _ ih =>
      unfold PropertyChecker.attempts
      simp only [List.mem_cons, exists_eq_or_imp]
      refine hc.bind .inl fun found hf hfound => ih.bind .inr fun attempts hf' hattempts => .pure ?_ (not_or.2 ⟨hf, hf'⟩)
      rw [← hfound, ← hattempts, List.any_cons, Bool.or_eq_true, List.isEmpty_iff]

/-- Elements are tried up to the first that accepts. -/
theorem PropertyChecker.someAccepts_judges {ι : Type} {P F : ι → Prop} {xs : List ι} {elements : List PropertyChecker}
    (h : List.Forall₂ (fun x c => c.JudgesItem σ follow ctx path v (P x) (F x)) xs elements) :
    Judges σ (PropertyChecker.someAccepts follow ctx path elements v) (· = true) (∃ x ∈ xs, P x) (BadFirst P F xs) := by
  induction h with
  | nil =>
      unfold PropertyChecker.someAccepts
      exact .pure ⟨nofun, by rintro ⟨_, hx, _⟩; cases hx⟩ nofun
  | @cons x c xs cs hc _ ih =>
      unfold PropertyChecker.someAccepts
      simp only [List.mem_cons, exists_eq_or_imp]
      refine hc.bind .here fun found hf hfound => ?_
      by_cases hempty : found.1 = []
      · rw [if_pos (List.isEmpty_iff.2 hempty)]
        refine .pure ⟨fun _ => .inl (hfound.1 hempty), fun _ => rfl⟩ fun hbad => ?_
        cases hbad with
        | here hx => exact hf hx
        | later hx => exact hx (hfound.1 hempty)
      · rw [if_neg (fun h => hempty (List.isEmpty_iff.1 h))]
        have hnot : ¬ P x := fun hx => hempty (hfound.2 hx)
        refine ih.congr ⟨.inr, fun h => h.resolve_left hnot⟩ ⟨.later hnot, fun hbad => ?_⟩
        cases hbad with
        | here hx => exact absurd hx hf
        | later _ hrest => exact hrest

/-- What is found about an item that passes no checker is not nothing. -/
theorem noMatch_ne_nil {path : Path} {item : Value} {attempts : List Findings} (h : ¬ attempts.any List.isEmpty = true) :
    noMatch path item attempts ≠ [] := by
  unfold noMatch
  split
  · next found =>
    intro hfound
    rw [hfound] at h
    exact h rfl
  · exact List.cons_ne_nil _ _

/-- An array is to include elements: each item is to pass one of the checkers. -/
theorem Rule.includes_judges {ι : Type} {P F : Value → ι → Prop} {xs : List ι} {elements : List PropertyChecker}
    (h : ∀ p, ∀ i ∈ (σ.items? v).getD [],
      List.Forall₂ (fun x c => c.JudgesItem σ follow ctx p i (P i x) (F i x)) xs elements) :
    Judges σ ((Rule.includes elements).run follow ctx path v) Clean (∀ i ∈ (σ.items? v).getD [], ∃ x ∈ xs, P i x)
      (∃ i ∈ (σ.items? v).getD [], ∃ x ∈ xs, F i x) := by
  unfold Rule.run
  refine .store (eachItem_judges (fun p i hi => ?_) 0)
  refine (PropertyChecker.attempts_judges (h p i hi)).bind id fun attempts hf hattempts => .pure ?_ hf
  by_cases hany : attempts.any List.isEmpty = true
  · rw [if_pos hany]
    exact ⟨fun _ => hattempts.1 hany, fun _ => rfl⟩
  · rw [if_neg hany]
    exact ⟨fun h => absurd h (noMatch_ne_nil hany), fun h => absurd (hattempts.2 h) hany⟩

/-- An array is to exclude elements: no item is to pass any of the checkers. -/
theorem Rule.excludes_judges {ι : Type} {P F : Value → ι → Prop} {xs : List ι} {elements : List PropertyChecker}
    (h : ∀ p, ∀ i ∈ (σ.items? v).getD [],
      List.Forall₂ (fun x c => c.JudgesItem σ follow ctx p i (P i x) (F i x)) xs elements) :
    Judges σ ((Rule.excludes elements).run follow ctx path v) Clean (∀ i ∈ (σ.items? v).getD [], ¬ ∃ x ∈ xs, P i x)
      (∃ i ∈ (σ.items? v).getD [], BadFirst (P i) (F i) xs) := by
  unfold Rule.run
  refine .store (eachItem_judges (fun p i hi => ?_) 0)
  refine (PropertyChecker.someAccepts_judges (h p i hi)).bind id fun matched hf hmatched => .pure ?_ hf
  by_cases hmatch : matched = true
  · rw [if_pos hmatch]
    exact ⟨fun h => absurd h (List.cons_ne_nil _ _), fun h => absurd (hmatched.1 hmatch) h⟩
  · rw [if_neg hmatch]
    exact ⟨fun _ h => hmatch (hmatched.2 h), fun _ => rfl⟩

/-- The value under a declared key, if there is one. -/
def fieldOf (σ : Store) (v : Value) (name : String) : Option Value := (σ.entries? v).bind (Entries.get? name)

/-- The declared keys of a mapping are checked, where no conversions are saved. -/
theorem PropertyChecker.collectFields_judges {ι : Type} {leniency : Leniency} (hsave : leniency.saveConversions = false)
    {P F : ι → Prop} {xs : List ι} {ps : List (String × PropertyChecker)}
    (h : List.Forall₂ (fun x p => Judges σ (p.2.collect follow ctx (path.key p.1) (fieldOf σ v p.1).isSome (some v)
      ((fieldOf σ v p.1).getD default)) (fun y => y.1 = []) (P x) (F x)) xs ps) :
    Judges σ (PropertyChecker.collectFields follow ctx path leniency v ps) Clean (∀ x ∈ xs, P x) (∃ x ∈ xs, F x) := by
  have hnothing : ∀ name w, saveConversion leniency v name w = Pure.pure () := by
    intro name w
    unfold saveConversion
    rw [hsave]
    rfl
  induction h with
  | nil =>
      unfold PropertyChecker.collectFields
      exact .pure ⟨fun _ _ hx => (nomatch hx), fun _ => rfl⟩ (by rintro ⟨_, hx, _⟩; cases hx)
  | @cons x p xs ps hp _ ih =>
      obtain ⟨name, c⟩ := p
      unfold PropertyChecker.collectFields
      rw [List.forall_mem_cons]
      simp only [List.mem_cons, exists_eq_or_imp]
      refine .store (hp.bind .inl fun found hf hfound => ?_)
      have hrest : Judges σ (do return found.1 ++ (← PropertyChecker.collectFields follow ctx path leniency v ps)) Clean
          (P x ∧ ∀ y ∈ xs, P y) (F x ∨ ∃ y ∈ xs, F y) := by
        refine ih.bind .inr fun others hf' hothers => .pure ?_ (not_or.2 ⟨hf, hf'⟩)
        rw [← hfound, ← hothers]
        exact List.append_eq_nil_iff
      split
      · rw [hnothing]
        exact hrest
      · exact hrest

end Judges

/-! ## Rules on their own -/

section Admits

variable {σ : Store} {v : Value}

theorem Store.IsTree.number_eq (h : σ.IsTree v) : numberOf v = (σ.datum v).number := by
  cases v with
  | scalar a => cases a <;> rfl
  | container a =>
      obtain ⟨c, _, hdatum⟩ := h.exists_cell
      rw [hdatum]
      cases c <;> rfl

theorem Store.IsTree.content_eq (h : σ.IsTree v) : textOf v = (σ.datum v).content := by
  cases v with
  | scalar a => cases a <;> rfl
  | container a =>
      obtain ⟨c, _, hdatum⟩ := h.exists_cell
      rw [hdatum]
      cases c <;> rfl

theorem Store.IsTree.items_eq (h : σ.IsTree v) : (σ.datum v).items = ((σ.items? v).getD []).map σ.datum := by
  unfold Datum.items
  rw [h.items?_eq]
  cases σ.items? v <;> rfl

theorem Store.IsTree.length_eq (h : σ.IsTree v) : lengthOf σ v = (σ.datum v).length := by
  have hitems : (σ.datum v).items.length = ((σ.items? v).getD []).length := by
    rw [h.items_eq, List.length_map]
  cases v with
  | scalar a => cases a <;> rfl
  | container a =>
      obtain ⟨c, _, hdatum⟩ := h.exists_cell
      change ((σ.items? (.container a)).getD []).length = _
      rw [← hitems, hdatum]
      cases c <;> rfl

theorem judged_eq_nil {passes : Bool} {path : Path} {method message : String} :
    judged passes path method message v = [] ↔ passes = true := by
  cases passes <;> simp [judged]

/-- What a rule decides that asks for no other definition. -/
theorem Rule.run_judges {follow : Follow} {ctx : Context} {path : Path} {m : Method} {args : List Datum}
    {element : Datum → Except CompileError PropertyChecker} {r : Rule} (hr : m.Adds element args r)
    (hleaf : m ≠ .includes ∧ m ≠ .excludes ∧ m ≠ .reference)
    (hlimit : ∀ limit ∈ r.limit?, ∃ n, limit = .scalar (.number n)) (hv : σ.IsTree v) :
    Judges σ (r.run follow ctx path v) Clean (m.Admits args (σ.datum v)) False := by
  have hfirst : ∀ {limit : Datum} {P : Datum → Prop}, args.head? = some limit → (P limit ↔ ∃ d, args.head? = some d ∧ P d) := by
    intro limit P hlimit
    rw [hlimit]
    simp only [Option.some.injEq, exists_eq_left']
  cases hr with
  | @length bound unit limit first _ =>
      obtain ⟨n, rfl⟩ := hlimit limit rfl
      obtain ⟨allowed, hallowed⟩ := bound.allows_number n (σ.datum v).length
      unfold Rule.run
      refine .store ?_
      dsimp only
      rw [hv.length_eq, hallowed]
      refine .pure (judged_eq_nil.trans (Iff.trans ?_ (hfirst (P := fun d => bound.allows d (σ.datum v).length = .ok true) first))) id
      rw [hallowed, Except.ok.injEq]
  | @atLeast limit first _ =>
      obtain ⟨n, rfl⟩ := hlimit limit rfl
      unfold Rule.run
      rw [hv.number_eq, limitAtMost_number]
      refine .pure (judged_eq_nil.trans (Iff.trans ?_ (hfirst (P := fun d => limitAtMost d (σ.datum v).number = .ok true) first))) id
      rw [limitAtMost_number, Except.ok.injEq]
  | @atMost limit first _ =>
      obtain ⟨n, rfl⟩ := hlimit limit rfl
      unfold Rule.run
      rw [hv.number_eq, atMostLimit_number]
      refine .pure (judged_eq_nil.trans (Iff.trans ?_ (hfirst (P := fun d => atMostLimit (σ.datum v).number d = .ok true) first))) id
      rw [atMostLimit_number, Except.ok.injEq]
  | alphanumeric =>
      unfold Rule.run
      rw [hv.content_eq]
      exact .pure judged_eq_nil id
  | email =>
      unfold Rule.run
      rw [hv.content_eq]
      exact .pure judged_eq_nil id
  | date =>
      unfold Rule.run
      rw [hv.content_eq]
      exact .pure judged_eq_nil id
  | whole =>
      unfold Rule.run
      rw [hv.number_eq]
      exact .pure judged_eq_nil id
  | fraction =>
      unfold Rule.run
      rw [hv.number_eq]
      refine .pure (judged_eq_nil.trans ?_) id
      rw [Bool.not_eq_true']
      rfl
  | @pattern s program first read =>
      have hsearch : (∃ s' program', args.head? = some (.text s') ∧ Pattern.read s' = .ok program' ∧
          program'.search (σ.datum v).content = .found) ↔ program.search (σ.datum v).content = .found := by
        constructor
        · rintro ⟨s', program', hs, hread, h⟩
          cases first.symm.trans hs
          cases read.symm.trans hread
          exact h
        · exact fun h => ⟨s, program, first, read, h⟩
      unfold Rule.run Method.Admits
      dsimp only
      rw [hsearch, hv.content_eq]
      cases program.search (σ.datum v).content with
      | found => exact .pure ⟨fun _ => rfl, fun _ => rfl⟩ id
      | missing => exact .pure ⟨fun h => (nomatch judged_eq_nil.1 h), nofun⟩ id
  | includes => exact absurd rfl hleaf.1
  | excludes => exact absurd rfl hleaf.2.1
  | reference => exact absurd rfl hleaf.2.2

end Admits

end ShapeCheck
