import ShapeCheck.Proofs.Calls
import ShapeCheck.Proofs.Constraints

/-!
# Where violations are

What is found at a place of a value is about that place or about one below it, also behind references. `Path.Leads` compares
places, `Check.Results` says something of every result that a check may come to, and the induction is along the syntax of
checkers, with one theorem for each of the functions that collect.
-/

namespace ShapeCheck

/-! ## Places -/

namespace Path

/-- A path leads to another one, which is the same or goes on below it. -/
def Leads (p q : Path) : Prop := q.root = p.root ∧ p.steps <+: q.steps

instance (p q : Path) : Decidable (p.Leads q) := inferInstanceAs (Decidable (_ ∧ _))

variable {p q : Path}

theorem Leads.refl (p : Path) : p.Leads p := ⟨rfl, List.prefix_refl _⟩

theorem Leads.trans {u : Path} (h : p.Leads q) (h' : q.Leads u) : p.Leads u := ⟨h'.1.trans h.1, h.2.trans h'.2⟩

theorem leads_key (p : Path) (name : String) : p.Leads (p.key name) := ⟨rfl, List.prefix_append _ _⟩

theorem leads_index (p : Path) (i : Nat) : p.Leads (p.index i) := ⟨rfl, List.prefix_append _ _⟩

/-- Places of different items have nothing below them in common. -/
theorem index_eq_of_leads {i j : Nat} (h : (p.index i).Leads q) (h' : (p.index j).Leads q) : i = j := by
  have hlength : (p.index i).steps.length = (p.index j).steps.length := by simp [index]
  have hsteps : (p.index i).steps = (p.index j).steps :=
    (List.prefix_of_prefix_length_le h.2 h'.2 (Nat.le_of_eq hlength)).eq_of_length hlength
  simpa [index, Int.ofNat_inj] using hsteps

/-- Places of different keys have nothing below them in common. -/
theorem key_eq_of_leads {name other : String} (h : (p.key name).Leads q) (h' : (p.key other).Leads q) : name = other := by
  have hlength : (p.key name).steps.length = (p.key other).steps.length := by simp [key]
  have hsteps : (p.key name).steps = (p.key other).steps :=
    (List.prefix_of_prefix_length_le h.2 h'.2 (Nat.le_of_eq hlength)).eq_of_length hlength
  simpa [key] using hsteps

end Path

/-- Some findings are about a place or about places below it. -/
def Findings.Under (path : Path) (found : Findings) : Prop := ∀ f ∈ found, path.Leads f.path

namespace Findings.Under

variable {path below : Path} {found others : Findings}

theorem nil : Findings.Under path [] := fun _ h => nomatch h

theorem append (h : Findings.Under path found) (h' : Findings.Under path others) : Findings.Under path (found ++ others) :=
  fun f hf => (List.mem_append.1 hf).elim (h f) (h' f)

theorem up (h : Findings.Under below found) (hpath : path.Leads below) : Findings.Under path found :=
  fun f hf => hpath.trans (h f hf)

/-- Findings that all are about the place itself. -/
theorem of_path_eq (h : ∀ f ∈ found, f.path = path) : Findings.Under path found := fun f hf => h f hf ▸ .refl path

theorem finding {code : Code} {constraint message : String} {v : Value} :
    Findings.Under path [finding path code constraint message v] := of_path_eq fun f hf => by rw [List.mem_singleton.1 hf]; rfl

theorem judged {passes : Bool} {method message : String} {v : Value} :
    Findings.Under path (judged passes path method message v) := by
  unfold ShapeCheck.judged
  cases passes with
  | true => exact .nil
  | false => exact .finding

end Findings.Under

/-! ## Results of checks -/

namespace Check

variable {α β : Type} {c : Check α} {k : α → Check β} {P : α → Prop} {Q : β → Prop}

/-- Each result that a check comes to is as `P` says. -/
def Results (c : Check α) (P : α → Prop) : Prop := ∀ r x s, c.ending r = (.ok x, s) → P x

theorem Results.pure {x : α} (h : P x) : Results (Pure.pure x) P := by
  intro r y s hy
  cases hy
  exact h

theorem Results.throw {e : Fault} : Results (throw e) P := fun _ _ _ h => nomatch h

theorem Results.bind (hc : c.Results P) (hk : ∀ x, P x → (k x).Results Q) : (c >>= k).Results Q := by
  intro r y t h
  obtain ⟨x, s, hx, hy⟩ := ending_bind_eq_ok h
  exact hk x (hc r x s hx) s y t hy

theorem Results.store {k : Store → Check β} (h : ∀ σ, (k σ).Results Q) : (Check.store >>= k).Results Q :=
  fun r y s hy => h r.store r y s (by rwa [ending_bind_ok (ending_store r)] at hy)

/-- A step that only computes. -/
theorem Results.ofExcept {x : Except Fault α} (hk : ∀ a, x = .ok a → (k a).Results Q) : (Check.ofExcept x >>= k).Results Q := by
  intro r y s hy
  obtain ⟨a, t, ha, hy⟩ := ending_bind_eq_ok hy
  rw [ending_ofExcept] at ha
  exact hk a (Prod.mk.inj ha).1 t y s hy

/-- Any result. -/
theorem Results.any (c : Check α) : c.Results fun _ => True := fun _ _ _ _ => trivial

end Check

open Check

/-! ## Single steps -/

section Steps

variable {path : Path} {σ : Store} {v : Value}

theorem noMatch_under {attempts : List Findings} (h : ∀ found ∈ attempts, Findings.Under path found) :
    Findings.Under path (noMatch path v attempts) := by
  unfold noMatch
  split
  · exact h _ (List.mem_singleton_self _)
  · exact .finding

theorem strays_under (leniency : Leniency) (names : List String) :
    (strays leniency names path v).Results (Findings.Under path) := by
  unfold strays
  refine .store fun σ => ?_
  dsimp only
  split
  · exact (Results.any _).bind fun _ _ => .pure .nil
  · intro r found s h
    rw [ending_ofExcept] at h
    replace h := (Prod.mk.inj h).1
    unfold strayFindings at h
    dsimp only at h
    split at h
    · cases h
      exact .nil
    · split at h
      · cases h
      · cases h
        intro f hf
        obtain ⟨e, _, rfl⟩ := List.mem_map.1 hf
        exact path.leads_key _

theorem peerFindings_under {c : PropertyChecker} {parent : Option Value} {found : Findings}
    (h : peerFindings c path σ parent v = .ok found) : Findings.Under path found := by
  unfold peerFindings at h
  cases parent with
  | none =>
      cases h
      exact .nil
  | some p =>
      obtain ⟨absent, _, h⟩ := Except.bind_eq_ok.1 h
      obtain ⟨there, _, h⟩ := Except.bind_eq_ok.1 h
      cases h
      refine .of_path_eq fun f hf => ?_
      rcases List.mem_append.1 hf with hf | hf
      · obtain ⟨_, _, rfl⟩ := List.mem_map.1 hf
        rfl
      · obtain ⟨_, _, rfl⟩ := List.mem_map.1 hf
        rfl

theorem PropertyChecker.early_under {c : PropertyChecker} {convert present : Bool} {found : Findings} {w : Value}
    (h : c.early convert path present σ v = .ok (.done found w)) : Findings.Under path found := by
  unfold early at h
  split at h
  · cases h
    split
    · exact .finding
    · exact .nil
  split at h
  · cases h
    split
    · exact .nil
    · exact .finding
  obtain ⟨counted, _, h⟩ := Except.bind_eq_ok.1 h
  dsimp only at h
  split at h
  · cases h
  split at h
  · cases h
    exact .nil
  split at h
  · obtain ⟨_, _, h⟩ := Except.bind_eq_ok.1 h
    cases h
    exact .finding
  split at h
  · obtain ⟨_, _, h⟩ := Except.bind_eq_ok.1 h
    cases h
    exact .finding
  split at h
  · cases h
    exact .finding
  · split at h
    · cases h
      exact .finding
    · cases h

/-- The items of an array, each at its own place. -/
theorem eachItem_under {check : Path → Value → Check Findings} (h : ∀ p w, (check p w).Results (Findings.Under p))
    (items : List Value) : ∀ i, (eachItem path check i items).Results (Findings.Under path) := by
  induction items with
  | nil => exact fun _ => .pure .nil
  | cons item rest ih =>
      exact fun i => (h _ item).bind fun found hfound => (ih (i + 1)).bind fun others hothers =>
        .pure ((hfound.up (path.leads_index i)).append hothers)

end Steps

/-! ## Checkers -/

section Checkers

variable {f : Follow}

/-- What is found behind references is at their places or below them. -/
def Follow.Under (f : Follow) : Prop := ∀ ctx path ref v, (f ctx path ref v).Results (Findings.Under path)

mutual
theorem Rule.run_under (hf : Follow.Under f) : ∀ (x : Rule) {ctx : Context} {path : Path} {v : Value},
    (x.run f ctx path v).Results (Findings.Under path)
  | .length .., _, _, _ => by
      rw [Rule.run]
      exact .store fun _ => .ofExcept fun _ _ => .pure .judged
  | .pattern source program, _, _, v => by
      rw [Rule.run]
      cases program.search (textOf v) with
      | found => exact .pure .nil
      | missing => exact .pure .judged
  | .alphanumeric _, _, _, _ | .email, _, _, _ | .date, _, _, _ | .whole, _, _, _ | .fraction, _, _, _ => by
      rw [Rule.run]
      exact .pure .judged
  | .atLeast _, _, _, _ | .atMost _, _, _, _ => by
      rw [Rule.run]
      exact .ofExcept fun _ _ => .pure .judged
  | .includes elements, _, _, _ => by
      rw [Rule.run]
      refine .store fun _ => eachItem_under (fun p item => ?_) _ 0
      refine (PropertyChecker.attempts_under hf elements).bind fun attempts hattempts => .pure ?_
      split
      · exact .nil
      · exact noMatch_under hattempts
  | .excludes elements, _, _, _ => by
      rw [Rule.run]
      refine .store fun _ => eachItem_under (fun p item => (Results.any _).bind fun matched _ => .pure ?_) _ 0
      split
      · exact .finding
      · exact .nil
  | .reference ref, ctx, path, v => by
      rw [Rule.run]
      exact hf ctx path ref v
  | .inlineType ⟨properties, leniency⟩, _, _, _ => by
      rw [Rule.run]
      exact TypeChecker.collect_under hf ⟨properties, leniency⟩
theorem Rule.runAll_under (hf : Follow.Under f) : ∀ (rules : List Rule) {ctx : Context} {path : Path} {v : Value},
    (Rule.runAll f ctx path rules v).Results (Findings.Under path)
  | [], _, _, _ => by
      rw [Rule.runAll]
      exact .pure .nil
  | x :: rest, _, _, _ => by
      rw [Rule.runAll]
      exact (Rule.run_under hf x).bind fun _ hfound => (Rule.runAll_under hf rest).bind fun _ hothers => .pure (hfound.append hothers)
/-- What is found about a property or an element is at its place or below it. -/
theorem PropertyChecker.collect_under (hf : Follow.Under f) : ∀ (c : PropertyChecker) {ctx : Context} {path : Path} {present : Bool}
    {parent : Option Value} {v : Value}, (c.collect f ctx path present parent v).Results fun x => Findings.Under path x.1
  | ⟨_, _, _, _, _, _, _, _, _, rules⟩, _, _, _, _, _ => by
      rw [PropertyChecker.collect]
      refine .store fun σ => .ofExcept fun early hearly => ?_
      cases early with
      | done found w => exact .pure (PropertyChecker.early_under hearly)
      | goOn w =>
          exact .store fun σ => .ofExcept fun peers hpeers => (Rule.runAll_under hf rules).bind fun found hfound =>
            .pure ((peerFindings_under hpeers).append hfound)
theorem PropertyChecker.attempts_under (hf : Follow.Under f) : ∀ (cs : List PropertyChecker) {ctx : Context} {path : Path} {v : Value},
    (PropertyChecker.attempts f ctx path cs v).Results fun attempts => ∀ found ∈ attempts, Findings.Under path found
  | [], _, _, _ => by
      rw [PropertyChecker.attempts]
      exact .pure fun _ h => nomatch h
  | c :: rest, _, _, _ => by
      rw [PropertyChecker.attempts]
      exact (PropertyChecker.collect_under hf c).bind fun _ hfound => (PropertyChecker.attempts_under hf rest).bind fun _ hothers =>
        .pure (List.forall_mem_cons.2 ⟨hfound, hothers⟩)
theorem TypeChecker.collect_under (hf : Follow.Under f) : ∀ (t : TypeChecker) {ctx : Context} {path : Path} {v : Value},
    (t.collect f ctx path v).Results (Findings.Under path)
  | ⟨properties, leniency⟩, _, _, _ => by
      rw [TypeChecker.collect]
      refine .store fun σ => ?_
      split
      · exact .pure .finding
      · exact (strays_under _ _).bind fun _ hextra => (PropertyChecker.collectFields_under hf properties).bind fun _ hfound =>
          .pure (hextra.append hfound)
theorem PropertyChecker.collectFields_under (hf : Follow.Under f) : ∀ (ps : List (String × PropertyChecker)) {ctx : Context} {path : Path}
    {leniency : Leniency} {v : Value}, (PropertyChecker.collectFields f ctx path leniency v ps).Results (Findings.Under path)
  | [], _, _, _, _ => by
      rw [PropertyChecker.collectFields]
      exact .pure .nil
  | (name, c) :: rest, _, path, _, _ => by
      rw [PropertyChecker.collectFields]
      refine .store fun σ => (PropertyChecker.collect_under hf c).bind fun x hx => ?_
      dsimp only
      split
      · exact (Results.any _).bind fun _ _ => (PropertyChecker.collectFields_under hf rest).bind fun _ hothers =>
          .pure ((hx.up (path.leads_key name)).append hothers)
      · exact (PropertyChecker.collectFields_under hf rest).bind fun _ hothers =>
          .pure ((hx.up (path.leads_key name)).append hothers)
end

end Checkers

theorem Findings.Under.causedBy {cause : Cause} {path : Path} {v : Value} : Findings.Under path [causedBy cause path v] :=
  of_path_eq fun f hf => by rw [List.mem_singleton.1 hf]; rfl

/-- What is found behind a reference is at its place or below it. -/
theorem follow_under (resolve : Resolver) (n : Nat) : Follow.Under (follow resolve n) := by
  induction n with
  | zero =>
      intro ctx path ref v
      unfold follow
      dsimp only
      cases resolve ref with
      | none => exact (Results.any _).bind fun _ _ => .pure .causedBy
      | some t =>
          dsimp only
          split
          · exact (Results.any _).bind fun _ _ => .pure .causedBy
          · exact (Results.any _).bind fun _ _ => .pure .causedBy
  | succ n ih =>
      intro ctx path ref v
      unfold follow
      dsimp only
      cases resolve ref with
      | none => exact (Results.any _).bind fun _ _ => .pure .causedBy
      | some t =>
          dsimp only
          split
          · exact (Results.any _).bind fun _ _ => .pure .causedBy
          · exact (Results.any _).bind fun _ _ => (t.collect_under ih).bind fun _ hfound => (Results.any _).bind fun _ _ =>
              .pure hfound

end ShapeCheck
