import ShapeCheck.Validation.Follow

/-!
# Steps of runs

`Check.ending` is what a check gives from a run, together with the run that it leaves; one equation for each way to make a
check says what that is. `Ends` compares two checks, each from a run of its own: both give one result, or both end with one
fault, and the runs that they leave are related. `Ends.bind` and the rules after it build such a comparison along a check.
With one check on both sides, and runs related only to themselves, `Ends` says what a single check keeps.
-/

namespace ShapeCheck

/-- An operation that may fail and has a state, and what depends on its result. -/
theorem run_bind {ε σ α β : Type} (m : ExceptT ε (StateM σ) α) (k : α → ExceptT ε (StateM σ) β) (s : σ) :
    (m >>= k).run.run s =
      match m.run.run s with
      | (.ok a, t) => (k a).run.run t
      | (.error e, t) => (.error e, t) := by
  unfold ExceptT.run StateT.run
  change (match m s with
    | (x, t) => ExceptT.bindCont k x t) = _
  rcases m s with ⟨x | a, t⟩ <;> rfl

namespace Check

variable {α β : Type}

/-- What a check gives from a run, and the run that it leaves. -/
def ending (c : Check α) (r : Run) : Except Fault α × Run := c.run.run r

theorem ending_store (r : Run) : store.ending r = (.ok r.store, r) := rfl

theorem ending_write (a : Address) (c : Cell) (r : Run) :
    (write a c).ending r = (.ok (), { r with store := r.store.write a c }) := rfl

theorem ending_record (e : RunEvent) (r : Run) : (record e).ending r = (.ok (), { r with events := r.events ++ [e] }) := rfl

theorem ending_ofExcept (x : Except Fault α) (r : Run) : (ofExcept x).ending r = (x, r) := by
  cases x <;> rfl

/-- A check and what depends on its result. -/
theorem ending_bind (c : Check α) (k : α → Check β) (r : Run) :
    (c >>= k).ending r =
      match c.ending r with
      | (.ok a, s) => (k a).ending s
      | (.error e, s) => (.error e, s) := by
  rw [ending, run_bind, ending]
  rcases c.run.run r with ⟨e | a, s⟩ <;> rfl

theorem ending_bind_ok {c : Check α} {k : α → Check β} {a : α} {r s : Run} (h : c.ending r = (.ok a, s)) :
    (c >>= k).ending r = (k a).ending s := by
  rw [ending_bind, h]

theorem ending_bind_error {c : Check α} {k : α → Check β} {e : Fault} {r s : Run} (h : c.ending r = (.error e, s)) :
    (c >>= k).ending r = (.error e, s) := by
  rw [ending_bind, h]

/-- A check that gives a result has given one at each of its steps. -/
theorem ending_bind_eq_ok {c : Check α} {k : α → Check β} {b : β} {r t : Run} (h : (c >>= k).ending r = (.ok b, t)) :
    ∃ a s, c.ending r = (.ok a, s) ∧ (k a).ending s = (.ok b, t) := by
  rw [ending_bind] at h
  rcases hc : c.ending r with ⟨e | a, s⟩
  · rw [hc] at h
    simp at h
  · rw [hc] at h
    exact ⟨a, s, rfl, h⟩

end Check

theorem Outcome.ofCheck_eq {α : Type} (σ : Store) (c : Check α) :
    Outcome.ofCheck σ c = ⟨(c.ending { store := σ }).1, (c.ending { store := σ }).2⟩ := rfl

/-! ## Two checks that end alike -/

section Ends

variable {α β : Type} {J J' : Run → Run → Prop} {K : Fault → Run → Run → Prop} {P : α → Prop} {Q : β → Prop}

/-- Two ends are alike: one result, of which `P` holds, with runs in `J`, or one fault, with runs in `K`. -/
inductive Ends (J : Run → Run → Prop) (K : Fault → Run → Run → Prop) (P : α → Prop) :
    Except Fault α × Run → Except Fault α × Run → Prop
  | done {a : α} {r s : Run} (result : P a) (runs : J r s) : Ends J K P (.ok a, r) (.ok a, s)
  | fault {e : Fault} {r s : Run} (runs : K e r s) : Ends J K P (.error e, r) (.error e, s)

namespace Ends

theorem mono {P' : α → Prop} {x y : Except Fault α × Run} (h : Ends J K P x y) (hP : ∀ a, P a → P' a)
    (hJ : ∀ r s, J r s → J' r s) : Ends J' K P' x y := by
  cases h with
  | done hp hj => exact .done (hP _ hp) (hJ _ _ hj)
  | fault hk => exact .fault hk

theorem result_eq {x y : Except Fault α × Run} (h : Ends J K P x y) : x.1 = y.1 := by
  cases h <;> rfl

/-- Ends are equal if their runs are. -/
theorem eq {x y : Except Fault α × Run} (h : Ends J K P x y) (hJ : ∀ r s, J r s → s = r)
    (hK : ∀ e r s, K e r s → s = r) : x = y := by
  cases h with
  | done _ hj => rw [hJ _ _ hj]
  | fault hk => rw [hK _ _ _ hk]

/-- What both ways to end say of the runs. -/
theorem runs_of {R : Run → Run → Prop} {x y : Except Fault α × Run} (h : Ends J K P x y) (hJ : ∀ r s, J r s → R r s)
    (hK : ∀ e r s, K e r s → R r s) : R x.2 y.2 := by
  cases h with
  | done _ hj => exact hJ _ _ hj
  | fault hk => exact hK _ _ _ hk

theorem of_ok {x y : Except Fault α × Run} {a : α} (h : Ends J K P x y) (hx : x.1 = .ok a) : P a ∧ J x.2 y.2 := by
  cases h with
  | done hp hj =>
      cases hx
      exact ⟨hp, hj⟩
  | fault hk => cases hx

theorem of_error {x y : Except Fault α × Run} {e : Fault} (h : Ends J K P x y) (hx : x.1 = .error e) : K e x.2 y.2 := by
  cases h with
  | done hp hj => cases hx
  | fault hk =>
      cases hx
      exact hk

theorem pure {a : α} {r s : Run} (hp : P a) (hj : J r s) :
    Ends J K P ((pure a : Check α).ending r) ((pure a : Check α).ending s) := .done hp hj

theorem throw {e : Fault} {r s : Run} (hk : K e r s) :
    Ends J K P ((throw e : Check α).ending r) ((throw e : Check α).ending s) := .fault hk

/-- A check that only computes. -/
theorem ofExcept {x : Except Fault α} {r s : Run} (hp : ∀ a, x = .ok a → P a) (hk : ∀ e, x = .error e → K e r s)
    (hj : J r s) : Ends J K P ((Check.ofExcept x).ending r) ((Check.ofExcept x).ending s) := by
  rw [Check.ending_ofExcept, Check.ending_ofExcept]
  cases x with
  | ok a => exact .done (hp a rfl) hj
  | error e => exact .fault (hk e rfl)

/-- Two checks in order. What follows may use that the first one gave its result. -/
theorem bind {c d : Check α} {k l : α → Check β} {r s : Run} (h : Ends J K P (c.ending r) (d.ending s))
    (hk : ∀ a r' s', c.ending r = (.ok a, r') → P a → J r' s' → Ends J' K Q ((k a).ending r') ((l a).ending s')) :
    Ends J' K Q ((c >>= k).ending r) ((d >>= l).ending s) := by
  rw [Check.ending_bind, Check.ending_bind]
  generalize hx : c.ending r = x at h
  generalize d.ending s = y at h
  cases h with
  | done hp hj => exact hk _ _ _ hx hp hj
  | fault he => exact .fault he

/-- A look at the store, which is one in both runs. -/
theorem store {k l : Store → Check β} {r s : Run} (hs : s.store = r.store)
    (h : Ends J K Q ((k r.store).ending r) ((l r.store).ending s)) :
    Ends J K Q ((Check.store >>= k).ending r) ((Check.store >>= l).ending s) := by
  rw [Check.ending_bind_ok (Check.ending_store r), Check.ending_bind_ok (Check.ending_store s), hs]
  exact h

end Ends

end Ends

end ShapeCheck
