import ShapeCheck.Proofs.Demands
import ShapeCheck.Proofs.Knots

/-!
# Comparisons that end

What a constraint allows or denies is compared with the values that stand already. `Demand.Ends` says that each of these
comparisons has an end, which goes without saying where nothing that is mentioned contains itself,
`Demand.ends_of_acyclic`. A constraint that allows or denies is applied exactly if all comparisons of what it mentions end,
`Method.apply_mentions_iff`.
-/

namespace ShapeCheck

open PropertyChecker

namespace Demand

/-- A datum that is allowed or denied after some mentions is compared to an end: with all values that stand in the other
sense, and with those that stand in the same one up to one that is the same. -/
def EndsAfter (done : List (Datum × Bool)) (m : Datum × Bool) : Prop :=
  (∀ v ∈ standing (!m.2) done, v.runsOn m.1 = false) ∧ seeksOn (standing m.2 done) m.1 = false

/-- Each of some mentions ends after those before it. -/
def AllEndAfter (done ms : List (Datum × Bool)) : Prop :=
  ∀ before m after, ms = before ++ m :: after → EndsAfter (done ++ before) m

/-- All that the constraints of a demand allow or deny is compared to an end. -/
def Ends (q : Demand) : Prop := AllEndAfter [] q.mentions

variable {done ms ns : List (Datum × Bool)} {m : Datum × Bool}

theorem allEndAfter_nil : AllEndAfter done [] := fun before m after h => absurd h.symm (by simp)

theorem allEndAfter_cons : AllEndAfter done (m :: ms) ↔ EndsAfter done m ∧ AllEndAfter (done ++ [m]) ms := by
  constructor
  · intro h
    refine ⟨?_, fun before n after hms => ?_⟩
    · have hfirst := h [] m ms rfl
      rwa [List.append_nil] at hfirst
    · rw [List.append_assoc]
      exact h (m :: before) n after (congrArg (m :: ·) hms)
  · rintro ⟨hfirst, hrest⟩ before n after hms
    cases before with
    | nil =>
        cases hms
        rwa [List.append_nil]
    | cons b before =>
        cases hms
        have hn := hrest before n after rfl
        rwa [List.append_assoc] at hn

theorem allEndAfter_append : AllEndAfter done (ms ++ ns) ↔ AllEndAfter done ms ∧ AllEndAfter (done ++ ms) ns := by
  induction ms generalizing done with
  | nil =>
      rw [List.append_nil]
      exact (and_iff_right allEndAfter_nil).symm
  | cons m rest ih =>
      rw [List.cons_append, allEndAfter_cons, allEndAfter_cons, ih, and_assoc, List.append_assoc, List.singleton_append]

end Demand

namespace PropertyChecker

/-- The values that stand after some mentions are those that a checker has as allowed and as denied. -/
structure Stands (done : List (Datum × Bool)) (c : PropertyChecker) : Prop where
  allowed : c.allowed = Demand.standing true done
  denied : c.denied = Demand.standing false done

variable {done : List (Datum × Bool)} {c : PropertyChecker}

theorem stands_ofKind (kind : Kind) : Stands [] (ofKind kind) := ⟨rfl, rfl⟩

theorem Stands.allow (h : Stands done c) (d : Datum) : Stands (done ++ [(d, true)]) (c.allow d) where
  allowed := by
    rw [Demand.standing_append, if_pos rfl, ← h.allowed]
    rfl
  denied := by
    rw [Demand.standing_append, if_neg (by decide), ← h.denied]
    rfl

theorem Stands.deny (h : Stands done c) (d : Datum) : Stands (done ++ [(d, false)]) (c.deny d) where
  allowed := by
    rw [Demand.standing_append, if_neg (by decide), ← h.allowed]
    rfl
  denied := by
    rw [Demand.standing_append, if_pos rfl, ← h.denied]
    rfl

theorem endsAfter_iff {others same : List Datum} {d : Datum} :
    (others.any (·.runsOn d) || seeksOn same d) = false ↔ (∀ v ∈ others, v.runsOn d = false) ∧ seeksOn same d = false := by
  rw [Bool.or_eq_false_iff, List.any_eq_false]
  exact and_congr_left fun _ => forall₂_congr fun v _ => Bool.eq_false_iff.symm

theorem Stands.allowsOn_iff (h : Stands done c) {d : Datum} : c.allowsOn d = false ↔ Demand.EndsAfter done (d, true) := by
  unfold allowsOn
  rw [endsAfter_iff, h.allowed, h.denied]
  rfl

theorem Stands.deniesOn_iff (h : Stands done c) {d : Datum} : c.deniesOn d = false ↔ Demand.EndsAfter done (d, false) := by
  unfold deniesOn
  rw [endsAfter_iff, h.allowed, h.denied]
  rfl

/-- Data are all taken in exactly if their comparisons end. -/
theorem Stands.takeAll_ok_iff {take : PropertyChecker → Datum → PropertyChecker} {takesOn : PropertyChecker → Datum → Bool}
    {sense : Bool} (htake : ∀ {done c}, Stands done c → ∀ d, Stands (done ++ [(d, sense)]) (take c d))
    (hon : ∀ {done c}, Stands done c → ∀ {d}, takesOn c d = false ↔ Demand.EndsAfter done (d, sense)) (h : Stands done c)
    (args : List Datum) :
    (∃ c', takeAll take takesOn args c = .ok c') ↔ Demand.AllEndAfter done (args.map (·, sense)) := by
  induction args generalizing done c with
  | nil => exact iff_of_true ⟨c, rfl⟩ Demand.allEndAfter_nil
  | cons d rest ih =>
      rw [List.map_cons, Demand.allEndAfter_cons, ← hon h, ← ih (htake h d)]
      rw [takeAll]
      cases takesOn c d <;> simp

end PropertyChecker

namespace Method

variable {element : Datum → Except CompileError PropertyChecker} {m : Method} {args : List Datum}
  {done : List (Datum × Bool)} {c c' : PropertyChecker}

theorem apply_stands (h : m.apply args (fun a _ => element a) c = .ok c') (hc : c.Stands done) :
    c'.Stands (done ++ m.mentions args) :=
  ⟨apply_allowed h hc.allowed, apply_denied h hc.denied⟩

/-- A constraint that allows or denies is applied exactly if all comparisons of what it mentions end. -/
theorem apply_mentions_iff (hm : m.sense?.isSome = true) (hc : c.Stands done) :
    (∃ c', m.apply args (fun a _ => element a) c = .ok c') ↔ Demand.AllEndAfter done (m.mentions args) := by
  have hallow := hc.takeAll_ok_iff (fun h => h.allow) (fun h => h.allowsOn_iff) args
  have hdeny := hc.takeAll_ok_iff (fun h => h.deny) (fun h => h.deniesOn_iff) args
  cases m with
  | allow => exact hallow
  | valid =>
      refine Iff.trans ⟨?_, ?_⟩ hallow
      · rintro ⟨_, h⟩
        obtain ⟨b, hb, _⟩ := Except.bind_eq_ok.1 h
        exact ⟨b, hb⟩
      · rintro ⟨b, hb⟩
        exact ⟨_, Except.bind_eq_ok.2 ⟨b, hb, rfl⟩⟩
  | deny => exact hdeny
  | _ => cases hm

end Method

/-! ## What a constraint mentions -/

/-- The values that a constraint for a kind mentions, each with whether it allows them. -/
def Constraint.mentions (kind : Kind) (x : Constraint) : List (Datum × Bool) :=
  (Method.ofName? kind x.method).elim [] (·.mentions x.args)

theorem Constraint.mentions_eq {kind : Kind} {x : Constraint} {m : Method} (h : Method.ofName? kind x.method = some m) :
    x.mentions kind = m.mentions x.args := by
  unfold mentions
  rw [h]
  rfl

theorem Demand.mentions_eq {q : Demand} {kind : Kind} (h : q.kind? = some kind) :
    q.mentions = q.constraints.flatMap (Constraint.mentions kind) := by
  unfold mentions
  refine List.flatMap_congr fun x _ => ?_
  have hmethod : q.method? x = Method.ofName? kind x.method := by
    unfold method?
    rw [h]
    rfl
  unfold Constraint.mentions
  rw [hmethod]
  cases Method.ofName? kind x.method <;> rfl

end ShapeCheck
