import ShapeCheck.Proofs.Accounts

/-!
# Where references are met

Each visit in the events of a run was made at a reference rule that the run came to, and went as `Meeting` says. Outside of
trials a violation that is about a reference comes from such a visit (`Account.meetings_lawful`). The other way round, what is
found at a point outside of trials is found by the whole run too, unless a fault ends it (`Reached.passesOn`).
-/

namespace ShapeCheck

/-- Where a whole run starts. -/
def Point.whole (t : TypeChecker) (maxDepth : Int) (v : Value) : Point :=
  .type maxDepth.toNat { maxDepth := maxDepth } {} t v

theorem TypeChecker.validate_eq (t : TypeChecker) (resolve : Resolver) (maxDepth : Int) (v : Value) (σ : Store) :
    t.validate resolve maxDepth v σ =
      ⟨(((Point.whole t maxDepth v).check resolve).ending { store := σ }).1,
        (((Point.whole t maxDepth v).check resolve).ending { store := σ }).2⟩ := rfl

/-- What a meeting finds at once is caused by how it went. -/
theorem Meeting.mem_found {resolve : Resolver} {ctx : Context} {path : Path} {ref : TypeRef} {v : Value} {n : Nat}
    {outcome : VisitOutcome} {found : Findings} (h : Meeting resolve ctx path ref v n outcome found) {f : Violation Value}
    (hf : f ∈ found) :
    (outcome = .unresolved ∧ resolve ref = none ∧ f = causedBy (.unresolved ref) path v) ∨
      (outcome = .cyclic ∧ f = causedBy (.cyclic ref path) path v) ∨
      (outcome = .tooDeep ∧ f = causedBy (.tooDeep ref ctx.maxDepth) path v) := by
  cases h with
  | unresolved missing => exact .inl ⟨rfl, missing, List.mem_singleton.1 hf⟩
  | cyclic => exact .inr (.inl ⟨rfl, List.mem_singleton.1 hf⟩)
  | tooDeep => exact .inr (.inr ⟨rfl, List.mem_singleton.1 hf⟩)
  | entered => cases hf

/-- A lawful account holds of a whole run. -/
theorem Account.Lawful.whole {k : Account} {resolve : Resolver} {t : TypeChecker} {maxDepth : Int} {v : Value} {σ : Store}
    (hk : k.Lawful resolve (.whole t maxDepth v) { store := σ }) :
    k.Told false { store := σ } id (((Point.whole t maxDepth v).check resolve).ending { store := σ }) :=
  hk.sound .start

section Meetings

variable (resolve : Resolver) (start : Point) (first : Run)

/-- A run comes to the reference of a visit, where it goes as the visit says, with this found at once. -/
def Visit.MadeIn (visit : Visit) (tried : Bool) (found : Findings) : Prop :=
  ∃ n r, Reached resolve start first tried (.rule n visit.context visit.path (.reference visit.ref) visit.value) r ∧
    Meeting resolve visit.context visit.path visit.ref visit.value n visit.outcome found

/-- All visits were made at points of the run, and outside of trials all violations but plain ones come from one. -/
def Account.meetings : Account := fun tried r found s =>
  ∃ events, s.events = r.events ++ events ∧
    (∀ visit, .met visit ∈ events → ∃ b own, visit.MadeIn resolve start first b own) ∧
    (tried = false → ∀ f ∈ found, ¬ f.IsPlain → ∃ visit own, .met visit ∈ events ∧
      visit.MadeIn resolve start first false own ∧ f ∈ own)

variable {resolve start first}

theorem Account.meetings_lawful : (Account.meetings resolve start first).Lawful resolve start first where
  refl := ⟨[], (List.append_nil _).symm, fun _ h => (nomatch h), nofun⟩
  append {b r s t xs ys} := by
    rintro ⟨events, hs, hmet, hfound⟩ ⟨events', ht, hmet', hfound'⟩
    refine ⟨events ++ events', by rw [ht, hs, List.append_assoc], fun visit h => ?_, fun hb f hf hplain => ?_⟩
    · exact (List.mem_append.1 h).elim (hmet visit) (hmet' visit)
    · rcases List.mem_append.1 hf with hf | hf
      · obtain ⟨visit, own, hvisit, h⟩ := hfound hb f hf hplain
        exact ⟨visit, own, List.mem_append_left _ hvisit, h⟩
      · obtain ⟨visit, own, hvisit, h⟩ := hfound' hb f hf hplain
        exact ⟨visit, own, List.mem_append_right _ hvisit, h⟩
  forget := by
    rintro b r s xs ⟨events, hs, hmet, _⟩
    exact ⟨events, hs, hmet, nofun⟩
  plain := by
    rintro b r s xs ⟨events, hs, hmet, _⟩ hxs
    exact ⟨events, hs, hmet, fun _ f hf hplain => absurd (hxs f hf) hplain⟩
  strip _ _ _ := ⟨[], (List.append_nil _).symm, fun _ h => (nomatch h), fun _ _ hf => nomatch hf⟩
  save {b n ctx path t a r name c w s s' x es current} _ _ _ _ _ _ _ htold _ _ _ := htold
  meet {b n ctx path ref v r outcome found} hp hmeeting := by
    have hmade : Visit.MadeIn resolve start first ⟨ref, v, path, ctx, outcome⟩ b found := ⟨n, r, hp, hmeeting⟩
    refine ⟨[.met ⟨ref, v, path, ctx, outcome⟩], rfl, fun visit h => ?_, fun hb f hf _ => ?_⟩
    · cases List.mem_singleton.1 h
      exact ⟨b, found, hmade⟩
    · exact ⟨_, found, List.mem_singleton_self _, hb ▸ hmade, hf⟩
  leave ref v := by
    refine ⟨[.left ref v], rfl, fun visit h => ?_, fun _ _ hf => nomatch hf⟩
    cases List.mem_singleton.1 h

/-- Each visit of a whole run was made at a point that the run came to. -/
theorem Visit.madeIn {t : TypeChecker} {maxDepth : Int} {v : Value} {σ : Store} {visit : Visit}
    (h : visit ∈ (t.validate resolve maxDepth v σ).run.visits) :
    ∃ b own, visit.MadeIn resolve (.whole t maxDepth v) { store := σ } b own := by
  have htold := (Account.meetings_lawful : Account.Lawful _ resolve (.whole t maxDepth v) { store := σ }).whole
  rw [TypeChecker.validate_eq] at h
  obtain ⟨e, he, hvisit⟩ := List.mem_filterMap.1 h
  obtain rfl : e = .met visit := by
    cases e with
    | met => cases hvisit; rfl
    | left => cases hvisit
  rcases hends : ((Point.whole t maxDepth v).check resolve).ending { store := σ } with ⟨e | found, s⟩
  all_goals
    rw [hends] at htold he
    obtain ⟨events, hs, hmet, _⟩ := htold
    rw [hs] at he
    exact hmet visit he

/-- A violation of a whole run that is about a reference comes from a visit that was made outside of trials. -/
theorem TypeChecker.validate_found {t : TypeChecker} {maxDepth : Int} {v : Value} {σ : Store} {found : Findings}
    (hfound : (t.validate resolve maxDepth v σ).result = .ok found) {f : Violation Value} (hf : f ∈ found) (hplain : ¬ f.IsPlain) :
    ∃ visit own, visit ∈ (t.validate resolve maxDepth v σ).run.visits ∧
      visit.MadeIn resolve (.whole t maxDepth v) { store := σ } false own ∧ f ∈ own := by
  have htold := (Account.meetings_lawful : Account.Lawful _ resolve (.whole t maxDepth v) { store := σ }).whole
  rw [TypeChecker.validate_eq] at hfound ⊢
  rcases hends : ((Point.whole t maxDepth v).check resolve).ending { store := σ } with ⟨e | found', s⟩
  · rw [hends] at hfound
    cases hfound
  · rw [hends] at hfound htold
    cases hfound
    obtain ⟨events, hs, _, hcome⟩ := htold
    obtain ⟨visit, own, hvisit, hmade, hown⟩ := hcome rfl f hf hplain
    refine ⟨visit, own, List.mem_filterMap.2 ⟨.met visit, ?_, rfl⟩, hmade, hown⟩
    change _ ∈ s.events
    rw [hs]
    exact hvisit

end Meetings

/-! ## What is found outside of trials -/

section Found

variable {f : Follow} {ctx : Context} {path : Path}

/-- What a key has found stands among the findings of all keys. -/
theorem PropertyChecker.collectFields_cons_found {leniency : Leniency} {v : Value} {name : String} {c : PropertyChecker}
    {rest : List (String × PropertyChecker)} {r t : Run} {found : Findings}
    (h : (PropertyChecker.collectFields f ctx path leniency v ((name, c) :: rest)).ending r = (.ok found, t)) :
    ∃ inner x s, (c.collect f ctx (path.key name) (r.store.under? v name).isSome (some v)
      ((r.store.under? v name).getD default)).ending r = (.ok (inner, x), s) ∧ inner ⊆ found := by
  rw [← List.singleton_append, PropertyChecker.collectFields_append, PropertyChecker.collectFields_singleton] at h
  obtain ⟨own, _, hown, h⟩ := Check.ending_bind_eq_ok h
  obtain ⟨others, _, _, h⟩ := Check.ending_bind_eq_ok h
  cases h
  rw [Check.ending_bind_ok (Check.ending_store r)] at hown
  obtain ⟨⟨inner, x⟩, s, hinner, hown⟩ := Check.ending_bind_eq_ok hown
  refine ⟨inner, x, s, hinner, ?_⟩
  have hsame : inner = own := by
    dsimp only at hown
    split at hown
    · obtain ⟨_, _, _, hown⟩ := Check.ending_bind_eq_ok hown
      cases hown
      rfl
    · cases hown
      rfl
  exact hsame ▸ List.subset_append_left _ _

/-- What a rule has found stands among the findings of all rules. -/
theorem Rule.runAll_append_found {before after : List Rule} {x : Rule} {v : Value} {r s t : Run} {earlier found : Findings}
    (hearlier : (Rule.runAll f ctx path before v).ending r = (.ok earlier, s))
    (h : (Rule.runAll f ctx path (before ++ x :: after) v).ending r = (.ok found, t)) :
    ∃ inner u, (x.run f ctx path v).ending s = (.ok inner, u) ∧ inner ⊆ found := by
  rw [Rule.runAll_append, Check.ending_bind_ok hearlier] at h
  obtain ⟨later, _, hlater, h⟩ := Check.ending_bind_eq_ok h
  cases h
  rw [Rule.runAll] at hlater
  obtain ⟨inner, u, hinner, hlater⟩ := Check.ending_bind_eq_ok hlater
  obtain ⟨others, _, _, hlater⟩ := Check.ending_bind_eq_ok hlater
  cases hlater
  exact ⟨inner, u, hinner, fun _ h => List.mem_append_right _ (List.mem_append_left _ h)⟩

/-- What an item has found stands among the findings of all items. -/
theorem eachItem_append_found {check : Path → Value → Check Findings} {before after : List Value} {x : Value} {r s t : Run}
    {earlier found : Findings} (hearlier : (eachItem path check 0 before).ending r = (.ok earlier, s))
    (h : (eachItem path check 0 (before ++ x :: after)).ending r = (.ok found, t)) :
    ∃ inner u, (check (path.index before.length) x).ending s = (.ok inner, u) ∧ inner ⊆ found := by
  rw [eachItem_append, Check.ending_bind_ok hearlier, Nat.zero_add] at h
  obtain ⟨later, _, hlater, h⟩ := Check.ending_bind_eq_ok h
  cases h
  rw [eachItem] at hlater
  obtain ⟨inner, u, hinner, hlater⟩ := Check.ending_bind_eq_ok hlater
  obtain ⟨others, _, _, hlater⟩ := Check.ending_bind_eq_ok hlater
  cases hlater
  exact ⟨inner, u, hinner, fun _ h => List.mem_append_right _ (List.mem_append_left _ h)⟩

/-- With a single description an item passes or fails as that one says. -/
theorem Rule.includesItem_singleton_found {c : PropertyChecker} {item : Value} {p : Path} {r t : Run} {found : Findings}
    (h : (Rule.includesItem f ctx [c] p item).ending r = (.ok found, t)) :
    ∃ x, (c.collect f ctx p true none item).ending r = (.ok (found, x), t) := by
  unfold Rule.includesItem at h
  rw [PropertyChecker.attempts_singleton] at h
  obtain ⟨attempts, s, hattempts, h⟩ := Check.ending_bind_eq_ok h
  obtain ⟨⟨inner, x⟩, s', hinner, hattempts⟩ := Check.ending_bind_eq_ok hattempts
  cases hattempts
  refine ⟨x, ?_⟩
  cases inner <;> cases h <;> exact hinner

variable {resolve : Resolver} {p q : Point} {r s t : Run} {found : Findings}

/-- What a call outside of a trial finds is found by the caller, if no fault ends it. -/
theorem Call.passesOn (h : Call resolve false p r q s) (hends : (p.check resolve).ending r = (.ok found, t)) :
    ∃ inner u, (q.check resolve).ending s = (.ok inner, u) ∧ inner ⊆ found := by
  generalize htrial : false = trial at h
  cases h with
  | field hmapping hproperties hstray hearlier =>
      rw [Point.check, TypeChecker.collect_eq, Check.ending_bind_ok (Check.ending_store r),
        if_neg (by rw [Option.isNone_iff_eq_none, ← Option.not_isSome_iff_eq_none]; exact not_not_intro hmapping),
        Check.ending_bind_ok hstray] at hends
      obtain ⟨fields, _, hfields, hends⟩ := Check.ending_bind_eq_ok hends
      cases hends
      rw [hproperties, PropertyChecker.collectFields_append, Check.ending_bind_ok hearlier] at hfields
      obtain ⟨later, _, hlater, hfields⟩ := Check.ending_bind_eq_ok hfields
      cases hfields
      obtain ⟨inner, x, u, hinner, hsub⟩ := PropertyChecker.collectFields_cons_found hlater
      refine ⟨inner, u, Check.ending_bind_ok hinner, fun _ h => ?_⟩
      exact List.mem_append_right _ (List.mem_append_right _ (hsub h))
  | rule hearly hpeers hrules hearlier =>
      obtain ⟨⟨own, x⟩, _, hown, hends⟩ := Check.ending_bind_eq_ok hends
      cases hends
      rw [PropertyChecker.collect_eq, Check.ending_bind_ok (Check.ending_store r), hearly,
        Check.ending_bind_ok (Check.ending_ofExcept (.ok _) r)] at hown
      dsimp only at hown
      rw [Check.ending_bind_ok (Check.ending_store r), hpeers,
        Check.ending_bind_ok (Check.ending_ofExcept (.ok _) r)] at hown
      obtain ⟨all, _, hall, hown⟩ := Check.ending_bind_eq_ok hown
      cases hown
      rw [hrules] at hall
      obtain ⟨inner, u, hinner, hsub⟩ := Rule.runAll_append_found hearlier hall
      exact ⟨inner, u, hinner, fun _ h => List.mem_append_right _ (hsub h)⟩
  | @included _ ctx path elements tried untried c v item before after _ _ _ _ attempts hitems hearlier hsplit htries =>
      have hone : elements.length = 1 := by simpa using htrial.symm
      obtain ⟨d, rfl⟩ := List.length_eq_one_iff.1 hone
      obtain ⟨rfl, rfl, rfl⟩ : tried = [] ∧ c = d ∧ untried = [] := by simpa using List.singleton_eq_append_iff.1 hsplit
      rw [Point.check, Rule.run_includes, Check.ending_bind_ok (Check.ending_store r), hitems] at hends
      obtain ⟨inner, u, hinner, hsub⟩ := eachItem_append_found hearlier hends
      obtain ⟨x, hx⟩ := Rule.includesItem_singleton_found hinner
      rw [PropertyChecker.attempts] at htries
      cases htries
      exact ⟨inner, u, Check.ending_bind_ok hx, hsub⟩
  | reference hresolve hfresh =>
      rw [Point.check, Rule.run] at hends
      unfold follow at hends
      rw [hresolve] at hends
      dsimp only at hends
      rw [if_neg hfresh, Check.ending_bind_ok (Check.ending_record ..)] at hends
      obtain ⟨inner, u, hinner, hends⟩ := Check.ending_bind_eq_ok hends
      cases hends
      exact ⟨found, u, hinner, List.Subset.refl _⟩
  | inlineType =>
      rw [Point.check, Rule.run] at hends
      exact ⟨found, t, hends, List.Subset.refl _⟩
  | excluded => cases htrial

/-- What is found at a point outside of trials is found by the run, if no fault ends it. -/
theorem Reached.passesOn {b : Bool} (h : Reached resolve p r b q s) (hb : b = false)
    (hends : (p.check resolve).ending r = (.ok found, t)) :
    ∃ inner u, (q.check resolve).ending s = (.ok inner, u) ∧ inner ⊆ found := by
  induction h with
  | start => exact ⟨found, t, hends, List.Subset.refl _⟩
  | call _ hcall ih =>
      obtain ⟨htried, rfl⟩ := Bool.or_eq_false_iff.1 hb
      obtain ⟨inner, u, hinner, hsub⟩ := ih htried
      obtain ⟨own, w, hown, hsub'⟩ := hcall.passesOn hinner
      exact ⟨own, w, hown, fun _ h => hsub (hsub' h)⟩

end Found

end ShapeCheck
