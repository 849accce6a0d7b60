import ShapeCheck.Proofs.Collecting

/-!
# The guard of references

`follow` counts a budget down, so that it recurses on a number. `guarded` is one step without a budget: it compares the
depth of its context with the bound, and takes what it does behind a reference as an argument. Unrolled more often than the
bound is large, it no longer depends on that argument, so the recursion that it describes ends.

What the contexts say of a run is said of its events: `openAfter` are the references that were entered and not yet left
after some events, the innermost first, and `Guarded` says of each event that its context names just these.
-/

namespace ShapeCheck

/-! ## Runs that differ in nothing -/

section Same

variable {f g : Follow} {ctx : Context} {I F : List RunEvent → Prop}

/-- Runs that are equal, with what is known of their events at each place and at a fault. -/
def Keeping.same (f g : Follow) (ctx : Context) (I F : List RunEvent → Prop) : Keeping where
  first := f
  second := g
  here := ctx
  there := ctx
  runs r s := s = r ∧ I r.events
  faults _ r s := s = r ∧ F r.events
  held _ _ := True
  opened _ := True
  met _ := True
  followed _ := True
  checker _ := True
  lenient _ := True
  finds _ := True

/-- Checkers use the store and what they know of references alone: all laws follow from the one of references. -/
theorem Keeping.same_lawful (hIF : ∀ es, I es → F es)
    (hfollow : ∀ {r convert path ref v}, I r.events →
      (Keeping.same f g ctx I F).Ends (fun _ => True) ((f { ctx with convert := convert } path ref v).ending r)
        ((g { ctx with convert := convert } path ref v).ending r)) :
    (Keeping.same f g ctx I F).Lawful := by
  constructor
  case toKnownFaults => exact .of_runs fun hr => ⟨hr.1, hIF _ hr.2⟩
  case store_eq => exact fun hr => congrArg Run.store hr.1
  case item | entry | held_counted | met_held | met_counted | opened | followed | inlineType | plain => intros; trivial
  case references => exact fun _ _ => .inr fun _ => trivial
  case strip => exact fun _ _ _ hr _ _ => ⟨by rw [hr.1], hr.2⟩
  case save => exact fun _ _ hr _ _ _ => ⟨by rw [hr.1], hr.2⟩
  case follow =>
    intro r s convert path ref v hr _ _
    obtain rfl := hr.1
    exact (hfollow hr.2).mono (fun _ _ _ _ => trivial) fun _ _ h => h

/-- A type uses what it knows of references at its own context alone, up to conversions. -/
theorem TypeChecker.collect_same (hIF : ∀ es, I es → F es)
    (hfollow : ∀ {r convert path ref v}, I r.events →
      (Keeping.same f g ctx I F).Ends (fun _ => True) ((f { ctx with convert := convert } path ref v).ending r)
        ((g { ctx with convert := convert } path ref v).ending r))
    (t : TypeChecker) {path : Path} {v : Value} {r : Run} (hr : I r.events) :
    (Keeping.same f g ctx I F).Ends (fun _ => True) ((t.collect f ctx path v).ending r)
      ((t.collect g ctx path v).ending r) := by
  have hlawful := Keeping.same_lawful hIF hfollow
  have hevery : t.Every (Keeping.same f g ctx I F).checker := fun _ _ => trivial
  exact (TypeChecker.collect_ends hlawful t hevery trivial ⟨rfl, hr⟩ trivial).mono
    (fun _ _ => trivial) fun _ _ h => h

end Same

theorem Check.ext {α : Type} {c d : Check α} (h : ∀ r, c.ending r = d.ending r) : c = d := funext h

/-- Ways to follow references that agree on a context, whatever it says of conversions, are one way for a type in it. -/
theorem TypeChecker.collect_congr (t : TypeChecker) {f g : Follow} {ctx : Context}
    (h : ∀ convert, f { ctx with convert := convert } = g { ctx with convert := convert }) (path : Path) (v : Value) :
    t.collect f ctx path v = t.collect g ctx path v := by
  apply Check.ext
  intro r
  have hends : (Keeping.same f g ctx (fun _ => True) fun _ => True).Ends (fun _ => True)
      ((t.collect f ctx path v).ending r) ((t.collect g ctx path v).ending r) := by
    refine TypeChecker.collect_same (fun _ h => h) (fun {r convert path ref w} _ => ?_) t trivial
    rw [h convert]
    rcases (g { ctx with convert := convert } path ref w).ending r with ⟨e | found, s⟩
    · exact .fault ⟨rfl, trivial⟩
    · exact .done trivial ⟨rfl, trivial⟩
  exact hends.eq (fun _ _ hr => hr.1) fun _ _ _ hr => hr.1

/-! ## The recursion without a budget -/

/-- One step of following a reference, without a budget. What is done behind the reference is an argument. -/
def guarded (resolve : Resolver) (inner : Follow) : Follow := fun ctx path ref v => do
  let met (outcome : VisitOutcome) : Check Unit := Check.record (.met ⟨ref, v, path, ctx, outcome⟩)
  match resolve ref with
  | none =>
    met .unresolved
    return [causedBy (.unresolved ref) path v]
  | some t =>
    if (ref, v) ∈ ctx.inFlight then
      met .cyclic
      return [causedBy (.cyclic ref path) path v]
    if ctx.maxDepth ≤ ctx.depth then
      met .tooDeep
      return [causedBy (.tooDeep ref ctx.maxDepth) path v]
    met .entered
    let found ← t.collect inner (ctx.enter ref v) path v
    Check.record (.left ref v)
    return found

/-- So many steps inside of each other, with anything behind the last one. -/
def unrolled (resolve : Resolver) (rest : Follow) : Nat → Follow
  | 0 => rest
  | n + 1 => guarded resolve (unrolled resolve rest n)

/-- The budget is what the depth of a context leaves of the bound, so `follow` does what the guard says. -/
theorem follow_eq_unrolled (resolve : Resolver) (rest : Follow) (budget : Nat) :
    ∀ {ctx : Context} {n : Nat}, ctx.depth + budget = ctx.maxDepth.toNat → budget < n →
      follow resolve budget ctx = unrolled resolve rest n ctx := by
  induction budget with
  | zero =>
      intro ctx n hd hn
      obtain ⟨m, rfl⟩ : ∃ m, n = m + 1 := ⟨n - 1, by omega⟩
      have hdeep : ctx.maxDepth ≤ ctx.depth := by omega
      funext path ref v
      unfold follow unrolled guarded
      cases resolve ref with
      | none => rfl
      | some t =>
          dsimp only
          rw [if_pos hdeep]
  | succ budget ih =>
      intro ctx n hd hn
      obtain ⟨m, rfl⟩ : ∃ m, n = m + 1 := ⟨n - 1, by omega⟩
      have hdeep : ¬ ctx.maxDepth ≤ ctx.depth := by omega
      funext path ref v
      unfold follow unrolled guarded
      cases resolve ref with
      | none => rfl
      | some t =>
          have hnested : t.collect (follow resolve budget) (ctx.enter ref v) path v =
              t.collect (unrolled resolve rest m) (ctx.enter ref v) path v := by
            refine t.collect_congr (fun convert => ?_) path v
            apply ih
            · change ctx.depth + 1 + budget = ctx.maxDepth.toNat
              omega
            · omega
          dsimp only
          rw [if_neg hdeep, hnested]

/-! ## What events say of contexts -/

/-- The references that are being followed after one event more, the innermost first. -/
def RunEvent.applyTo (e : RunEvent) (stack : List (TypeRef × Value)) : List (TypeRef × Value) :=
  match e with
  | .met visit => if visit.outcome = .entered then (visit.ref, visit.value) :: stack else stack
  | .left _ _ => stack.tail

/-- The references that are being followed after some events, the innermost first. -/
def openAfter (events : List RunEvent) : List (TypeRef × Value) := events.foldl (fun stack e => e.applyTo stack) []

@[simp] theorem openAfter_append_one (events : List RunEvent) (e : RunEvent) :
    openAfter (events ++ [e]) = e.applyTo (openAfter events) := by
  unfold openAfter
  rw [List.foldl_append]
  rfl

/-- A context says what is being followed: these references for these values, all distinct, and as many as its depth, which
keeps below the bound. -/
structure Context.Tracks (ctx : Context) (bound : Int) (stack : List (TypeRef × Value)) : Prop where
  maxDepth : ctx.maxDepth = bound
  inFlight : ctx.inFlight = stack
  depth : ctx.depth = stack.length
  distinct : stack.Nodup
  depth_le : (ctx.depth : Int) ≤ max bound 0

/-- An event fits to what is being followed: a reference is met in a context that says so, and so does the context behind
the reference, if it is entered; what is left is the innermost reference. -/
def RunEvent.Fits (maxDepth : Int) (stack : List (TypeRef × Value)) : RunEvent → Prop
  | .met visit => visit.context.Tracks maxDepth stack ∧
      (visit.outcome = .entered →
        (visit.context.enter visit.ref visit.value).Tracks maxDepth ((visit.ref, visit.value) :: stack))
  | .left ref v => stack.head? = some (ref, v)

/-- Each event fits to what the events before it leave open. -/
def Guarded (maxDepth : Int) (events : List RunEvent) : Prop :=
  ∀ before e after, events = before ++ e :: after → e.Fits maxDepth (openAfter before)

theorem Guarded.nil (maxDepth : Int) : Guarded maxDepth [] := by
  intro before e after h
  simp at h

theorem Guarded.append_one {maxDepth : Int} {events : List RunEvent} {e : RunEvent} (h : Guarded maxDepth events)
    (he : e.Fits maxDepth (openAfter events)) : Guarded maxDepth (events ++ [e]) := by
  intro before x after heq
  rcases List.eq_nil_or_concat after with rfl | ⟨front, last, rfl⟩
  · obtain ⟨rfl, hx⟩ := List.append_inj' heq rfl
    cases hx
    exact he
  · rw [List.concat_eq_append, ← List.cons_append, ← List.append_assoc] at heq
    obtain ⟨rfl, _⟩ := List.append_inj' heq rfl
    exact h before x front rfl

/-- Behind a reference that is not being followed yet, one more is. -/
theorem Context.Tracks.enter {ctx : Context} {bound : Int} {stack : List (TypeRef × Value)} {ref : TypeRef} {v : Value}
    (h : ctx.Tracks bound stack) (hnew : (ref, v) ∉ ctx.inFlight) (hdepth : ctx.depth < bound.toNat) :
    (ctx.enter ref v).Tracks bound ((ref, v) :: stack) where
  maxDepth := h.maxDepth
  inFlight := congrArg _ h.inFlight
  depth := by
    change ctx.depth + 1 = stack.length + 1
    rw [h.depth]
  distinct := List.nodup_cons.2 ⟨h.inFlight ▸ hnew, h.distinct⟩
  depth_le := by
    change ((ctx.depth + 1 : Nat) : Int) ≤ max bound 0
    omega

/-- Whether texts may stand for numbers has no part in it. -/
theorem Context.Tracks.withConversions {ctx : Context} {bound : Int} {stack : List (TypeRef × Value)}
    (h : ctx.Tracks bound stack) (convert : Bool) : Context.Tracks { ctx with convert := convert } bound stack where
  maxDepth := h.maxDepth
  inFlight := h.inFlight
  depth := h.depth
  distinct := h.distinct
  depth_le := h.depth_le

section Run

variable {bound : Int} {ctx : Context} {path : Path} {ref : TypeRef} {v : Value} {r : Run}

/-- A run whose events are guarded and leave these references open. -/
def Run.Follows (bound : Int) (stack : List (TypeRef × Value)) (r : Run) : Prop :=
  Guarded bound r.events ∧ openAfter r.events = stack

/-- Meeting a reference without entering it. -/
theorem met_guarded {outcome : VisitOutcome} {found : Findings} (ho : outcome ≠ .entered)
    (hctx : ctx.Tracks bound ctx.inFlight) (hr : r.Follows bound ctx.inFlight) :
    Ends (fun s t => t = s ∧ s.Follows bound ctx.inFlight) (fun _ s t => t = s ∧ Guarded bound s.events) (fun _ => True)
      ((Check.record (.met ⟨ref, v, path, ctx, outcome⟩) >>= fun _ => pure found).ending r)
      ((Check.record (.met ⟨ref, v, path, ctx, outcome⟩) >>= fun _ => pure found).ending r) := by
  refine .done trivial ⟨rfl, ?_, ?_⟩
  · exact hr.1.append_one ⟨hr.2.symm ▸ hctx, fun h => absurd h ho⟩
  · rw [openAfter_append_one, hr.2]
    exact if_neg ho

/-- Following a reference keeps the events guarded, and leaves open what was open. -/
theorem follow_guarded (resolve : Resolver) (budget : Nat) :
    ∀ {ctx : Context} {path : Path} {ref : TypeRef} {v : Value} {r : Run}, ctx.depth + budget = bound.toNat →
      ctx.Tracks bound ctx.inFlight → r.Follows bound ctx.inFlight →
      Ends (fun s t => t = s ∧ s.Follows bound ctx.inFlight) (fun _ s t => t = s ∧ Guarded bound s.events)
        (fun _ => True) ((follow resolve budget ctx path ref v).ending r)
        ((follow resolve budget ctx path ref v).ending r) := by
  induction budget with
  | zero =>
      intro ctx path ref v r _ hctx hr
      unfold follow
      cases resolve ref with
      | none => exact met_guarded (by decide) hctx hr
      | some t =>
          dsimp only
          split
          · exact met_guarded (by decide) hctx hr
          · exact met_guarded (by decide) hctx hr
  | succ budget ih =>
      intro ctx path ref v r hd hctx hr
      unfold follow
      cases resolve ref with
      | none => exact met_guarded (by decide) hctx hr
      | some t =>
          dsimp only
          split
          · exact met_guarded (by decide) hctx hr
          · next hnew =>
            have hinner := hctx.enter (v := v) hnew (by omega)
            -- The reference is open from here until it is left.
            have hentered : (Run.mk r.store (r.events ++ [.met ⟨ref, v, path, ctx, .entered⟩])).Follows bound
                ((ref, v) :: ctx.inFlight) := by
              refine ⟨hr.1.append_one ⟨hr.2.symm ▸ hctx, fun _ => hr.2.symm ▸ hinner⟩, ?_⟩
              rw [openAfter_append_one, hr.2]
              rfl
            have hnested : ∀ s : Run, s.Follows bound ((ref, v) :: ctx.inFlight) →
                (Keeping.same (follow resolve budget) (follow resolve budget) (ctx.enter ref v)
                  (fun es => Guarded bound es ∧ openAfter es = (ref, v) :: ctx.inFlight) (Guarded bound)).Ends
                  (fun _ => True) ((t.collect (follow resolve budget) (ctx.enter ref v) path v).ending s)
                  ((t.collect (follow resolve budget) (ctx.enter ref v) path v).ending s) := by
              intro s hs
              refine TypeChecker.collect_same (fun _ h => h.1) (fun {r convert path ref' w} hr => ?_) t hs
              refine ih ?_ (hinner.withConversions convert) hr
              change ctx.depth + 1 + budget = bound.toNat
              omega
            rw [Check.ending_bind_ok (Check.ending_record ..)]
            refine (hnested _ hentered).bind fun found s s' _ _ hs => ?_
            obtain ⟨rfl, hguarded, hopen⟩ := hs
            refine .done trivial ⟨rfl, hguarded.append_one ?_, ?_⟩
            · change (openAfter s'.events).head? = _
              rw [hopen]
              rfl
            · rw [openAfter_append_one, hopen]
              rfl

end Run

/-! ## Whole runs -/

/-- The context that a run starts in. -/
theorem Context.tracks_start (bound : Int) : Context.Tracks { maxDepth := bound } bound [] where
  maxDepth := rfl
  inFlight := rfl
  depth := rfl
  distinct := List.nodup_nil
  depth_le := Int.le_max_right ..

/-- The events of a run are guarded, and a run that ends without a fault leaves no reference open. -/
theorem TypeChecker.validate_events (t : TypeChecker) (resolve : Resolver) (bound : Int) (v : Value) (σ : Store) :
    Guarded bound (t.validate resolve bound v σ).run.events ∧
    ∀ found, (t.validate resolve bound v σ).result = .ok found → openAfter (t.validate resolve bound v σ).run.events = [] := by
  have hends : (Keeping.same (follow resolve bound.toNat) (follow resolve bound.toNat) { maxDepth := bound }
      (fun es => Guarded bound es ∧ openAfter es = []) (Guarded bound)).Ends (fun _ => True)
      ((t.collect (follow resolve bound.toNat) { maxDepth := bound } {} v).ending { store := σ })
      ((t.collect (follow resolve bound.toNat) { maxDepth := bound } {} v).ending { store := σ }) := by
    refine TypeChecker.collect_same (fun _ h => h.1) (fun {r convert path ref w} hr => ?_) t ⟨.nil bound, rfl⟩
    exact follow_guarded resolve bound.toNat (Nat.zero_add _) ((Context.tracks_start bound).withConversions convert) hr
  refine ⟨?_, fun found h => (hends.of_ok h).2.2.2⟩
  exact hends.runs_of (R := fun r _ => Guarded bound r.events) (fun _ _ h => h.2.1) fun _ _ _ h => h.2

/-- **The guard bounds every run.** For any store, type, resolver and bound, the recursion without a budget ends: however it
is continued behind more references inside of each other than the bound, a run is the same. All along the run contexts name
just the references that are being followed, each for a value once, and no more of them than the bound; a run that ends
without a fault leaves none open. Between references, inside of inline types and of elements, contexts differ in conversions
alone. -/
theorem TypeChecker.validate_guarded (t : TypeChecker) (resolve : Resolver) (bound : Int) (v : Value) (σ : Store) :
    (∀ (rest : Follow) (n : Nat), bound.toNat < n →
      t.validate resolve bound v σ = .ofCheck σ (t.collect (unrolled resolve rest n) { maxDepth := bound } {} v)) ∧
    Guarded bound (t.validate resolve bound v σ).run.events ∧
    (∀ found, (t.validate resolve bound v σ).result = .ok found →
      openAfter (t.validate resolve bound v σ).run.events = []) ∧
    ∀ (u : TypeChecker) (f g : Follow) (ctx : Context) (path : Path) (w : Value),
      (∀ convert, f { ctx with convert := convert } = g { ctx with convert := convert }) →
        u.collect f ctx path w = u.collect g ctx path w := by
  obtain ⟨hguarded, hopen⟩ := t.validate_events resolve bound v σ
  refine ⟨fun rest n hn => ?_, hguarded, hopen, fun u f g ctx path w h => u.collect_congr h path w⟩
  have hcollect : t.collect (follow resolve bound.toNat) { maxDepth := bound } {} v =
      t.collect (unrolled resolve rest n) { maxDepth := bound } {} v :=
    t.collect_congr (fun _ => follow_eq_unrolled resolve rest bound.toNat (Nat.zero_add _) hn) {} v
  unfold TypeChecker.validate
  rw [hcollect]

end ShapeCheck
