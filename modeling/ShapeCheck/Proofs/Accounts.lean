import Mathlib.Data.List.Induction
import ShapeCheck.Proofs.Calls
import ShapeCheck.Proofs.Collecting

/-!
# Accounts of runs

A run does a few things only: it takes out keys that are not declared, it saves conversions, it meets and leaves references,
and it finds violations. An `Account` says something of a part of a run from what the run was before, what was found and what
the run is after. It is `Account.Lawful` if it can be put together and each of those things, done at a point that the run
comes to, is as it says. Then it holds of all parts: of what is done at each point (`Account.Lawful.sound`) and of what comes
before one (`Account.Lawful.upTo`).
-/

namespace ShapeCheck

/-- What is said of a part of a run, inside of a trial or not: the run before, what was found, and the run after. -/
abbrev Account := (tried : Bool) → Run → Findings → Run → Prop

/-- How a reference is met with a budget: what comes of it and what is found at once. -/
inductive Meeting (resolve : Resolver) (ctx : Context) (path : Path) (ref : TypeRef) (v : Value) :
    (budget : Nat) → VisitOutcome → Findings → Prop
  | unresolved {n : Nat} (missing : resolve ref = none) :
    Meeting resolve ctx path ref v n .unresolved [causedBy (.unresolved ref) path v]
  | cyclic {n : Nat} {t : TypeChecker} (found : resolve ref = some t) (inside : (ref, v) ∈ ctx.inFlight) :
    Meeting resolve ctx path ref v n .cyclic [causedBy (.cyclic ref path) path v]
  | tooDeep {t : TypeChecker} (found : resolve ref = some t) (fresh : (ref, v) ∉ ctx.inFlight) :
    Meeting resolve ctx path ref v 0 .tooDeep [causedBy (.tooDeep ref ctx.maxDepth) path v]
  | entered {n : Nat} {t : TypeChecker} (found : resolve ref = some t) (fresh : (ref, v) ∉ ctx.inFlight) :
    Meeting resolve ctx path ref v (n + 1) .entered []

/-- What a conversion that may be saved comes to: a fault, nothing, or another value under the key. -/
theorem saveConversion_ending (leniency : Leniency) (v : Value) (name : String) (x : Value) (r : Run) :
    (∃ e, (saveConversion leniency v name x).ending r = (.error e, r)) ∨
      (saveConversion leniency v name x).ending r = (.ok (), r) ∨
      ∃ a es current, v = .container a ∧ (leniency.saveConversions = true ∧ leniency.skipConversions = false) ∧
        r.store.read? a = some (.mapping es) ∧ Entries.get? name es = some current ∧ current ≠ x ∧
        (saveConversion leniency v name x).ending r =
          (.ok (), { r with store := r.store.write a (.mapping (Entries.put (.text name) x es)) }) := by
  unfold saveConversion
  split
  · next hflags =>
    rw [Bool.and_eq_true, Bool.not_eq_true'] at hflags
    rw [Check.ending_bind_ok (Check.ending_store r)]
    split
    · next a es hcell =>
      cases hget : Entries.get? name es with
      | none => exact .inl ⟨_, rfl⟩
      | some current =>
          by_cases hne : current ≠ x
          · refine .inr (.inr ⟨a, es, current, rfl, hflags, hcell, hget, hne, ?_⟩)
            dsimp only
            rw [if_pos hne]
            rfl
          · refine .inr (.inl ?_)
            dsimp only
            rw [if_neg hne]
            rfl
    · exact .inr (.inl rfl)
  · exact .inr (.inl rfl)

namespace Account

variable {α β : Type}

/-- What an account says of a check that ended: after a fault there are no findings. -/
def Told (k : Account) (tried : Bool) (r : Run) (found : α → Findings) : Except Fault α × Run → Prop
  | (.ok a, s) => k tried r (found a) s
  | (.error _, s) => k true r [] s

/-- What has to be so at the points of a run from a first one. -/
structure Lawful (k : Account) (resolve : Resolver) (start : Point) (first : Run) : Prop where
  refl : ∀ {r}, k true r [] r
  append : ∀ {b r s t xs ys}, k b r xs s → k b s ys t → k b r (xs ++ ys) t
  /-- What was found may be left out, which is all that is kept of a trial. -/
  forget : ∀ {b r s xs}, k b r xs s → k true r [] s
  /-- Of what is found without a reference nothing is said. -/
  plain : ∀ {b r s xs}, k true r [] s → (∀ f ∈ xs, f.IsPlain) → k b r xs s
  strip : ∀ {b n ctx path t a r es}, Reached resolve start first b (.type n ctx path t (.container a)) r →
    t.leniency.stripExtraKeys = true → r.store.read? a = some (.mapping es) →
    k b r [] { r with store := r.store.write a (.mapping (es.filter fun e => !isStray t.leniency (t.properties.map Prod.fst) e)) }
  /-- A conversion is saved after the value under a key was checked, in the same step with the check. -/
  save : ∀ {b n ctx path t a r name c w s s' x es current},
    Reached resolve start first b (.type n ctx path t (.container a)) r → (name, c) ∈ t.properties →
    t.leniency.saveConversions = true → t.leniency.skipConversions = false →
    Call resolve false (.type n ctx path t (.container a)) r
      (.property n (ctx.inside t) (path.key name) true (some (.container a)) c w) s →
    s.store.under? (.container a) name = some w →
    (c.collect (follow resolve n) (ctx.inside t) (path.key name) true (some (.container a)) w).ending s = (.ok ([], x), s') →
    k b s [] s' → s'.store.read? a = some (.mapping es) → Entries.get? name es = some current → current ≠ x →
    k b s [] { s' with store := s'.store.write a (.mapping (Entries.put (.text name) x es)) }
  meet : ∀ {b n ctx path ref v r outcome found}, Reached resolve start first b (.rule n ctx path (.reference ref) v) r →
    Meeting resolve ctx path ref v n outcome found →
    k b r found { r with events := r.events ++ [.met ⟨ref, v, path, ctx, outcome⟩] }
  leave : ∀ {b r} (ref : TypeRef) (v : Value), k b r [] { r with events := r.events ++ [.left ref v] }

section Told

variable {k : Account} {resolve : Resolver} {start : Point} {first : Run} (hk : k.Lawful resolve start first) {b : Bool}

include hk

theorem Lawful.nothing {r : Run} {found : Findings} (h : ∀ f ∈ found, f.IsPlain) : k b r found r := hk.plain hk.refl h

theorem Lawful.idle {r : Run} : k b r [] r := hk.nothing fun _ hf => nomatch hf

/-- Two parts of which nothing was kept. -/
theorem Lawful.chain {r s t : Run} (h : k true r [] s) (h' : k true s [] t) : k true r [] t := hk.append h h'

omit hk in
/-- Two checks in order. -/
theorem told_bind {c : Check α} {next : α → Check β} {f : α → Findings} {g : β → Findings} {r s : Run}
    (h : k.Told b r f (c.ending s))
    (hnext : ∀ a t, c.ending s = (.ok a, t) → k b r (f a) t → k.Told b r g ((next a).ending t)) :
    k.Told b r g ((c >>= next).ending s) := by
  rcases hc : c.ending s with ⟨e | a, t⟩
  · rw [Check.ending_bind_error hc]
    rw [hc] at h
    exact h
  · rw [Check.ending_bind_ok hc]
    rw [hc] at h
    exact hnext a t hc h

/-- What is told of a check after another one, put together with that. -/
theorem Lawful.after {f : α → Findings} {r s : Run} {xs : Findings} {y : Except Fault α × Run} (h : k b r xs s)
    (hy : k.Told b s f y) : k.Told b r (fun a => xs ++ f a) y := by
  rcases y with ⟨e | a, t⟩
  · exact hk.append (hk.forget h) hy
  · exact hk.append h hy

omit hk in
theorem told_map {c : Check α} {f : α → β} {g : β → Findings} {r s : Run} :
    k.Told b r g ((do return f (← c)).ending s) ↔ k.Told b r (fun a => g (f a)) (c.ending s) := by
  rw [Check.ending_bind]
  rcases c.ending s with ⟨e | a, t⟩ <;> rfl

/-- Two checks whose findings are put together. -/
theorem Lawful.both {c d : Check Findings} {r : Run} (hc : k.Told b r id (c.ending r))
    (hd : ∀ xs s, c.ending r = (.ok xs, s) → k b r xs s → k.Told b s id (d.ending s)) :
    k.Told b r id ((do return (← c) ++ (← d)).ending r) :=
  told_bind hc fun xs s hxs htold => told_map.2 (hk.after htold (hd xs s hxs htold))

theorem Lawful.ofExcept {x : Except Fault α} {next : α → Check β} {g : β → Findings} {r : Run}
    (h : ∀ a, x = .ok a → k.Told b r g ((next a).ending r)) : k.Told b r g ((Check.ofExcept x >>= next).ending r) := by
  rw [Check.ending_bind, Check.ending_ofExcept]
  cases x with
  | ok a => exact h a rfl
  | error e => exact hk.refl

omit hk in
theorem told_store {next : Store → Check β} {g : β → Findings} {r s : Run} (h : k.Told b r g ((next s.store).ending s)) :
    k.Told b r g ((Check.store >>= next).ending s) := by
  rw [Check.ending_bind_ok (Check.ending_store s)]
  exact h

/-- What a trial has found is forgotten. -/
theorem Lawful.tried {f : α → Findings} {r : Run} {y : Except Fault α × Run} (h : k.Told b r f y) :
    k.Told true r (fun _ => []) y := by
  rcases y with ⟨e | a, s⟩
  · exact h
  · exact hk.forget h

/-- After a trial something plain is found. -/
theorem Lawful.afterTrial {c : Check α} {g : α → Findings} {r : Run} (h : k.Told true r (fun _ => []) (c.ending r))
    (hg : ∀ a s, c.ending r = (.ok a, s) → ∀ f ∈ g a, f.IsPlain) : k.Told b r id ((do return g (← c)).ending r) := by
  rw [told_map]
  rcases hc : c.ending r with ⟨e | a, s⟩
  · rw [hc] at h
    exact h
  · rw [hc] at h
    exact hk.plain h (hg a s hc)

end Told

/-! ## What a point does, from what its calls do -/

/-- The account holds of all calls of a point. -/
def Answered (k : Account) (resolve : Resolver) (b : Bool) (p : Point) (r : Run) : Prop :=
  ∀ trial q s, Call resolve trial p r q s → k.Told (b || trial) s id ((q.check resolve).ending s)

section Points

variable {k : Account} {resolve : Resolver} {start : Point} {first : Run} (hk : k.Lawful resolve start first) {b : Bool}
  {n : Nat} {ctx : Context} {path : Path} {r : Run}

include hk

/-- The keys that are not declared. -/
theorem Lawful.strays {t : TypeChecker} {v : Value} (hp : Reached resolve start first b (.type n ctx path t v) r) :
    k.Told b r id ((strays t.leniency (t.properties.map Prod.fst) path v).ending r) := by
  unfold ShapeCheck.strays
  refine told_store ?_
  dsimp only
  split
  · next a es hstrip hcell =>
    have hes : r.store.entries? (.container a) = some es := by
      unfold Store.entries?
      rw [hcell]
    rw [hes]
    exact hk.strip hp hstrip hcell
  · refine told_map.1 (hk.ofExcept fun found hfound => ?_)
    exact hk.nothing (Keeping.Lawful.strayFindings_isPlain hfound)

/-- One declared key, with the conversion that may be saved. -/
theorem Lawful.field {t : TypeChecker} {v : Value} {name : String} {c : PropertyChecker} {s : Run}
    (hp : Reached resolve start first b (.type n ctx path t v) r) (hc : (name, c) ∈ t.properties)
    (hcall : Call resolve false (.type n ctx path t v) r (.property n (ctx.inside t) (path.key name)
      (s.store.under? v name).isSome (some v) c ((s.store.under? v name).getD default)) s)
    (htold : k.Told b s Prod.fst ((c.collect (follow resolve n) (ctx.inside t) (path.key name)
      (s.store.under? v name).isSome (some v) ((s.store.under? v name).getD default)).ending s)) :
    k.Told b s id ((PropertyChecker.collectFields (follow resolve n) (ctx.inside t) path t.leniency v [(name, c)]).ending s) := by
  rw [PropertyChecker.collectFields_singleton]
  refine told_store ?_
  dsimp only
  generalize hcurrent : s.store.under? v name = current at hcall htold
  refine told_bind htold fun ⟨found, x⟩ s' hends hfound => ?_
  dsimp only
  split
  · next hsave =>
    rw [Bool.and_eq_true] at hsave
    obtain ⟨w, rfl⟩ := Option.isSome_iff_exists.1 hsave.1
    obtain rfl := List.isEmpty_iff.1 hsave.2
    rcases saveConversion_ending t.leniency v name x s' with ⟨e, he⟩ | he | ⟨a, es, current, rfl, hflags, hread, hget, hne, he⟩
    · rw [Check.ending_bind_error he]
      exact hk.forget hfound
    · rw [Check.ending_bind_ok he]
      exact hfound
    · rw [Check.ending_bind_ok he]
      exact hk.save hp hc hflags.1 hflags.2 hcall hcurrent hends hfound hread hget hne
  · exact hfound

/-- The declared keys up to one. -/
theorem Lawful.fields {t : TypeChecker} {v : Value} {s : Run} {extra : Findings}
    (hp : Reached resolve start first b (.type n ctx path t v) r)
    (hcalls : k.Answered resolve b (.type n ctx path t v) r) (hmapping : (r.store.entries? v).isSome = true)
    (hstray : (ShapeCheck.strays t.leniency (t.properties.map Prod.fst) path v).ending r = (.ok extra, s))
    (before after : List (String × PropertyChecker)) (hsplit : t.properties = before ++ after) :
    k.Told b s id
      ((PropertyChecker.collectFields (follow resolve n) (ctx.inside t) path t.leniency v before).ending s) := by
  induction before using List.reverseRecOn generalizing after with
  | nil =>
      rw [PropertyChecker.collectFields]
      exact hk.idle
  | append_singleton before field ih =>
      obtain ⟨name, c⟩ := field
      rw [List.append_assoc] at hsplit
      rw [PropertyChecker.collectFields_append]
      refine hk.both (ih _ hsplit) fun xs s' hearlier _ => ?_
      have hcall := Call.field hmapping hsplit hstray hearlier
      have htold := hcalls _ _ _ hcall
      rw [Bool.or_false, Point.check, told_map] at htold
      exact hk.field hp (hsplit ▸ List.mem_append_cons_self) hcall htold

/-- The rules up to one. -/
theorem Lawful.rules {present : Bool} {parent : Option Value} {c : PropertyChecker} {v w : Value} {peers : Findings}
    (hcalls : k.Answered resolve b (.property n ctx path present parent c v) r)
    (hearly : c.early ctx.convert path present r.store v = .ok (.goOn w))
    (hpeers : peerFindings c path r.store parent v = .ok peers) (before after : List Rule)
    (hsplit : c.rules = before ++ after) :
    k.Told b r id ((Rule.runAll (follow resolve n) ctx path before w).ending r) := by
  induction before using List.reverseRecOn generalizing after with
  | nil =>
      rw [Rule.runAll]
      exact hk.idle
  | append_singleton before x ih =>
      rw [List.append_assoc] at hsplit
      rw [Rule.runAll_append]
      refine hk.both (ih _ hsplit) fun xs s hearlier _ => ?_
      rw [Rule.runAll_singleton]
      have htold := hcalls _ _ _ (.rule hearly hpeers hsplit hearlier)
      rw [Bool.or_false] at htold
      exact htold

/-- Some items of an array, where each one is told of by itself. -/
theorem Lawful.items {check : Path → Value → Check Findings} {items : List Value}
    (hitem : ∀ before item after xs s, items = before ++ item :: after →
      (eachItem path check 0 before).ending r = (.ok xs, s) →
      k.Told b s id ((check (path.index before.length) item).ending s))
    (before after : List Value) (hsplit : items = before ++ after) :
    k.Told b r id ((eachItem path check 0 before).ending r) := by
  induction before using List.reverseRecOn generalizing after with
  | nil => exact hk.idle
  | append_singleton before item ih =>
      rw [List.append_assoc] at hsplit
      rw [eachItem_append]
      refine hk.both (ih _ hsplit) fun xs s hearlier _ => ?_
      rw [eachItem_singleton, Nat.zero_add]
      exact hitem before item after xs s hsplit hearlier

omit hk in
/-- There is one attempt for each description that is tried. -/
theorem attempts_length {f : Follow} {cs : List PropertyChecker} {v : Value} {s : Run} {attempts : List Findings}
    (h : (PropertyChecker.attempts f ctx path cs v).ending r = (.ok attempts, s)) : attempts.length = cs.length := by
  induction cs generalizing r attempts with
  | nil =>
      rw [PropertyChecker.attempts] at h
      cases h
      rfl
  | cons c rest ih =>
      rw [PropertyChecker.attempts] at h
      obtain ⟨x, r', _, h⟩ := Check.ending_bind_eq_ok h
      obtain ⟨others, r'', hothers, h⟩ := Check.ending_bind_eq_ok h
      cases h
      rw [List.length_cons, List.length_cons, ih hothers]

/-- The attempts at an item up to one. -/
theorem Lawful.attempts {elements : List PropertyChecker} {v item : Value} {before after : List Value} {xs : Findings}
    {s : Run} (hcalls : k.Answered resolve b (.rule n ctx path (.includes elements) v) r)
    (hitems : (r.store.items? v).getD [] = before ++ item :: after)
    (hearlier : (eachItem path (Rule.includesItem (follow resolve n) ctx elements) 0 before).ending r = (.ok xs, s))
    (tried untried : List PropertyChecker) (hsplit : elements = tried ++ untried) :
    k.Told true s (fun _ => [])
      ((PropertyChecker.attempts (follow resolve n) ctx (path.index before.length) tried item).ending s) := by
  induction tried using List.reverseRecOn generalizing untried with
  | nil =>
      rw [PropertyChecker.attempts]
      exact hk.idle
  | append_singleton tried c ih =>
      rw [List.append_assoc] at hsplit
      rw [PropertyChecker.attempts_append]
      refine told_bind (ih _ hsplit) fun attempts s' htries htried => ?_
      refine told_map.2 ?_
      rw [PropertyChecker.attempts_singleton]
      have htold := hcalls _ _ _ (.included hitems hearlier hsplit htries)
      rw [Point.check, told_map] at htold
      exact told_map.2 (hk.after htried (hk.tried htold))

/-- One item of an array that has to include some elements: with one description its findings are passed on. -/
theorem Lawful.includesItem {elements : List PropertyChecker} {v item : Value} {before after : List Value} {xs : Findings}
    {s : Run} (hcalls : k.Answered resolve b (.rule n ctx path (.includes elements) v) r)
    (hitems : (r.store.items? v).getD [] = before ++ item :: after)
    (hearlier : (eachItem path (Rule.includesItem (follow resolve n) ctx elements) 0 before).ending r = (.ok xs, s)) :
    k.Told b s id ((Rule.includesItem (follow resolve n) ctx elements (path.index before.length) item).ending s) := by
  unfold Rule.includesItem
  by_cases hone : elements.length = 1
  · obtain ⟨c, rfl⟩ := List.length_eq_one_iff.1 hone
    have htold := hcalls _ _ _ (.included hitems hearlier (List.nil_append [c]).symm rfl)
    rw [List.length_singleton, bne_self_eq_false, Bool.or_false, Point.check, told_map] at htold
    rw [told_map, PropertyChecker.attempts_singleton, told_map]
    rcases hends : (c.collect (follow resolve n) ctx (path.index before.length) true none item).ending s with ⟨e | ⟨found, x⟩, s'⟩
    · rw [hends] at htold
      exact htold
    · rw [hends] at htold
      cases found <;> exact htold
  · refine hk.afterTrial (hk.attempts hcalls hitems hearlier elements [] (List.append_nil _).symm) fun attempts s' h => ?_
    have hlength := attempts_length h
    intro f hf
    split at hf
    · cases hf
    · unfold noMatch at hf
      split at hf
      · exact absurd hlength.symm hone
      · rw [List.mem_singleton.1 hf]
        exact finding_isPlain (by decide)

/-- The items of an array that has to include some elements, up to one. -/
theorem Lawful.included {elements : List PropertyChecker} {v : Value}
    (hcalls : k.Answered resolve b (.rule n ctx path (.includes elements) v) r) {before after : List Value}
    (hitems : (r.store.items? v).getD [] = before ++ after) :
    k.Told b r id ((eachItem path (Rule.includesItem (follow resolve n) ctx elements) 0 before).ending r) :=
  hk.items (fun _ _ _ _ _ hitems hearlier => hk.includesItem hcalls hitems hearlier) _ _ hitems

/-- The trials of an item up to one. -/
theorem Lawful.trials {elements : List PropertyChecker} {v item : Value} {before after : List Value} {xs : Findings}
    {s : Run} (hcalls : k.Answered resolve b (.rule n ctx path (.excludes elements) v) r)
    (hitems : (r.store.items? v).getD [] = before ++ item :: after)
    (hearlier : (eachItem path (Rule.excludesItem (follow resolve n) ctx elements) 0 before).ending r = (.ok xs, s))
    (tried untried : List PropertyChecker) (hsplit : elements = tried ++ untried) :
    k.Told true s (fun _ => [])
      ((PropertyChecker.someAccepts (follow resolve n) ctx (path.index before.length) tried item).ending s) := by
  induction tried using List.reverseRecOn generalizing untried with
  | nil =>
      rw [PropertyChecker.someAccepts]
      exact hk.idle
  | append_singleton tried c ih =>
      rw [List.append_assoc] at hsplit
      rw [PropertyChecker.someAccepts_append]
      refine told_bind (ih _ hsplit) fun accepted s' htries htried => ?_
      cases accepted with
      | true => exact htried
      | false =>
          rw [if_neg Bool.false_ne_true, PropertyChecker.someAccepts_singleton]
          have htold := hcalls _ _ _ (.excluded hitems hearlier hsplit htries)
          rw [Point.check, told_map] at htold
          exact told_map.2 (hk.after htried (hk.tried htold))

/-- One item of an array that has to exclude some elements. -/
theorem Lawful.excludesItem {elements : List PropertyChecker} {v item : Value} {before after : List Value} {xs : Findings}
    {s : Run} (hcalls : k.Answered resolve b (.rule n ctx path (.excludes elements) v) r)
    (hitems : (r.store.items? v).getD [] = before ++ item :: after)
    (hearlier : (eachItem path (Rule.excludesItem (follow resolve n) ctx elements) 0 before).ending r = (.ok xs, s)) :
    k.Told b s id ((Rule.excludesItem (follow resolve n) ctx elements (path.index before.length) item).ending s) := by
  unfold Rule.excludesItem
  refine hk.afterTrial (hk.trials hcalls hitems hearlier elements [] (List.append_nil _).symm) fun matched s' _ => ?_
  intro f hf
  split at hf
  · rw [List.mem_singleton.1 hf]
    exact finding_isPlain (by decide)
  · cases hf

/-- The items of an array that has to exclude some elements, up to one. -/
theorem Lawful.excluded {elements : List PropertyChecker} {v : Value}
    (hcalls : k.Answered resolve b (.rule n ctx path (.excludes elements) v) r) {before after : List Value}
    (hitems : (r.store.items? v).getD [] = before ++ after) :
    k.Told b r id ((eachItem path (Rule.excludesItem (follow resolve n) ctx elements) 0 before).ending r) :=
  hk.items (fun _ _ _ _ _ hitems hearlier => hk.excludesItem hcalls hitems hearlier) _ _ hitems

/-! ## Whole points -/

/-- A type, from its properties. -/
theorem Lawful.type {t : TypeChecker} {v : Value} (hp : Reached resolve start first b (.type n ctx path t v) r)
    (hcalls : k.Answered resolve b (.type n ctx path t v) r) :
    k.Told b r id ((t.collect (follow resolve n) ctx path v).ending r) := by
  rw [TypeChecker.collect_eq]
  refine told_store ?_
  split
  · exact hk.nothing fun f hf => List.mem_singleton.1 hf ▸ finding_isPlain (by decide)
  · next hmapping =>
    rw [Bool.not_eq_true, Option.isNone_eq_false_iff] at hmapping
    refine hk.both (hk.strays hp) fun extra s hstray _ => ?_
    exact hk.fields hp hcalls hmapping hstray t.properties [] (List.append_nil _).symm

/-- A property or an element, from its rules. -/
theorem Lawful.property {present : Bool} {parent : Option Value} {c : PropertyChecker} {v : Value}
    (hcalls : k.Answered resolve b (.property n ctx path present parent c v) r) :
    k.Told b r Prod.fst ((c.collect (follow resolve n) ctx path present parent v).ending r) := by
  rw [PropertyChecker.collect_eq]
  refine told_store (hk.ofExcept fun early hearly => ?_)
  cases early with
  | done found w => exact hk.nothing (PropertyChecker.early_done hearly).1
  | goOn w =>
      refine told_store (hk.ofExcept fun peers hpeers => ?_)
      refine told_map.2 (hk.after (hk.nothing (peerFindings_isPlain hpeers)) ?_)
      exact hk.rules hcalls hearly hpeers c.rules [] (List.append_nil _).symm

/-- Meeting a reference, and what it leads to where it is entered. -/
theorem Lawful.reference {ref : TypeRef} {v : Value} (hp : Reached resolve start first b (.rule n ctx path (.reference ref) v) r)
    (hcalls : k.Answered resolve b (.rule n ctx path (.reference ref) v) r) :
    k.Told b r id ((follow resolve n ctx path ref v).ending r) := by
  unfold follow
  cases hresolve : resolve ref with
  | none => exact hk.meet hp (.unresolved hresolve)
  | some t =>
      dsimp only
      split
      · next hinside => exact hk.meet hp (.cyclic hresolve hinside)
      · next hfresh =>
        cases n with
        | zero => exact hk.meet hp (.tooDeep hresolve hfresh)
        | succ n =>
            have hmet := hk.meet hp (.entered hresolve hfresh)
            have htold := hcalls _ _ _ (.reference hresolve hfresh)
            rw [Bool.or_false] at htold
            rw [Check.ending_bind_ok (Check.ending_record ..)]
            refine told_bind (hk.after hmet htold) fun found s' _ hfound => ?_
            have hleft := hk.append hfound (hk.leave ref v)
            rw [List.append_nil] at hleft
            exact hleft

/-- A rule, from its elements, from the type in place or from what is behind a reference. -/
theorem Lawful.rule {x : Rule} {v : Value} (hp : Reached resolve start first b (.rule n ctx path x v) r)
    (hcalls : k.Answered resolve b (.rule n ctx path x v) r) :
    k.Told b r id ((x.run (follow resolve n) ctx path v).ending r) := by
  cases x with
  | includes elements =>
      rw [Rule.run_includes]
      exact told_store (hk.included hcalls (List.append_nil _).symm)
  | excludes elements =>
      rw [Rule.run_excludes]
      exact told_store (hk.excluded hcalls (List.append_nil _).symm)
  | reference ref =>
      rw [Rule.run]
      exact hk.reference hp hcalls
  | inlineType t =>
      rw [Rule.run]
      have htold := hcalls _ _ _ .inlineType
      rw [Bool.or_false] at htold
      exact htold
  | length =>
      rw [Rule.run]
      exact told_store (hk.ofExcept fun allowed _ => hk.nothing judged_isPlain)
  | pattern source program =>
      rw [Rule.run]
      cases program.search (textOf v) with
      | found => exact hk.idle
      | missing => exact hk.nothing judged_isPlain
  | atLeast | atMost =>
      rw [Rule.run]
      exact hk.ofExcept fun allowed _ => hk.nothing judged_isPlain
  | alphanumeric | email | date | whole | fraction =>
      rw [Rule.run]
      exact hk.nothing judged_isPlain

end Points

section Whole

variable {k : Account} {resolve : Resolver} {start : Point} {first : Run} (hk : k.Lawful resolve start first)

include hk

/-- A lawful account holds of what is done at each point that a run comes to. -/
theorem Lawful.sound {b : Bool} {p : Point} {r : Run} (hp : Reached resolve start first b p r) :
    k.Told b r id ((p.check resolve).ending r) := by
  induction p, r using Point.induction resolve generalizing b with
  | step p r ih =>
      have hcalls : k.Answered resolve b p r := fun trial q s hcall => ih trial q s hcall (hp.call hcall)
      cases p with
      | type => exact hk.type hp hcalls
      | property => exact told_map.2 (hk.property hcalls)
      | rule => exact hk.rule hp hcalls

/-- A lawful account holds of what is done before a point that a run comes to. -/
theorem Lawful.upTo {b : Bool} {p : Point} {r : Run} (hp : Reached resolve start first b p r) : k true first [] r := by
  induction hp with
  | start => exact hk.refl
  | @call b trial q u s s' hq hcall ih =>
      have hcalls : k.Answered resolve b q s := fun trial q' s' hcall => hk.sound (hq.call hcall)
      refine hk.chain ih ?_
      cases hcall with
      | field hmapping hproperties hstray hearlier =>
          have hstrays := hk.strays hq
          have hfields := hk.fields hq hcalls hmapping hstray _ _ hproperties
          rw [hstray] at hstrays
          rw [hearlier] at hfields
          exact hk.chain (hk.forget hstrays) (hk.forget hfields)
      | rule hearly hpeers hrules hearlier =>
          have htold := hk.rules hcalls hearly hpeers _ _ hrules
          rw [hearlier] at htold
          exact hk.forget htold
      | included hitems hearlier hsplit htries =>
          have htold := hk.included hcalls hitems
          have htried := hk.attempts hcalls hitems hearlier _ _ hsplit
          rw [hearlier] at htold
          rw [htries] at htried
          exact hk.chain (hk.forget htold) htried
      | excluded hitems hearlier hsplit htries =>
          have htold := hk.excluded hcalls hitems
          have htried := hk.trials hcalls hitems hearlier _ _ hsplit
          rw [hearlier] at htold
          rw [htries] at htried
          exact hk.chain (hk.forget htold) htried
      | reference hresolve hfresh => exact hk.forget (hk.meet hq (.entered hresolve hfresh))
      | inlineType => exact hk.refl

end Whole

end Account

end ShapeCheck
