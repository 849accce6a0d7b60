import ShapeCheck.Proofs.Keeping

/-!
# Collecting keeps what its places keep

For a lawful `Keeping`, two runs of one checker from related runs end alike. The induction is along the syntax of checkers,
with one theorem for each of the functions that collect.
-/

namespace ShapeCheck

namespace Store

theorem entries?_eq_some {σ : Store} {v : Value} {es : List (Key × Value)} (h : σ.entries? v = some es) :
    ∃ a, v = .container a := by
  cases v with
  | scalar a => cases h
  | container a => exact ⟨a, rfl⟩

end Store

section Collecting

variable {k : Keeping}

namespace Keeping.Lawful

theorem finds_nil : k.Finds [] := fun _ hf => nomatch hf

theorem finds_append {xs ys : Findings} (hx : k.Finds xs) (hy : k.Finds ys) : k.Finds (xs ++ ys) := by
  intro f hf
  rcases List.mem_append.1 hf with hf | hf
  · exact hx f hf
  · exact hy f hf

theorem finds_plain (hk : k.Lawful) {found : Findings} (h : ∀ f ∈ found, f.IsPlain) : k.Finds found :=
  fun f hf => hk.plain (h f hf)

theorem finds_finding (hk : k.Lawful) {path : Path} {code : Code} {constraint message : String} {v : Value}
    (h : code ∉ [Code.unresolved, .cycle, .depth]) : k.Finds [finding path code constraint message v] := by
  intro f hf
  rw [List.mem_singleton.1 hf]
  exact hk.plain (finding_isPlain h)

/-- The items of an array, one after the other. -/
theorem eachItem_ends {f g : Path → Value → Check Findings}
    (h : ∀ {path v r s}, k.runs r s → k.met v → k.Ends k.Finds ((f path v).ending r) ((g path v).ending s))
    (path : Path) :
    ∀ (i : Nat) {vs : List Value} {r s : Run}, (∀ v ∈ vs, k.met v) → k.runs r s →
      k.Ends k.Finds ((eachItem path f i vs).ending r) ((eachItem path g i vs).ending s) := by
  intro i vs
  induction vs generalizing i with
  | nil =>
      intro r s _ hr
      exact .done finds_nil hr
  | cons v rest ih =>
      intro r s hv hr
      unfold eachItem
      refine (h hr (hv v (List.mem_cons_self ..))).bind fun found r s _ hfound hr => ?_
      refine (ih (i + 1) (fun w hw => hv w (List.mem_cons_of_mem _ hw)) hr).bind fun others r s _ hothers hr => ?_
      exact .pure (finds_append hfound hothers) hr

theorem strayFindings_isPlain {leniency : Leniency} {names : List String} {path : Path} {es : List (Key × Value)}
    {found : Findings} (h : strayFindings leniency names path es = .ok found) : ∀ f ∈ found, f.IsPlain := by
  intro f hf
  unfold strayFindings at h
  dsimp only at h
  split at h
  · cases h
    cases hf
  split at h
  · cases h
  · cases h
    obtain ⟨e, _, rfl⟩ := List.mem_map.1 hf
    exact finding_isPlain (by decide)

theorem strayFindings_error {leniency : Leniency} {names : List String} {path : Path} {es : List (Key × Value)}
    {e : Fault} (h : strayFindings leniency names path es = .error e) :
    e = .integerTooLong ∧ ∃ x ∈ es, x.1.isTooLong = true := by
  unfold strayFindings at h
  dsimp only at h
  split at h
  · cases h
  split at h
  · next hlong =>
    cases h
    obtain ⟨x, hx, hl⟩ := List.any_eq_true.1 hlong
    exact ⟨rfl, x, (List.mem_filter.1 hx).1, hl⟩
  · cases h

/-- The keys that are not declared. -/
theorem strays_ends (hk : k.Lawful) {r s : Run} {leniency : Leniency} {names : List String} {path : Path} {v : Value}
    (hl : k.lenient leniency) (hr : k.runs r s) (hv : k.opened v) :
    k.Ends k.Finds ((strays leniency names path v).ending r)
      ((strays leniency names path v).ending s) := by
  unfold strays
  refine .store (hk.store_eq hr) ?_
  dsimp only
  split
  · next a es hstrip hc =>
    have hes : (r.store.entries? (.container a)).getD [] = es := by
      unfold Store.entries?
      rw [hc]
      rfl
    rw [hes]
    exact .done finds_nil (hk.strip _ hl hstrip hr hv hc)
  · next w _ _ _ _ =>
    refine .ofExcept (fun found h => hk.finds_plain (strayFindings_isPlain h)) (fun e h => ?_) hr
    obtain ⟨rfl, x, hx, hlong⟩ := strayFindings_error h
    cases he : r.store.entries? w with
    | none =>
        rw [he] at hx
        cases hx
    | some es =>
        rw [he] at hx
        exact hk.key_fault hr hv he hx hlong

/-- Saving what a value under a key counts as, where a missing key is a known fault. -/
theorem saveConversion_ends (hk : k.Lawful) {r s : Run} {leniency : Leniency} {a : Address} {name : String} {x : Value}
    (hl : k.lenient leniency) (hr : k.runs r s) (ha : k.opened (.container a)) (hx : k.held a x)
    (hmissing : leniency.saveConversions = true → ∀ es, r.store.read? a = some (.mapping es) → Entries.get? name es = none →
      k.faults (.missingKey name) r s) :
    k.Ends (fun _ => True) ((saveConversion leniency (.container a) name x).ending r)
      ((saveConversion leniency (.container a) name x).ending s) := by
  unfold saveConversion
  split
  · next hsave =>
    rw [Bool.and_eq_true] at hsave
    refine .store (hk.store_eq hr) ?_
    cases hc : r.store.cell? (.container a) with
    | none => exact .done trivial hr
    | some c =>
        cases c with
        | mapping es =>
            dsimp only
            cases hg : Entries.get? name es with
            | none => exact .fault (hmissing hsave.1 es hc hg)
            | some current =>
                dsimp only
                split
                · exact .done trivial (hk.save hl hsave.1 hr ha hc hx)
                · exact .done trivial hr
        | list | tuple | set | readOnly | structured => exact .done trivial hr
  · exact .done trivial hr

theorem items (hk : k.Lawful) {r s : Run} {v : Value} (hr : k.runs r s) (hv : k.met v) : ∀ x ∈ (r.store.items? v).getD [], k.met x := by
  intro x hx
  cases hi : r.store.items? v with
  | none =>
      rw [hi] at hx
      cases hx
  | some xs =>
      rw [hi] at hx
      exact hk.item hr hv hi hx

/-- A limit that a number is compared with. -/
theorem ofLimit_ends (hk : k.Lawful) {r s : Run} {x : Except Fault Bool} {path : Path} {method message : String} {v : Value}
    (hr : k.runs r s) (h : ∀ e, x = .error e → k.faults e r s) :
    k.Ends k.Finds
      ((Check.ofExcept x >>= fun allowed => pure (judged allowed path method message v)).ending r)
      ((Check.ofExcept x >>= fun allowed => pure (judged allowed path method message v)).ending s) :=
  (Ends.ofExcept (fun _ _ => trivial) h hr).bind fun _ _ _ _ (_ : True) hr =>
    .pure (hk.finds_plain judged_isPlain) hr

end Keeping.Lawful

open Keeping.Lawful

theorem Rule.isReference_iff {rule : Rule} : rule.isReference = true ↔ ∃ ref, rule = .reference ref := by
  constructor
  · intro h
    cases rule with
    | reference ref => exact ⟨ref, rfl⟩
    | _ => cases h
  · rintro ⟨ref, rfl⟩
    rfl

mutual
theorem Rule.run_ends (hk : k.Lawful) : ∀ (rule : Rule) {c : PropertyChecker}, k.checker c → rule ∈ c.rules → rule.Every k.checker →
    ∀ {convert : Bool} {path : Path} {v : Value} {r s : Run}, k.runs r s → k.met v →
    (rule.isReference = true → k.followed v) →
    k.Ends k.Finds ((rule.run k.first { k.here with convert := convert } path v).ending r)
      ((rule.run k.second { k.there with convert := convert } path v).ending s)
  | .length bound unit limit, c, hc, hm, _, _, _, v, r, s, hr, _, _ => by
      rw [Rule.run, Rule.run]
      refine .store (hk.store_eq hr) ?_
      exact hk.ofLimit_ends hr fun e he => hk.length_fault hr hc hm he
  | .pattern source program, c, _, _, _, _, _, v, r, s, hr, _, _ => by
      rw [Rule.run, Rule.run]
      cases program.search (textOf v) with
      | found => exact .pure finds_nil hr
      | missing => exact .pure (hk.finds_plain judged_isPlain) hr
  | .alphanumeric spaces, c, _, _, _, _, _, v, r, s, hr, _, _ => by
      rw [Rule.run, Rule.run]
      exact .pure (hk.finds_plain judged_isPlain) hr
  | .email, c, _, _, _, _, _, v, r, s, hr, _, _ => by
      rw [Rule.run, Rule.run]
      exact .pure (hk.finds_plain judged_isPlain) hr
  | .date, c, _, _, _, _, _, v, r, s, hr, _, _ => by
      rw [Rule.run, Rule.run]
      exact .pure (hk.finds_plain judged_isPlain) hr
  | .whole, c, _, _, _, _, _, v, r, s, hr, _, _ => by
      rw [Rule.run, Rule.run]
      exact .pure (hk.finds_plain judged_isPlain) hr
  | .fraction, c, _, _, _, _, _, v, r, s, hr, _, _ => by
      rw [Rule.run, Rule.run]
      exact .pure (hk.finds_plain judged_isPlain) hr
  | .atLeast limit, c, hc, hm, _, _, _, v, r, s, hr, _, _ => by
      rw [Rule.run, Rule.run]
      exact hk.ofLimit_ends hr fun e he => hk.atLeast_fault hr hc hm he
  | .atMost limit, c, hc, hm, _, _, _, v, r, s, hr, _, _ => by
      rw [Rule.run, Rule.run]
      exact hk.ofLimit_ends hr fun e he => hk.atMost_fault hr hc hm he
  | .includes elements, c, _, _, he, _, path, v, r, s, hr, hv, _ => by
      rw [Rule.run, Rule.run]
      rw [Rule.every_includes] at he
      refine .store (hk.store_eq hr) (eachItem_ends (fun {path item r s} hr hi => ?_) path 0 (hk.items hr hv) hr)
      refine (PropertyChecker.attempts_ends hk elements he hr hi).bind fun attempts r s _ hattempts hr => ?_
      refine .pure ?_ hr
      split
      · exact finds_nil
      · intro f hf
        rcases noMatch_mem hf with hp | ⟨found, hfound, hf⟩
        · exact hk.plain hp
        · exact hattempts found hfound f hf
  | .excludes elements, c, _, _, he, _, path, v, r, s, hr, hv, _ => by
      rw [Rule.run, Rule.run]
      rw [Rule.every_excludes] at he
      refine .store (hk.store_eq hr) (eachItem_ends (fun {path item r s} hr hi => ?_) path 0 (hk.items hr hv) hr)
      refine (PropertyChecker.someAccepts_ends hk elements he hr hi).bind fun matched r s _ _ hr => ?_
      refine .pure ?_ hr
      split
      · exact hk.finds_finding (by decide)
      · exact finds_nil
  | .reference ref, c, _, _, _, _, _, v, r, s, hr, hv, hf => by
      rw [Rule.run, Rule.run]
      exact hk.follow hr hv (hf rfl)
  | .inlineType ⟨properties, leniency⟩, c, hc, hm, he, _, _, v, r, s, hr, hv, _ => by
      rw [Rule.run, Rule.run]
      rw [Rule.every_inlineType] at he
      exact TypeChecker.collect_ends hk ⟨properties, leniency⟩ he (hk.inlineType hc hm) hr (hk.opened hv)
theorem Rule.runAll_ends (hk : k.Lawful) : ∀ (rules : List Rule) {c : PropertyChecker}, k.checker c → (∀ rule ∈ rules, rule ∈ c.rules) →
    Rule.EveryOfAll k.checker rules →
    ∀ {convert : Bool} {path : Path} {v : Value} {r s : Run}, k.runs r s → k.met v →
    ((∃ rule ∈ c.rules, rule.isReference = true) → k.followed v) →
    k.Ends k.Finds ((Rule.runAll k.first { k.here with convert := convert } path rules v).ending r)
      ((Rule.runAll k.second { k.there with convert := convert } path rules v).ending s)
  | [], c, _, _, _, _, _, v, r, s, hr, _, _ => by
      rw [Rule.runAll, Rule.runAll]
      exact .pure finds_nil hr
  | rule :: rest, c, hc, hm, he, _, _, v, r, s, hr, hv, hf => by
      rw [Rule.runAll, Rule.runAll]
      rw [Rule.everyOfAll_iff, List.forall_mem_cons, ← Rule.everyOfAll_iff] at he
      have hrule := hm rule (List.mem_cons_self ..)
      refine (Rule.run_ends hk rule hc hrule he.1 hr hv fun h => hf ⟨rule, hrule, h⟩).bind fun found r s _ hfound hr => ?_
      refine (Rule.runAll_ends hk rest hc (fun x hx => hm x (List.mem_cons_of_mem _ hx)) he.2 hr hv hf).bind
        fun others r s _ hothers hr => ?_
      exact .pure (finds_append hfound hothers) hr
/-- A property keeps what its places keep, and its value counts as itself or as what it is converted to. -/
theorem PropertyChecker.collect_ends (hk : k.Lawful) : ∀ (c : PropertyChecker), c.Every k.checker →
    ∀ {convert present : Bool} {path : Path} {parent : Option Value} {v : Value} {r s : Run}, k.runs r s → k.met v →
    (∀ p ∈ parent, k.followed p) →
    k.Ends (fun x => k.Finds x.1 ∧ (x.2 = v ∨ x.2.Counted))
      ((c.collect k.first { k.here with convert := convert } path present parent v).ending r)
      ((c.collect k.second { k.there with convert := convert } path present parent v).ending s)
  | c@⟨kind, _, _, _, _, _, _, _, _, rules⟩, he, convert, present, path, parent, v, r, s, hr, hv, hp => by
      rw [PropertyChecker.every_iff, ← Rule.everyOfAll_iff] at he
      rw [PropertyChecker.collect, PropertyChecker.collect]
      refine .store (hk.store_eq hr) ?_
      refine (Ends.ofExcept (fun _ h => h) (fun e h => hk.early_fault hr he.1 hv h) hr).bind
        fun x r' s' _ hearly hr' => ?_
      cases x with
      | done found w =>
          obtain ⟨hfound, hw⟩ := PropertyChecker.early_done hearly
          exact .pure ⟨hk.finds_plain hfound, hw⟩ hr'
      | goOn w =>
          have hkind := PropertyChecker.early_goOn hearly
          have hw := Kind.convert_eq hkind
          have hmet : k.met w := by
            rcases hw with rfl | hw
            · exact hv
            · exact hk.met_counted hw
          have hfollowed : (∃ rule ∈ rules, rule.isReference = true) → k.followed w := by
            rintro ⟨rule, hrule, href⟩
            obtain ⟨ref, rfl⟩ := Rule.isReference_iff.1 href
            rcases hk.references he.1 hrule with hobject | hall
            · change kind = Kind.object at hobject
              subst hobject
              obtain ⟨rfl, hes⟩ := Kind.convert_object hkind
              exact hk.followed hr hes
            · exact hall w
          refine .store (hk.store_eq hr') ?_
          refine (Ends.ofExcept (fun found h => hk.finds_plain (peerFindings_isPlain h))
            (fun e h => hk.peer_fault hr' he.1 hp h) hr').bind fun peers r s _ hpeers hr => ?_
          refine (Rule.runAll_ends hk rules he.1 (fun _ h => h) he.2 hr hmet hfollowed).bind fun found r s _ hfound hr => ?_
          exact .pure ⟨finds_append hpeers hfound, hw⟩ hr
theorem PropertyChecker.attempts_ends (hk : k.Lawful) : ∀ (cs : List PropertyChecker), PropertyChecker.EveryOfAll k.checker cs →
    ∀ {convert : Bool} {path : Path} {v : Value} {r s : Run}, k.runs r s → k.met v →
    k.Ends (fun attempts => ∀ found ∈ attempts, k.Finds found)
      ((PropertyChecker.attempts k.first { k.here with convert := convert } path cs v).ending r)
      ((PropertyChecker.attempts k.second { k.there with convert := convert } path cs v).ending s)
  | [], _, _, _, v, r, s, hr, _ => by
      rw [PropertyChecker.attempts, PropertyChecker.attempts]
      exact .pure (fun _ h => nomatch h) hr
  | c :: rest, he, _, _, v, r, s, hr, hv => by
      rw [PropertyChecker.attempts, PropertyChecker.attempts]
      rw [PropertyChecker.everyOfAll_iff, List.forall_mem_cons, ← PropertyChecker.everyOfAll_iff] at he
      refine (PropertyChecker.collect_ends hk c he.1 hr hv fun _ h => by cases h).bind fun x r s _ hx hr => ?_
      refine (PropertyChecker.attempts_ends hk rest he.2 hr hv).bind fun others r s _ hothers hr => ?_
      refine .pure (fun found hfound => ?_) hr
      rcases List.mem_cons.1 hfound with rfl | hfound
      · exact hx.1
      · exact hothers found hfound
theorem PropertyChecker.someAccepts_ends (hk : k.Lawful) : ∀ (cs : List PropertyChecker), PropertyChecker.EveryOfAll k.checker cs →
    ∀ {convert : Bool} {path : Path} {v : Value} {r s : Run}, k.runs r s → k.met v →
    k.Ends (fun _ => True) ((PropertyChecker.someAccepts k.first { k.here with convert := convert } path cs v).ending r)
      ((PropertyChecker.someAccepts k.second { k.there with convert := convert } path cs v).ending s)
  | [], _, _, _, v, r, s, hr, _ => by
      rw [PropertyChecker.someAccepts, PropertyChecker.someAccepts]
      exact .pure trivial hr
  | c :: rest, he, _, _, v, r, s, hr, hv => by
      rw [PropertyChecker.someAccepts, PropertyChecker.someAccepts]
      rw [PropertyChecker.everyOfAll_iff, List.forall_mem_cons, ← PropertyChecker.everyOfAll_iff] at he
      refine (PropertyChecker.collect_ends hk c he.1 hr hv fun _ h => by cases h).bind fun x r s _ hx hr => ?_
      dsimp only
      split
      · exact .pure trivial hr
      · exact PropertyChecker.someAccepts_ends hk rest he.2 hr hv
/-- A type keeps what its places keep. -/
theorem TypeChecker.collect_ends (hk : k.Lawful) : ∀ (t : TypeChecker), t.Every k.checker → k.lenient t.leniency →
    ∀ {convert : Bool} {path : Path} {v : Value} {r s : Run}, k.runs r s → k.opened v →
    k.Ends k.Finds ((t.collect k.first { k.here with convert := convert } path v).ending r)
      ((t.collect k.second { k.there with convert := convert } path v).ending s)
  | ⟨properties, leniency⟩, he, hl, _, path, v, r, s, hr, hv => by
      rw [TypeChecker.collect, TypeChecker.collect]
      refine .store (hk.store_eq hr) ?_
      split
      · exact .pure (hk.finds_finding (by decide)) hr
      · next hsome =>
        have hmapping : (r.store.entries? v).isSome = true := by
          rw [Option.isSome_iff_ne_none]
          exact fun h => hsome (by rw [h]; rfl)
        obtain ⟨es, hes⟩ := Option.isSome_iff_exists.1 hmapping
        obtain ⟨a, rfl⟩ := Store.entries?_eq_some hes
        refine (hk.strays_ends hl hr hv).bind fun extra r' s' _ hextra hr' => ?_
        have hf := hk.followed hr hmapping
        refine (PropertyChecker.collectFields_ends hk properties he hl hr' hv hf).bind fun found r s _ hfound hr => ?_
        exact .pure (finds_append hextra hfound) hr
theorem PropertyChecker.collectFields_ends (hk : k.Lawful) : ∀ (ps : List (String × PropertyChecker)),
    PropertyChecker.EveryOfFields k.checker ps →
    ∀ {leniency : Leniency}, k.lenient leniency → ∀ {convert : Bool} {path : Path} {a : Address} {r s : Run},
    k.runs r s → k.opened (.container a) → k.followed (.container a) →
    k.Ends k.Finds
      ((PropertyChecker.collectFields k.first { k.here with convert := convert } path leniency (.container a) ps).ending r)
      ((PropertyChecker.collectFields k.second { k.there with convert := convert } path leniency (.container a) ps).ending s)
  | [], _, _, _, _, _, a, r, s, hr, _, _ => by
      rw [PropertyChecker.collectFields, PropertyChecker.collectFields]
      exact .pure finds_nil hr
  | (name, c) :: rest, he, leniency, hl, _, path, a, r, s, hr, ha, hf => by
      rw [PropertyChecker.collectFields, PropertyChecker.collectFields]
      rw [PropertyChecker.everyOfFields_iff, List.forall_mem_cons, ← PropertyChecker.everyOfFields_iff] at he
      refine .store (hk.store_eq hr) ?_
      dsimp only
      generalize hcurrent : (r.store.entries? (.container a)).bind (Entries.get? name) = current
      have hheld : k.held a (current.getD default) := by
        cases current with
        | none => exact hk.held_counted .null
        | some w =>
            obtain ⟨es, hes, hw⟩ := Option.bind_eq_some_iff.1 hcurrent
            exact hk.entry hr hes hw
      have hparent : ∀ p ∈ some (Value.container a), k.followed p := fun p hp => Option.mem_some.1 hp ▸ hf
      refine (PropertyChecker.collect_ends hk c he.1 hr (hk.met_held ha hheld) hparent).bind fun x r' s' hrun hx hr' => ?_
      split
      · next hsave =>
        rw [Bool.and_eq_true] at hsave
        obtain ⟨w, rfl⟩ := Option.isSome_iff_exists.1 hsave.1
        obtain ⟨es, hes, hw⟩ := Option.bind_eq_some_iff.1 hcurrent
        have hx2 : k.held a x.2 := by
          rcases hx.2 with h | h
          · rw [h]
            exact hheld
          · exact hk.held_counted h
        refine (hk.saveConversion_ends hl hr' ha hx2 fun hasks es' hes' hgone =>
          hk.missing_fault hr ha hl hasks he.1 hes hw hrun hr' hes' hgone).bind fun _ r s _ _ hr => ?_
        refine (PropertyChecker.collectFields_ends hk rest he.2 hl hr ha hf).bind fun found r s _ hfound hr => ?_
        exact .pure (finds_append hx.1 hfound) hr
      · refine (PropertyChecker.collectFields_ends hk rest he.2 hl hr' ha hf).bind fun found r s _ hfound hr => ?_
        exact .pure (finds_append hx.1 hfound) hr
end

end Collecting

end ShapeCheck
