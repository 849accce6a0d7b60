import ShapeCheck.Proofs.Probes
import ShapeCheck.Proofs.Settling

/-!
# Validating twice

A validation that passed may have stripped keys and saved conversions at every depth. Where types can be applied again
(`TypeChecker.Repeatable`), every check that passes does so again on what it left (`Point.again`): the items of an array one
after the other, a rule if what it leads to does, and a property and a type if their parts do. So the second validation of
a candidate without shared or cyclic containers passes and changes nothing (`Work.validate_again`). Other types may fail at
the second validation: `Work.passesOnce`.
-/

namespace ShapeCheck

open Relation

/-! ## Items -/

section Items

variable {resolve : Resolver} {n : Nat} {ctx : Context} {path : Path} {c : PropertyChecker} {σ τ : Store}

theorem Rule.includesItem_singleton {f : Follow} {p : Path} {item : Value} :
    Rule.includesItem f ctx [c] p item = (do return (← c.collect f ctx p true none item).1) := by
  have hone : ∀ x : Findings × Value, (if [x.1].any List.isEmpty then [] else noMatch p item [x.1]) = x.1 := by
    rintro ⟨_ | ⟨f, rest⟩, _⟩ <;> rfl
  unfold includesItem
  rw [PropertyChecker.attempts_singleton]
  simp only [bind_assoc, pure_bind, hone]

theorem Rule.includesItem_leaves {p : Path} {item : Value} :
    (Rule.includesItem (follow resolve n) ctx [c] p item).Leaves σ [] τ ↔
      ∃ x, (c.collect (follow resolve n) ctx p true none item).Leaves σ ([], x) τ := by
  rw [Rule.includesItem_singleton]
  constructor
  · intro h
    obtain ⟨⟨found, x⟩, ρ, hx, h⟩ := c.collect_ofStore.leaves_bind (fun _ => .pure _) h
    obtain ⟨hfound, rfl⟩ := Check.leaves_pure.1 h
    obtain rfl : [] = found := hfound
    exact ⟨x, hx⟩
  · rintro ⟨x, hx⟩
    exact hx.bind (Check.leaves_pure.2 ⟨rfl, rfl⟩)

theorem Rule.includesItem_ofStore {p : Path} {item : Value} : (Rule.includesItem (follow resolve n) ctx [c] p item).OfStore := by
  rw [Rule.includesItem_singleton]
  exact c.collect_ofStore.bind fun _ => .pure _

/-- After a check of one item the others are as they were, and still share no containers. -/
theorem Store.ChangedBelow.others {w : Value} {rest : List Value} {ρ : Store} (h : σ.ChangedBelow w ρ)
    (hapart : (w :: rest).Pairwise σ.Apart) :
    (∀ u ∈ rest, ∀ b, ReflTransGen σ.Contains u (.container b) → ρ.read? b = σ.read? b) ∧ rest.Pairwise ρ.Apart := by
  obtain ⟨hfirst, hapart⟩ := List.pairwise_cons.1 hapart
  have hsame : ∀ u ∈ rest, ∀ b, ReflTransGen σ.Contains u (.container b) → ρ.read? b = σ.read? b :=
    fun u hu b hb => h.outside b fun hwb => hfirst u hu b hwb hb
  refine ⟨hsame, hapart.imp_of_mem fun {u y} hu hy hapart b hb hb' => ?_⟩
  exact hapart b ((Store.reaches_congr (hsame u hu)).1 hb) ((Store.reaches_congr (hsame y hy)).1 hb')

/-- Checks of items that share no containers leave the store as it was outside of the items. -/
theorem Rule.eachItem_outside {items : List Value} (hapart : items.Pairwise σ.Apart) :
    ∀ i, (eachItem path (Rule.includesItem (follow resolve n) ctx [c]) i items).Leaves σ [] τ →
      τ.cells.size = σ.cells.size ∧
        ∀ b, (∀ w ∈ items, ¬ ReflTransGen σ.Contains w (.container b)) → τ.read? b = σ.read? b := by
  induction items generalizing σ with
  | nil =>
      intro i h
      obtain ⟨-, rfl⟩ := Check.leaves_pure.1 h
      exact ⟨rfl, fun _ _ => rfl⟩
  | cons w rest ih =>
      intro i h
      obtain ⟨ρ, hw, hrest⟩ := Rule.includesItem_ofStore.leaves_append
        (eachItem_ofStore (fun _ _ => Rule.includesItem_ofStore) rest (i + 1)) h
      obtain ⟨x, hx⟩ := Rule.includesItem_leaves.1 hw
      have hchanged := c.changedBelow hx
      obtain ⟨hsame, hapart'⟩ := hchanged.others hapart
      obtain ⟨hsize, houtside⟩ := ih hapart' (i + 1) hrest
      refine ⟨hsize.trans hchanged.size, fun b hb => ?_⟩
      rw [List.forall_mem_cons] at hb
      rw [houtside b fun u hu hub => hb.2 u hu ((Store.reaches_congr (hsame u hu)).1 hub), hchanged.outside b hb.1]

/-- Items of an array that share no containers pass again one after the other, if each one by itself does. The induction is on
the items: what the check of one leaves stays as it is until the end. -/
theorem Rule.eachItem_repeats {items : List Value} (hunshared : ∀ w ∈ items, σ.Unshared w) (hapart : items.Pairwise σ.Apart)
    (hagain : ∀ w ∈ items, ∀ {p ρ}, ρ.Unshared w → c.Again (follow resolve n) ctx p true none w ρ) :
    ∀ i, (eachItem path (Rule.includesItem (follow resolve n) ctx [c]) i items).Leaves σ [] τ →
      (eachItem path (Rule.includesItem (follow resolve n) ctx [c]) i items).Leaves τ [] τ := by
  induction items generalizing σ with
  | nil =>
      intro i h
      obtain ⟨-, rfl⟩ := Check.leaves_pure.1 h
      exact h
  | cons w rest ih =>
      intro i h
      rw [List.forall_mem_cons] at hunshared hagain
      obtain ⟨ρ, hw, hrest⟩ := Rule.includesItem_ofStore.leaves_append
        (eachItem_ofStore (fun _ _ => Rule.includesItem_ofStore) rest (i + 1)) h
      obtain ⟨x, hx⟩ := Rule.includesItem_leaves.1 hw
      have hchanged := c.changedBelow hx
      obtain ⟨hsame, hapart'⟩ := hchanged.others hapart
      have hunshared' : ∀ u ∈ rest, ρ.Unshared u := fun u hu => (hunshared.2 u hu).congr (hsame u hu)
      obtain ⟨hsize, houtside⟩ := Rule.eachItem_outside hapart' (i + 1) hrest
      have hagain' : (c.collect (follow resolve n) ctx (path.index i) true none w).Leaves τ ([], x) τ := by
        refine c.leaves_elsewhere (hagain.1 hunshared.1 _ _ hx nofun) hsize (fun b hb => houtside b fun u hu hub => ?_) nofun
        exact (List.pairwise_cons.1 hapart).1 u hu b (hchanged.closed b hb) ((Store.reaches_congr (hsame u hu)).1 hub)
      exact (Rule.includesItem_leaves.2 ⟨x, hagain'⟩).append (ih hunshared' hapart' hagain.2 (i + 1) hrest)

end Items

/-! ## References and rules -/

section Points

variable {resolve : Resolver} {σ τ : Store}

/-- A reference passes if it is followed and the type behind it passes. -/
theorem follow_leaves_iff {n : Nat} {ctx : Context} {path : Path} {ref : TypeRef} {v : Value} :
    (follow resolve n ctx path ref v).Leaves σ [] τ ↔ ∃ m t, n = m + 1 ∧ resolve ref = some t ∧ (ref, v) ∉ ctx.inFlight ∧
      (t.collect (follow resolve m) (ctx.enter ref v) path v).Leaves σ [] τ := by
  have hentered : ∀ {m t}, resolve ref = some t → (ref, v) ∉ ctx.inFlight →
      ((follow resolve (m + 1) ctx path ref v).Leaves σ [] τ ↔
        (t.collect (follow resolve m) (ctx.enter ref v) path v).Leaves σ [] τ) := by
    intro m t ht hfresh
    have hleft : ∀ found : Findings, (do Check.record (.left ref v); return found : Check Findings).OfStore :=
      fun _ => (Check.OfStore.record _).bind fun _ => .pure _
    have hfound : ∀ {ρ found}, (do Check.record (.left ref v); return found : Check Findings).Leaves ρ [] τ ↔
        [] = found ∧ τ = ρ := fun {_ found} => (Check.leaves_record (k := fun _ => pure found) (.pure found)).trans Check.leaves_pure
    rw [follow, ht]
    dsimp only
    rw [if_neg hfresh, Check.leaves_record (t.collect_ofStore.bind hleft)]
    constructor
    · intro h
      obtain ⟨found, ρ, hcollect, hrest⟩ := t.collect_ofStore.leaves_bind hleft h
      obtain ⟨rfl, rfl⟩ := hfound.1 hrest
      exact hcollect
    · exact fun h => h.bind (hfound.2 ⟨rfl, rfl⟩)
  constructor
  · intro h
    obtain ⟨s, hs, -⟩ := h { store := σ } rfl
    unfold follow at hs
    cases hres : resolve ref with
    | none =>
        rw [hres] at hs
        cases hs
    | some t =>
        rw [hres] at hs
        dsimp only at hs
        split at hs
        · cases hs
        next hfresh =>
        cases n with
        | zero => cases hs
        | succ m => exact ⟨m, t, rfl, rfl, hfresh, (hentered hres hfresh).1 h⟩
  · rintro ⟨m, t, rfl, ht, hfresh, h⟩
    exact (hentered ht hfresh).2 h

/-- A reference passes again if the type behind it does. -/
theorem follow_repeats {n : Nat} {ctx : Context} {path : Path} {ref : TypeRef} {v : Value}
    (htype : ∀ m t, n = m + 1 → resolve ref = some t → (t.collect (follow resolve m) (ctx.enter ref v) path v).Repeats σ []) :
    (follow resolve n ctx path ref v).Repeats σ [] := by
  intro τ h
  obtain ⟨m, t, hm, ht, hfresh, h⟩ := follow_leaves_iff.1 h
  exact follow_leaves_iff.2 ⟨m, t, hm, ht, hfresh, htype m t hm ht τ h⟩

/-- What a check passes it passes again, on what it left. -/
def Point.Again (resolve : Resolver) (σ : Store) : Point → Prop
  | .type n ctx path t v => (t.collect (follow resolve n) ctx path v).Repeats σ []
  | .property n ctx path present parent c v => c.Again (follow resolve n) ctx path present parent v σ
  | .rule n ctx path x v => (x.run (follow resolve n) ctx path v).Repeats σ []

/-- An array that is to include elements of one description passes again. -/
theorem Rule.includes_repeats {n : Nat} {ctx : Context} {path : Path} {c : PropertyChecker} {v : Value} (hv : σ.Unshared v)
    (hagain : ∀ {p w ρ}, ρ.Unshared w → c.Again (follow resolve n) ctx p true none w ρ) :
    ((Rule.includes [c]).run (follow resolve n) ctx path v).Repeats σ [] := by
  intro τ h
  have hwithin : τ.Within σ := Point.leaves_within (p := .rule n ctx path (.includes [c]) v) h
  rw [Rule.run_includes, Check.leaves_store] at h ⊢
  rw [hwithin.items?_eq]
  exact Rule.eachItem_repeats hv.items.1 hv.items.2 (fun w _ {_ _} hw => hagain hw) 0 h

/-- A rule passes again if what it checks does: the elements of its one description, or the type that it leads to. A rule that
tries descriptions keeps what it checks. -/
theorem Rule.run_repeats {n : Nat} {ctx : Context} {path : Path} {c : PropertyChecker} {x : Rule} {v : Value}
    (hc : c.Repeatable resolve) (hx : x ∈ c.rules) (hv : σ.Unshared v)
    (helement : ∀ d, x = .includes [d] → ∀ {p w ρ}, ρ.Unshared w → d.Again (follow resolve n) ctx p true none w ρ)
    (hreferent : ∀ ref m t, x = .reference ref → n = m + 1 → resolve ref = some t →
      (Point.type m (ctx.enter ref v) path t v).Again resolve σ)
    (hinPlace : ∀ t, x = .inlineType t → (Point.type n ctx path t v).Again resolve σ) :
    (Point.rule n ctx path x v).Again resolve σ := by
  by_cases hkeeps : x.Keeps resolve
  · intro τ h
    obtain rfl := hkeeps.leaves h
    exact h
  have htries : x.tries = false := by
    by_contra htries
    exact hkeeps (hc.tried x hx (by simpa using htries))
  cases x with
  | includes elements =>
      obtain ⟨d, rfl⟩ := List.length_eq_one_iff.1 (show elements.length = 1 by simpa [Rule.tries] using htries)
      exact Rule.includes_repeats hv (helement d rfl)
  | excludes elements => cases htries
  | reference ref =>
      change (Rule.run (follow resolve n) ctx path (.reference ref) v).Repeats σ []
      rw [Rule.run]
      exact follow_repeats fun m t hm ht => hreferent ref m t rfl hm ht
  | inlineType t =>
      change (Rule.run (follow resolve n) ctx path (.inlineType t) v).Repeats σ []
      rw [Rule.run]
      exact hinPlace t rfl
  | _ => exact absurd (Rule.keeps_of_shallow rfl) hkeeps

/-- **Checks pass again**, of types that declare no key twice and that can be applied again. The induction goes down in budget
and in size. -/
theorem Point.again {k : Territory} (hk : k.Closed resolve) (hnames : ∀ u, k.types u → (u.properties.map Prod.fst).Nodup)
    (hsteady : ∀ u, k.types u → u.leniency.saves = true → ∀ p ∈ u.properties, p.2.Steady)
    (hrepeat : ∀ c, k.checkers c → c.Repeatable resolve) :
    ∀ (p : Point), p.Inside k → ∀ {σ : Store}, σ.Unshared p.value → p.Again resolve σ
  | .type n ctx path t v, hp, _, hv => by
      refine TypeChecker.collect_repeats (hnames t hp) (hsteady t hp) (fun p hmem {q present parent w ρ} hw => ?_) hv
      exact Point.again hk hnames hsteady hrepeat (.property n (ctx.inside t) q present parent p.2 w) (.field hk hp hmem) hw
  | .property n ctx path present parent c v, hp, σ, hv => by
      refine PropertyChecker.collect_repeats (hrepeat c (PropertyChecker.every_iff.1 hp.1).1) hv.acyclic fun y hy => ?_
      exact Point.again hk hnames hsteady hrepeat (.rule n ctx path y v) (hp.rule hy) hv
  | .rule n ctx path x v, hp, σ, hv => by
      obtain ⟨c, hc, hx⟩ := hp.2.1
      refine Rule.run_repeats (hrepeat c hc) hx hv (fun d hd {p w ρ} hw => ?_) (fun ref m t href hm ht => ?_) fun t ht => ?_
      · have hinside : (Point.rule n ctx path (.includes [d]) v).Inside k := hd ▸ hp
        exact Point.again hk hnames hsteady hrepeat (.property n ctx p true none d w) (hinside.included (List.mem_singleton_self d)) hw
      · have hinside : (Point.rule n ctx path (.reference ref) v).Inside k := href ▸ hp
        exact Point.again hk hnames hsteady hrepeat (.type m (ctx.enter ref v) path t v) (hinside.referent hk ht) hv
      · have hinside : (Point.rule n ctx path (.inlineType t) v).Inside k := ht ▸ hp
        exact Point.again hk hnames hsteady hrepeat (.type n ctx path t v) (hinside.inPlace hk) hv
termination_by p => (p.budget, p.size)
decreasing_by
  · exact Prod.lex_def.2 (.inr ⟨rfl, TypeChecker.sizeOf_property hmem⟩)
  · exact Prod.lex_def.2 (.inr ⟨rfl, PropertyChecker.sizeOf_rule hy⟩)
  · refine Prod.lex_def.2 (.inr ⟨rfl, ?_⟩)
    simp only [Point.size, hd, Rule.includes.sizeOf_spec, List.cons.sizeOf_spec]
    omega
  · exact Prod.lex_def.2 (.inl (show m < n by omega))
  · refine Prod.lex_def.2 (.inr ⟨rfl, ?_⟩)
    simp only [Point.size, ht, Rule.inlineType.sizeOf_spec]
    omega

end Points

/-! ## Whole validations -/

/-- All that a type leads to, where no key is declared twice and types can be applied again. -/
def Territory.repeating (resolve : Resolver) (t : TypeChecker) : Territory where
  types u := t.Reaches resolve u ∧ u.Named
  checkers c := c.Repeatable resolve ∧ c.NamesInside ∧ ∀ u, .inlineType u ∈ c.rules → t.Reaches resolve u
  references := t.ReachesRef resolve

theorem Territory.repeating_closed {resolve : Resolver} {t : TypeChecker} (hnamed : ∀ ref u, resolve ref = some u → u.Named)
    (hrepeat : ∀ u, t.Reaches resolve u → u.Repeatable resolve) : (Territory.repeating resolve t).Closed resolve where
  every hu c hc := ⟨(hrepeat _ hu.1).every c hc, hu.2.inside c hc, fun _ hw => hu.1.inside hc hw⟩
  names hu _ href := ⟨_, hu.1, href⟩
  inside hc hu hevery := ⟨hc.2.2 _ hu, hc.2.1 _ hu, hevery.mono fun _ h => h.2.1⟩
  behind href hu := by
    obtain ⟨w, hw, href⟩ := href
    exact ⟨hw.named href hu, hnamed _ _ hu⟩

/-- A run of a type that passes, by what it leaves. -/
theorem TypeChecker.validate_leaves_iff {resolve : Resolver} {t : TypeChecker} {maxDepth : Int} {v : Value} {σ τ : Store} :
    ((Point.whole t maxDepth v).check resolve).Leaves σ [] τ ↔
      (t.validate resolve maxDepth v σ).result = .ok [] ∧ (t.validate resolve maxDepth v σ).run.store = τ := by
  rw [TypeChecker.validate_eq]
  constructor
  · intro h
    obtain ⟨s, hs, hstore⟩ := h { store := σ } rfl
    rw [hs]
    exact ⟨rfl, hstore⟩
  · rintro ⟨hresult, rfl⟩
    exact t.collect_ofStore.leaves (Prod.ext hresult rfl)

/-- A run of a type that passes does so again, on what it left. -/
theorem TypeChecker.validate_repeats {resolve : Resolver} {t : TypeChecker} (ht : t.Named)
    (hnamed : ∀ ref u, resolve ref = some u → u.Named) (hrepeat : ∀ u, t.Reaches resolve u → u.Repeatable resolve)
    {maxDepth : Int} {v : Value} {σ : Store} (hv : σ.Unshared v) (h : (t.validate resolve maxDepth v σ).result = .ok []) :
    let left := (t.validate resolve maxDepth v σ).run.store
    (t.validate resolve maxDepth v left).result = .ok [] ∧ (t.validate resolve maxDepth v left).run.store = left := by
  intro left
  have hagain : (Point.whole t maxDepth v).Again resolve σ := by
    refine Point.again (Territory.repeating_closed hnamed hrepeat) (fun u hu => hu.2.own) (fun u hu => (hrepeat u hu.1).saved)
      (fun c hc => hc.1) _ ?_ hv
    exact ⟨.refl, ht⟩
  exact TypeChecker.validate_leaves_iff.1 (hagain left (TypeChecker.validate_leaves_iff.2 ⟨h, rfl⟩))

/-- **A validation that passes, passes again.** Let a candidate hold no container twice and no container inside of itself, and
let all types that a type leads to, in place or behind references, be ones that can be applied again: what descriptions that
are tried lead to keeps items as they are, a property changes nothing inside of a value that one of its rules has looked at
before, it denies only scalars if it changes something, and where conversions are saved, what an allowed text counts as
passes as well. If a validation passes, then the next one of what it left, with the same resolver and bound, passes too, and
it leaves the store as it is. -/
theorem Work.validate_again {legal : Capabilities → Prop} {t : ObjectType} (ht : t.Built legal)
    {registry : TypeRef → Option ObjectType} (hregistry : ∀ ref u, registry ref = some u → u.Built legal)
    {maxDepth : Option Int} {v : Value} {w : Workspace} {n : Int} (hn : Work.bound? maxDepth w = some n) (hv : w.store.Unshared v) :
    let resolve : Resolver := fun ref => (registry ref).map ObjectType.checker
    let first := (Work.validate t resolve maxDepth v).ending w
    let second := (Work.validate t resolve maxDepth v).ending first.2
    (∀ u, t.checker.Reaches resolve u → u.Repeatable resolve) → first.1 = .ok () →
      second.1 = .ok () ∧ second.2.store = first.2.store := by
  intro resolve first second hrepeat hfirst
  have hnamed : ∀ ref u, resolve ref = some u → u.Named := by
    intro ref u hu
    obtain ⟨t', ht', rfl⟩ := Option.map_eq_some_iff.1 hu
    exact (hregistry ref t' ht').named
  have hn' : Work.bound? maxDepth first.2 = some n := Work.validate_bound hn
  have hstore : first.2.store = (t.checker.validate resolve n v w.store).run.store := Work.validate_store hn
  have hagain := TypeChecker.validate_repeats ht.named hnamed hrepeat hv ((Work.validate_ok_iff hn).1 hfirst)
  rw [← hstore] at hagain
  exact ⟨(Work.validate_ok_iff hn').2 hagain.1, (Work.validate_store hn').trans hagain.2⟩

/-! A type that strips keys in one property and saves what another one counts as. -/

/-- A property without lists of values and with one rule at most, which tries no descriptions. -/
def PropertyChecker.isSingle (c : PropertyChecker) : Bool :=
  c.allowed.isEmpty && c.denied.isEmpty && decide (c.rules.length ≤ 1) && c.rules.all (!·.tries)

theorem PropertyChecker.repeatable_of_single {c : PropertyChecker} (h : c.isSingle = true) :
    c.allowed = [] ∧ ∀ resolve, c.Repeatable resolve := by
  unfold isSingle at h
  simp only [Bool.and_eq_true, List.isEmpty_iff, decide_eq_true_eq, List.all_eq_true, Bool.not_eq_true'] at h
  obtain ⟨⟨⟨hallowed, hdenied⟩, hrules⟩, htries⟩ := h
  refine ⟨hallowed, fun resolve => ⟨fun x hx htrue => ?_, ?_, fun _ d hd => ?_⟩⟩
  · rw [htries x hx] at htrue
    cases htrue
  · cases hsplit : c.rules with
    | nil => exact .nil
    | cons x rest =>
        obtain rfl : rest = [] := by simpa [hsplit] using hrules
        exact List.pairwise_singleton ..
  · rw [hdenied] at hd
    cases hd

/-- Types of such properties lead to types that can be applied again. -/
theorem TypeChecker.repeatable_of_single {t u : TypeChecker} (ht : t.Every (·.isSingle = true))
    (h : t.Reaches (fun _ => none) u) : u.Repeatable (fun _ => none) := by
  have hsingle : u.Every (·.isSingle = true) := by
    refine ht.reached (fun _ _ found => ?_) h
    cases found
  refine ⟨hsingle.mono fun _ hc => (PropertyChecker.repeatable_of_single hc).2 _, fun _ p hp text x σ hallowed => ?_⟩
  have hown := (PropertyChecker.every_iff.1 (PropertyChecker.everyOfFields_iff.1 hsingle p hp)).1
  rw [(PropertyChecker.repeatable_of_single hown).1] at hallowed
  cases hallowed

/-- A mapping with a numeral for the size, and a part with a key to strip. -/
def sizedWork : Workspace where
  clock := ⟨default, ""⟩
  files := ⟨"/", []⟩
  store := ⟨#[.mapping [(.text "size", .scalar (.text "5")), (.text "part", .container 1)],
    .mapping [(.text "x", .scalar (.int 1))]]⟩

/-- The first validation strips a key and saves a number, and the second one finds nothing left to do. -/
theorem partsType_again :
    let first := (Work.validate partsType (fun _ => none) (some 4) (.container 0)).ending sizedWork
    let second := (Work.validate partsType (fun _ => none) (some 4) (.container 0)).ending first.2
    first.1 = .ok () ∧ first.2.store.under? (.container 0) "size" = some (.scalar (.int 5)) ∧
      first.2.store.under? (.container 1) "x" = none ∧ second.1 = .ok () ∧ second.2.store = first.2.store := by
  intro first second
  have hfirst : first.1 = .ok () := Except.isOk_iff.1 (by decide +kernel)
  refine ⟨hfirst, by decide +kernel, by decide +kernel, ?_⟩
  have ht : partsType.Built (· = .standard) := ObjectType.ofDatum?_built (Option.some_get _).symm
  have hregistry : ∀ ref u, (fun _ : TypeRef => (none : Option ObjectType)) ref = some u → u.Built (· = .standard) := nofun
  have hbound : Work.bound? (some 4) sizedWork = some 4 := rfl
  have hv : sizedWork.store.Unshared (.container 0) := Store.IsChain.unshared (by decide +kernel) _
  have hsingle : (PropertyChecker.checkersOfFields partsType.checker.properties).all (·.isSingle) = true := by decide +kernel
  refine Work.validate_again ht hregistry hbound hv (fun u hu => ?_) hfirst
  exact TypeChecker.repeatable_of_single (List.all_eq_true.1 hsingle) hu

/-! Types that pass a mapping, and then do not pass what they left of it. -/

/-- Whether a validation of a mapping without shared or cyclic containers passes, and the next one of what it left does not. -/
def Work.PassesOnce (t : ObjectType) (resolve : Resolver) (w : Workspace) : Prop :=
  let first := (Work.validate t resolve (some 64) (.container 0)).ending w
  w.store.Unshared (.container 0) ∧ first.1 = .ok () ∧
    ((Work.validate t resolve (some 64) (.container 0)).ending first.2).1 ≠ .ok ()

theorem Work.passesOnce_of_isOk {t : ObjectType} {resolve : Resolver} {w : Workspace} (hw : w.store.IsChain)
    (hfirst : ((Work.validate t resolve (some 64) (.container 0)).ending w).1.isOk = true)
    (hsecond : ((Work.validate t resolve (some 64) (.container 0)).ending
      ((Work.validate t resolve (some 64) (.container 0)).ending w).2).1.isOk = false) : Work.PassesOnce t resolve w := by
  refine ⟨hw.unshared _, Except.isOk_iff.1 hfirst, fun hok => ?_⟩
  rw [Except.isOk_iff.2 hok] at hsecond
  cases hsecond

/-- A type of mappings with one property, that saves conversions. -/
def savingType (d : Datum)
    (h : (ObjectType.ofDatum? (.record [("saveConversions", .bool true), ("properties", .record [("a", d)])])).isSome = true) :
    ObjectType :=
  (ObjectType.ofDatum? (.record [("saveConversions", .bool true), ("properties", .record [("a", d)])])).get h

/-- A constraint that leads to a named type. -/
def namedRule (name : String) : String × List Datum :=
  ("objectSchemaType", [.record [("namespace", .text "ns://parts"), ("version", .text "1.0.0"), ("type", .text name)]])

/-- A type that strips all keys. -/
def sweepingType : ObjectType :=
  (ObjectType.ofDatum? (.record [("stripExtraKeys", .bool true), ("properties", .record [])])).get (by decide +kernel)

def sweepingTypes : Resolver := fun ref => if ref.name = "Sweeping" then some sweepingType.checker else keyedTypes ref

def numeral : Workspace where
  clock := ⟨default, ""⟩
  files := ⟨"/", []⟩
  store := ⟨#[.mapping [(.text "a", .scalar (.text "5"))]]⟩

def keyedPart : Workspace where
  clock := ⟨default, ""⟩
  files := ⟨"/", []⟩
  store := ⟨#[.mapping [(.text "a", .container 1)], .mapping [(.text "x", .scalar (.int 1))]]⟩

theorem eitherData_isSome : (ObjectType.ofDatum? (eitherData ["Staying", "Stripping"])).isSome = true := by decide +kernel

/-- What a type leaves need not pass: where only the text is allowed that is saved as a number, where a description that is
tried strips what the next one looks at, or what it has to be met by, where a rule strips what the one before it asks for, and
where a property denies what a rule leaves. -/
theorem Work.passesOnce :
    Work.PassesOnce (savingType (Probe.part "Number" [("valid", [.text "5"])]) (by decide +kernel)) (fun _ => none) numeral ∧
    Work.PassesOnce (eitherType ["Staying", "Stripping"] eitherData_isSome) keyedTypes keyedWork ∧
    Work.PassesOnce (savingType (Probe.part "Array" [("excludes", [Probe.part "Object" [("valid", [.record []])],
      Probe.part "Object" [namedRule "Stripping"]])]) (by decide +kernel)) keyedTypes keyedWork ∧
    Work.PassesOnce (savingType (Probe.part "Object" [namedRule "Staying", namedRule "Sweeping"]) (by decide +kernel))
      sweepingTypes keyedPart ∧
    Work.PassesOnce (savingType (Probe.part "Object" [("deny", [.record []]), namedRule "Sweeping"]) (by decide +kernel))
      sweepingTypes keyedPart := by
  refine ⟨?_, ?_, ?_, ?_, ?_⟩ <;>
    exact Work.passesOnce_of_isOk (by decide +kernel) (by decide +kernel) (by decide +kernel)

end ShapeCheck
