import ShapeCheck.Proofs.Changes
import ShapeCheck.Proofs.Independence
import ShapeCheck.Proofs.Leaving
import ShapeCheck.Proofs.Unresolved

/-!
# Validating again

A validation that passes may have stripped keys and saved conversions, so that a second one meets other values than the
first one did. `TypeChecker.Repeatable` says of which types it cannot come to another result: their properties change nothing
that they tried or looked at before (`PropertyChecker.Repeatable`), and accept what they save of the texts they accept
(`PropertyChecker.Steady`). Rules then pass again in their order (`Rule.runAll_repeats`), a property passes again on what
its rules left (`PropertyChecker.collect_repeats`), and what a text counts as passes by itself
(`PropertyChecker.collect_read`).
-/

namespace ShapeCheck

open Relation

/-! ## Types that can be applied again -/

/-- Whether a rule checks what is inside of a container. -/
def Rule.looksInside : Rule → Bool
  | .includes _ | .excludes _ | .reference _ | .inlineType _ => true
  | _ => false

section Repeatable

variable (resolve : Resolver)

/-- The types that a rule leads to: in place, in place inside of it, or behind its references. -/
inductive Rule.LeadsTo (x : Rule) : TypeChecker → Prop
  | here {w u : TypeChecker} (rule : x = .inlineType w) (reached : w.Reaches resolve u) : LeadsTo x u
  | inside {d : PropertyChecker} {w u : TypeChecker} (checker : d ∈ x.checkers) (rule : .inlineType w ∈ d.rules)
      (reached : w.Reaches resolve u) : LeadsTo x u
  | named {ref : TypeRef} {w u : TypeChecker} (named : ref ∈ x.references) (found : resolve ref = some w)
      (reached : w.Reaches resolve u) : LeadsTo x u

/-- A rule leads to types that keep candidates as they are. -/
def Rule.Keeps (x : Rule) : Prop := ∀ u, x.LeadsTo resolve u → u.Keeps

/-- What a property changes, none of its rules has looked at before, and no rule tries it. -/
structure PropertyChecker.Repeatable (c : PropertyChecker) : Prop where
  /-- Descriptions that are tried leave items as they are. -/
  tried : ∀ x ∈ c.rules, x.tries = true → x.Keeps resolve
  /-- After a rule that looks inside of a value, no rule changes what is there. -/
  order : c.rules.Pairwise fun x y => x.looksInside = true → y.Keeps resolve
  /-- Only scalars are denied where a rule changes what is inside of a value. -/
  denied : (∃ x ∈ c.rules, ¬ x.Keeps resolve) → ∀ d ∈ c.denied, d.isScalar = true

/-- What an allowed text counts as passes as well, whatever stands beside it. -/
def PropertyChecker.Steady (c : PropertyChecker) : Prop :=
  ∀ (text : String) (x : Value) (σ : Store), holds c.allowed (.scalar (.text text)) = true →
    c.kind.convert true σ (.scalar (.text text)) = .ok (some x) → x ≠ .scalar (.text text) →
      ∀ f ctx path parent, (c.collect f ctx path true parent x).Leaves σ ([], x) σ

/-- A type whose properties can be checked again after they passed, on what they left and on what was saved. -/
structure TypeChecker.Repeatable (t : TypeChecker) : Prop where
  every : t.Every (PropertyChecker.Repeatable resolve)
  saved : t.leniency.saves = true → ∀ p ∈ t.properties, p.2.Steady

end Repeatable

/-! ## Rules -/

/-- If a check comes to a result, then it comes to the same one on what it leaves, and leaves that as it is. -/
def Check.Repeats {α : Type} (c : Check α) (σ : Store) (x : α) : Prop := ∀ τ, c.Leaves σ x τ → c.Leaves τ x τ

section Rules

variable {resolve : Resolver} {n : Nat} {ctx : Context} {path : Path} {v : Value} {σ τ : Store} {x : Rule} {found : Findings}

theorem Rule.Keeps.leaves (h : x.Keeps resolve) (hleaves : (x.run (follow resolve n) ctx path v).Leaves σ found τ) : τ = σ := by
  obtain ⟨s, hs, rfl⟩ := hleaves { store := σ } rfl
  have hinside : (Point.rule n ctx path x v).Inside (Territory.keeping resolve) := by
    refine ⟨fun d hd u hu w hw => h w (.inside hd hu hw), ?_, fun ref href u hu w hw => h w (.named href hu hw)⟩
    refine ⟨{ PropertyChecker.ofKind .any with rules := [x] }, fun u hu w hw => ?_, List.mem_singleton_self x⟩
    exact h w (.here (List.mem_singleton.1 hu).symm hw)
  have hstore : ((x.run (follow resolve n) ctx path v).ending { store := σ }).2.store = σ := Point.check_store hinside
  rw [hs] at hstore
  exact hstore

theorem Rule.keeps_of_shallow (h : x.looksInside = false) : x.Keeps resolve := by
  have hcheckers : x.checkers = [] := by
    cases x with
    | includes | excludes | reference | inlineType => cases h
    | _ => simp [Rule.checkers]
  have hreferences : x.references = [] := by
    cases x with
    | includes | excludes | reference | inlineType => cases h
    | _ => simp [Rule.references]
  intro u hu
  cases hu with
  | here hx =>
      subst hx
      cases h
  | inside hd => exact nomatch hcheckers ▸ hd
  | named href => exact nomatch hreferences ▸ href

/-- A rule that does not look inside of its value looks at the length of it at most. -/
theorem Rule.run_shallow {f : Follow} (hx : x.looksInside = false) {r s : Run} (h : lengthOf s.store v = lengthOf r.store v) :
    ∃ e, (x.run f ctx path v).ending r = (e, r) ∧ (x.run f ctx path v).ending s = (e, s) := by
  cases x with
  | length bound unit limit =>
      rw [Rule.run, Check.ending_bind_ok (Check.ending_store r), Check.ending_bind_ok (Check.ending_store s), h]
      dsimp only
      cases bound.allows limit (lengthOf r.store v) <;> exact ⟨_, rfl, rfl⟩
  | pattern source program =>
      rw [Rule.run]
      cases program.search (textOf v) <;> exact ⟨_, rfl, rfl⟩
  | atLeast limit =>
      rw [Rule.run]
      cases limitAtMost limit (numberOf v) <;> exact ⟨_, rfl, rfl⟩
  | atMost limit =>
      rw [Rule.run]
      cases atMostLimit (numberOf v) limit <;> exact ⟨_, rfl, rfl⟩
  | alphanumeric | email | date | whole | fraction =>
      rw [Rule.run]
      exact ⟨_, rfl, rfl⟩
  | includes | excludes | reference | inlineType => cases hx

/-- A rule that does not look inside of its value says the same of it if it is as long. -/
theorem Rule.leaves_shallow (hx : x.looksInside = false) (hlength : lengthOf τ v = lengthOf σ v) {ρ : Store}
    (h : (x.run (follow resolve n) ctx path v).Leaves σ found ρ) : (x.run (follow resolve n) ctx path v).Leaves τ found τ := by
  intro r hr
  have hruns : ∃ e, (x.run (follow resolve n) ctx path v).ending { store := σ } = (e, { store := σ }) ∧
      (x.run (follow resolve n) ctx path v).ending r = (e, r) := Rule.run_shallow hx (hr ▸ hlength)
  obtain ⟨e, hfirst, hsecond⟩ := hruns
  obtain ⟨s, hs, _⟩ := h { store := σ } rfl
  cases hfirst.symm.trans hs
  exact ⟨r, hsecond, hr⟩

variable {rules : List Rule}

theorem Rule.runAll_keeps (hkeep : ∀ x ∈ rules, x.Keeps resolve)
    (h : (Rule.runAll (follow resolve n) ctx path rules v).Leaves σ [] τ) : τ = σ := by
  induction rules generalizing σ with
  | nil =>
      rw [Rule.runAll] at h
      exact (Check.leaves_pure.1 h).2
  | cons x rest ih =>
      rw [Rule.runAll] at h
      rw [List.forall_mem_cons] at hkeep
      obtain ⟨ρ, hx, hrest⟩ := x.run_ofStore.leaves_append (Rule.runAll_ofStore rest) h
      rw [ih hkeep.2 hrest, hkeep.1.leaves hx]

/-- Rules in order pass again, where those that look inside of the value come after those that change what is there. The
induction is on the rules: the first one that looks inside is the last one that changes something. -/
theorem Rule.runAll_repeats (horder : rules.Pairwise fun x y => x.looksInside = true → y.Keeps resolve)
    (hrules : ∀ x ∈ rules, (x.run (follow resolve n) ctx path v).Repeats σ []) (hlength : lengthOf τ v = lengthOf σ v)
    (h : (Rule.runAll (follow resolve n) ctx path rules v).Leaves σ [] τ) :
    (Rule.runAll (follow resolve n) ctx path rules v).Leaves τ [] τ := by
  induction rules with
  | nil =>
      rw [Rule.runAll]
      exact Check.leaves_pure.2 ⟨rfl, rfl⟩
  | cons x rest ih =>
      rw [Rule.runAll] at h ⊢
      rw [List.forall_mem_cons] at hrules
      obtain ⟨hfirst, horder⟩ := List.pairwise_cons.1 horder
      obtain ⟨ρ, hx, hrest⟩ := x.run_ofStore.leaves_append (Rule.runAll_ofStore rest) h
      cases hinside : x.looksInside with
      | true =>
          obtain rfl : τ = ρ := Rule.runAll_keeps (fun y hy => hfirst y hy hinside) hrest
          exact (hrules.1 τ hx).append hrest
      | false =>
          obtain rfl : ρ = σ := (Rule.keeps_of_shallow hinside).leaves hx
          exact (Rule.leaves_shallow hinside hlength hx).append (ih horder hrules.2 hrest)

end Rules

/-! ## Properties -/

section Properties

variable {c : PropertyChecker} {σ τ : Store} {v w : Value} {convert present : Bool} {path : Path}

theorem Store.Within.items?_eq (h : τ.Within σ) (v : Value) : τ.items? v = σ.items? v := by
  cases v with
  | scalar a => rfl
  | container a =>
      have ha := h a
      unfold Store.items? Store.cell?
      dsimp only
      generalize τ.read? a = c at ha ⊢
      generalize σ.read? a = d at ha ⊢
      cases ha with
      | none => rfl
      | some hcd =>
          cases hcd with
          | same => rfl
          | mapping => rfl

theorem Store.Within.lengthOf_eq (h : τ.Within σ) (v : Value) : lengthOf τ v = lengthOf σ v := by
  unfold lengthOf
  simp only [h.items?_eq]

/-- A container is of the same kinds after it has shrunk. -/
theorem Kind.convert_within (h : τ.Within σ) (k : Kind) : k.convert convert τ v = k.convert convert σ v := by
  have hmapping : (τ.entries? v).map (fun _ => v) = (σ.entries? v).map fun _ => v := by
    have hsome : (τ.entries? v).isSome = (σ.entries? v).isSome := h.isMapping_eq v
    cases ht : τ.entries? v <;> cases hs : σ.entries? v <;> simp_all
  unfold Kind.convert
  rw [h.items?_eq, hmapping]

theorem Kind.counts_container {a : Address} {k : Kind} (h : k.convert convert σ (.container a) = .ok (some w)) :
    w = .container a := by
  by_contra hne
  obtain ⟨text, htext, _⟩ := Kind.convert_reads h hne
  cases htext

/-- Scalars are no containers. -/
theorem Store.not_isAmong_container {data : List Datum} {a : Address} (h : ∀ d ∈ data, d.isScalar = true) :
    σ.isAmong data (.container a) = false := by
  rw [Store.isAmong, List.any_eq_false]
  intro d hd
  rw [h d hd]
  exact Bool.false_ne_true

/-- What lets a value that is there go on to the rules, as another one or as itself. -/
structure PropertyChecker.Admits (c : PropertyChecker) (convert : Bool) (σ : Store) (v w : Value) : Prop where
  notNull : v ≠ .scalar .null
  kind : c.kind.convert convert σ v = .ok (some w)
  ends : c.comparesOn σ v = false
  notAllowed : ¬ (readings v w).any (σ.isAmong c.allowed) = true
  notDenied : ¬ (readings v w).any (σ.isAmong c.denied) = true
  anyValue : ¬ c.onlyValid = true
  notEmpty : ¬ (c.kind = .string && w = .scalar (.text "") && !c.emptyOk) = true

theorem PropertyChecker.early_goOn_iff :
    c.early convert path present σ v = .ok (.goOn w) ↔ present = true ∧ c.Admits convert σ v w := by
  constructor
  · intro h
    have hkind := early_goOn h
    unfold early at h
    rw [hkind] at h
    split at h
    · cases h
    next hpresent =>
    split at h
    · cases h
    next hnull =>
    simp only [bind, Except.bind, Option.getD_some] at h
    split at h
    · cases h
    next hends =>
    split at h
    · cases h
    next hallowed =>
    split at h
    · split at h <;> cases h
    next hdenied =>
    split at h
    · split at h <;> cases h
    next hvalid =>
    split at h
    · cases h
    next hempty => exact ⟨by simpa using hpresent, hnull, hkind, Bool.eq_false_iff.2 hends, hallowed, hdenied, hvalid, hempty⟩
  · rintro ⟨rfl, h⟩
    unfold early
    rw [if_neg nofun, if_neg h.notNull, h.kind]
    simp only [bind, Except.bind, Option.getD_some]
    rw [h.ends, if_neg Bool.false_ne_true, if_neg h.notAllowed, if_neg h.notDenied, if_neg h.anyValue, if_neg h.notEmpty]
    rfl

/-- An allowed value passes at once. -/
theorem PropertyChecker.early_allowed {counted : Option Value} (hnull : v ≠ .scalar .null)
    (hkind : c.kind.convert convert σ v = .ok counted) (hends : c.comparesOn σ v = false)
    (hallowed : (readings v (counted.getD v)).any (σ.isAmong c.allowed) = true) :
    c.early convert path true σ v = .ok (.done [] (counted.getD v)) := by
  unfold early
  rw [if_neg nofun, if_neg hnull, hkind]
  simp only [bind, Except.bind]
  rw [hends, if_neg Bool.false_ne_true, if_pos hallowed]
  rfl

/-- What passes at once as another value is allowed. -/
theorem PropertyChecker.early_done_other (h : c.early convert path present σ v = .ok (.done [] w)) (hne : w ≠ v) :
    present = true ∧ v ≠ .scalar .null ∧ c.kind.convert convert σ v = .ok (some w) ∧
      (readings v w).any (σ.isAmong c.allowed) = true := by
  have hkind := (early_converted h).resolve_left hne
  unfold early at h
  rw [hkind] at h
  split at h
  · injection Except.ok.inj h with _ hw
    exact absurd hw.symm hne
  next hpresent =>
  split at h
  · injection Except.ok.inj h with _ hw
    exact absurd hw.symm hne
  next hnull =>
  simp only [bind, Except.bind, Option.getD_some] at h
  split at h
  · cases h
  split at h
  · next hallowed => exact ⟨by simpa using hpresent, hnull, hkind, hallowed⟩
  split at h
  · split at h <;> cases h
  split at h
  · split at h <;> cases h
  split at h <;> cases h

/-- A container that goes on to the rules does so again after it has shrunk, or it is now among the allowed values. -/
theorem PropertyChecker.early_within {a : Address} (hwithin : τ.Within σ) (ha : σ.Acyclic (.container a))
    (hdenied : ∀ d ∈ c.denied, d.isScalar = true) (h : c.early convert path present σ (.container a) = .ok (.goOn w)) :
    w = .container a ∧ (c.early convert path present τ (.container a) = .ok (.done [] (.container a)) ∨
      c.early convert path present τ (.container a) = .ok (.goOn (.container a))) := by
  obtain ⟨rfl, hadmits⟩ := early_goOn_iff.1 h
  obtain rfl := Kind.counts_container hadmits.kind
  refine ⟨rfl, ?_⟩
  have hkind : c.kind.convert convert τ (.container a) = .ok (some (.container a)) := by
    rw [Kind.convert_within hwithin, hadmits.kind]
  have hends : c.comparesOn τ (.container a) = false := (hwithin.acyclic ha).comparesOn c
  by_cases hallowed : (readings (.container a) (.container a)).any (τ.isAmong c.allowed) = true
  · exact .inl (early_allowed hadmits.notNull hkind hends hallowed)
  · refine .inr (early_goOn_iff.2 ⟨rfl, { hadmits with kind := hkind, ends := hends, notAllowed := hallowed, notDenied := ?_ }⟩)
    simp [readings, Store.not_isAmong_container hdenied]

variable {resolve : Resolver} {n : Nat} {ctx : Context} {parent : Option Value}

/-- A check of a scalar leaves the store as it is. -/
theorem PropertyChecker.leaves_scalar {y : Scalar} {x : Findings × Value}
    (h : (c.collect (follow resolve n) ctx path present parent (.scalar y)).Leaves σ x τ) : τ = σ := by
  obtain ⟨s, hs, rfl⟩ := h { store := σ } rfl
  have hstore : ((Point.check resolve (.property n ctx path present parent c (.scalar y))).ending { store := σ }).2.store = σ :=
    Point.check_scalar rfl
  rw [Point.check_property_run, hs] at hstore
  exact hstore

theorem Point.leaves_within {p : Point} {found : Findings} (h : (p.check resolve).Leaves σ found τ) : τ.Within σ := by
  obtain ⟨s, hs, rfl⟩ := h { store := σ } rfl
  have htold := (Account.within_lawful σ : Account.Lawful _ resolve p { store := σ }).sound .start
  rw [hs] at htold
  exact htold (.refl σ)

theorem PropertyChecker.leaves_within {x : Findings × Value}
    (h : (c.collect (follow resolve n) ctx path present parent v).Leaves σ x τ) : τ.Within σ :=
  Point.leaves_within (p := .property n ctx path present parent c v) (h.bind (Check.leaves_pure.2 ⟨rfl, rfl⟩))

/-- What a property is checked for and found about it, if it goes on to the rules. -/
theorem PropertyChecker.leaves_iff {x : Findings × Value} :
    (c.collect (follow resolve n) ctx path present parent v).Leaves σ x τ ↔
      c.early ctx.convert path present σ v = .ok (.done x.1 x.2) ∧ τ = σ ∨
      ∃ peers found, c.early ctx.convert path present σ v = .ok (.goOn x.2) ∧ peerFindings c path σ parent v = .ok peers ∧
        (Rule.runAll (follow resolve n) ctx path c.rules x.2).Leaves σ found τ ∧ x.1 = peers ++ found := by
  rw [collect_eq, Check.leaves_store, Check.leaves_ofExcept]
  constructor
  · rintro ⟨early, hearly, h⟩
    cases early with
    | done found w =>
        obtain ⟨rfl, rfl⟩ := Check.leaves_pure.1 h
        exact .inl ⟨hearly, rfl⟩
    | goOn w =>
        obtain ⟨peers, hpeers, h⟩ := Check.leaves_ofExcept.1 (Check.leaves_store.1 h)
        obtain ⟨found, ρ, hfound, h⟩ := (Rule.runAll_ofStore c.rules).leaves_bind (fun _ => .pure _) h
        obtain ⟨rfl, rfl⟩ := Check.leaves_pure.1 h
        exact .inr ⟨peers, found, hearly, hpeers, hfound, rfl⟩
  · obtain ⟨found, w⟩ := x
    rintro (⟨hearly, rfl⟩ | ⟨peers, found, hearly, hpeers, hfound, rfl⟩)
    · exact ⟨_, hearly, Check.leaves_pure.2 ⟨rfl, rfl⟩⟩
    · refine ⟨_, hearly, Check.leaves_store.2 (Check.leaves_ofExcept.2 ⟨peers, hpeers, ?_⟩)⟩
      exact hfound.bind (Check.leaves_pure.2 ⟨rfl, rfl⟩)

/-- What the check of a property passes, it passes again on what it left, if its parent holds the same. -/
def PropertyChecker.Again (f : Follow) (ctx : Context) (path : Path) (present : Bool) (parent : Option Value) (c : PropertyChecker)
    (v : Value) (σ : Store) : Prop :=
  ∀ w τ, (c.collect f ctx path present parent v).Leaves σ ([], w) τ → (∀ p ∈ parent, ∀ d, τ.holds p d = σ.holds p d) →
    (c.collect f ctx path present parent v).Leaves τ ([], w) τ

/-- **A property passes again** on what it left, if its rules do. -/
theorem PropertyChecker.collect_repeats (hc : c.Repeatable resolve) (hv : σ.Acyclic v)
    (hrules : ∀ x ∈ c.rules, (x.run (follow resolve n) ctx path v).Repeats σ []) :
    c.Again (follow resolve n) ctx path present parent v σ := by
  intro w τ h hparent
  by_cases hτ : τ = σ
  · subst hτ
    exact h
  have hwithin := PropertyChecker.leaves_within h
  cases v with
  | scalar y => exact absurd (PropertyChecker.leaves_scalar h) hτ
  | container a =>
      rcases PropertyChecker.leaves_iff.1 h with ⟨_, hsame⟩ | ⟨peers, found, hearly, hpeers, hfound, hnil⟩
      · exact absurd hsame hτ
      obtain ⟨rfl, rfl⟩ := List.append_eq_nil_iff.1 hnil.symm
      have hdenied : ∀ d ∈ c.denied, d.isScalar = true := by
        refine hc.denied ?_
        by_contra hnone
        push Not at hnone
        exact hτ (Rule.runAll_keeps hnone hfound)
      obtain ⟨hw, hagain⟩ := PropertyChecker.early_within hwithin hv hdenied hearly
      obtain rfl : w = .container a := hw
      rw [PropertyChecker.leaves_iff]
      rcases hagain with hdone | hgoOn
      · exact .inl ⟨hdone, rfl⟩
      · refine .inr ⟨[], [], hgoOn, ?_, Rule.runAll_repeats hc.order hrules (hwithin.lengthOf_eq _) hfound, rfl⟩
        rw [peerFindings_congr fun p hp d _ => hparent p hp d, hpeers]

/-! ## Saved conversions -/

theorem peerFindings_nil {w : Value} (h : peerFindings c path σ parent v = .ok []) : peerFindings c path σ parent w = .ok [] := by
  cases parent with
  | none => rfl
  | some p =>
      unfold peerFindings at h ⊢
      simp only [bind, Except.bind, pure, Except.pure] at h ⊢
      split at h
      · cases h
      next absent habsent =>
      split at h
      · cases h
      next shown hshown =>
      simp_all

/-- What a text counts as, if that is another value, counts as itself. -/
theorem Kind.convert_again {k : Kind} {text : String} (h : k.convert convert σ (.scalar (.text text)) = .ok (some w))
    (hne : w ≠ .scalar (.text text)) :
    convert = true ∧ k ≠ .string ∧ w ≠ .scalar .null ∧ ∀ convert τ, k.convert convert τ w = .ok (some w) := by
  obtain ⟨s, htext, hreads⟩ := Kind.convert_reads h hne
  cases htext
  cases hreads with
  | number hread =>
      cases convert with
      | false => cases h
      | true =>
          simp only [Kind.convert, hread, if_true] at h
          exact ⟨rfl, nofun, nofun, fun _ _ => h⟩
  | boolean hread =>
      cases convert with
      | false => cases h
      | true => exact ⟨rfl, nofun, nofun, fun _ _ => rfl⟩

/-- What a text counts as, and may be saved as, passes by itself. -/
theorem PropertyChecker.collect_read (hc : c.Steady) {text : String} (hne : w ≠ .scalar (.text text))
    (h : (c.collect (follow resolve n) ctx path present parent (.scalar (.text text))).Leaves σ ([], w) τ) :
    (c.collect (follow resolve n) ctx path present parent w).Leaves σ ([], w) σ := by
  have hends : ∀ τ, c.comparesOn τ w = false := by
    intro τ
    obtain ⟨s, hs, _⟩ := h { store := σ } rfl
    obtain ⟨_, _, hreads⟩ := PropertyChecker.collect_reads hs hne
    obtain ⟨y, rfl⟩ := hreads.scalar
    exact (Store.acyclic_scalar y).comparesOn c
  obtain rfl := PropertyChecker.leaves_scalar h
  have hself : readings w w = [w] := if_pos rfl
  have hboth : readings (.scalar (.text text)) w = [.scalar (.text text), w] := if_neg hne
  rcases PropertyChecker.leaves_iff.1 h with ⟨hearly, _⟩ | ⟨peers, found, hearly, hpeers, hfound, hnil⟩
  · obtain ⟨rfl, -, hkind, hallowed⟩ := early_done_other hearly hne
    obtain ⟨hconvert, -, hnull, hagain⟩ := Kind.convert_again hkind hne
    rw [hconvert] at hkind
    rw [hboth, List.any_cons, List.any_cons, List.any_nil, Bool.or_false, Bool.or_eq_true] at hallowed
    rcases hallowed with hallowed | hallowed
    · obtain ⟨d, hd, hsame⟩ := Store.exists_of_isAmong hallowed
      rw [Store.datum_scalar] at hsame
      exact hc text w τ (List.any_eq_true.2 ⟨d, hd, hsame⟩) hkind hne _ _ _ _
    · refine PropertyChecker.leaves_iff.2 (.inl ⟨early_allowed hnull (hagain _ τ) (hends τ) ?_, rfl⟩)
      rw [Option.getD_some, hself, List.any_cons, hallowed, Bool.true_or]
  · obtain ⟨rfl, rfl⟩ := List.append_eq_nil_iff.1 hnil.symm
    obtain ⟨rfl, hadmits⟩ := early_goOn_iff.1 hearly
    obtain ⟨-, hstring, hnull, hagain⟩ := Kind.convert_again hadmits.kind hne
    have hsub : ∀ {data}, ¬ (readings (.scalar (.text text)) w).any (τ.isAmong data) = true →
        ¬ (readings w w).any (τ.isAmong data) = true := by
      intro data hnot hw
      rw [hself, List.any_cons, List.any_nil, Bool.or_false] at hw
      exact hnot (List.any_eq_true.2 ⟨w, hboth ▸ by simp, hw⟩)
    refine PropertyChecker.leaves_iff.2 (.inr ⟨[], [], early_goOn_iff.2 ⟨rfl, ?_⟩, peerFindings_nil hpeers, hfound, rfl⟩)
    exact ⟨hnull, hagain _ _, hends τ, hsub hadmits.notAllowed, hsub hadmits.notDenied, hadmits.anyValue, by simp [hstring]⟩

end Properties

end ShapeCheck
