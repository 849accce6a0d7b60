import ShapeCheck.Proofs.Repeating
import ShapeCheck.Proofs.Skipping

/-!
# What needs no conversions

A text counts as a number or as a truth value only where conversions are switched on. A value that counts as itself does so
without them, and so what a property decides about it stays the same (`PropertyChecker.early_literal`). A check of something
that leads to no types, and that meets only items which count as themselves (`Site.ReadsNoItem`), comes to the same result
without conversions as with them (`Point.literal`).
-/

namespace ShapeCheck

open Relation

/-! ## Values that count as themselves -/

section Early

variable {k : Kind} {c : PropertyChecker} {σ : Store} {v w : Value} {path : Path} {present : Bool} {e : Early}

/-- A value counts as itself, if it counts as anything. -/
def Kind.Retains (k : Kind) (σ : Store) (v : Value) : Prop := ∀ w, k.convert true σ v = .ok (some w) → w = v

/-- A value that counts as itself, or as nothing, does so without conversions. -/
theorem Kind.convert_literal {counted : Option Value} (h : k.convert true σ v = .ok counted)
    (hself : ∀ w, counted = some w → w = v) : k.convert false σ v = .ok counted := by
  cases k with
  | number =>
      simp only [convert] at h ⊢
      split at h
      · exact h
      · next s =>
        rw [if_pos trivial] at h
        split at h
        · cases counted with
          | none => rfl
          | some w =>
              have hsame := (finite?_eq h).1.symm.trans (hself w rfl)
              cases hsame
        · exact h
      · exact h
  | boolean =>
      simp only [convert] at h ⊢
      split at h
      · exact h
      · next s =>
        rw [if_pos trivial] at h
        cases ht : truth? s with
        | none =>
            rw [ht] at h
            exact h
        | some b =>
            rw [ht] at h
            have hsame := hself _ (Except.ok.inj h).symm
            cases hsame
      · exact h
  | _ => exact h

/-- What is decided about a value that counts as itself is decided without conversions. -/
theorem PropertyChecker.early_literal (h : c.early true path present σ v = .ok e)
    (hself : present = true → c.kind.Retains σ v) : c.early false path present σ v = .ok e := by
  cases present with
  | false => exact h
  | true =>
  unfold early at h ⊢
  rw [if_neg (by simp)] at h ⊢
  split
  · next hnull => rwa [if_pos hnull] at h
  next hnull =>
  rw [if_neg hnull] at h
  cases hkind : c.kind.convert true σ v with
  | error fault =>
      rw [hkind] at h
      cases h
  | ok counted =>
      rw [hkind] at h
      rw [Kind.convert_literal hkind fun w hw => hself rfl w (by rw [hkind, hw])]
      exact h

/-- A value that passes as itself counts as itself. -/
theorem PropertyChecker.early_self (h : c.early true path true σ v = .ok e) (he : e = .done [] v ∨ e = .goOn v) :
    c.kind.Retains σ v := by
  intro w hw
  rcases he with rfl | rfl
  · by_contra hne
    obtain ⟨s, rfl, _⟩ := Kind.convert_reads hw hne
    unfold early at h
    rw [if_neg (by simp), if_neg (by simp), hw] at h
    simp only [bind, Except.bind, Option.getD_some] at h
    split at h
    · cases h
    split at h
    · injection Except.ok.inj h with _ hsame
      exact hne hsame
    split at h
    · split at h <;> cases h
    split at h
    · split at h <;> cases h
    split at h <;> cases h
  · exact Option.some.inj (Except.ok.inj (hw.symm.trans (early_goOn h)))

end Early

/-! ## The same without conversions -/

section Matches

variable {α β : Type} {c d : Check α} {k l : α → Check β} {σ : Store}

/-- Where one check comes to a result, another one comes to the same, and both leave the store as it is. -/
def Check.Matches (c d : Check α) (σ : Store) : Prop := ∀ x τ, c.Leaves σ x τ → τ = σ ∧ d.Leaves σ x σ

namespace Check.Matches

theorem pure (x : α) : Check.Matches (Pure.pure x) (Pure.pure x) σ := by
  intro y τ h
  obtain ⟨rfl, rfl⟩ := leaves_pure.1 h
  exact ⟨rfl, h⟩

theorem bind (hc : c.OfStore) (hk : ∀ x, (k x).OfStore) (h : c.Matches d σ) (hkl : ∀ x, (k x).Matches (l x) σ) :
    (c >>= k).Matches (d >>= l) σ := by
  intro y τ hleaves
  obtain ⟨x, ρ, hx, hy⟩ := hc.leaves_bind hk hleaves
  obtain ⟨rfl, hx'⟩ := h x ρ hx
  obtain ⟨rfl, hy'⟩ := hkl x y τ hy
  exact ⟨rfl, hx'.bind hy'⟩

theorem store {k l : Store → Check β} (h : (k σ).Matches (l σ) σ) : (Check.store >>= k).Matches (Check.store >>= l) σ := by
  intro y τ hy
  obtain ⟨rfl, hy⟩ := h y τ (leaves_store.1 hy)
  exact ⟨rfl, leaves_store.2 hy⟩

/-- Findings of two checks after each other. -/
theorem append {c d c' d' : Check Findings} (hc : c.OfStore) (hd : d.OfStore) (h : c.Matches c' σ) (h' : d.Matches d' σ) :
    Check.Matches (do let found ← c; return found ++ (← d)) (do let found ← c'; return found ++ (← d')) σ :=
  .bind hc (fun _ => hd.bind fun _ => .pure _) h fun _ => .bind hd (fun _ => .pure _) h' fun _ => .pure _

end Check.Matches

end Matches

/-- The context of a type that skips conversions, in which all else is as it was. -/
def Context.skipping (ctx : Context) : Context := { ctx with convert := false }

section Literal

variable {resolve : Resolver} {n : Nat} {ctx : Context} {path : Path} {σ : Store} {v : Value}

/-- A check of a point comes to what it comes to without conversions. A property does so if its value counts as itself. -/
def Point.Literal (resolve : Resolver) (σ : Store) : Point → Prop
  | .type n ctx path t v => (t.collect (follow resolve n) ctx path v).Matches
      (t.skipping.collect (follow resolve.skipping n) ctx.skipping path v) σ
  | .property n ctx path present parent c v => c.kind.Retains σ v →
      (c.collect (follow resolve n) ctx path present parent v).Matches
        (c.skipping.collect (follow resolve.skipping n) ctx.skipping path present parent v) σ
  | .rule n ctx path x v => (x.run (follow resolve n) ctx path v).Matches
      (x.skipping.run (follow resolve.skipping n) ctx.skipping path v) σ

theorem PropertyChecker.skipping_early (c : PropertyChecker) : c.skipping.early = c.early := by
  rw [skipping_eq]
  rfl

theorem PropertyChecker.skipping_peers (c : PropertyChecker) : peerFindings c.skipping = peerFindings c := by
  rw [skipping_eq]
  rfl

theorem Rule.runAll_literal {rules : List Rule} (h : ∀ x ∈ rules, (Point.rule n ctx path x v).Literal resolve σ) :
    (Rule.runAll (follow resolve n) ctx path rules v).Matches
      (Rule.runAll (follow resolve.skipping n) ctx.skipping path (rules.map Rule.skipping) v) σ := by
  induction rules with
  | nil =>
      rw [List.map_nil, Rule.runAll, Rule.runAll]
      exact .pure []
  | cons x rest ih =>
      rw [List.forall_mem_cons] at h
      rw [List.map_cons, Rule.runAll, Rule.runAll]
      exact .append x.run_ofStore (Rule.runAll_ofStore rest) h.1 (ih h.2)

theorem PropertyChecker.collect_literal {c : PropertyChecker} {present : Bool} {parent : Option Value} (hctx : ctx.convert = true)
    (h : ∀ x ∈ c.rules, (Point.rule n ctx path x v).Literal resolve σ) :
    (Point.property n ctx path present parent c v).Literal resolve σ := by
  intro hself x τ hx
  have hliteral : ∀ {e}, c.early ctx.convert path present σ v = .ok e → c.skipping.early false path present σ v = .ok e := by
    intro e he
    rw [skipping_early]
    exact early_literal (hctx ▸ he) fun _ => hself
  rcases leaves_iff.1 hx with ⟨hearly, rfl⟩ | ⟨peers, found, hearly, hpeers, hfound, hpair⟩
  · exact ⟨rfl, leaves_iff.2 (.inl ⟨hliteral hearly, rfl⟩)⟩
  · have hvalue : x.2 = v := hself x.2 (hctx ▸ early_goOn hearly)
    rw [hvalue] at hfound
    obtain ⟨rfl, hfound⟩ := Rule.runAll_literal h found τ hfound
    refine ⟨rfl, leaves_iff.2 (.inr ⟨peers, found, hliteral hearly, ?_, ?_, hpair⟩)⟩
    · rw [skipping_peers, hpeers]
    · rw [skipping_rules, hvalue]
      exact hfound

section Items

variable {elements : List PropertyChecker} {p : Path} {item : Value}
  (hself : ∀ d ∈ elements, d.kind.Retains σ item)
  (h : ∀ d ∈ elements, (Point.property n ctx p true none d item).Literal resolve σ)

include hself h

theorem PropertyChecker.attempts_literal :
    (PropertyChecker.attempts (follow resolve n) ctx p elements item).Matches
      (PropertyChecker.attempts (follow resolve.skipping n) ctx.skipping p (elements.map skipping) item) σ := by
  induction elements with
  | nil =>
      rw [List.map_nil, attempts, attempts]
      exact .pure []
  | cons d rest ih =>
      rw [List.forall_mem_cons] at hself h
      rw [List.map_cons, attempts, attempts]
      refine .bind d.collect_ofStore (fun _ => (attempts_ofStore rest).bind fun _ => .pure _) (h.1 hself.1) fun _ => ?_
      exact .bind (attempts_ofStore rest) (fun _ => .pure _) (ih hself.2 h.2) fun _ => .pure _

theorem PropertyChecker.someAccepts_literal :
    (PropertyChecker.someAccepts (follow resolve n) ctx p elements item).Matches
      (PropertyChecker.someAccepts (follow resolve.skipping n) ctx.skipping p (elements.map skipping) item) σ := by
  induction elements with
  | nil =>
      rw [List.map_nil, someAccepts, someAccepts]
      exact .pure false
  | cons d rest ih =>
      rw [List.forall_mem_cons] at hself h
      rw [List.map_cons, someAccepts, someAccepts]
      refine .bind d.collect_ofStore (fun x => ?_) (h.1 hself.1) fun x => ?_
      · dsimp only
        split
        · exact .pure _
        · exact someAccepts_ofStore rest
      · dsimp only
        split
        · exact .pure true
        · exact ih hself.2 h.2

end Items

theorem eachItem_literal {check check' : Path → Value → Check Findings} {items : List Value}
    (hcheck : ∀ p item, (check p item).OfStore) (h : ∀ p, ∀ item ∈ items, (check p item).Matches (check' p item) σ) :
    ∀ i, (eachItem path check i items).Matches (eachItem path check' i items) σ := by
  induction items with
  | nil => exact fun _ => .pure []
  | cons item rest ih =>
      intro i
      exact .append (hcheck _ item) (eachItem_ofStore hcheck rest (i + 1)) (h _ item (List.mem_cons_self ..))
        (ih (fun p item hitem => h p item (List.mem_cons_of_mem _ hitem)) (i + 1))

end Literal

/-! ## What is met -/

/-- The descriptions of elements that a rule has. -/
def Rule.elements : Rule → List PropertyChecker
  | .includes elements => elements
  | .excludes elements => elements
  | _ => []

/-- A part of a type at a value that it is applied to. -/
inductive Site where
  | type (t : TypeChecker) (v : Value)
  | property (c : PropertyChecker) (v : Value)
  | rule (x : Rule) (v : Value)

/-- The value of a site. -/
def Site.value : Site → Value
  | .type _ v => v
  | .property _ v => v
  | .rule _ v => v

/-- What the parts of a type are applied to: a property to what stands under its key, a rule to the value of its property, and
a description to the items of an array. -/
inductive Site.LeadsTo (resolve : Resolver) (σ : Store) : Site → Site → Prop
  | field {t : TypeChecker} {v : Value} {p : String × PropertyChecker} (declared : p ∈ t.properties) :
      LeadsTo resolve σ (.type t v) (.property p.2 (σ.child v p.1))
  | rule {c : PropertyChecker} {v : Value} {x : Rule} (mem : x ∈ c.rules) : LeadsTo resolve σ (.property c v) (.rule x v)
  | element {x : Rule} {v item : Value} {d : PropertyChecker} (mem : d ∈ x.elements) (met : item ∈ (σ.items? v).getD []) :
      LeadsTo resolve σ (.rule x v) (.property d item)
  | referent {ref : TypeRef} {v : Value} {t : TypeChecker} (found : resolve ref = some t) :
      LeadsTo resolve σ (.rule (.reference ref) v) (.type t v)
  | inPlace {t : TypeChecker} {v : Value} : LeadsTo resolve σ (.rule (.inlineType t) v) (.type t v)

/-- No description of elements that a site leads to counts a text that it is applied to as another value. -/
def Site.ReadsNoItem (resolve : Resolver) (σ : Store) (q : Site) : Prop :=
  ∀ x v, ReflTransGen (LeadsTo resolve σ) q (.rule x v) → ∀ d ∈ x.elements,
    ∀ text, .scalar (.text text) ∈ (σ.items? v).getD [] → ∀ w, ¬ d.kind.Reads text w

namespace Site

variable {resolve : Resolver} {σ : Store} {q r : Site}

theorem ReadsNoItem.step (h : q.ReadsNoItem resolve σ) (hqr : q.LeadsTo resolve σ r) : r.ReadsNoItem resolve σ :=
  fun x v hx => h x v (.head hqr hx)

/-- Items that are met count as themselves. -/
theorem ReadsNoItem.retains {x : Rule} {v item : Value} {d : PropertyChecker} (h : (Site.rule x v).ReadsNoItem resolve σ)
    (hd : d ∈ x.elements) (hitem : item ∈ (σ.items? v).getD []) : d.kind.Retains σ item := by
  intro w hw
  by_contra hne
  obtain ⟨text, rfl, hreads⟩ := Kind.convert_reads hw hne
  exact h x v .refl d hd text hitem w hreads

end Site

/-- Where a point of a run is. -/
def Point.site : Point → Site
  | .type _ _ _ t v => .type t v
  | .property _ _ _ _ _ c v => .property c v
  | .rule _ _ _ x v => .rule x v

/-! ## Descriptions that lead to no types -/

/-- All that leads to no types. -/
def Territory.typeless (resolve : Resolver) : Territory where
  types _ := False
  checkers c := ∀ u, .inlineType u ∉ c.rules
  references ref := resolve ref = none

section Points

variable {resolve : Resolver} {n : Nat} {ctx : Context} {path : Path} {σ : Store} {v : Value} {x : Rule}

/-- A rule that does not look inside of its value does the same in all contexts. -/
theorem Rule.run_congr (h : x.looksInside = false) (f f' : Follow) (ctx ctx' : Context) :
    x.run f ctx path v = x.run f' ctx' path v := by
  cases x with
  | includes | excludes | reference | inlineType => cases h
  | _ => rw [Rule.run, Rule.run]

theorem Rule.skipping_shallow (h : x.looksInside = false) : x.skipping = x := by
  cases x with
  | includes | excludes | reference | inlineType => cases h
  | _ => simp only [Rule.skipping]

theorem Rule.shallow_literal (h : x.looksInside = false) : (Point.rule n ctx path x v).Literal resolve σ := by
  intro found τ hfound
  obtain rfl := (Rule.keeps_of_shallow h).leaves hfound
  rw [Rule.skipping_shallow h, Rule.run_congr h _ (follow resolve n) _ ctx]
  exact ⟨rfl, hfound⟩

/-- That a reference leads to nothing is all that is found. -/
theorem follow_unresolved_leaves {ref : TypeRef} {found : Findings} {τ : Store} (h : resolve ref = none) :
    (follow resolve n ctx path ref v).Leaves σ found τ ↔ found = [causedBy (.unresolved ref) path v] ∧ τ = σ := by
  rw [follow, h]
  refine (Check.leaves_record (k := fun _ => pure [causedBy (.unresolved ref) path v]) (.pure _)).trans ?_
  rw [Check.leaves_pure, eq_comm]

theorem follow_literal {ref : TypeRef} (h : resolve ref = none) :
    (Point.rule n ctx path (.reference ref) v).Literal resolve σ := by
  intro found τ hfound
  have hskipping : resolve.skipping ref = none := by rw [Resolver.skipping, h, Option.map_none]
  rw [Rule.run, follow_unresolved_leaves h] at hfound
  rw [Rule.skipping_reference, Rule.run, follow_unresolved_leaves hskipping]
  exact ⟨hfound.2, hfound.1, rfl⟩

theorem Rule.sizeOf_element {d : PropertyChecker} (hd : d ∈ x.elements) : sizeOf d < sizeOf x := by
  have hlt := List.sizeOf_lt_of_mem hd
  cases x with
  | includes | excludes =>
      simp only [elements, Rule.includes.sizeOf_spec, Rule.excludes.sizeOf_spec] at hlt ⊢
      omega
  | _ => cases hd

theorem Point.Inside.element {k : Territory} {d : PropertyChecker} (h : (Point.rule n ctx path x v).Inside k)
    (hd : d ∈ x.elements) {m : Nat} {dtx : Context} {q : Path} {present : Bool} {parent : Option Value} {w : Value} :
    (Point.property m dtx q present parent d w).Inside k := by
  cases x with
  | includes elements => exact h.included hd
  | excludes elements => exact h.excluded hd
  | _ => cases hd

/-- A rule that leads to no types does the same without conversions, if its descriptions do. -/
theorem Rule.literal (hinline : ∀ u, x ≠ .inlineType u) (hreferences : ∀ ref ∈ x.references, resolve ref = none)
    (helements : ∀ d ∈ x.elements, ∀ item ∈ (σ.items? v).getD [], d.kind.Retains σ item ∧
      ∀ p, (Point.property n ctx p true none d item).Literal resolve σ) : (Point.rule n ctx path x v).Literal resolve σ := by
  cases x with
  | includes elements =>
      intro found τ
      rw [Rule.skipping, PropertyChecker.skippingAll_eq, Rule.run_includes, Rule.run_includes]
      refine Check.Matches.store (eachItem_literal (fun _ _ => ?_) (fun p item hitem => ?_) 0) found τ
      · exact (PropertyChecker.attempts_ofStore elements).bind fun _ => .pure _
      · refine .bind (PropertyChecker.attempts_ofStore elements) (fun _ => .pure _) ?_ fun _ => .pure _
        exact PropertyChecker.attempts_literal (fun d hd => (helements d hd item hitem).1)
          fun d hd => (helements d hd item hitem).2 p
  | excludes elements =>
      intro found τ
      rw [Rule.skipping, PropertyChecker.skippingAll_eq, Rule.run_excludes, Rule.run_excludes]
      refine Check.Matches.store (eachItem_literal (fun _ _ => ?_) (fun p item hitem => ?_) 0) found τ
      · exact (PropertyChecker.someAccepts_ofStore elements).bind fun _ => .pure _
      · refine .bind (PropertyChecker.someAccepts_ofStore elements) (fun _ => .pure _) ?_ fun _ => .pure _
        exact PropertyChecker.someAccepts_literal (fun d hd => (helements d hd item hitem).1)
          fun d hd => (helements d hd item hitem).2 p
  | reference ref =>
      refine follow_literal (hreferences ref ?_)
      rw [Rule.references]
      exact List.mem_singleton_self ref
  | inlineType t => exact absurd rfl (hinline t)
  | _ => exact Rule.shallow_literal rfl

/-- **What leads to no types does the same without conversions**, where it counts the items that it meets as themselves. The
induction goes down in size. -/
theorem Point.literal : ∀ p : Point, p.Inside (Territory.typeless resolve) → p.context.convert = true →
    p.site.ReadsNoItem resolve σ → p.Literal resolve σ
  | .type .., hp, _, _ => hp.elim
  | .property n ctx path present parent c v, hp, hctx, hreads =>
      PropertyChecker.collect_literal hctx fun x hx =>
        Point.literal (.rule n ctx path x v) (hp.rule hx) hctx (hreads.step (.rule hx))
  | .rule n ctx path x v, hp, hctx, hreads => by
      obtain ⟨c, hinline, hx⟩ := hp.2.1
      refine Rule.literal (fun u hu => hinline u (hu ▸ hx)) hp.2.2 fun d hd item hitem => ⟨hreads.retains hd hitem, fun p => ?_⟩
      exact Point.literal (.property n ctx p true none d item) (hp.element hd) hctx (hreads.step (.element hd hitem))
termination_by p => p.size
decreasing_by
  · exact PropertyChecker.sizeOf_rule hx
  · exact Rule.sizeOf_element hd

end Points

end ShapeCheck
