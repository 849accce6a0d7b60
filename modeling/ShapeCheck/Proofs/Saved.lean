import ShapeCheck.Proofs.Idempotence
import ShapeCheck.Proofs.Literal

/-!
# What is saved needs no conversions

Where all types save conversions, a validation that passes leaves nothing that has to be converted again, if the types can be
applied again and no description of elements counts a text that it meets as something else: what is saved under keys is all
that is saved. So the same types accept what was left when they skip conversions, `Work.validate_skipping`. A second validation
with conversions changes nothing, `TypeChecker.validate_repeats`, so each part of it leaves the store as it is and counts its
value as itself, and a part of this sort does the same without conversions (`Point.idle`). Descriptions that are tried may find
something, but lead to no types here, and do the same wherever they come to a result (`Point.literal`). Other types may need
the conversions again: `Work.needsConversions`.
-/

namespace ShapeCheck

open Relation

/-! ## What changes leave -/

theorem Kind.Reads.isScalar {k : Kind} {text : String} {w : Value} (h : k.Reads text w) : w.isScalar = true := by
  cases h <;> rfl

theorem Replaces.isScalar {resolve : Resolver} {start : Point} {first : Run} {a : Address} {name : String} {v w : Value}
    (h : Replaces resolve start first a name v w) : w.isScalar = true := by
  obtain ⟨_, _, _, _, read⟩ := h
  exact read.isScalar

/-- Changes that put in scalars alone leave no containers but those that were there. -/
theorem Entries.Changed.containers_sublist {lost : Key × Value → Prop} {replaced : String → Value → Value → Prop}
    {es fs : List (Key × Value)} (h : Changed lost replaced es fs)
    (hscalar : ∀ {name v w}, replaced name v w → w.isScalar = true) :
    ((fs.map Prod.snd).filter (!·.isScalar)).Sublist ((es.map Prod.snd).filter (!·.isScalar)) := by
  induction h with
  | nil => exact .slnil
  | stay e _ ih =>
      rw [List.map_cons, List.map_cons, List.filter_cons, List.filter_cons]
      split
      · exact ih.cons_cons _
      · exact ih
  | lose _ _ ih =>
      rw [List.map_cons, List.filter_cons]
      split
      · exact ih.cons _
      · exact ih
  | replace reason _ ih =>
      rw [List.map_cons, List.map_cons, List.filter_cons_of_neg (by simp [hscalar reason]), List.filter_cons]
      split
      · exact ih.cons _
      · exact ih

/-- What a scalar leads to are scalars. -/
theorem Site.LeadsTo.isScalar {resolve : Resolver} {σ : Store} {q r : Site} (h : q.LeadsTo resolve σ r)
    (hq : q.value.isScalar = true) : r.value.isScalar = true := by
  cases h with
  | @field t v p =>
      cases v with
      | scalar x => rfl
      | container a => cases hq
  | @element x v item d _ met =>
      cases v with
      | scalar y => cases met
      | container a => cases hq
  | _ => exact hq

section Changed

variable {lost : Address → Key × Value → Prop} {replaced : Address → String → Value → Value → Prop} {σ τ : Store}
  (h : σ.Changed lost replaced τ) (hscalar : ∀ {a name v w}, replaced a name v w → w.isScalar = true)

include h hscalar

theorem Store.Changed.thinner : τ.Thinner σ := by
  intro a d hd
  cases hc : σ.read? a with
  | none =>
      rw [h.missing hc] at hd
      cases hd
  | some c =>
      refine ⟨c, rfl, ?_⟩
      cases c with
      | mapping es =>
          obtain ⟨fs, hfs, hchanged⟩ := h.mapping hc
          obtain rfl := Option.some.inj (hfs.symm.trans hd)
          exact hchanged.containers_sublist hscalar
      | _ =>
          have hother := h.other hc fun es hes => by cases hes
          obtain rfl := Option.some.inj (hother.symm.trans hd)
          exact List.Sublist.refl _

/-- A container that stands under a key after such changes stood there before. -/
theorem Store.Changed.under_container (hσ : σ.DistinctKeys) {v : Value} {name : String} {b : Address}
    (hb : τ.under? v name = some (.container b)) : σ.under? v name = some (.container b) := by
  obtain ⟨fs, hfs, hget⟩ := Option.bind_eq_some_iff.1 hb
  obtain ⟨a, rfl⟩ := Store.entries?_eq_some hfs
  obtain ⟨es, hes, hchanged⟩ := h.entries? hfs
  rcases hchanged.mem (Entries.mem_of_get? hget) with hmem | ⟨_, _, _, _, hreplaced⟩
  · exact Option.bind_eq_some_iff.2 ⟨es, hes, hσ.get? hes hmem⟩
  · cases hscalar hreplaced

variable {resolve : Resolver} {q r : Site}

/-- Changes that put in scalars alone add nothing to what is met, but scalars. -/
theorem Site.LeadsTo.changed (hwithin : τ.Within σ) (hσ : σ.DistinctKeys) (hqr : q.LeadsTo resolve τ r) :
    q.LeadsTo resolve σ r ∨ r.value.isScalar = true := by
  cases hqr with
  | @field t v p declared =>
      cases hchild : τ.child v p.1 with
      | scalar x => exact .inr rfl
      | container b =>
          left
          have hunder : τ.under? v p.1 = some (.container b) := by
            unfold Store.child at hchild
            cases hunder : τ.under? v p.1 with
            | none =>
                rw [hunder] at hchild
                cases hchild
            | some w =>
                rw [hunder] at hchild
                exact congrArg some hchild
          have hbefore : σ.child v p.1 = .container b := by
            unfold Store.child
            rw [h.under_container hscalar hσ hunder]
            rfl
          exact hbefore ▸ .field declared
  | rule mem => exact .inl (.rule mem)
  | element mem met => exact .inl (.element mem (hwithin.items?_eq _ ▸ met))
  | referent found => exact .inl (.referent found)
  | inPlace => exact .inl .inPlace

theorem Site.ReadsNoItem.changed (hwithin : τ.Within σ) (hσ : σ.DistinctKeys) (hq : q.ReadsNoItem resolve σ) :
    q.ReadsNoItem resolve τ := by
  intro x v hx d hd text htext
  have hmet : ∀ {r}, ReflTransGen (Site.LeadsTo resolve τ) q r →
      ReflTransGen (Site.LeadsTo resolve σ) q r ∨ r.value.isScalar = true := by
    intro r hr
    induction hr with
    | refl => exact .inl .refl
    | tail _ hstep ih =>
        rcases ih with ih | ih
        · exact (Site.LeadsTo.changed h hscalar hwithin hσ hstep).imp_left ih.tail
        · exact .inr (hstep.isScalar ih)
  rcases hmet hx with hx | hx
  · exact hq x v hx d hd text (hwithin.items?_eq v ▸ htext)
  · cases v with
    | scalar y => cases htext
    | container a => cases hx

end Changed

/-! ## Parts that change nothing -/

section Idle

variable {resolve : Resolver} {n : Nat} {ctx : Context} {path : Path} {σ : Store} {v : Value}

/-- A check of a point passes without conversions, if it passes with them, leaves the store as it is and counts its value as
itself. -/
def Point.Idle (resolve : Resolver) (σ : Store) : Point → Prop
  | .type n ctx path t v => (t.collect (follow resolve n) ctx path v).Leaves σ [] σ →
      (t.skipping.collect (follow resolve.skipping n) ctx.skipping path v).Leaves σ [] σ
  | .property n ctx path present parent c v => (c.collect (follow resolve n) ctx path present parent v).Leaves σ ([], v) σ →
      (c.skipping.collect (follow resolve.skipping n) ctx.skipping path present parent v).Leaves σ ([], v) σ
  | .rule n ctx path x v => (x.run (follow resolve n) ctx path v).Leaves σ [] σ →
      (x.skipping.run (follow resolve.skipping n) ctx.skipping path v).Leaves σ [] σ

/-- Where rules pass and leave the store as it is, each of them does: of two of them, one keeps it. -/
theorem Rule.runAll_each {rules : List Rule} (horder : rules.Pairwise fun x y => x.looksInside = true → y.Keeps resolve)
    (h : (Rule.runAll (follow resolve n) ctx path rules v).Leaves σ [] σ) :
    ∀ x ∈ rules, (x.run (follow resolve n) ctx path v).Leaves σ [] σ := by
  induction rules with
  | nil => exact fun x hx => absurd hx List.not_mem_nil
  | cons x rest ih =>
      rw [Rule.runAll] at h
      obtain ⟨hfirst, horder⟩ := List.pairwise_cons.1 horder
      obtain ⟨ρ, hx, hrest⟩ := x.run_ofStore.leaves_append (Rule.runAll_ofStore rest) h
      have hsame : ρ = σ := by
        cases hinside : x.looksInside with
        | true => exact (Rule.runAll_keeps (fun y hy => hfirst y hy hinside) hrest).symm
        | false => exact (Rule.keeps_of_shallow hinside).leaves hx
      subst hsame
      exact List.forall_mem_cons.2 ⟨hx, ih horder hrest⟩

theorem Rule.runAll_passes {rules : List Rule} {f : Follow} (h : ∀ x ∈ rules, (x.run f ctx path v).Leaves σ [] σ) :
    (Rule.runAll f ctx path rules v).Leaves σ [] σ := by
  induction rules with
  | nil =>
      rw [Rule.runAll]
      exact Check.leaves_pure.2 ⟨rfl, rfl⟩
  | cons x rest ih =>
      rw [List.forall_mem_cons] at h
      rw [Rule.runAll]
      exact h.1.append (ih h.2)

theorem PropertyChecker.collect_idle {c : PropertyChecker} {present : Bool} {parent : Option Value} (hc : c.Repeatable resolve)
    (hctx : ctx.convert = true) (h : ∀ x ∈ c.rules, (Point.rule n ctx path x v).Idle resolve σ) :
    (Point.property n ctx path present parent c v).Idle resolve σ := by
  intro hleaves
  have hliteral : ∀ {e}, (e = .done [] v ∨ e = .goOn v) → c.early ctx.convert path present σ v = .ok e →
      c.skipping.early false path present σ v = .ok e := by
    intro e he hearly
    rw [hctx] at hearly
    rw [skipping_early]
    refine early_literal hearly fun hpresent => ?_
    subst hpresent
    exact early_self hearly he
  rcases leaves_iff.1 hleaves with ⟨hearly, -⟩ | ⟨peers, found, hearly, hpeers, hfound, hnil⟩
  · exact leaves_iff.2 (.inl ⟨hliteral (.inl rfl) hearly, rfl⟩)
  · obtain ⟨rfl, rfl⟩ := List.append_eq_nil_iff.1 hnil.symm
    refine leaves_iff.2 (.inr ⟨[], [], hliteral (.inr rfl) hearly, ?_, ?_, rfl⟩)
    · rw [skipping_peers, hpeers]
    · rw [skipping_rules]
      refine Rule.runAll_passes (List.forall_mem_map.2 fun x hx => ?_)
      exact h x hx (Rule.runAll_each hc.order hfound x hx)

/-- Items of an array that pass as themselves, and of which no check changes anything in the end. -/
theorem Rule.eachItem_idle {d : PropertyChecker} {items : List Value} (hctx : ctx.convert = true)
    (hapart : items.Pairwise σ.Apart)
    (helement : ∀ item ∈ items, d.kind.Retains σ item ∧
      ∀ p, (Point.property n ctx p true none d item).Idle resolve σ) :
    ∀ i, (eachItem path (Rule.includesItem (follow resolve n) ctx [d]) i items).Leaves σ [] σ →
      (eachItem path (Rule.includesItem (follow resolve.skipping n) ctx.skipping [d.skipping]) i items).Leaves σ [] σ := by
  induction items with
  | nil => exact fun _ h => h
  | cons item rest ih =>
      intro i h
      rw [List.forall_mem_cons] at helement
      obtain ⟨ρ, hitem, hrest⟩ := Rule.includesItem_ofStore.leaves_append
        (eachItem_ofStore (fun _ _ => Rule.includesItem_ofStore) rest (i + 1)) h
      obtain ⟨x, hx⟩ := Rule.includesItem_leaves.1 hitem
      have hchanged := d.changedBelow hx
      -- The other items leave what is below this one, so it was as it is in the end.
      have hsame : ρ = σ := by
        obtain ⟨hothers, hapart'⟩ := hchanged.others hapart
        obtain ⟨-, houtside⟩ := Rule.eachItem_outside hapart' (i + 1) hrest
        refine Store.ext_read? fun b => ?_
        by_cases hb : ReflTransGen σ.Contains item (.container b)
        · refine (houtside b fun u hu hub => ?_).symm
          exact (List.pairwise_cons.1 hapart).1 u hu b hb ((Store.reaches_congr (hothers u hu)).1 hub)
        · exact hchanged.outside b hb
      subst hsame
      obtain rfl : x = item := by
        obtain ⟨s, hs, -⟩ := hx { store := ρ } rfl
        refine (PropertyChecker.collect_converts hs).elim id fun hconvert => ?_
        exact helement.1.1 x (hctx ▸ hconvert)
      exact (Rule.includesItem_leaves.2 ⟨x, helement.1.2 _ hx⟩).append
        (ih (List.pairwise_cons.1 hapart).2 helement.2 (i + 1) hrest)

theorem Rule.includes_idle {d : PropertyChecker} (hctx : ctx.convert = true) (hv : σ.Unshared v)
    (helement : ∀ item ∈ (σ.items? v).getD [], d.kind.Retains σ item ∧
      ∀ p, (Point.property n ctx p true none d item).Idle resolve σ) :
    (Point.rule n ctx path (.includes [d]) v).Idle resolve σ := by
  intro h
  rw [Rule.run_includes, Check.leaves_store] at h
  rw [Rule.skipping, PropertyChecker.skippingAll_eq, Rule.run_includes, Check.leaves_store]
  exact Rule.eachItem_idle hctx hv.items.2 helement 0 h

theorem follow_idle {ref : TypeRef}
    (h : ∀ m t, n = m + 1 → resolve ref = some t → (Point.type m (ctx.enter ref v) path t v).Idle resolve σ) :
    (Point.rule n ctx path (.reference ref) v).Idle resolve σ := by
  intro hleaves
  rw [Rule.run] at hleaves
  obtain ⟨m, t, rfl, ht, hfresh, hcollect⟩ := follow_leaves_iff.1 hleaves
  rw [Rule.skipping_reference, Rule.run]
  refine follow_leaves_iff.2 ⟨m, t.skipping, rfl, ?_, hfresh, h m t rfl ht hcollect⟩
  rw [Resolver.skipping, ht, Option.map_some]

/-- A rule passes without conversions if what it checks does: the elements of its one description, or the type that it leads to.
A rule that tries descriptions does the same without conversions. -/
theorem Rule.idle {x : Rule} (hctx : ctx.convert = true) (hv : σ.Unshared v)
    (htried : x.tries = true → (Point.rule n ctx path x v).Literal resolve σ)
    (helement : ∀ d, x = .includes [d] → ∀ item ∈ (σ.items? v).getD [],
      d.kind.Retains σ item ∧ ∀ p, (Point.property n ctx p true none d item).Idle resolve σ)
    (hreferent : ∀ ref m t, x = .reference ref → n = m + 1 → resolve ref = some t →
      (Point.type m (ctx.enter ref v) path t v).Idle resolve σ)
    (hinPlace : ∀ t, x = .inlineType t → (Point.type n ctx path t v).Idle resolve σ) :
    (Point.rule n ctx path x v).Idle resolve σ := by
  by_cases htries : x.tries = true
  · exact fun h => (htried htries [] σ h).2
  cases x with
  | includes elements =>
      obtain ⟨d, rfl⟩ := List.length_eq_one_iff.1 (show elements.length = 1 by simpa [Rule.tries] using htries)
      exact Rule.includes_idle hctx hv (helement d rfl)
  | excludes elements => exact absurd rfl htries
  | reference ref => exact follow_idle fun m t hm ht => hreferent ref m t rfl hm ht
  | inlineType t =>
      change ((Rule.inlineType t).run (follow resolve n) ctx path v).Leaves σ [] σ → _
      rw [Rule.run, Rule.skipping, Rule.run]
      exact hinPlace t rfl
  | _ => exact fun h => (Rule.shallow_literal rfl [] σ h).2

end Idle

/-! ## Types that change nothing -/

section Types

variable {resolve : Resolver} {n : Nat} {ctx : Context} {path : Path} {σ : Store} {a : Address} {v : Value} {t : TypeChecker}

/-- Where the keys of a mapping are as before, none was stripped. -/
theorem strays_same {leniency : Leniency} {names : List String} {r s : Run} {found : Findings}
    (h : (strays leniency names path (.container a)).ending r = (.ok found, s))
    (hkeys : (s.store.entries? (.container a)).map (List.map Prod.fst) =
      (r.store.entries? (.container a)).map (List.map Prod.fst)) :
    s.store = r.store := by
  unfold strays at h
  rw [Check.ending_bind_ok (Check.ending_store r)] at h
  dsimp only at h
  split at h
  · next b es hstrip hb hes =>
    cases hb
    cases h
    have hes' : r.store.read? a = some (.mapping es) := hes
    dsimp only at hkeys ⊢
    rw [Store.entries?_of_read hes'] at hkeys ⊢
    rw [Store.entries?_of_read (Store.read?_write_same _ _ _ (Store.lt_of_read? hes'))] at hkeys
    change some ((es.filter fun e => !isStray leniency names e).map Prod.fst) = some (es.map Prod.fst) at hkeys
    change r.store.write a (.mapping (es.filter fun e => !isStray leniency names e)) = r.store
    have hlength := congrArg List.length (Option.some.inj hkeys)
    rw [List.length_map, List.length_map] at hlength
    rw [List.filter_sublist.eq_of_length hlength, Store.write_same hes']
  · rw [Check.ending_ofExcept] at h
    rw [← (Prod.mk.inj h).2]

/-- What the parts of a run over a mapping do that passes and leaves the store as it is: there is nothing to strip, and each key
passes by itself, leaves the store as it is and has nothing to save. -/
theorem TypeChecker.collect_settled (hnames : (t.properties.map Prod.fst).Nodup) (hv : σ.Unshared v)
    (h : (t.collect (follow resolve n) ctx path v).Leaves σ [] σ) :
    ∃ a c, v = .container a ∧ σ.read? a = some c ∧ (σ.entries? (.container a)).isSome = true ∧
      c.Clean t.leniency (t.properties.map Prod.fst) ∧ ∀ p ∈ t.properties, ∃ x,
        (PropertyChecker.under (follow resolve n) (ctx.inside t) path σ (.container a) p).Leaves σ ([], x) σ ∧
          c.settle t.leniency p.1 [] x = c := by
  obtain ⟨s, hs, hstore⟩ := h { store := σ } rfl
  by_cases hmapping : (σ.entries? v).isSome = true
  swap
  · rw [collect_no_mapping (r := { store := σ }) hmapping] at hs
    cases hs
  obtain ⟨a, rfl⟩ := Store.entries?_eq_some (Option.get_mem hmapping)
  obtain ⟨extra, others, stripped, hparts, hnil⟩ := collect_parts (r := { store := σ }) hv hmapping hs
  obtain ⟨rfl, rfl⟩ := List.append_eq_nil_iff.1 hnil.symm
  obtain ⟨hends, hothers, hafter⟩ := PropertyChecker.collectFields_after hparts.unshared hparts.mapping hnames rfl hparts.fields
  rw [hstore] at hafter
  obtain rfl : stripped = σ := strays_same hparts.stray hafter.keys.symm
  generalize PropertyChecker.fieldEnd (follow resolve n) (ctx.inside t) path stripped (.container a) = ends at hends hothers hafter
  have hfound : ∀ p ∈ t.properties, (ends p).found = [] := List.flatMap_eq_nil_iff.1 hothers.symm
  obtain ⟨es, hes⟩ := Option.isSome_iff_exists.1 hmapping
  obtain ⟨c, hc, -⟩ := Store.entries?_cell hes
  have hsettled : c.settleAll t.leniency ends t.properties = c := by
    have hcell := hafter.cell
    rw [hc, Option.map_some] at hcell
    exact (Option.some.inj hcell).symm
  refine ⟨a, c, rfl, hc, hmapping, strays_clean hparts.stray hc, fun p hp => ⟨(ends p).value, ?_, ?_⟩⟩
  · have hend := hends p hp
    rw [hfound p hp] at hend
    have hleaves := p.2.collect_ofStore.leaves hend
    have hrun : (ends p).run.store = stripped := by
      refine Store.ext_read? fun b => ?_
      by_cases hb : ReflTransGen stripped.Contains (stripped.child (.container a) p.1) (.container b)
      · exact (hafter.below p hp b hb).symm
      · exact (p.2.changedBelow hleaves).outside b hb
    rwa [hrun] at hleaves
  · have hsettle : (c.settleAll t.leniency ends t.properties).settle t.leniency p.1 (ends p).found (ends p).value =
        c.settleAll t.leniency ends t.properties := Cell.settleAll_settled hnames hp
    rwa [hsettled, hfound p hp] at hsettle

/-- What has nothing to save under a key that is there counts as itself. -/
theorem Entries.get?_of_settled {leniency : Leniency} {name : String} {x : Value} {es : List (Key × Value)}
    (h : (Cell.mapping es).settle leniency name [] x = .mapping es) (hsaves : leniency.saves = true)
    (hthere : (get? name es).isSome = true) : get? name es = some x := by
  rw [Cell.settle, if_pos (by simp [hsaves, hthere])] at h
  injection h with h
  rw [← h]
  exact get?_put_self

/-- A type passes without conversions if its properties do, where it leaves a mapping as it is and saves conversions. -/
theorem TypeChecker.idle (hnames : (t.properties.map Prod.fst).Nodup) (hsaves : t.leniency.saves = true) (hv : σ.Unshared v)
    (hdict : ∀ a es, v = .container a → σ.read? a ≠ some (.readOnly es))
    (hfields : ∀ p ∈ t.properties, ∀ {q present parent},
      (Point.property n (ctx.inside t) q present parent p.2 (σ.child v p.1)).Idle resolve σ) :
    (Point.type n ctx path t v).Idle resolve σ := by
  intro h
  obtain ⟨a, c, rfl, hc, hmapping, hclean, hsettled⟩ := TypeChecker.collect_settled hnames hv h
  obtain ⟨es, rfl⟩ : ∃ es, c = .mapping es := by
    rw [Store.entries?_of_read hc] at hmapping
    cases c with
    | mapping es => exact ⟨es, rfl⟩
    | readOnly es => exact absurd hc (hdict a es rfl)
    | _ => cases hmapping
  have hnames' : t.skipping.properties.map Prod.fst = t.properties.map Prod.fst := by
    rw [t.skipping_properties, List.map_map]
    rfl
  refine TypeChecker.collect_idle hc hmapping (by rw [hnames', t.skipping_leniency]; exact hclean) ?_
  rw [t.skipping_properties]
  refine PropertyChecker.collectFields_idle hc (List.forall_mem_map.2 fun p hp => ?_)
  obtain ⟨x, hx, hsettle⟩ := hsettled p hp
  have hself : x = σ.child (.container a) p.1 := by
    unfold Store.child
    cases hunder : σ.under? (.container a) p.1 with
    | none =>
        by_contra hne
        obtain ⟨s, hs, -⟩ := hx { store := σ } rfl
        obtain ⟨text, htext, -⟩ := PropertyChecker.collect_reads hs (by unfold Store.child; rwa [hunder])
        unfold Store.child at htext
        rw [hunder] at htext
        cases htext
    | some w =>
        rw [Store.under?_of_mapping hc] at hunder
        have hget := Entries.get?_of_settled hsettle hsaves (by rw [hunder]; rfl)
        exact Option.some.inj (hget.symm.trans hunder)
  subst hself
  refine ⟨σ.child (.container a) p.1, ?_, ?_⟩
  · have hcontext : ctx.skipping.inside t.skipping = (ctx.inside t).skipping := by
      unfold Context.inside
      rw [t.skipping_leniency]
      rfl
    rw [hcontext]
    exact hfields p hp hx
  · rw [Cell.settle, t.skipping_leniency, if_neg (by simp [Leniency.saves])]

end Types

/-! ## Whole runs -/

section Runs

variable {resolve : Resolver} {t : TypeChecker} {σ : Store} {root : Value}

/-- The mappings that a value holds, at any depth, are no read-only ones. -/
def Store.Dicts (σ : Store) (root : Value) : Prop :=
  ∀ a es, ReflTransGen σ.Contains root (.container a) → σ.read? a ≠ some (.readOnly es)

theorem TypeChecker.not_keeps_of_saves (h : t.leniency.saves = true) : ¬ t.Keeps := by
  rintro ⟨-, hkeeps⟩
  rw [Leniency.saves, hkeeps] at h
  cases h

variable {n : Nat} {ctx : Context} {path : Path} {v : Value} {x : Rule}

/-- Where all types save conversions, a rule that leads to none that does leads to none. -/
theorem Point.Inside.typeless (hsaves : ∀ u, t.Reaches resolve u → u.leniency.saves = true)
    (h : (Point.rule n ctx path x v).Inside (Territory.repeating resolve t)) (hkeeps : x.Keeps resolve) :
    (Point.rule n ctx path x v).Inside (Territory.typeless resolve) := by
  have hnone : ∀ {u}, t.Reaches resolve u → ¬ x.LeadsTo resolve u :=
    fun hreached hleads => TypeChecker.not_keeps_of_saves (hsaves _ hreached) (hkeeps _ hleads)
  obtain ⟨hevery, ⟨c, hc, hx⟩, hreferences⟩ := h
  refine ⟨fun d hd u hu => ?_, ?_, fun ref href => ?_⟩
  · exact hnone ((hevery d hd).2.2 u hu) (.inside hd hu .refl)
  · refine ⟨{ PropertyChecker.ofKind .any with rules := [x] }, fun u hu => ?_, List.mem_singleton_self x⟩
    obtain rfl := List.mem_singleton.1 hu
    exact hnone (hc.2.2 u hx) (.here rfl .refl)
  · by_contra hsome
    obtain ⟨u, hu⟩ := Option.ne_none_iff_exists'.1 hsome
    obtain ⟨w, hw, hnamed⟩ := hreferences ref href
    exact hnone (hw.named hnamed hu) (.named href hu .refl)

/-- **Checks that change nothing pass without conversions**, of types that save them, on data whose items count as themselves.
The induction goes down in budget and in size. -/
theorem Point.idle (hnamed : ∀ ref u, resolve ref = some u → u.Named) (hrepeat : ∀ u, t.Reaches resolve u → u.Repeatable resolve)
    (hsaves : ∀ u, t.Reaches resolve u → u.leniency.saves = true) (hdicts : σ.Dicts root) :
    ∀ p : Point, p.Inside (Territory.repeating resolve t) → p.context.convert = true → p.site.ReadsNoItem resolve σ →
      Below σ root p.value → σ.Unshared p.value → p.Idle resolve σ
  | .type n ctx path u v, hp, hctx, hreads, hbelow, hv => by
      refine TypeChecker.idle hp.2.own (hsaves u hp.1) hv (fun a es hva hread => ?_) fun p hmem {q present parent} => ?_
      · subst hva
        exact hdicts a es (ReflTransGen.mono (fun _ _ => Store.Leads.contains) _ _ hbelow.reaches) hread
      · have hconverts : (ctx.inside u).convert = true := by
          have hboth := hsaves u hp.1
          rw [Leniency.saves, Bool.and_eq_true] at hboth
          exact hboth.2
        refine Point.idle hnamed hrepeat hsaves hdicts (.property n (ctx.inside u) q present parent p.2 (σ.child v p.1)) ?_
          hconverts (hreads.step (.field hmem)) ?_ (hv.child p.1)
        · exact .field (Territory.repeating_closed hnamed hrepeat) hp hmem
        · exact (Store.Within.refl σ).below_under hbelow p.1
  | .property n ctx path present parent c v, hp, hctx, hreads, hbelow, hv => by
      refine PropertyChecker.collect_idle (PropertyChecker.every_iff.1 hp.1).1.1 hctx fun y hy => ?_
      exact Point.idle hnamed hrepeat hsaves hdicts (.rule n ctx path y v) (hp.rule hy) hctx (hreads.step (.rule hy)) hbelow hv
  | .rule n ctx path x v, hp, hctx, hreads, hbelow, hv => by
      have hclosed := Territory.repeating_closed hnamed hrepeat
      obtain ⟨c, hc, hx⟩ := hp.2.1
      refine Rule.idle hctx hv (fun htries => ?_) (fun d hd item hitem => ⟨?_, fun p => ?_⟩)
        (fun ref m u href hm hu => ?_) fun u hu => ?_
      · exact Point.literal _ (hp.typeless hsaves (hc.1.tried x hx htries)) hctx hreads
      · subst hd
        exact hreads.retains (List.mem_singleton_self d) hitem
      · subst hd
        have hmem := List.mem_singleton_self d
        exact Point.idle hnamed hrepeat hsaves hdicts (.property n ctx p true none d item) (hp.included hmem) hctx
          (hreads.step (.element hmem hitem)) ((Store.Within.refl σ).below_item hbelow hitem) (hv.items.1 item hitem)
      · subst href
        exact Point.idle hnamed hrepeat hsaves hdicts (.type m (ctx.enter ref v) path u v) (hp.referent hclosed hu) hctx
          (hreads.step (.referent hu)) hbelow hv
      · subst hu
        exact Point.idle hnamed hrepeat hsaves hdicts (.type n ctx path u v) (hp.inPlace hclosed) hctx (hreads.step .inPlace)
          hbelow hv
termination_by p => (p.budget, p.size)
decreasing_by
  · exact Prod.lex_def.2 (.inr ⟨rfl, TypeChecker.sizeOf_property hmem⟩)
  · exact Prod.lex_def.2 (.inr ⟨rfl, PropertyChecker.sizeOf_rule hy⟩)
  · refine Prod.lex_def.2 (.inr ⟨rfl, ?_⟩)
    simp only [Point.size, hd, Rule.includes.sizeOf_spec, List.cons.sizeOf_spec]
    omega
  · exact Prod.lex_def.2 (.inl (show m < n by omega))
  · refine Prod.lex_def.2 (.inr ⟨rfl, ?_⟩)
    simp only [Point.size, hu, Rule.inlineType.sizeOf_spec]
    omega

/-- A type that skips conversions does the same in both contexts. -/
theorem TypeChecker.skipping_context {f : Follow} :
    t.skipping.collect f ctx.skipping path v = t.skipping.collect f ctx path v := by
  rw [collect_eq, collect_eq]
  rfl

/-- Changes that put in scalars alone leave no read-only mappings but those that were there. -/
theorem Store.Dicts.within {τ : Store} (h : σ.Dicts root) (hthinner : τ.Thinner σ) (hwithin : τ.Within σ) : τ.Dicts root := by
  intro a es ha hes
  obtain ⟨d, hd, hcell⟩ := hwithin.read? hes
  cases hcell
  exact h a es (hthinner.reaches ha) hd

/-- A run that passes leaves what passes without conversions, and stays as it is then. -/
theorem TypeChecker.validate_saved (ht : t.Named) (hnamed : ∀ ref u, resolve ref = some u → u.Named)
    (hrepeat : ∀ u, t.Reaches resolve u → u.Repeatable resolve) (hsaves : ∀ u, t.Reaches resolve u → u.leniency.saves = true)
    {maxDepth : Int} (hv : σ.Unshared v) (hkeys : σ.DistinctKeys) (hdicts : σ.Dicts v)
    (hreads : (Site.type t v).ReadsNoItem resolve σ) (h : (t.validate resolve maxDepth v σ).result = .ok []) :
    let left := (t.validate resolve maxDepth v σ).run.store
    (t.skipping.validate resolve.skipping maxDepth v left).result = .ok [] ∧
      (t.skipping.validate resolve.skipping maxDepth v left).run.store = left := by
  intro left
  have hchanged := t.validate_changed hkeys resolve maxDepth v
  have hthinner : left.Thinner σ := hchanged.thinner Replaces.isScalar
  have hwithin : left.Within σ := Point.leaves_within (p := .whole t maxDepth v) (TypeChecker.validate_leaves_iff.2 ⟨h, rfl⟩)
  have hagain : ((Point.whole t maxDepth v).check resolve).Leaves left [] left :=
    TypeChecker.validate_leaves_iff.2 (TypeChecker.validate_repeats ht hnamed hrepeat hv h)
  have hidle : (Point.whole t maxDepth v).Idle resolve left := by
    refine Point.idle hnamed hrepeat hsaves (hdicts.within hthinner hwithin) (.whole t maxDepth v) ⟨.refl, ht⟩ rfl ?_ (.inr .refl)
      (hthinner.unshared hv)
    exact hreads.changed hchanged Replaces.isScalar hwithin hkeys
  have hskipping := hidle hagain
  rw [TypeChecker.skipping_context] at hskipping
  exact TypeChecker.validate_leaves_iff.1 hskipping

end Runs

/-- **What was saved passes without conversions.** Let all types that a type leads to save conversions, and be ones that can
be applied again. Let a candidate hold no container twice, no container inside of itself and no read-only mappings, and let no
description of elements that the type comes to count a text in an array as another value. If a validation passes, then what it
left passes with the same types and bound when `skipConversions` is set in all of them, and stays as it is. -/
theorem Work.validate_skipping {legal legal' : Capabilities → Prop} {t t' : ObjectType} (ht : t.Built legal)
    (ht' : t'.Built legal') (hskips : t'.definition = t.definition.skipping) {registry registry' : TypeRef → Option ObjectType}
    (hregistry : ∀ ref u, registry ref = some u → u.Built legal) (hregistry' : ∀ ref u, registry' ref = some u → u.Built legal')
    (hsame : ∀ ref, (registry' ref).map ObjectType.definition = (registry ref).map fun u => u.definition.skipping)
    {maxDepth : Option Int} {v : Value} {w : Workspace} {n : Int} (hn : Work.bound? maxDepth w = some n) (hv : w.store.Unshared v)
    (hkeys : w.store.DistinctKeys) (hdicts : w.store.Dicts v) :
    let resolve : Resolver := fun ref => (registry ref).map ObjectType.checker
    let resolve' : Resolver := fun ref => (registry' ref).map ObjectType.checker
    let first := (Work.validate t resolve maxDepth v).ending w
    let second := (Work.validate t' resolve' maxDepth v).ending first.2
    (∀ u, t.checker.Reaches resolve u → u.leniency.saves = true ∧ u.Repeatable resolve) →
      (Site.type t.checker v).ReadsNoItem resolve w.store → first.1 = .ok () →
        second.1 = .ok () ∧ second.2.store = first.2.store := by
  intro resolve resolve' first second htypes hreads hfirst
  have hnamed : ∀ ref u, resolve ref = some u → u.Named := by
    intro ref u hu
    obtain ⟨s, hs, rfl⟩ := Option.map_eq_some_iff.1 hu
    exact (hregistry ref s hs).named
  have hresolve : resolve' = resolve.skipping := by
    funext ref
    have hdefinition := hsame ref
    change (registry' ref).map ObjectType.checker = ((registry ref).map ObjectType.checker).map TypeChecker.skipping
    cases hs : registry ref with
    | none =>
        rw [hs] at hdefinition
        rw [Option.map_eq_none_iff.1 hdefinition]
        rfl
    | some s =>
        rw [hs] at hdefinition
        obtain ⟨s', hs', hskip⟩ := Option.map_eq_some_iff.1 hdefinition
        rw [hs', Option.map_some, Option.map_some, Option.map_some,
          (hregistry ref s hs).checker_skipping (hregistry' ref s' hs') hskip]
  have hn' : Work.bound? maxDepth first.2 = some n := Work.validate_bound hn
  have hstore : first.2.store = (t.checker.validate resolve n v w.store).run.store := Work.validate_store hn
  have hskipping := TypeChecker.validate_saved ht.named hnamed (fun u hu => (htypes u hu).2) (fun u hu => (htypes u hu).1) hv
    hkeys hdicts hreads ((Work.validate_ok_iff hn).1 hfirst)
  rw [← hstore, ← hresolve, ← ht.checker_skipping ht' hskips] at hskipping
  exact ⟨(Work.validate_ok_iff hn').2 hskipping.1, (Work.validate_store hn').trans hskipping.2⟩

/-! Types that save conversions, and the same types when they skip them. -/

def castingData (skips : Bool) (properties : List (String × Datum)) : Datum :=
  .record [("saveConversions", .bool true), ("skipConversions", .bool skips), ("properties", .record properties)]

def castingType (skips : Bool) (properties : List (String × Datum))
    (h : (ObjectType.ofDatum? (castingData skips properties)).isSome = true) : ObjectType :=
  (ObjectType.ofDatum? (castingData skips properties)).get h

/-- The types in place of a checker save conversions. -/
def PropertyChecker.savesInPlace (c : PropertyChecker) : Bool :=
  c.rules.all fun x => match x with
    | .inlineType t => t.leniency.saves
    | _ => true

/-- A type saves conversions, and so do the types in place inside of it. -/
def TypeChecker.savesInPlace (t : TypeChecker) : Bool :=
  t.leniency.saves && (PropertyChecker.checkersOfFields t.properties).all (·.savesInPlace)

/-- Types that save conversions lead to such types, if they do so in place and behind references. -/
theorem TypeChecker.Reaches.saves {resolve : Resolver} {t u : TypeChecker} (h : t.Reaches resolve u) (ht : t.savesInPlace = true)
    (hresolve : ∀ ref w, resolve ref = some w → w.savesInPlace = true) : u.leniency.saves = true := by
  have hsplit : ∀ {w : TypeChecker}, w.savesInPlace = true → w.leniency.saves = true ∧ w.Every (·.savesInPlace = true) :=
    fun hw => ⟨(Bool.and_eq_true_iff.1 hw).1, List.all_eq_true.1 (Bool.and_eq_true_iff.1 hw).2⟩
  cases h with
  | refl => exact (hsplit ht).1
  | inside hreached hc hmem =>
      have hevery := (hsplit ht).2.reached (fun ref w hw => (hsplit (hresolve ref w hw)).2) hreached
      exact List.all_eq_true.1 (hevery _ hc) _ hmem
  | named _ _ found => exact (hsplit (hresolve _ _ found)).1

def shelfProperties (skips : Bool) : List (String × Datum) :=
  [("size", Probe.part "Number" []), ("part", .record [("type", .text "Object"), ("typeArgs", .list [castingData skips
    [("done", Probe.part "Boolean" []), ("sizes", Probe.part "Array" [("includes", [Probe.part "Number" []])])]])])]

def shelfType (skips : Bool) : ObjectType := castingType skips (shelfProperties skips) (by cases skips <;> decide +kernel)

/-- A mapping with a numeral, and with a part that has a text for a truth value, and a list of numbers. -/
def shelfWork : Workspace where
  clock := ⟨default, ""⟩
  files := ⟨"/", []⟩
  store := ⟨#[.mapping [(.text "size", .scalar (.text "5")), (.text "part", .container 1)],
    .mapping [(.text "done", .scalar (.text "true")), (.text "sizes", .container 2)], .list [.scalar (.int 1)]]⟩

theorem shelfWork_distinctKeys : shelfWork.store.DistinctKeys := by
  intro v es hes
  match v, hes with
  | .container 0, hes | .container 1, hes =>
      cases hes
      refine List.pairwise_pair.2 ?_
      decide +kernel
  | .container 2, hes | .container (a + 3), hes => cases hes

theorem shelfWork_dicts : shelfWork.store.Dicts (.container 0) := by
  intro a es _ hes
  match a, hes with
  | 0, hes | 1, hes | 2, hes | a + 3, hes => cases hes

theorem shelfWork_readsNoItem (resolve : Resolver) (q : Site) : q.ReadsNoItem resolve shelfWork.store := by
  intro x v _ d _ text htext
  match v, htext with
  | .scalar y, htext => cases htext
  | .container 0, htext | .container 1, htext | .container (a + 3), htext => cases htext
  | .container 2, htext => cases List.mem_singleton.1 htext

/-- A number and a truth value are saved, and no conversions are needed after that. -/
theorem shelfType_skipping :
    let first := (Work.validate (shelfType false) (fun _ => none) (some 4) (.container 0)).ending shelfWork
    let second := (Work.validate (shelfType true) (fun _ => none) (some 4) (.container 0)).ending first.2
    first.1 = .ok () ∧ first.2.store.under? (.container 0) "size" = some (.scalar (.int 5)) ∧
      first.2.store.under? (.container 1) "done" = some (.scalar (.bool true)) ∧ second.1 = .ok () ∧
      second.2.store = first.2.store := by
  intro first second
  have hfirst : first.1 = .ok () := Except.isOk_iff.1 (by decide +kernel)
  refine ⟨hfirst, by decide +kernel, by decide +kernel, ?_⟩
  have hbuilt : ∀ skips, (shelfType skips).Built (· = .standard) := fun _ => ObjectType.ofDatum?_built (Option.some_get _).symm
  have hskips : (shelfType true).definition = (shelfType false).definition.skipping := by with_unfolding_all rfl
  have hnone : ∀ ref u, (fun _ : TypeRef => (none : Option ObjectType)) ref = some u → u.Built (· = .standard) :=
    fun _ _ found => by cases found
  have hbound : Work.bound? (some 4) shelfWork = some 4 := rfl
  have hv : shelfWork.store.Unshared (.container 0) := Store.IsChain.unshared (by decide +kernel) _
  have hsaves : (shelfType false).checker.savesInPlace = true := by decide +kernel
  have hsingle : (PropertyChecker.checkersOfFields (shelfType false).checker.properties).all (·.isSingle) = true := by
    decide +kernel
  refine Work.validate_skipping (hbuilt false) (hbuilt true) hskips hnone hnone (fun _ => rfl) hbound hv shelfWork_distinctKeys
    shelfWork_dicts (fun u hu => ⟨hu.saves hsaves (fun _ _ found => by cases found), ?_⟩) (shelfWork_readsNoItem _ _) hfirst
  exact TypeChecker.repeatable_of_single (List.all_eq_true.1 hsingle) hu

/-! Types that save conversions and pass a mapping, but do not pass what they left of it when they skip conversions. -/

def wordsType (skips : Bool) : ObjectType :=
  castingType skips [("x", Probe.part "String" []), ("y", Probe.part "Any" [])] (by cases skips <;> decide +kernel)

def pairsType (skips : Bool) : ObjectType :=
  castingType skips [("x", Probe.part "Number" []), ("y", Probe.part "Any" [("required", [])])]
    (by cases skips <;> decide +kernel)

def castingTypes (skips : Bool) : TypeRef → Option ObjectType := fun ref =>
  if ref.name = "Words" then some (wordsType skips) else if ref.name = "Pairs" then some (pairsType skips) else none

theorem castingTypes_skipping (ref : TypeRef) : (castingTypes true ref).map ObjectType.definition =
    (castingTypes false ref).map fun u => u.definition.skipping := by
  have hwords : (wordsType true).definition = (wordsType false).definition.skipping := by with_unfolding_all rfl
  have hpairs : (pairsType true).definition = (pairsType false).definition.skipping := by with_unfolding_all rfl
  unfold castingTypes
  split
  · exact congrArg some hwords
  split
  · exact congrArg some hpairs
  · rfl

def castingResolver (skips : Bool) : Resolver := fun ref => (castingTypes skips ref).map ObjectType.checker

theorem castingResolver_saves {ref : TypeRef} {u : TypeChecker} (h : castingResolver false ref = some u) :
    u.savesInPlace = true := by
  obtain ⟨t, ht, rfl⟩ := Option.map_eq_some_iff.1 h
  unfold castingTypes at ht
  split at ht
  · cases ht
    decide +kernel
  split at ht
  · cases ht
    decide +kernel
  · cases ht

def Cell.isReadOnly : Cell → Bool
  | .readOnly _ => true
  | _ => false

theorem Store.dicts_of_cells {σ : Store} {root : Value} (h : σ.cells.toList.all (!·.isReadOnly) = true) : σ.Dicts root := by
  intro a es _ hes
  have hcell := List.all_eq_true.1 h _ (Array.mem_toList_iff.2 (Array.mem_of_getElem? hes))
  cases hcell

/-- Whether a type that saves conversions, as all types do that it leads to, passes a mapping without shared or cyclic containers
and read-only mappings, and does not pass what this leaves when all the types skip conversions. -/
def Work.NeedsConversions (t : Bool → ObjectType) (w : Workspace) : Prop :=
  let first := (Work.validate (t false) (castingResolver false) (some 64) (.container 0)).ending w
  (t true).definition = (t false).definition.skipping ∧
    (∀ u, (t false).checker.Reaches (castingResolver false) u → u.leniency.saves = true) ∧
    w.store.Unshared (.container 0) ∧ w.store.Dicts (.container 0) ∧ first.1 = .ok () ∧
    ((Work.validate (t true) (castingResolver true) (some 64) (.container 0)).ending first.2).1 ≠ .ok ()

theorem Work.needsConversions_of_isOk {t : Bool → ObjectType} {w : Workspace}
    (hskips : (t true).definition = (t false).definition.skipping) (hsaves : (t false).checker.savesInPlace = true)
    (hw : w.store.IsChain) (hdicts : w.store.cells.toList.all (!·.isReadOnly) = true)
    (hfirst : ((Work.validate (t false) (castingResolver false) (some 64) (.container 0)).ending w).1.isOk = true)
    (hsecond : ((Work.validate (t true) (castingResolver true) (some 64) (.container 0)).ending
      ((Work.validate (t false) (castingResolver false) (some 64) (.container 0)).ending w).2).1.isOk = false) :
    Work.NeedsConversions t w := by
  refine ⟨hskips, fun u hu => hu.saves hsaves fun _ _ => castingResolver_saves, hw.unshared _, Store.dicts_of_cells hdicts,
    Except.isOk_iff.1 hfirst, fun hok => ?_⟩
  rw [Except.isOk_iff.2 hok] at hsecond
  cases hsecond

def numeralsType (skips : Bool) : ObjectType :=
  castingType skips [("a", Probe.part "Array" [("includes", [Probe.part "Number" []])])] (by cases skips <;> decide +kernel)

def onlyTextType (skips : Bool) : ObjectType :=
  castingType skips [("a", Probe.part "Number" [("valid", [.text "5"])])] (by cases skips <;> decide +kernel)

def triedType (skips : Bool) : ObjectType :=
  castingType skips [("a", Probe.part "Array" [("includes", [Probe.part "Object" [namedRule "Words"],
    Probe.part "Object" [namedRule "Pairs"]])])] (by cases skips <;> decide +kernel)

def bothType (skips : Bool) : ObjectType :=
  castingType skips [("a", Probe.part "Object" [namedRule "Words", namedRule "Pairs"])] (by cases skips <;> decide +kernel)

def denyingType (skips : Bool) : ObjectType :=
  castingType skips [("a", Probe.part "Object" [("deny", [.record [("x", .int 5), ("y", .int 1)]]), namedRule "Pairs"])]
    (by cases skips <;> decide +kernel)

def numerals : Workspace where
  clock := ⟨default, ""⟩
  files := ⟨"/", []⟩
  store := ⟨#[.mapping [(.text "a", .container 1)], .list [.scalar (.text "5")]]⟩

def wordsPair : Workspace where
  clock := ⟨default, ""⟩
  files := ⟨"/", []⟩
  store := ⟨#[.mapping [(.text "a", .container 1)], .mapping [(.text "x", .scalar (.text "5")), (.text "y", .scalar (.int 1))]]⟩

def wordsItem : Workspace where
  clock := ⟨default, ""⟩
  files := ⟨"/", []⟩
  store := ⟨#[.mapping [(.text "a", .container 1)], .list [.container 2], .mapping [(.text "x", .scalar (.text "5"))]]⟩

/-- What was saved need not pass without conversions: where an item of an array was converted, where only the text is allowed
that is saved as a number, where a description that is tried converts what another one is met by, where a rule converts what
the one before it asks for, and where a property denies what a rule leaves. -/
theorem Work.needsConversions :
    (∀ ref, (castingTypes true ref).map ObjectType.definition = (castingTypes false ref).map fun u => u.definition.skipping) ∧
    Work.NeedsConversions numeralsType numerals ∧ Work.NeedsConversions onlyTextType numeral ∧
    Work.NeedsConversions triedType wordsItem ∧ Work.NeedsConversions bothType wordsPair ∧
    Work.NeedsConversions denyingType wordsPair := by
  refine ⟨castingTypes_skipping, ?_, ?_, ?_, ?_, ?_⟩ <;>
    exact Work.needsConversions_of_isOk (by with_unfolding_all rfl) (by decide +kernel) (by decide +kernel) (by decide +kernel)
      (by decide +kernel) (by decide +kernel)

end ShapeCheck
