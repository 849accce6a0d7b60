import ShapeCheck.Proofs.Repeating

/-!
# Types that are applied again

What a type does to a mapping by itself, it does once: keys that are not declared are stripped (`strays_clean`), and what
declared keys count as is saved (`Cell.settleAll_settled`). So a type passes again on what it left, if its properties pass
again on what they left and on what was saved: `TypeChecker.collect_repeats`.
-/

namespace ShapeCheck

open Relation

/-! ## Keys that are not declared -/

/-- No entry of a content is taken out or faulted because it is not declared. -/
def Cell.Clean (leniency : Leniency) (names : List String) (c : Cell) : Prop :=
  (leniency.allowExtraKeys = true ∧ ¬ (leniency.stripExtraKeys = true ∧ ∃ es, c = .mapping es)) ∨
    ∀ es, c.entries? = some es → ∀ e ∈ es, isStray leniency names e = false

section Strays

variable {leniency : Leniency} {names : List String} {path : Path} {a : Address} {r s : Run} {c : Cell}

/-- Looking for keys that are not declared leaves none, if it finds none. -/
theorem strays_clean (h : (strays leniency names path (.container a)).ending r = (.ok [], s)) (hc : s.store.read? a = some c) :
    c.Clean leniency names := by
  unfold strays at h
  rw [Check.ending_bind_ok (Check.ending_store r)] at h
  dsimp only at h
  split at h
  · next b es hstrip hb hes =>
    cases hb
    cases h
    rw [Store.read?_write_same _ _ _ (Store.lt_of_read? hes)] at hc
    cases hc
    refine .inr fun fs hfs e he => ?_
    cases hfs
    simpa using (List.mem_filter.1 he).2
  · next hstays =>
    rw [Check.ending_ofExcept] at h
    obtain ⟨hnone, rfl⟩ := Prod.mk.inj h
    unfold strayFindings at hnone
    dsimp only at hnone
    split at hnone
    · next hallow =>
      refine .inl ⟨hallow, ?_⟩
      rintro ⟨hstrip, es, rfl⟩
      exact hstays _ _ hstrip rfl hc
    split at hnone
    · cases hnone
    · refine .inr fun es hes e he => ?_
      rw [Store.entries?_of_read hc, hes] at hnone
      have hfilter := List.map_eq_nil_iff.1 (Except.ok.inj hnone)
      simpa using List.filter_eq_nil_iff.1 hfilter e he

/-- Where there are none, looking for keys that are not declared does nothing. -/
theorem strays_idle (hc : r.store.read? a = some c) (h : c.Clean leniency names) :
    (strays leniency names path (.container a)).ending r = (.ok [], r) := by
  unfold strays
  rw [Check.ending_bind_ok (Check.ending_store r)]
  dsimp only
  split
  · next b es hstrip hb hes =>
    cases hb
    obtain rfl : c = .mapping es := Option.some.inj (hc.symm.trans hes)
    rcases h with ⟨_, hnot⟩ | hclean
    · exact absurd ⟨hstrip, es, rfl⟩ hnot
    · have hfilter : es.filter (fun e => !isStray leniency names e) = es :=
        List.filter_eq_self.2 fun e he => by rw [hclean es rfl e he]; rfl
      have hsame : r.store.write a (.mapping (es.filter fun e => !isStray leniency names e)) = r.store := by
        rw [hfilter, Store.write_same hc]
      rw [Store.entries?_of_read hc, Check.ending_bind_ok (Check.ending_write ..)]
      change (Except.ok [], { r with store := r.store.write a (.mapping (es.filter fun e => !isStray leniency names e)) }) = _
      rw [hsame]
  · rw [Check.ending_ofExcept, Store.entries?_of_read hc]
    unfold strayFindings
    dsimp only
    rcases h with ⟨hallow, _⟩ | hclean
    · rw [if_pos hallow]
    · have hfilter : (c.entries?.getD []).filter (isStray leniency names) = [] := by
        refine List.filter_eq_nil_iff.2 fun e he => ?_
        cases hes : c.entries? with
        | none =>
            rw [hes] at he
            cases he
        | some es =>
            rw [hes] at he
            simp [hclean es hes e he]
      rw [hfilter]
      split <;> rfl

end Strays

/-! ## Keys whose conversions were saved -/

section Settled

variable {leniency : Leniency} {name : String} {found : Findings} {x : Value} {c : Cell}

/-- What is saved already is not saved again. -/
theorem Cell.settle_settle :
    (c.settle leniency name found x).settle leniency name found x = c.settle leniency name found x := by
  cases c with
  | mapping es =>
      by_cases hsave : (leniency.saves && (Entries.get? name es).isSome && found.isEmpty) = true
      · have hself : Entries.get? name (Entries.put (.text name) x es) = some x := Entries.get?_put_self
        rw [Bool.and_eq_true, Bool.and_eq_true] at hsave
        simp [settle, hsave, hself, Entries.put_same hself]
      · simp [settle, hsave]
  | _ => rfl

/-- Under the key stands what was saved, or what stood there. -/
theorem Cell.settle_get?_self :
    (c.settle leniency name found x).entries?.bind (Entries.get? name) = c.entries?.bind (Entries.get? name) ∨
      (c.settle leniency name found x).entries?.bind (Entries.get? name) = some x ∧ leniency.saves = true ∧
        (c.entries?.bind (Entries.get? name)).isSome = true := by
  cases c with
  | mapping es =>
      rw [settle]
      split
      · next hsave =>
        rw [Bool.and_eq_true, Bool.and_eq_true] at hsave
        exact .inr ⟨Entries.get?_put_self, hsave.1.1, hsave.1.2⟩
      · exact .inl rfl
  | _ => exact .inl rfl

/-- An entry after something was saved is the one that was saved, or was there before. -/
theorem Cell.mem_settle {es : List (Key × Value)} (hes : (c.settle leniency name found x).entries? = some es) {e : Key × Value}
    (he : e ∈ es) : e.1 = .text name ∨ ∃ fs, c.entries? = some fs ∧ e ∈ fs := by
  cases c with
  | mapping fs =>
      rw [settle] at hes
      split at hes
      · cases hes
        exact (Entries.mem_put he).imp (congrArg Prod.fst) fun he => ⟨fs, rfl, he⟩
      · cases hes
        exact .inr ⟨_, rfl, he⟩
  | _ => exact .inr ⟨es, hes, he⟩

variable {ends : String × PropertyChecker → FieldEnd} {done : List (String × PropertyChecker)} {p : String × PropertyChecker}

theorem Cell.settleAll_settle (h : name ∉ done.map Prod.fst) :
    (c.settleAll leniency ends done).settle leniency name found x = (c.settle leniency name found x).settleAll leniency ends done := by
  induction done generalizing c with
  | nil => rfl
  | cons q rest ih =>
      rw [List.map_cons, List.mem_cons, not_or] at h
      unfold settleAll at ih ⊢
      rw [List.foldl_cons, List.foldl_cons, ih h.2, Cell.settle_comm (Ne.symm h.1)]

/-- What was saved under some keys is not saved again under one of them. -/
theorem Cell.settleAll_settled (hnames : (done.map Prod.fst).Nodup) (hp : p ∈ done) :
    (c.settleAll leniency ends done).settle leniency p.1 (ends p).found (ends p).value = c.settleAll leniency ends done := by
  induction done generalizing c with
  | nil => cases hp
  | cons q rest ih =>
      rw [List.map_cons, List.nodup_cons] at hnames
      change ((c.settle leniency q.1 (ends q).found (ends q).value).settleAll leniency ends rest).settle leniency p.1 (ends p).found
        (ends p).value = (c.settle leniency q.1 (ends q).found (ends q).value).settleAll leniency ends rest
      rcases List.mem_cons.1 hp with rfl | hp
      · rw [Cell.settleAll_settle hnames.1, Cell.settle_settle]
      · exact ih hnames.2 hp

/-- Under one of some keys with different names stands what saving it alone leaves there. -/
theorem Cell.settleAll_get?_mem (hnames : (done.map Prod.fst).Nodup) (hp : p ∈ done) :
    (c.settleAll leniency ends done).entries?.bind (Entries.get? p.1) =
      (c.settle leniency p.1 (ends p).found (ends p).value).entries?.bind (Entries.get? p.1) := by
  induction done generalizing c with
  | nil => cases hp
  | cons q rest ih =>
      rw [List.map_cons, List.nodup_cons] at hnames
      change ((c.settle leniency q.1 (ends q).found (ends q).value).settleAll leniency ends rest).entries?.bind (Entries.get? p.1) = _
      rcases List.mem_cons.1 hp with rfl | hp
      · exact Cell.settleAll_get? hnames.1 _
      · have hne : q.1 ≠ p.1 := fun heq => hnames.1 (heq ▸ List.mem_map_of_mem hp)
        rw [ih hnames.2 hp, Cell.settle_comm hne, Cell.settle_get?_other hne]

theorem Cell.mem_settleAll {es : List (Key × Value)} (hes : (c.settleAll leniency ends done).entries? = some es) {e : Key × Value}
    (he : e ∈ es) : (∃ p ∈ done, e.1 = .text p.1) ∨ ∃ fs, c.entries? = some fs ∧ e ∈ fs := by
  induction done generalizing c with
  | nil => exact .inr ⟨es, hes, he⟩
  | cons q rest ih =>
      rcases ih hes with ⟨p, hp, hkey⟩ | ⟨fs, hfs, he⟩
      · exact .inl ⟨p, List.mem_cons_of_mem _ hp, hkey⟩
      · exact (Cell.mem_settle hfs he).imp (fun hkey => ⟨q, List.mem_cons_self .., hkey⟩) id

/-- Saving makes no mapping. -/
theorem Cell.settleAll_mapping {es : List (Key × Value)} (h : c.settleAll leniency ends done = .mapping es) :
    ∃ fs, c = .mapping fs := by
  induction done generalizing c with
  | nil => exact ⟨es, h⟩
  | cons q rest ih =>
      obtain ⟨fs, hfs⟩ := ih h
      cases c with
      | mapping gs => exact ⟨gs, rfl⟩
      | _ => cases hfs

/-- Saving under declared keys leaves no key that is not declared. -/
theorem Cell.Clean.settleAll {names : List String} (h : c.Clean leniency names) (hdone : ∀ p ∈ done, p.1 ∈ names) :
    (c.settleAll leniency ends done).Clean leniency names := by
  rcases h with ⟨hallow, hnot⟩ | hclean
  · refine .inl ⟨hallow, fun ⟨hstrip, es, hes⟩ => hnot ⟨hstrip, ?_⟩⟩
    exact Cell.settleAll_mapping hes
  · refine .inr fun es hes e he => ?_
    rcases Cell.mem_settleAll hes he with ⟨p, hp, hkey⟩ | ⟨fs, hfs, he⟩
    · have hdeclared : p.1 ∈ names := hdone p hp
      simp [isStray, hkey, Key.text, Key.text?, hdeclared]
    · exact hclean fs hfs e he

end Settled

/-! ## Properties of a mapping -/

section Fields

variable {resolve : Resolver} {n : Nat} {ctx : Context} {path : Path} {leniency : Leniency} {σ τ : Store} {a : Address}
  {ends : String × PropertyChecker → FieldEnd} {ps : List (String × PropertyChecker)} {p : String × PropertyChecker}

/-- What a mapping holds depends on its entries alone. -/
theorem Store.holds_congr (h : τ.read? a = σ.read? a) (hmapping : (σ.entries? (.container a)).isSome = true) (d : Datum) :
    τ.holds (.container a) d = σ.holds (.container a) d := by
  have hentries := Store.entries?_congr (v := .container a) h
  obtain ⟨es, hes⟩ := Option.isSome_iff_exists.1 hmapping
  unfold Store.holds
  rw [hentries, hes]

theorem Store.unshared_scalar (y : Scalar) : σ.Unshared (.scalar y) := by
  refine ⟨fun w hw hcycle => ?_, fun ha => absurd ha Store.not_reaches_scalar⟩
  rcases ReflTransGen.cases_head hw with rfl | ⟨_, hcontains, _⟩
  · obtain ⟨_, hcontains, _⟩ := TransGen.head'_iff.1 hcycle
    exact Store.not_contains_scalar hcontains
  · exact Store.not_contains_scalar hcontains

theorem Store.Unshared.child {v : Value} (h : σ.Unshared v) (name : String) : σ.Unshared (σ.child v name) := by
  unfold Store.child
  cases hw : σ.under? v name with
  | none => exact Store.unshared_scalar _
  | some w => exact h.of_reaches (.single (Store.contains_under hw))

/-- After some keys were checked, there stands under one of them what stood there, or what it was saved as. -/
theorem Store.After.under?_mem (h : σ.After a leniency ends ps τ) (hnames : (ps.map Prod.fst).Nodup) (hp : p ∈ ps) :
    τ.under? (.container a) p.1 = σ.under? (.container a) p.1 ∨
      τ.under? (.container a) p.1 = some (ends p).value ∧ leniency.saves = true ∧ (σ.under? (.container a) p.1).isSome = true := by
  have hcell := h.cell
  unfold Store.under?
  cases hc : σ.read? a with
  | none =>
      rw [hc] at hcell
      unfold Store.entries?
      rw [show τ.cell? (.container a) = none from hcell, show σ.cell? (.container a) = none from hc]
      exact .inl rfl
  | some c =>
      rw [hc] at hcell
      rw [Store.entries?_of_read hcell, Store.entries?_of_read hc, Cell.settleAll_get?_mem hnames hp]
      exact Cell.settle_get?_self

/-- The check of what stands under a key of a mapping. -/
def PropertyChecker.under (f : Follow) (ctx : Context) (path : Path) (σ : Store) (v : Value) (p : String × PropertyChecker) :
    Check (Findings × Value) :=
  p.2.collect f ctx (path.key p.1) (σ.under? v p.1).isSome (some v) (σ.child v p.1)

section After

variable (h : σ.After a leniency ends ps τ) (hmapping : (σ.entries? (.container a)).isSome = true)
  (hfirst : (PropertyChecker.under (follow resolve n) ctx path σ (.container a) p).Leaves σ ([], (ends p).value) (ends p).run.store)

include h hmapping hfirst

/-- A key passes again after it and others were checked, where the same value stands under it as before. -/
theorem Store.After.under_same (hσ : σ.Unshared (.container a)) (hp : p ∈ ps)
    (hagain : p.2.Again (follow resolve n) ctx (path.key p.1) (σ.under? (.container a) p.1).isSome (some (.container a))
      (σ.child (.container a) p.1) σ)
    (hsame : τ.under? (.container a) p.1 = σ.under? (.container a) p.1) :
    (PropertyChecker.under (follow resolve n) ctx path τ (.container a) p).Leaves τ ([], (ends p).value) τ := by
  have hchanged := p.2.changedBelow hfirst
  have hleft : ∀ d, (ends p).run.store.holds (.container a) d = σ.holds (.container a) d :=
    Store.holds_congr (hchanged.outside a (hσ.not_child p.1)) hmapping
  have hbeside : ∀ v ∈ some (Value.container a), ∀ d, (ends p).run.store.holds v d = σ.holds v d :=
    fun v hv d => Option.mem_some.1 hv ▸ hleft d
  have hchildren : τ.child (.container a) p.1 = σ.child (.container a) p.1 := by
    unfold Store.child
    rw [hsame]
  unfold PropertyChecker.under
  rw [hsame, hchildren]
  refine p.2.leaves_elsewhere (hagain _ _ hfirst hbeside) (h.size.trans hchanged.size.symm) (fun b hb => ?_) fun v hv d => ?_
  · exact h.below p hp b (hchanged.closed b hb)
  · obtain rfl := Option.mem_some.1 hv
    rw [h.holds hmapping d, hleft d]

/-- A key passes again after what stood under it, a text, was saved as what it counts as. -/
theorem Store.After.under_saved {w : Value} (hsteady : p.2.Steady) (hw : σ.under? (.container a) p.1 = some w)
    (hne : (ends p).value ≠ w) (hsaved : τ.under? (.container a) p.1 = some (ends p).value) :
    (PropertyChecker.under (follow resolve n) ctx path τ (.container a) p).Leaves τ ([], (ends p).value) τ := by
  unfold PropertyChecker.under Store.child at hfirst ⊢
  rw [hw] at hfirst
  rw [hsaved]
  obtain ⟨s, hs, _⟩ := hfirst { store := σ } rfl
  obtain ⟨text, rfl, hreads⟩ := PropertyChecker.collect_reads hs hne
  obtain ⟨y, hy⟩ := hreads.scalar
  refine p.2.leaves_elsewhere (PropertyChecker.collect_read hsteady hne hfirst) h.size (fun b hb => ?_) fun v hv d => ?_
  · rw [hy] at hb
    exact absurd hb Store.not_reaches_scalar
  · obtain rfl := Option.mem_some.1 hv
    exact h.holds hmapping d

/-- A key of a mapping passes again after it and others were checked. -/
theorem Store.After.under_again (hσ : σ.Unshared (.container a)) (hnames : (ps.map Prod.fst).Nodup) (hp : p ∈ ps)
    (hsteady : leniency.saves = true → p.2.Steady)
    (hagain : p.2.Again (follow resolve n) ctx (path.key p.1) (σ.under? (.container a) p.1).isSome (some (.container a))
      (σ.child (.container a) p.1) σ) :
    (PropertyChecker.under (follow resolve n) ctx path τ (.container a) p).Leaves τ ([], (ends p).value) τ := by
  rcases h.under?_mem hnames hp with hsame | ⟨hsaved, hsaves, hpresent⟩
  · exact h.under_same hmapping hfirst hσ hp hagain hsame
  obtain ⟨w, hw⟩ := Option.isSome_iff_exists.1 hpresent
  by_cases hne : (ends p).value = w
  · exact h.under_same hmapping hfirst hσ hp hagain (by rw [hsaved, hw, hne])
  · exact h.under_saved hmapping hfirst (hsteady hsaves) hw hne hsaved

end After

/-- Where what a key counts as stands under it, saving it changes nothing. -/
theorem saveConversion_idle {c : Cell} {name : String} {x : Value} (hc : τ.read? a = some c)
    (hname : (τ.under? (.container a) name).isSome = true) (hsettled : c.settle leniency name [] x = c) :
    (saveConversion leniency (.container a) name x).Leaves τ () τ := by
  rintro r rfl
  refine ⟨_, saveConversion_settles hc hname, ?_⟩
  rw [hsettled, Store.write_same hc]

/-- A run over keys of which each one passes, leaves the store as it is and has nothing to save does so too. -/
theorem PropertyChecker.collectFields_idle {c : Cell} (hc : τ.read? a = some c)
    (h : ∀ p ∈ ps, ∃ x, (PropertyChecker.under (follow resolve n) ctx path τ (.container a) p).Leaves τ ([], x) τ ∧
      c.settle leniency p.1 [] x = c) :
    (PropertyChecker.collectFields (follow resolve n) ctx path leniency (.container a) ps).Leaves τ [] τ := by
  induction ps with
  | nil =>
      rw [PropertyChecker.collectFields]
      exact Check.leaves_pure.2 ⟨rfl, rfl⟩
  | cons p rest ih =>
      rw [List.forall_mem_cons] at h
      obtain ⟨⟨x, hx, hsettled⟩, hrest⟩ := h
      have hsplit : p :: rest = [p] ++ rest := rfl
      rw [hsplit, PropertyChecker.collectFields_append]
      refine Check.Leaves.append ?_ (ih hrest)
      obtain ⟨name, d⟩ := p
      rw [PropertyChecker.collectFields_singleton, Check.leaves_store]
      refine hx.bind ?_
      dsimp only
      split
      · next hsave =>
        rw [Bool.and_eq_true] at hsave
        exact (saveConversion_idle hc hsave.1 hsettled).bind (Check.leaves_pure.2 ⟨rfl, rfl⟩)
      · exact Check.leaves_pure.2 ⟨rfl, rfl⟩

/-- A mapping of which there is nothing to strip passes as its declared keys do. -/
theorem TypeChecker.collect_idle {t : TypeChecker} {c : Cell} (hc : τ.read? a = some c)
    (hmapping : (τ.entries? (.container a)).isSome = true) (hclean : c.Clean t.leniency (t.properties.map Prod.fst))
    (hfields : (PropertyChecker.collectFields (follow resolve n) (ctx.inside t) path t.leniency (.container a)
      t.properties).Leaves τ [] τ) :
    (t.collect (follow resolve n) ctx path (.container a)).Leaves τ [] τ := by
  rintro r rfl
  obtain ⟨s, hs, hstore⟩ := hfields r rfl
  have hsome : ¬ (r.store.entries? (.container a)).isNone = true := by
    rw [← Option.not_isSome, hmapping]
    nofun
  refine ⟨s, ?_, hstore⟩
  rw [collect_eq, Check.ending_bind_ok (Check.ending_store r), if_neg hsome,
    Check.ending_bind_ok (strays_idle hc hclean), Check.ending_bind_ok hs]
  rfl

end Fields

/-- **A type passes again** on what it left, if its properties do: of what it stripped and saved, nothing is left to do. -/
theorem TypeChecker.collect_repeats {resolve : Resolver} {n : Nat} {ctx : Context} {path : Path} {t : TypeChecker}
    {σ : Store} {v : Value} (hnames : (t.properties.map Prod.fst).Nodup)
    (hsteady : t.leniency.saves = true → ∀ p ∈ t.properties, p.2.Steady)
    (hagain : ∀ p ∈ t.properties, ∀ {q present parent w ρ}, ρ.Unshared w →
      p.2.Again (follow resolve n) (ctx.inside t) q present parent w ρ) (hv : σ.Unshared v) :
    (t.collect (follow resolve n) ctx path v).Repeats σ [] := by
  intro τ h
  obtain ⟨s, hs, rfl⟩ := h { store := σ } rfl
  by_cases hmapping : (σ.entries? v).isSome = true
  · obtain ⟨a, rfl⟩ := Store.entries?_eq_some (Option.get_mem hmapping)
    obtain ⟨extra, others, stripped, hparts, hnil⟩ := TypeChecker.collect_parts (r := { store := σ }) hv hmapping hs
    obtain ⟨rfl, rfl⟩ := List.append_eq_nil_iff.1 hnil.symm
    obtain ⟨hends, hothers, hafter⟩ := PropertyChecker.collectFields_after hparts.unshared hparts.mapping hnames rfl hparts.fields
    generalize PropertyChecker.fieldEnd (follow resolve n) (ctx.inside t) path stripped (.container a) = ends at hends hothers hafter
    have hfound : ∀ p ∈ t.properties, (ends p).found = [] := List.flatMap_eq_nil_iff.1 hothers.symm
    obtain ⟨es, hes⟩ := Option.isSome_iff_exists.1 hparts.mapping
    obtain ⟨c, hc, -⟩ := Store.entries?_cell hes
    have hcell : s.store.read? a = some (c.settleAll t.leniency ends t.properties) := by rw [hafter.cell, hc, Option.map_some]
    have hclean : (c.settleAll t.leniency ends t.properties).Clean t.leniency (t.properties.map Prod.fst) :=
      (strays_clean hparts.stray hc).settleAll fun p hp => List.mem_map_of_mem hp
    have hmapping' : (s.store.entries? (.container a)).isSome = true := by
      rw [← Option.isSome_map (f := List.map Prod.fst), hafter.keys, Option.isSome_map, hparts.mapping]
    refine TypeChecker.collect_idle hcell hmapping' hclean ?_
    refine PropertyChecker.collectFields_idle hcell fun p hp => ⟨(ends p).value, ?_, ?_⟩
    · have hend := hends p hp
      rw [hfound p hp] at hend
      exact hafter.under_again hparts.mapping (p.2.collect_ofStore.leaves hend) hparts.unshared hnames hp
        (fun hsaves => hsteady hsaves p hp) (hagain p hp (hparts.unshared.child p.1))
    · have hsettled : (c.settleAll t.leniency ends t.properties).settle t.leniency p.1 (ends p).found (ends p).value =
          c.settleAll t.leniency ends t.properties := Cell.settleAll_settled hnames hp
      rwa [hfound p hp] at hsettled
  · rw [TypeChecker.collect_no_mapping (r := { store := σ }) hmapping] at hs
    cases hs

end ShapeCheck
