import ShapeCheck.Proofs.Demands
import ShapeCheck.Proofs.Trees

/-!
# Keys beside a value

What is found about keys says what a definition asks of them: `peerFindings_judges` is about the keys that have to stand
beside a value and those that must not, `strayFindings_judges` about the keys that a type does not declare.
-/

namespace ShapeCheck

section Peers

variable {σ : Store} {described : Descriptions} {caps : Capabilities} {q : Demand} {c : PropertyChecker} {own : List Rule}

theorem Store.IsTree.get?_eq {v : Value} (h : σ.IsTree v) (name : String) :
    (σ.datum v).get? name = ((σ.entries? v).bind (Entries.get? name)).map σ.datum := by
  unfold Datum.get?
  rw [h.entries?_eq]
  cases σ.entries? v with
  | none => rfl
  | some es => exact Entries.find?_map σ.datum (.text name) es

/-- What is shown of peers is nothing if none of them stands as asked for. -/
theorem peersShown_judges {parent : Value} (hparent : σ.IsTree parent) (hmapping : σ.isMapping parent = true) (standing : Bool)
    {peers : List Datum} (hpeers : ∀ d ∈ peers, ∃ s, d = .scalar (.text s)) :
    ∃ shown, peersShown σ parent standing peers = .ok shown ∧
      (shown = [] ↔ ∀ d ∈ peers, ¬ ((σ.datum parent).HasKey d ↔ standing = true)) := by
  obtain ⟨es, hes⟩ := Option.isSome_iff_exists.1 hmapping
  induction peers with
  | nil => exact ⟨[], rfl, fun _ _ h => (nomatch h), fun _ => rfl⟩
  | cons d rest ih =>
      obtain ⟨s, rfl⟩ := hpeers d (List.mem_cons_self ..)
      obtain ⟨others, hothers, hclean⟩ := ih fun e he => hpeers e (List.mem_cons_of_mem _ he)
      have hholds : σ.holds parent (.scalar (.text s)) = .ok (Entries.find? (.text s) es).isSome := by
        unfold Store.holds
        rw [hes]
        rfl
      have hkey : (σ.datum parent).HasKey (.scalar (.text s)) ↔ (Entries.find? (.text s) es).isSome = true := by
        have hget := hparent.get?_eq s
        rw [hes] at hget
        constructor
        · rintro ⟨s', hs', h⟩
          cases hs'
          rw [hget, Option.isSome_map] at h
          exact h
        · intro h
          refine ⟨s, rfl, ?_⟩
          rw [hget, Option.isSome_map]
          exact h
      unfold peersShown
      rw [hholds, hothers]
      simp only [bind, Except.bind, List.forall_mem_cons]
      rw [hkey, ← hclean]
      by_cases hstanding : (Entries.find? (.text s) es).isSome = standing
      · rw [if_pos hstanding]
        exact ⟨_, rfl, fun h => (nomatch h), fun h => absurd (by rw [hstanding]) h.1⟩
      · rw [if_neg hstanding]
        exact ⟨_, rfl, fun h => ⟨fun hiff => hstanding (Bool.eq_iff_iff.2 hiff), h⟩, fun h => h.2⟩

/-- The keys beside a value are judged as the demand says. -/
theorem peerFindings_judges (hq : q.Meets caps { c with rules := own }) (hc : c.Standard) {parent : Option Value}
    (hparent : ∀ p ∈ parent, σ.IsTree p ∧ σ.isMapping p = true) (path : Path) (v : Value) :
    ∃ found, peerFindings c path σ parent v = .ok found ∧ (found = [] ↔ q.FitsBeside (parent.map σ.datum)) := by
  unfold peerFindings
  cases parent with
  | none => exact ⟨_, rfl, fun _ _ h => (nomatch h), fun _ => rfl⟩
  | some p =>
      obtain ⟨htree, hmapping⟩ := hparent p rfl
      obtain ⟨absent, habsent, hclean⟩ := peersShown_judges htree hmapping false hc.peersWith
      obtain ⟨present, hpresent, hclean'⟩ := peersShown_judges htree hmapping true hc.peersWithout
      dsimp only
      rw [habsent, hpresent]
      refine ⟨_, rfl, ?_⟩
      rw [List.append_eq_nil_iff, List.map_eq_nil_iff, List.map_eq_nil_iff, hclean, hclean']
      have hwith : ∀ a, a ∈ c.peersWith ↔ _ := hq.peersWith
      have hwithout : ∀ a, a ∈ c.peersWithout ↔ _ := hq.peersWithout
      constructor
      · rintro ⟨h, h'⟩ p' hp' x hx
        obtain rfl := Option.mem_some.1 hp'
        refine ⟨fun hm a ha => ?_, fun hm a ha => ?_⟩
        · by_contra hno
          exact h a ((hwith a).2 ⟨x, hx, hm, ha⟩) ⟨fun hk => absurd hk hno, nofun⟩
        · intro hk
          exact h' a ((hwithout a).2 ⟨x, hx, hm, ha⟩) ⟨fun _ => rfl, fun _ => hk⟩
      · intro h
        refine ⟨fun a ha hiff => ?_, fun a ha hiff => ?_⟩
        · obtain ⟨x, hx, hm, ha⟩ := (hwith a).1 ha
          exact nomatch hiff.1 ((h _ rfl x hx).1 hm a ha)
        · obtain ⟨x, hx, hm, ha⟩ := (hwithout a).1 ha
          exact (h _ rfl x hx).2 hm a ha (hiff.2 rfl)

end Peers

/-! ## Keys that are not declared -/

theorem Store.IsTree.isFunction_eq {σ : Store} {v : Value} (h : σ.IsTree v) : (σ.datum v).isFunction = isFunction v := by
  cases v with
  | scalar a => cases a <;> rfl
  | container a =>
      have hscalar := h.isScalar_eq
      generalize σ.datum (.container a) = d at hscalar
      cases d with
      | scalar => cases hscalar
      | _ => rfl

/-- An entry that is not declared is one that a type does not tolerate, unless it tolerates all. -/
theorem isStray_eq_false_iff {σ : Store} {t : TypeDef} {k : Key} {w : Value} (hw : σ.IsTree w)
    (hextra : t.leniency.allowExtraKeys = false) :
    isStray t.leniency (t.properties.map Prod.fst) (k, w) = false ↔ t.Tolerates (k, σ.datum w) := by
  have hdeclared : (k.text?.map (t.properties.map Prod.fst).contains).getD false = true ↔ ∃ p ∈ t.properties, k.text? = some p.1 := by
    cases k.text? with
    | none => simp
    | some s =>
        simp only [Option.map_some, Option.getD_some, List.contains_iff_mem, List.mem_map, Option.some.injEq]
        exact ⟨fun ⟨p, hp, h⟩ => ⟨p, hp, h.symm⟩, fun ⟨p, hp, h⟩ => ⟨p, hp, h.symm⟩⟩
  unfold isStray TypeDef.Tolerates
  rw [← hdeclared, hextra, hw.isFunction_eq]
  simp only [Bool.and_eq_false_iff, Bool.not_eq_false', Bool.false_eq_true, false_or, Bool.and_eq_true]

/-- Keys that a type does not declare are judged as the type tolerates them. -/
theorem strayFindings_judges {σ : Store} {t : TypeDef} {es : List (Key × Value)}
    (hkeys : ∀ e ∈ es, e.1.isTooLong = false) (htree : ∀ e ∈ es, σ.IsTree e.2) (path : Path) :
    ∃ found, strayFindings t.leniency (t.properties.map Prod.fst) path es = .ok found ∧
      (found = [] ↔ ∀ e ∈ es.map fun (k, w) => (k, σ.datum w), t.Tolerates e) := by
  unfold strayFindings
  cases hextra : t.leniency.allowExtraKeys with
  | true =>
      rw [if_pos rfl]
      exact ⟨[], rfl, fun _ e _ => .inr (.inl hextra), fun _ => rfl⟩
  | false =>
      have hlong : ¬ (es.filter (isStray t.leniency (t.properties.map Prod.fst))).any (fun e => e.1.isTooLong) = true := by
        intro hany
        obtain ⟨e, he, hlong⟩ := List.any_eq_true.1 hany
        rw [hkeys e (List.mem_filter.1 he).1] at hlong
        cases hlong
      dsimp only
      rw [if_neg (by decide), if_neg hlong]
      refine ⟨_, rfl, ?_⟩
      rw [List.map_eq_nil_iff, List.filter_eq_nil_iff]
      constructor
      · intro h e he
        obtain ⟨⟨k, w⟩, hkw, rfl⟩ := List.mem_map.1 he
        exact (isStray_eq_false_iff (htree _ hkw) hextra).1 (Bool.eq_false_iff.2 (h _ hkw))
      · rintro h ⟨k, w⟩ hkw
        exact Bool.eq_false_iff.1 ((isStray_eq_false_iff (htree _ hkw) hextra).2 (h _ (List.mem_map_of_mem hkw)))

end ShapeCheck
