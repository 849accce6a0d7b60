import ShapeCheck.Proofs.Shrinking
import ShapeCheck.Proofs.Trees
import ShapeCheck.Validation.Collect

/-!
# What contains itself

Only two data that both contain themselves can be compared without an end. What `Store.datum` reads of a value contains itself
only if a container that the value leads to does, `Store.Acyclic.isKnotted_datum`. So a value with no such container is looked
for among any data to an end, `Store.Acyclic.comparesOn`; and it stays one where mappings come to hold less.
-/

namespace ShapeCheck

open Relation

/-! ## Comparisons with data that do not contain themselves -/

theorem Datum.runsOn_eq_true {d e : Datum} (h : d.runsOn e = true) : d.isKnotted = true ∧ e.isKnotted = true := by
  unfold runsOn at h
  rw [Bool.and_eq_true, Bool.and_eq_true] at h
  exact h.1

namespace PropertyChecker

variable {c : PropertyChecker} {data : List Datum} {d : Datum}

/-- A search without an end comes to a comparison without an end. -/
theorem exists_of_seeksOn (h : seeksOn data d = true) : ∃ v ∈ data, v.runsOn d = true := by
  induction data with
  | nil => cases h
  | cons v rest ih =>
      rw [seeksOn, Bool.or_eq_true, Bool.and_eq_true] at h
      rcases h with hv | ⟨_, hrest⟩
      · exact ⟨v, List.mem_cons_self .., hv⟩
      · obtain ⟨w, hw, hon⟩ := ih hrest
        exact ⟨w, List.mem_cons_of_mem _ hw, hon⟩

/-- Taking in a datum has no end only if it contains itself. -/
theorem isKnotted_of_taking {others same : List Datum} (h : (others.any (·.runsOn d) || seeksOn same d) = true) :
    d.isKnotted = true := by
  rw [Bool.or_eq_true, List.any_eq_true] at h
  rcases h with ⟨v, _, hon⟩ | h
  · exact (Datum.runsOn_eq_true hon).2
  · obtain ⟨v, _, hon⟩ := exists_of_seeksOn h
    exact (Datum.runsOn_eq_true hon).2

theorem isKnotted_of_allowsOn (h : c.allowsOn d = true) : d.isKnotted = true := isKnotted_of_taking h

theorem isKnotted_of_deniesOn (h : c.deniesOn d = true) : d.isKnotted = true := isKnotted_of_taking h

theorem comparesOn_eq_true {σ : Store} {v : Value} (h : c.comparesOn σ v = true) :
    (∃ d ∈ c.allowed ++ c.denied, d.isKnotted = true) ∧ (σ.datum v).isKnotted = true := by
  have hseeks : ∀ {data}, σ.seeksOn data v = true → (∃ d ∈ data, d.isKnotted = true) ∧ (σ.datum v).isKnotted = true := by
    intro data hdata
    unfold Store.seeksOn at hdata
    rw [Bool.and_eq_true] at hdata
    obtain ⟨d, hd, hon⟩ := exists_of_seeksOn hdata.2
    exact ⟨⟨d, hd, (Datum.runsOn_eq_true hon).1⟩, (Datum.runsOn_eq_true hon).2⟩
  unfold comparesOn at h
  rw [Bool.or_eq_true, Bool.and_eq_true] at h
  rcases h with hallowed | ⟨_, hdenied⟩
  · obtain ⟨⟨d, hd, hknotted⟩, hv⟩ := hseeks hallowed
    exact ⟨⟨d, List.mem_append_left _ hd, hknotted⟩, hv⟩
  · obtain ⟨⟨d, hd, hknotted⟩, hv⟩ := hseeks hdenied
    exact ⟨⟨d, List.mem_append_right _ hd, hknotted⟩, hv⟩

end PropertyChecker

/-! ## Trees with marks -/

theorem Datum.anyKnotted_iff {xs : List Datum} : Datum.anyKnotted xs = true ↔ ∃ x ∈ xs, x.isKnotted = true := by
  induction xs with
  | nil => simp [Datum.anyKnotted]
  | cons x rest ih => simp [Datum.anyKnotted, ih]

theorem Datum.anyEntryKnotted_iff {es : List (Key × Datum)} :
    Datum.anyEntryKnotted es = true ↔ ∃ e ∈ es, e.2.isKnotted = true := by
  induction es with
  | nil => simp [Datum.anyEntryKnotted]
  | cons e rest ih =>
      obtain ⟨k, d⟩ := e
      simp [Datum.anyEntryKnotted, ih]

theorem Cell.exists_of_isKnotted_tree {f : Value → Datum} {c : Cell} (h : (c.tree f).isKnotted = true) :
    ∃ w ∈ c.values, (f w).isKnotted = true := by
  cases c with
  | list xs | tuple xs | set xs =>
      rw [tree, Datum.isKnotted, Datum.anyKnotted_iff] at h
      obtain ⟨_, hd, hknotted⟩ := h
      obtain ⟨w, hw, rfl⟩ := List.mem_map.1 hd
      exact ⟨w, hw, hknotted⟩
  | mapping es | readOnly es =>
      rw [tree, Datum.isKnotted, Datum.anyEntryKnotted_iff] at h
      obtain ⟨_, hd, hknotted⟩ := h
      obtain ⟨e, he, rfl⟩ := List.mem_map.1 hd
      exact ⟨e.2, List.mem_map_of_mem he, hknotted⟩
  | structured => cases h

namespace Store

variable {σ : Store} {v : Value}

/-- A mark is put only where a container is met inside of itself. The induction is on the fuel; the containers around are
those on the way to the value. -/
theorem unfold_isKnotted {mark : Mark} : ∀ {fuel : Nat} {around : List Address} {v : Value},
    (∀ a ∈ around, TransGen σ.Contains (.container a) v) → (σ.unfold #[] mark fuel around v).isKnotted = true →
      ¬ σ.Acyclic v := by
  intro fuel
  induction fuel with
  | zero =>
      rintro around (a | a) _ h
      · cases h
      · cases h
  | succ fuel ih =>
      rintro around (a | a) haround h hacyclic
      · cases h
      · by_cases ha : a ∈ around
        · exact hacyclic _ .refl (haround a ha)
        · rcases hc : σ.read? a with _ | c
          · have hindex : around.findIdx? (· == a) = none := by
              rw [List.findIdx?_eq_none_iff]
              exact fun b hb => beq_eq_false_iff_ne.2 fun heq => ha (heq ▸ hb)
            rw [unfold, hindex, hc] at h
            cases h
          · rw [unfold_container hc ha] at h
            obtain ⟨w, hw, hknotted⟩ := Cell.exists_of_isKnotted_tree h
            have hcontains : σ.Contains (.container a) w := ⟨c, hc, hw⟩
            refine ih (fun b hb => ?_) hknotted (hacyclic.of_reaches (.single hcontains))
            rcases List.mem_cons.1 hb with rfl | hb
            · exact .single hcontains
            · exact (haround b hb).tail hcontains

theorem Acyclic.isKnotted_datum (h : σ.Acyclic v) : (σ.datum v).isKnotted = false :=
  Bool.eq_false_iff.2 fun hknotted => unfold_isKnotted (List.forall_mem_nil _) hknotted h

/-- A value in which nothing contains itself is compared with all data of a checker to an end. -/
theorem Acyclic.comparesOn (h : σ.Acyclic v) (c : PropertyChecker) : c.comparesOn σ v = false := by
  rw [Bool.eq_false_iff]
  intro hon
  have hknotted := (PropertyChecker.comparesOn_eq_true hon).2
  rw [h.isKnotted_datum] at hknotted
  cases hknotted

theorem acyclic_scalar (a : Scalar) : σ.Acyclic (.scalar a) := by
  intro w hw hcycle
  rcases ReflTransGen.cases_head hw with rfl | ⟨_, hfirst, _⟩
  · obtain ⟨_, hfirst, _⟩ := TransGen.head'_iff.1 hcycle
    exact not_contains_scalar hfirst
  · exact not_contains_scalar hfirst

namespace Within

variable {now before : Store} (h : now.Within before)

include h

/-- A container that is held now was held before. -/
theorem contains {a : Address} (hv : now.Contains v (.container a)) : before.Contains v (.container a) := by
  obtain ⟨c, hc, hmem⟩ := hv
  cases v with
  | scalar => cases hc
  | container b =>
      obtain ⟨d, hd, hwithin⟩ := h.read? hc
      cases hwithin with
      | same => exact ⟨c, hd, hmem⟩
      | mapping hentries =>
          obtain ⟨e, he, heq⟩ := List.mem_map.1 hmem
          rcases hentries e he with hold | ⟨_, hcounted | ⟨name, hold⟩⟩
          · exact ⟨_, hd, List.mem_map.2 ⟨e, hold, heq⟩⟩
          · rw [heq] at hcounted
            cases hcounted
          · exact ⟨_, hd, List.mem_map.2 ⟨_, hold, heq⟩⟩

/-- Where nothing contained itself nothing does. -/
theorem acyclic (hv : before.Acyclic v) : now.Acyclic v := by
  have hcontainer : ∀ {x y : Value}, TransGen now.Contains x y → ∀ {a : Address}, y = .container a → TransGen before.Contains x y := by
    intro x y hxy
    induction hxy with
    | single hstep =>
        rintro a rfl
        exact .single (h.contains hstep)
    | @tail y z _ hstep ih =>
        rintro a rfl
        cases y with
        | scalar => exact absurd hstep not_contains_scalar
        | container b => exact (ih rfl).tail (h.contains hstep)
  intro w hw hcycle
  cases w with
  | scalar =>
      obtain ⟨_, hfirst, _⟩ := TransGen.head'_iff.1 hcycle
      exact not_contains_scalar hfirst
  | container a =>
      refine hv _ ?_ (hcontainer hcycle rfl)
      rcases reflTransGen_iff_eq_or_transGen.1 hw with heq | hreach
      · rw [heq]
      · exact (hcontainer hreach rfl).to_reflTransGen

end Within

end Store

end ShapeCheck
