import ShapeCheck.Proofs.Nesting

/-!
# Values that are trees

`Store.IsTree` says that a value is a finite tree: every container in it is there, and none holds itself, though one may
stand in two places. What `Store.datum` reads of such a value is made of what it reads of the parts, `IsTree.datum_eq`, so
items, entries and what stands under a key can be looked for in the tree as well as in the store.
-/

namespace ShapeCheck

open Relation

/-- The tree of a content, given those of its values. -/
def Cell.tree (f : Value → Datum) : Cell → Datum
  | .list xs => .list (xs.map f)
  | .tuple xs => .tuple (xs.map f)
  | .set xs => .set (xs.map f)
  | .mapping es => .mapping (es.map fun (k, v) => (k, f v))
  | .readOnly es => .readOnly (es.map fun (k, v) => (k, f v))
  | .structured sort handle parts => .structured sort handle parts

theorem Cell.tree_congr {f g : Value → Datum} {c : Cell} (h : ∀ v ∈ c.values, f v = g v) : c.tree f = c.tree g := by
  have hentries : ∀ {es : List (Key × Value)}, (∀ v ∈ es.map Prod.snd, f v = g v) →
      (es.map fun (k, v) => (k, f v)) = es.map fun (k, v) => (k, g v) := by
    intro es hes
    refine List.map_congr_left fun e he => ?_
    exact congrArg (e.1, ·) (hes e.2 (List.mem_map_of_mem he))
  cases c with
  | list => exact congrArg Datum.list (List.map_congr_left h)
  | tuple => exact congrArg Datum.tuple (List.map_congr_left h)
  | set => exact congrArg Datum.set (List.map_congr_left h)
  | mapping => exact congrArg Datum.mapping (hentries h)
  | readOnly => exact congrArg Datum.readOnly (hentries h)
  | structured => rfl

namespace Store

/-- A value is a finite tree. -/
inductive IsTree (σ : Store) : Value → Prop
  | scalar (a : Scalar) : σ.IsTree (.scalar a)
  | container {a : Address} {c : Cell} (cell : σ.read? a = some c) (inside : ∀ v ∈ c.values, σ.IsTree v) :
    σ.IsTree (.container a)

variable {σ : Store} {v w : Value}

theorem IsTree.contains (h : σ.IsTree v) (hw : σ.Contains v w) : σ.IsTree w := by
  obtain ⟨c, hc, hw⟩ := hw
  cases h with
  | scalar => cases hc
  | container cell inside =>
      cases cell.symm.trans hc
      exact inside w hw

theorem IsTree.reaches (h : σ.IsTree v) (hw : ReflTransGen σ.Contains v w) : σ.IsTree w := by
  induction hw with
  | refl => exact h
  | tail _ hxy ih => exact ih.contains hxy

/-- A tree does not hold itself. -/
theorem IsTree.not_inside (h : σ.IsTree v) : ¬ TransGen σ.Contains v v := by
  induction h with
  | scalar a =>
      intro hcycle
      obtain ⟨_, hfirst, _⟩ := TransGen.head'_iff.1 hcycle
      exact not_contains_scalar hfirst
  | @container a c cell _ ih =>
      intro hcycle
      obtain ⟨x, hfirst, hback⟩ := TransGen.head'_iff.1 hcycle
      have hx : x ∈ c.values := by
        obtain ⟨d, hd, hx⟩ := hfirst
        cases cell.symm.trans hd
        exact hx
      exact ih x hx (TransGen.tail' hback hfirst)

theorem IsTree.acyclic (h : σ.IsTree v) : σ.Acyclic v := fun _ hw => (h.reaches hw).not_inside

theorem datum_scalar (σ : Store) (a : Scalar) : σ.datum (.scalar a) = .scalar a := by
  unfold datum treeWith unfold
  rfl

/-- One step of reading a container that is not around itself. -/
theorem unfold_container {a : Address} {c : Cell} (hc : σ.read? a = some c) {around : List Address} (hnew : a ∉ around)
    (mark : Mark) (fuel : Nat) :
    σ.unfold #[] mark (fuel + 1) around (.container a) = c.tree (σ.unfold #[] mark fuel (a :: around)) := by
  have hindex : around.findIdx? (· == a) = none := by
    rw [List.findIdx?_eq_none_iff]
    intro b hb
    rw [beq_eq_false_iff_ne]
    exact fun heq => hnew (heq ▸ hb)
  have hknown : ((#[] : Trees)[a]?).join = none := by simp
  rw [unfold, hindex, hknown]
  dsimp only
  rw [hc]
  cases c <;> rfl

/-- Inside any containers that are around it a tree is read as one datum, as long as the fuel lasts for a path through all
other containers. The induction is on the tree; the containers around grow by one and the fuel shrinks by one. -/
theorem IsTree.exists_unfold (h : σ.IsTree v) : ∃ d, ∀ mark fuel around, around.Nodup →
    (∀ a ∈ around, a < σ.cells.size ∧ TransGen σ.Contains (.container a) v) → around.length + fuel = σ.cells.size + 1 →
      σ.unfold #[] mark fuel around v = d := by
  induction h with
  | scalar a =>
      refine ⟨.scalar a, fun mark fuel around _ _ _ => ?_⟩
      unfold unfold
      rfl
  | @container a c cell inside ih =>
      have htree : σ.IsTree (.container a) := .container cell inside
      choose! f hf using ih
      refine ⟨c.tree f, fun mark fuel around hdistinct haround hfuel => ?_⟩
      have hlength := length_le_of_nodup hdistinct fun b hb => (haround b hb).1
      obtain ⟨fuel, rfl⟩ : ∃ n, fuel = n + 1 := ⟨fuel - 1, by omega⟩
      have hnew : a ∉ around := fun ha => htree.not_inside (haround a ha).2
      have hinner : ∀ w ∈ c.values, σ.unfold #[] mark fuel (a :: around) w = f w := by
        intro w hw
        have hcontains : σ.Contains (.container a) w := ⟨c, cell, hw⟩
        refine hf w hw mark fuel (a :: around) (List.nodup_cons.2 ⟨hnew, hdistinct⟩) (fun b hb => ?_) ?_
        · rcases List.mem_cons.1 hb with rfl | hb
          · exact ⟨lt_of_read? cell, .single hcontains⟩
          · exact ⟨(haround b hb).1, (haround b hb).2.tail hcontains⟩
        · rw [List.length_cons]
          omega
      rw [unfold_container cell hnew, Cell.tree_congr hinner]

/-- A tree is read as its content with the trees of what it holds. -/
theorem IsTree.datum_eq {a : Address} {c : Cell} (h : σ.IsTree (.container a)) (hc : σ.read? a = some c) :
    σ.datum (.container a) = c.tree σ.datum := by
  obtain ⟨d, hd⟩ := h.exists_unfold
  have hinner : ∀ w ∈ c.values, σ.unfold #[] .level σ.cells.size [a] w = σ.datum w := by
    intro w hw
    have hcontains : σ.Contains (.container a) w := ⟨c, hc, hw⟩
    obtain ⟨e, he⟩ := (h.contains hcontains).exists_unfold
    have hinside := he .level σ.cells.size [a] (List.nodup_singleton a) (fun b hb => by
      obtain rfl := List.mem_singleton.1 hb
      exact ⟨lt_of_read? hc, .single hcontains⟩) (by rw [List.length_singleton]; omega)
    have halone := he .level (σ.cells.size + 1) [] List.nodup_nil (fun b hb => by cases hb) (by rw [List.length_nil]; omega)
    exact hinside.trans halone.symm
  change σ.unfold #[] .level (σ.cells.size + 1) [] (.container a) = _
  rw [unfold_container hc List.not_mem_nil, Cell.tree_congr hinner]

theorem IsTree.exists_cell {a : Address} (h : σ.IsTree (.container a)) :
    ∃ c, σ.read? a = some c ∧ σ.datum (.container a) = c.tree σ.datum := by
  cases h with
  | @container a c cell inside => exact ⟨c, cell, (IsTree.container cell inside).datum_eq cell⟩

theorem IsTree.isScalar_eq (h : σ.IsTree v) : (σ.datum v).isScalar = v.isScalar := by
  cases v with
  | scalar a => rfl
  | container a =>
      obtain ⟨c, _, hdatum⟩ := h.exists_cell
      rw [hdatum]
      cases c <;> rfl

/-- The items of a tree are those of the value, each read as a tree. -/
theorem IsTree.items?_eq (h : σ.IsTree v) : (σ.datum v).items? = (σ.items? v).map (List.map σ.datum) := by
  cases v with
  | scalar a => rfl
  | container a =>
      obtain ⟨c, hc, hdatum⟩ := h.exists_cell
      unfold items? cell?
      rw [hdatum]
      dsimp only
      rw [hc]
      cases c <;> rfl

/-- The entries of a tree are those of the value, each with its value read as a tree. -/
theorem IsTree.entries?_eq (h : σ.IsTree v) :
    (σ.datum v).entries? = (σ.entries? v).map (List.map fun (k, w) => (k, σ.datum w)) := by
  cases v with
  | scalar a => rfl
  | container a =>
      obtain ⟨c, hc, hdatum⟩ := h.exists_cell
      unfold entries? cell?
      rw [hdatum]
      dsimp only
      rw [hc]
      cases c <;> rfl

end Store

/-- What is found among entries whose values were changed is what was found, changed. -/
theorem Entries.find?_map {α β : Type} (f : α → β) (k : Key) (es : List (Key × α)) :
    find? k (es.map fun (l, x) => (l, f x)) = (find? k es).map f := by
  induction es with
  | nil => rfl
  | cons e rest ih =>
      obtain ⟨l, x⟩ := e
      rw [List.map_cons]
      unfold find?
      by_cases hl : l.same k = true
      · rw [if_pos hl, if_pos hl]
        rfl
      · rw [if_neg hl, if_neg hl, ih]

end ShapeCheck
