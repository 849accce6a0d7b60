import Mathlib.Data.List.Chain
import Mathlib.Order.ConditionallyCompleteLattice.Basic
import Mathlib.Order.Lattice.Nat
import ShapeCheck.Value.Store

/-!
# Nesting of values

`Store.Contains` is containment, `Store.Acyclic` says that no container below a value is inside of itself, and
`Store.mappingCounts` are the numbers of mappings on the containment paths from a value. Below a value without cycles these
numbers are bounded, since a path meets no mapping twice; the largest one is `Store.nesting`. It grows by one from a value to
a mapping around it.
-/

namespace ShapeCheck

open Relation

/-- The values that stand in a container. -/
def Cell.values : Cell → List Value
  | .list xs => xs
  | .tuple xs => xs
  | .set xs => xs
  | .mapping es => es.map Prod.snd
  | .readOnly es => es.map Prod.snd
  | .structured .. => []

/-- The address of a value that is a container. -/
def Value.address : Value → Address
  | .container a => a
  | .scalar _ => 0

namespace Store

/-- A container holds a value. -/
def Contains (σ : Store) (v w : Value) : Prop := ∃ c, σ.cell? v = some c ∧ w ∈ c.values

def isMapping (σ : Store) (v : Value) : Bool := (σ.entries? v).isSome

/-- No container that a value holds, at any depth, holds itself. -/
def Acyclic (σ : Store) (v : Value) : Prop := ∀ w, ReflTransGen σ.Contains v w → ¬ TransGen σ.Contains w w

/-- How many mappings stand on the paths that lead from a value to what it holds. -/
def mappingCounts (σ : Store) (v : Value) : Set Nat :=
  { n | ∃ path, List.IsChain σ.Contains (v :: path) ∧ (v :: path).countP σ.isMapping = n }

/-- The largest number of mappings on a path from a value. -/
noncomputable def nesting (σ : Store) (v : Value) : Nat := sSup (σ.mappingCounts v)

variable {σ : Store} {v w : Value}

theorem contains_item {xs : List Value} {x : Value} (h : σ.items? v = some xs) (hx : x ∈ xs) : σ.Contains v x := by
  unfold items? at h
  split at h
  · next hc =>
    cases h
    exact ⟨_, hc, hx⟩
  · next hc =>
    cases h
    exact ⟨_, hc, hx⟩
  · cases h

theorem contains_entry {es : List (Key × Value)} {e : Key × Value} (h : σ.entries? v = some es) (he : e ∈ es) :
    σ.Contains v e.2 := by
  unfold entries? at h
  split at h
  · next hc =>
    cases h
    exact ⟨_, hc, List.mem_map_of_mem he⟩
  · next hc =>
    cases h
    exact ⟨_, hc, List.mem_map_of_mem he⟩
  · cases h

/-- A checker may come from a value to another: to an item of an array, or to what stands under a text in a mapping. -/
def Leads (σ : Store) (v w : Value) : Prop :=
  (∃ xs, σ.items? v = some xs ∧ w ∈ xs) ∨ ∃ es name, σ.entries? v = some es ∧ (.text name, w) ∈ es

theorem Leads.contains (h : σ.Leads v w) : σ.Contains v w := by
  rcases h with ⟨xs, hi, hw⟩ | ⟨es, name, he, hw⟩
  · exact contains_item hi hw
  · exact contains_entry he hw

/-- A scalar holds nothing. -/
theorem not_contains_scalar {a : Scalar} : ¬ σ.Contains (.scalar a) w := by
  rintro ⟨c, hc, _⟩
  cases hc

theorem lt_of_read? {a : Address} {c : Cell} (h : σ.read? a = some c) : a < σ.cells.size := (Array.getElem?_eq_some_iff.1 h).1

theorem isMapping_address (h : σ.isMapping v = true) : ∃ a < σ.cells.size, v = .container a := by
  cases v with
  | scalar a => cases h
  | container a =>
      refine ⟨a, ?_, rfl⟩
      cases hc : σ.read? a with
      | some c => exact lt_of_read? hc
      | none =>
          unfold isMapping entries? cell? at h
          dsimp only at h
          rw [hc] at h
          cases h

/-- On a path no value stands behind itself, as long as there are no cycles. -/
theorem Acyclic.nodup (hv : σ.Acyclic v) {path : List Value} (h : List.IsChain σ.Contains (v :: path)) :
    (v :: path).Nodup := by
  have hpairs : (v :: path).Pairwise (TransGen σ.Contains) :=
    (h.imp fun _ _ => TransGen.single).pairwise
  have hreach : ∀ x ∈ v :: path, ReflTransGen σ.Contains v x := by
    intro x hx
    rcases List.mem_cons.1 hx with rfl | hx
    · exact .refl
    · exact (List.rel_of_pairwise_cons hpairs hx).to_reflTransGen
  refine List.Pairwise.imp_of_mem ?_ hpairs
  rintro a b ha _ hab rfl
  exact hv a (hreach a ha) hab

/-- Distinct containers are no more than those of the store. -/
theorem length_le_of_nodup {around : List Address} (hdistinct : around.Nodup) (hsize : ∀ a ∈ around, a < σ.cells.size) :
    around.length ≤ σ.cells.size := by
  have hsub : around ⊆ List.range σ.cells.size := fun a ha => List.mem_range.2 (hsize a ha)
  have hlength := (List.subperm_of_subset hdistinct hsub).length_le
  rwa [List.length_range] at hlength

/-- The mappings on a path are distinct containers, so there are no more of them than containers. -/
theorem Acyclic.mappingCounts_le (hv : σ.Acyclic v) {n : Nat} (hn : n ∈ σ.mappingCounts v) : n ≤ σ.cells.size := by
  obtain ⟨path, hpath, rfl⟩ := hn
  have hmapping : ∀ w ∈ (v :: path).filter σ.isMapping, ∃ a < σ.cells.size, w = .container a :=
    fun w hw => isMapping_address (List.mem_filter.1 hw).2
  have hdistinct : (((v :: path).filter σ.isMapping).map Value.address).Nodup := by
    refine List.Nodup.map_on ?_ ((hv.nodup hpath).filter _)
    intro x hx y hy hxy
    obtain ⟨a, _, rfl⟩ := hmapping x hx
    obtain ⟨b, _, rfl⟩ := hmapping y hy
    exact congrArg Value.container hxy
  have hsize : ∀ a ∈ ((v :: path).filter σ.isMapping).map Value.address, a < σ.cells.size := by
    intro a ha
    obtain ⟨w, hw, rfl⟩ := List.mem_map.1 ha
    obtain ⟨a, hlt, rfl⟩ := hmapping w hw
    exact hlt
  have hlength := length_le_of_nodup hdistinct hsize
  rw [List.length_map] at hlength
  rw [List.countP_eq_length_filter]
  exact hlength

theorem mappingCounts_nonempty : (σ.mappingCounts v).Nonempty := ⟨_, [], .singleton _, rfl⟩

theorem Acyclic.bddAbove (hv : σ.Acyclic v) : BddAbove (σ.mappingCounts v) :=
  ⟨σ.cells.size, fun _ hn => hv.mappingCounts_le hn⟩

/-- Without cycles there is a largest number of mappings on a path. -/
theorem Acyclic.nesting_isGreatest (hv : σ.Acyclic v) : IsGreatest (σ.mappingCounts v) (σ.nesting v) :=
  ⟨Nat.sSup_mem mappingCounts_nonempty hv.bddAbove, fun _ hn => le_csSup hv.bddAbove hn⟩

theorem Acyclic.of_reaches (hv : σ.Acyclic v) (h : ReflTransGen σ.Contains v w) : σ.Acyclic w :=
  fun x hx => hv x (h.trans hx)

theorem Acyclic.one_le_nesting (hv : σ.Acyclic v) (hm : σ.isMapping v = true) : 1 ≤ σ.nesting v := by
  refine hv.nesting_isGreatest.2 ⟨[], .singleton _, ?_⟩
  rw [List.countP_cons_of_pos hm, List.countP_nil]

/-- What stands in a container is nested no deeper than the container, and less deep if that is a mapping. -/
theorem Acyclic.nesting_contains (hv : σ.Acyclic v) (h : σ.Contains v w) :
    σ.nesting w + (if σ.isMapping v then 1 else 0) ≤ σ.nesting v := by
  obtain ⟨path, hpath, hcount⟩ := (hv.of_reaches (.single h)).nesting_isGreatest.1
  refine hv.nesting_isGreatest.2 ⟨w :: path, hpath.cons_cons h, ?_⟩
  rw [List.countP_cons, hcount]

theorem Acyclic.nesting_reaches (hv : σ.Acyclic v) (h : ReflTransGen σ.Contains v w) : σ.nesting w ≤ σ.nesting v := by
  induction h with
  | refl => exact le_rfl
  | @tail x y hx hxy ih =>
      have hstep := (hv.of_reaches hx).nesting_contains hxy
      omega

/-- What is inside of a mapping is nested less deep than the mapping. -/
theorem Acyclic.nesting_lt (hv : σ.Acyclic v) (hm : σ.isMapping v = true) (h : TransGen σ.Contains v w) :
    σ.nesting w < σ.nesting v := by
  obtain ⟨x, hx, hxw⟩ := TransGen.head'_iff.1 h
  have hstep := hv.nesting_contains hx
  have hrest := (hv.of_reaches (.single hx)).nesting_reaches hxw
  rw [if_pos hm] at hstep
  omega

end Store

end ShapeCheck
