import Mathlib.Data.Set.Card
import ShapeCheck.Proofs.AcyclicData
import ShapeCheck.Proofs.Guard
import ShapeCheck.Proofs.Meetings
import ShapeCheck.Proofs.Reaching

/-!
# Data with cycles

The references that are being followed at a place of a run are all distinct, each of them is one that the type leads to, and
each of them is followed for a mapping that the candidate holds. So there are never more of them than pairs of such a
reference and such a mapping, and a bound of that many is never exceeded: where data lead back to themselves the run stops at
a reference that it is already following, `ObjectType.validate_cycles`.
-/

namespace ShapeCheck

open Relation

/-- Distinct members of a set are no more than the set has. -/
theorem List.Nodup.length_le_encard {α : Type} [DecidableEq α] {l : List α} (hl : l.Nodup) {s : Set α} (h : ∀ x ∈ l, x ∈ s) :
    (l.length : ENat) ≤ s.encard := by
  have hcard : ((l.toFinset : Set α)).encard = l.length := by
    rw [Set.encard_coe_eq_coe_finsetCard, List.toFinset_card_of_nodup hl]
  rw [← hcard]
  exact Set.encard_le_encard fun x hx => h x (List.mem_toFinset.1 (Finset.mem_coe.1 hx))

/-- At a point the references that are being followed are distinct and in a set, as many as the context says, and what the
bound leaves is the budget. -/
structure Point.Counts (bound : Nat) (pairs : Set (TypeRef × Value)) (p : Point) : Prop where
  room : p.context.depth + p.budget = bound
  depth : p.context.depth = p.context.inFlight.length
  distinct : p.context.inFlight.Nodup
  known : ∀ x ∈ p.context.inFlight, x ∈ pairs

section Counts

variable {resolve : Resolver} {bound : Nat} {pairs : Set (TypeRef × Value)}

/-- A call counts on: only one that enters a reference changes what is being followed. -/
theorem Call.counts {b : Bool} {p q : Point} {r s : Run} (h : Call resolve b p r q s) (hp : p.Counts bound pairs)
    (hpair : ∀ {n ctx path ref v}, p = .rule n ctx path (.reference ref) v → (ref, v) ∈ pairs) : q.Counts bound pairs := by
  cases h with
  | field | rule | included | excluded | inlineType => exact ⟨hp.room, hp.depth, hp.distinct, hp.known⟩
  | @reference n ctx _ _ _ _ _ _ hfresh =>
      have hroom : ctx.depth + (n + 1) = bound := hp.room
      refine ⟨?_, congrArg (· + 1) hp.depth, List.nodup_cons.2 ⟨hfresh, hp.distinct⟩, ?_⟩
      · change ctx.depth + 1 + n = bound
        omega
      · exact List.forall_mem_cons.2 ⟨hpair rfl, hp.known⟩

/-- There is budget left at a reference that is not being followed, if the bound allows for all pairs. -/
theorem Point.Counts.budget_pos {n : Nat} {ctx : Context} {path : Path} {ref : TypeRef} {v : Value}
    (h : (Point.rule n ctx path (.reference ref) v).Counts bound pairs) (hbound : pairs.encard ≤ bound)
    (hpair : (ref, v) ∈ pairs) (hfresh : (ref, v) ∉ ctx.inFlight) : 0 < n := by
  have hnodup : ((ref, v) :: ctx.inFlight).Nodup := List.nodup_cons.2 ⟨hfresh, h.distinct⟩
  have hlength : (((ref, v) :: ctx.inFlight).length : ENat) ≤ (bound : ENat) :=
    (List.Nodup.length_le_encard hnodup (List.forall_mem_cons.2 ⟨hpair, h.known⟩)).trans hbound
  have hle : ctx.inFlight.length + 1 ≤ bound := by exact_mod_cast hlength
  have hroom : ctx.depth + n = bound := h.room
  have hdepth : ctx.depth = ctx.inFlight.length := h.depth
  omega

end Counts

/-- The references that a type leads to, each with each mapping that a value holds. -/
def Store.pairs (σ : Store) (resolve : Resolver) (t : TypeChecker) (v : Value) : Set (TypeRef × Value) :=
  {ref | t.ReachesRef resolve ref} ×ˢ {w | ReflTransGen σ.Contains v w ∧ σ.isMapping w = true}

theorem Below.contains {σ : Store} {root v : Value} (h : Below σ root v) (hv : σ.isMapping v = true) :
    ReflTransGen σ.Contains root v := by
  rcases h with h | h
  · cases h <;> cases hv
  · exact ReflTransGen.mono (fun _ _ => Store.Leads.contains) _ _ h

section Runs

variable {resolve : Resolver} {σ : Store} {t : TypeChecker} {v : Value} {maxDepth : Int}
  (ht : t.Every PropertyChecker.FollowsObjects)
  (hresolve : ∀ ref u, resolve ref = some u → u.Every PropertyChecker.FollowsObjects)

include ht hresolve

/-- Each reference that a run meets is one that the type leads to, at a mapping that the candidate holds. -/
theorem Reached.reference_mem_pairs {b : Bool} {n : Nat} {ctx : Context} {path : Path} {ref : TypeRef} {w : Value} {r : Run}
    (h : Reached resolve (.whole t maxDepth v) { store := σ } b (.rule n ctx path (.reference ref) w) r) :
    (ref, w) ∈ σ.pairs resolve t v := by
  have hclosed := Territory.leading_closed (t := t) fun ref u _ => hresolve ref u
  have hstart : (Point.whole t maxDepth v).Inside (Territory.leading resolve t PropertyChecker.FollowsObjects) := ⟨.refl, ht⟩
  have hfrom : (Point.whole t maxDepth v).LiesBelow σ v := Or.inr .refl
  have hinside := h.inside hclosed hstart
  have hbelow : Below σ v w ∧ σ.isMapping w = true :=
    h.liesBelow hclosed (fun _ hc => hc.1) hfrom hstart (.refl σ)
  refine ⟨hinside.2.2 ref ?_, hbelow.1.contains hbelow.2, hbelow.2⟩
  rw [Rule.references]
  exact List.mem_singleton_self _

theorem Reached.counts {b : Bool} {p : Point} {r : Run} (h : Reached resolve (.whole t maxDepth v) { store := σ } b p r) :
    p.Counts maxDepth.toNat (σ.pairs resolve t v) := by
  induction h with
  | start => exact ⟨Nat.zero_add _, rfl, List.nodup_nil, fun _ hx => nomatch hx⟩
  | call hq hcall ih =>
      refine hcall.counts ih fun {n ctx path ref w} hp => ?_
      subst hp
      exact hq.reference_mem_pairs ht hresolve

/-- No visit is made at a point without budget, if the bound allows for all pairs. -/
theorem Visit.MadeIn.not_tooDeep (hbound : (σ.pairs resolve t v).encard ≤ maxDepth.toNat) {visit : Visit} {b : Bool}
    {own : Findings} (h : visit.MadeIn resolve (.whole t maxDepth v) { store := σ } b own) : visit.outcome ≠ .tooDeep := by
  obtain ⟨n, r, hreached, hmeeting⟩ := h
  intro hdeep
  have hpair := hreached.reference_mem_pairs ht hresolve
  rw [hdeep] at hmeeting
  cases hmeeting with
  | tooDeep _ hfresh => exact Nat.lt_irrefl 0 ((hreached.counts ht hresolve).budget_pos hbound hpair hfresh)

/-- A visit that is refused for a cycle is made where the reference is being followed, for the same mapping. -/
theorem Visit.cyclic_open {before after : List RunEvent} {visit : Visit}
    (hevents : (t.validate resolve maxDepth v σ).run.events = before ++ .met visit :: after) (hcyclic : visit.outcome = .cyclic) :
    (visit.ref, visit.value) ∈ openAfter before ∧ σ.isMapping visit.value = true := by
  have hvisit : visit ∈ (t.validate resolve maxDepth v σ).run.visits := by
    refine List.mem_filterMap.2 ⟨.met visit, ?_, rfl⟩
    rw [hevents]
    exact List.mem_append_cons_self
  obtain ⟨b, own, n, r, hreached, hmeeting⟩ := Visit.madeIn hvisit
  rw [← ((t.validate_events resolve maxDepth v σ).1 before _ after hevents).1.inFlight]
  rw [hcyclic] at hmeeting
  cases hmeeting with
  | cyclic _ hinside => exact ⟨hinside, (hreached.reference_mem_pairs ht hresolve).2.2⟩

end Runs

/-- **Data with cycles are reported as such.** For a built type, a registry of built types and any candidate, take a bound of
at least as many as there are references that the type leads to, times the mappings that the candidate holds. Then no
reference that is met, in trials of elements or elsewhere, is refused for its depth, and no violation says so. One that is
refused for a cycle is being followed for the same mapping at that moment, and each violation that says so names such a
reference and mapping. -/
theorem ObjectType.validate_cycles {legal : Capabilities → Prop} {t : ObjectType} {registry : TypeRef → Option ObjectType}
    {σ : Store} {v : Value} (ht : t.Built legal) (hregistry : ∀ ref u, registry ref = some u → u.Built legal) {maxDepth : Int}
    (hbound : {ref | t.checker.ReachesRef (fun ref => (registry ref).map ObjectType.checker) ref}.encard *
      {w | ReflTransGen σ.Contains v w ∧ σ.isMapping w = true}.encard ≤ maxDepth.toNat) :
    let outcome := t.checker.validate (fun ref => (registry ref).map ObjectType.checker) maxDepth v σ
    (∀ visit ∈ outcome.run.visits, visit.outcome ≠ .tooDeep) ∧
    (∀ before visit after, outcome.run.events = before ++ .met visit :: after → visit.outcome = .cyclic →
      (visit.ref, visit.value) ∈ openAfter before ∧ σ.isMapping visit.value = true) ∧
    ∀ found, outcome.result = .ok found → ∀ f ∈ found, f.code ≠ .depth ∧
      (f.code = .cycle → ∃ visit ∈ outcome.run.visits, visit.outcome = .cyclic ∧
        f = causedBy (.cyclic visit.ref visit.path) visit.path visit.value) := by
  have hfollows := ht.followsObjects
  have hresolve : ∀ ref u, (fun ref => (registry ref).map ObjectType.checker) ref = some u →
      u.Every PropertyChecker.FollowsObjects := by
    intro ref u hu
    obtain ⟨w, hw, rfl⟩ := Option.map_eq_some_iff.1 hu
    exact (hregistry ref w hw).followsObjects
  generalize (fun ref => (registry ref).map ObjectType.checker) = resolve at hbound hresolve ⊢
  intro outcome
  have hpairs : (σ.pairs resolve t.checker v).encard ≤ maxDepth.toNat := Set.encard_prod.trans_le hbound
  refine ⟨fun visit hvisit => ?_, fun before visit after => Visit.cyclic_open hfollows hresolve, fun found hfound f hf => ?_⟩
  · obtain ⟨b, own, hmade⟩ := Visit.madeIn hvisit
    exact hmade.not_tooDeep hfollows hresolve hpairs
  by_cases hplain : f.IsPlain
  · exact ⟨fun hcode => hplain (by rw [hcode]; decide), fun hcode => absurd (by rw [hcode]; decide) hplain⟩
  obtain ⟨visit, own, hvisit, hmade, hown⟩ := TypeChecker.validate_found hfound hf hplain
  have hshallow := hmade.not_tooDeep hfollows hresolve hpairs
  obtain ⟨n, r, _, hmeeting⟩ := hmade
  rcases hmeeting.mem_found hown with ⟨_, _, rfl⟩ | ⟨hcyclic, rfl⟩ | ⟨hdeep, _⟩
  · exact ⟨nofun, nofun⟩
  · exact ⟨nofun, fun _ => ⟨visit, hvisit, hcyclic, rfl⟩⟩
  · exact absurd hdeep hshallow

/-! A node that is its own next one. -/

def loopNode : Store := ⟨#[.mapping [(.text "next", .container 0)]]⟩

/-- The node type names only itself. -/
theorem nodeType_reaches {u : TypeChecker} (h : nodeType.checker.Reaches (fun _ => (some nodeType).map ObjectType.checker) u) :
    u = nodeType.checker :=
  h.eq_self (fun _ _ hw => (Option.some.inj hw).symm) (by decide +kernel)

theorem loopNode_cycles :
    let outcome := nodeType.checker.validate (fun _ => (some nodeType).map ObjectType.checker) 1 (.container 0) loopNode
    (∀ visit ∈ outcome.run.visits, visit.outcome ≠ .tooDeep) ∧
    (∀ before visit after, outcome.run.events = before ++ .met visit :: after → visit.outcome = .cyclic →
      (visit.ref, visit.value) ∈ openAfter before ∧ loopNode.isMapping visit.value = true) ∧
    ∀ found, outcome.result = .ok found → ∀ f ∈ found, f.code ≠ .depth ∧
      (f.code = .cycle → ∃ visit ∈ outcome.run.visits, visit.outcome = .cyclic ∧
        f = causedBy (.cyclic visit.ref visit.path) visit.path visit.value) := by
  refine ObjectType.validate_cycles nodeType_built (fun _ _ h => Option.some.inj h ▸ nodeType_built) ?_
  have hreferences : {ref | nodeType.checker.ReachesRef (fun _ => (some nodeType).map ObjectType.checker) ref}.encard ≤ 1 := by
    obtain ⟨own, hown⟩ : ∃ own, nodeType.checker.references = [own] := List.length_eq_one_iff.1 (by decide +kernel)
    refine Set.encard_le_one_iff.2 fun x y hx hy => ?_
    obtain ⟨_, hx, hxs⟩ := hx
    obtain ⟨_, hy, hys⟩ := hy
    rw [nodeType_reaches hx, hown] at hxs
    rw [nodeType_reaches hy, hown] at hys
    exact (List.mem_singleton.1 hxs).trans (List.mem_singleton.1 hys).symm
  have hmappings : {w | ReflTransGen loopNode.Contains (.container 0) w ∧ loopNode.isMapping w = true}.encard ≤ 1 := by
    have honly : ∀ w, loopNode.isMapping w = true → w = .container 0 := by
      intro w hw
      match w, hw with
      | .container 0, _ => rfl
      | .container (_ + 1), hw => cases hw
    exact Set.encard_le_one_iff.2 fun x y hx hy => (honly x hx.2).trans (honly y hy.2).symm
  exact (mul_le_mul' hreferences hmappings).trans (by decide)

example : (nodeType.checker.validate (fun _ => (some nodeType).map ObjectType.checker) 1 (.container 0) loopNode).result.map
    (List.map Violation.code) = .ok [.cycle] := by decide +kernel

end ShapeCheck
