import ShapeCheck.Proofs.Frame

/-!
# Data without cycles

Built types follow references at mappings only, and each reference that is met behind another one is met at a mapping inside
of the one that the other was followed for. So on data without cycles the nesting falls along the references that are being
followed: none is followed for a mapping that it is being followed for already, and there are never more of them than
mappings on a path from the candidate. A bound that leaves room for as many is never reached, and what it is makes no
difference.
-/

namespace ShapeCheck

open Relation

/-! ## Runs on data without cycles -/

/-- No reference that was met was refused for a cycle or for its depth. -/
def Run.Unguarded (r : Run) : Prop := ∀ visit, .met visit ∈ r.events → visit.outcome ≠ .cyclic ∧ visit.outcome ≠ .tooDeep

/-- Two runs at one place: one store, which has only shrunk, and nothing refused so far. -/
structure SameProgress (σ : Store) (r s : Run) : Prop where
  store_eq : s.store = r.store
  within : r.store.Within σ
  first : r.Unguarded
  second : s.Unguarded

/-- A violation is not about a cycle or about depth. -/
def Violation.Unguarded (f : Violation Value) : Prop := f.code ≠ .cycle ∧ f.code ≠ .depth

section Inside

variable (σ : Store) (root : Value) (f g : Follow) (ctx dtx : Context)

/-- What stands inside of a mapping in the store that the run started from, or is brought in by a checker. -/
def Inside (v : Value) : Prop := v.Counted ∨ σ.isMapping root = true ∧ TransGen σ.Contains root v

/-- Two runs inside of one mapping, with two ways to follow references. -/
def Keeping.inside : Keeping where
  first := f
  second := g
  here := ctx
  there := dtx
  runs := SameProgress σ
  faults _ := SameProgress σ
  held a x := x.Counted ∨ σ.isMapping (.container a) = true ∧ σ.Leads (.container a) x
  opened v := v = root ∨ Inside σ root v
  met := Inside σ root
  followed v := σ.isMapping v = true
  checker := PropertyChecker.FollowsObjects
  lenient _ := True
  finds := Violation.Unguarded

variable {σ root f g ctx dtx}

theorem Keeping.inside_lawful
    (hfollow : ∀ {r s convert path ref v}, SameProgress σ r s → σ.isMapping root = true → TransGen σ.Contains root v →
      σ.isMapping v = true → (Keeping.inside σ root f g ctx dtx).Ends (Keeping.inside σ root f g ctx dtx).Finds
        ((f { ctx with convert := convert } path ref v).ending r)
        ((g { dtx with convert := convert } path ref v).ending s)) : (Keeping.inside σ root f g ctx dtx).Lawful := by
  constructor
  case toKnownFaults => exact .of_runs fun hr => hr
  case store_eq => exact fun hr => hr.store_eq
  case item =>
    intro r s v xs x hr hv hi hx
    have hc := (hr.within.item hi hx).contains
    rcases hv with hv | ⟨hm, hv⟩
    · cases v with
      | scalar a => exact absurd hc Store.not_contains_scalar
      | container a => cases hv
    · exact .inr ⟨hm, hv.tail hc⟩
  case entry =>
    intro r s a es name x hr hes hx
    rcases hr.within.entry hes hx with h | h
    · exact .inl h
    · refine .inr ⟨?_, h⟩
      rw [← hr.within.isMapping_eq]
      unfold Store.isMapping
      rw [hes]
      rfl
  case held_counted => exact fun h => .inl h
  case met_held =>
    intro a x ha hx
    rcases hx with hx | ⟨hm, hx⟩
    · exact .inl hx
    · rcases ha with rfl | ha | ⟨hroot, ha⟩
      · exact .inr ⟨hm, .single hx.contains⟩
      · cases ha
      · exact .inr ⟨hroot, ha.tail hx.contains⟩
  case met_counted => exact fun h => .inl h
  case opened => exact fun h => .inr h
  case followed =>
    intro r s v hr h
    change σ.isMapping v = true
    rw [← hr.within.isMapping_eq]
    exact h
  case references => exact fun hc href => .inl (hc _ href)
  case inlineType => exact fun _ _ => trivial
  case plain =>
    intro f hf
    refine ⟨fun h => hf ?_, fun h => hf ?_⟩ <;> rw [h] <;> decide
  case strip =>
    intro r s _ a es p _ _ hr _ ha
    exact ⟨congrArg (Store.write · a _) hr.store_eq, hr.within.strip ha p, hr.first, hr.second⟩
  case save =>
    intro r s _ a es name x _ _ hr _ ha hx
    refine ⟨congrArg (Store.write · a _) hr.store_eq, hr.within.save ha _ ?_, hr.first, hr.second⟩
    rcases hx with hx | ⟨_, hx⟩
    · exact .inl hx
    · exact .inr hx
  case follow =>
    intro r s convert path ref v hr hv hf
    rcases hv with hv | ⟨hm, hv⟩
    · cases v with
      | scalar a => cases hf
      | container a => cases hv
    · exact hfollow hr hm hv hf

end Inside

section Runs

variable {σ : Store} {resolve : Resolver}

theorem unresolved_unguarded : VisitOutcome.unresolved ≠ .cyclic ∧ VisitOutcome.unresolved ≠ .tooDeep := by decide

theorem entered_unguarded : VisitOutcome.entered ≠ .cyclic ∧ VisitOutcome.entered ≠ .tooDeep := by decide

/-- Meeting a reference that is not refused for a cycle or its depth. -/
theorem met_unguarded {r s : Run} (hr : SameProgress σ r s) {a b : Visit}
    (ha : a.outcome ≠ .cyclic ∧ a.outcome ≠ .tooDeep) (hb : b.outcome ≠ .cyclic ∧ b.outcome ≠ .tooDeep) :
    SameProgress σ { r with events := r.events ++ [.met a] } { s with events := s.events ++ [.met b] } := by
  have happend : ∀ {r : Run} {c : Visit}, r.Unguarded → c.outcome ≠ .cyclic ∧ c.outcome ≠ .tooDeep →
      Run.Unguarded { r with events := r.events ++ [.met c] } := by
    intro r c hr hc visit hv
    rcases List.mem_append.1 hv with hv | hv
    · exact hr visit hv
    · cases List.mem_singleton.1 hv
      exact hc
  exact ⟨hr.store_eq, hr.within, happend hr.first ha, happend hr.second hb⟩

theorem left_unguarded {r s : Run} (hr : SameProgress σ r s) (ref : TypeRef) (v : Value) :
    SameProgress σ { r with events := r.events ++ [.left ref v] } { s with events := s.events ++ [.left ref v] } := by
  have happend : ∀ {r : Run}, r.Unguarded → Run.Unguarded { r with events := r.events ++ [.left ref v] } := by
    intro r hr visit hv
    rcases List.mem_append.1 hv with hv | hv
    · exact hr visit hv
    · cases List.mem_singleton.1 hv
  exact ⟨hr.store_eq, hr.within, happend hr.first, happend hr.second⟩

/-- Following a reference at a mapping that is nested less deep than all those that references are being followed for, and
no deeper than either budget. The induction is on the first budget. -/
theorem follow_unguarded (hresolve : ∀ ref t, resolve ref = some t → t.Every PropertyChecker.FollowsObjects) (m : Nat) :
    ∀ {n : Nat} {ctx dtx : Context} {path : Path} {ref : TypeRef} {v : Value} {r s : Run}, SameProgress σ r s →
      σ.Acyclic v → σ.isMapping v = true → σ.nesting v ≤ m → σ.nesting v ≤ n →
      dtx.convert = ctx.convert → dtx.inFlight = ctx.inFlight →
      (∀ x ∈ ctx.inFlight, σ.nesting v < σ.nesting x.2) →
      Ends (SameProgress σ) (fun _ => SameProgress σ) (fun found => ∀ f ∈ found, f.Unguarded)
        ((follow resolve m ctx path ref v).ending r) ((follow resolve n dtx path ref v).ending s) := by
  induction m with
  | zero =>
      intro n ctx dtx path ref v r s _ hacyclic hmapping hm
      have hone := hacyclic.one_le_nesting hmapping
      omega
  | succ m ih =>
      intro n ctx dtx path ref v r s hr hacyclic hmapping hm hn hconvert hflight hless
      have hone := hacyclic.one_le_nesting hmapping
      obtain ⟨n, rfl⟩ : ∃ k, n = k + 1 := ⟨n - 1, by omega⟩
      have hnew : (ref, v) ∉ ctx.inFlight := fun h => Nat.lt_irrefl _ (hless _ h)
      unfold follow
      cases hres : resolve ref with
      | none =>
          have hmet := met_unguarded hr (a := ⟨ref, v, path, ctx, .unresolved⟩) (b := ⟨ref, v, path, dtx, .unresolved⟩)
            unresolved_unguarded unresolved_unguarded
          refine .done (fun f hf => ?_) hmet
          rw [List.mem_singleton.1 hf]
          exact ⟨by rintro ⟨⟩, by rintro ⟨⟩⟩
      | some t =>
          dsimp only
          rw [if_neg hnew, if_neg (hflight ▸ hnew)]
          have hlawful : (Keeping.inside σ v (follow resolve m) (follow resolve n) (ctx.enter ref v)
              (dtx.enter ref v)).Lawful := by
            refine Keeping.inside_lawful fun {r s convert path ref' w} hr _ hw hwm => ?_
            have hlt := hacyclic.nesting_lt hmapping hw
            refine ih hr (hacyclic.of_reaches hw.to_reflTransGen) hwm (by omega) (by omega) rfl ?_ fun x hx => ?_
            · exact congrArg (List.cons _) hflight
            · rcases List.mem_cons.1 hx with rfl | hx
              · exact hlt
              · exact Nat.lt_trans hlt (hless x hx)
          rw [Check.ending_bind_ok (Check.ending_record ..), Check.ending_bind_ok (Check.ending_record ..)]
          have hctx : dtx.enter ref v = { dtx.enter ref v with convert := ctx.convert } := by
            rw [← hconvert]
            rfl
          rw [hctx]
          have hmet := met_unguarded hr (a := ⟨ref, v, path, ctx, .entered⟩) (b := ⟨ref, v, path, dtx, .entered⟩)
            entered_unguarded entered_unguarded
          refine (TypeChecker.collect_ends hlawful t (hresolve ref t hres) trivial hmet (.inl rfl)).bind
            fun found r s _ hfound hr => ?_
          exact .done hfound (left_unguarded hr ref v)

/-- Two whole runs on data without cycles, with bounds that leave room for the nesting of the data. -/
theorem TypeChecker.validate_sameProgress {t : TypeChecker} (ht : t.Every PropertyChecker.FollowsObjects)
    (hresolve : ∀ ref t, resolve ref = some t → t.Every PropertyChecker.FollowsObjects) {v : Value} (hv : σ.Acyclic v)
    {m n : Int} (hm : (σ.nesting v : Int) - 1 ≤ m) (hn : (σ.nesting v : Int) - 1 ≤ n) :
    Ends (SameProgress σ) (fun _ => SameProgress σ) (fun found => ∀ f ∈ found, f.Unguarded)
      ((t.collect (follow resolve m.toNat) { maxDepth := m } {} v).ending { store := σ })
      ((t.collect (follow resolve n.toNat) { maxDepth := n } {} v).ending { store := σ }) := by
  have hlawful : (Keeping.inside σ v (follow resolve m.toNat) (follow resolve n.toNat) { maxDepth := m }
      { maxDepth := n }).Lawful := by
    refine Keeping.inside_lawful fun {r s convert path ref w} hr hroot hw hwm => ?_
    have hlt := hv.nesting_lt hroot hw
    exact follow_unguarded hresolve m.toNat hr (hv.of_reaches hw.to_reflTransGen) hwm (by omega) (by omega) rfl rfl
      fun x hx => nomatch hx
  have hstart : SameProgress σ { store := σ } { store := σ } :=
    ⟨rfl, .refl σ, fun _ h => (nomatch h), fun _ h => (nomatch h)⟩
  exact TypeChecker.collect_ends hlawful t ht trivial hstart (.inl rfl)

end Runs

/-- **On data without cycles the guard is invisible.** For a built type, a registry of built types, and a candidate without
cycles, let `h` be the largest number of mappings on a path from the candidate. With a bound of at least `h - 1` no
reference that is met, in trials of elements or elsewhere, is refused for a cycle or for its depth, no violation says so,
and what the run ends with and the store that it leaves are the same for all such bounds. -/
theorem ObjectType.validate_guard_invisible {legal : Capabilities → Prop} {t : ObjectType}
    {registry : TypeRef → Option ObjectType} {σ : Store} {v : Value} (ht : t.Built legal)
    (hregistry : ∀ ref u, registry ref = some u → u.Built legal) (hv : σ.Acyclic v) :
    ∃ h, IsGreatest (σ.mappingCounts v) h ∧ ∀ maxDepth : Int, (h : Int) - 1 ≤ maxDepth →
      let outcome := t.checker.validate (fun ref => (registry ref).map ObjectType.checker) maxDepth v σ
      (∀ visit ∈ outcome.run.visits, visit.outcome ≠ .cyclic ∧ visit.outcome ≠ .tooDeep) ∧
      (∀ found, outcome.result = .ok found → ∀ f ∈ found, f.code ≠ .cycle ∧ f.code ≠ .depth) ∧
      ∀ other : Int, (h : Int) - 1 ≤ other →
        let outcome' := t.checker.validate (fun ref => (registry ref).map ObjectType.checker) other v σ
        outcome'.result = outcome.result ∧ outcome'.run.store = outcome.run.store := by
  have hresolve : ∀ ref u, (registry ref).map ObjectType.checker = some u → u.Every PropertyChecker.FollowsObjects := by
    intro ref u hu
    obtain ⟨w, hw, rfl⟩ := Option.map_eq_some_iff.1 hu
    exact (hregistry ref w hw).followsObjects
  refine ⟨σ.nesting v, hv.nesting_isGreatest, fun maxDepth hm => ?_⟩
  intro outcome
  have hself := TypeChecker.validate_sameProgress ht.followsObjects hresolve hv hm hm
  refine ⟨fun visit hvisit => ?_, fun found hfound => (hself.of_ok hfound).1, fun other ho => ?_⟩
  · obtain ⟨e, he, hev⟩ := List.mem_filterMap.1 hvisit
    have hunguarded : outcome.run.Unguarded :=
      hself.runs_of (R := fun r _ => r.Unguarded) (fun _ _ h => h.first) fun _ _ _ h => h.first
    cases e with
    | met visit' =>
        cases hev
        exact hunguarded _ he
    | left => cases hev
  · have hboth := TypeChecker.validate_sameProgress ht.followsObjects hresolve hv hm ho
    exact ⟨hboth.result_eq.symm, hboth.runs_of (R := fun r s => s.store = r.store) (fun _ _ h => h.store_eq) fun _ _ _ h => h.store_eq⟩

/-! A list of two nodes: a type that refers to itself, and a node that holds the other one. -/

/-- A type of mappings with the next one of the same type inside. -/
def nodeData : Datum :=
  .record [("name", .text "Node"), ("properties", .record [("next", .record [("type", .text "Object"),
    ("constraints", .list [.record [("method", .text "objectSchemaType"), ("args", .list [.record
      [("namespace", .text "ns://nodes"), ("version", .text "1.0.0"), ("type", .text "Node")]])]])])])]

def nodeType : ObjectType := (ObjectType.ofDatum? nodeData).get (by decide +kernel)

def twoNodes : Store := ⟨#[.mapping [(.text "next", .container 1)], .mapping []]⟩

theorem nodeType_built : nodeType.Built (· = .standard) := ObjectType.ofDatum?_built (Option.some_get _).symm

/-- Where containers hold only containers at higher addresses there are no cycles. -/
theorem Store.acyclic_of_lt {σ : Store} (h : ∀ a w, σ.Contains (.container a) w → a < w.address ∨ w.isScalar = true)
    (v : Value) : σ.Acyclic v := by
  have hless : ∀ a w, TransGen σ.Contains (.container a) w → a < w.address ∨ w.isScalar = true := by
    intro a w hw
    induction hw with
    | single hw => exact h a _ hw
    | @tail x y _ hxy ih =>
        cases x with
        | scalar b => exact absurd hxy Store.not_contains_scalar
        | container b =>
            rcases ih with ih | ih
            · rcases h b y hxy with hy | hy
              · exact .inl (Nat.lt_trans ih hy)
              · exact .inr hy
            · cases ih
  intro w _ hw
  cases w with
  | scalar b =>
      obtain ⟨_, hb, _⟩ := TransGen.head'_iff.1 hw
      exact absurd hb Store.not_contains_scalar
  | container a =>
      rcases hless a _ hw with hlt | hs
      · exact Nat.lt_irrefl _ hlt
      · cases hs

theorem twoNodes_acyclic : twoNodes.Acyclic (.container 0) := by
  refine Store.acyclic_of_lt (fun a w h => ?_) _
  obtain ⟨c, hc, hw⟩ := h
  match a, hc with
  | 0, hc =>
      cases hc
      obtain rfl := List.mem_singleton.1 hw
      exact .inl (by decide)
  | 1, hc =>
      cases hc
      cases hw
  | a + 2, hc => cases hc

theorem nodeType_guard_invisible :
    ∃ h, IsGreatest (twoNodes.mappingCounts (.container 0)) h ∧ ∀ maxDepth : Int, (h : Int) - 1 ≤ maxDepth →
      let outcome := nodeType.checker.validate (fun _ => (some nodeType).map ObjectType.checker) maxDepth (.container 0) twoNodes
      (∀ visit ∈ outcome.run.visits, visit.outcome ≠ .cyclic ∧ visit.outcome ≠ .tooDeep) ∧
      (∀ found, outcome.result = .ok found → ∀ f ∈ found, f.code ≠ .cycle ∧ f.code ≠ .depth) ∧
      ∀ other : Int, (h : Int) - 1 ≤ other →
        let outcome' := nodeType.checker.validate (fun _ => (some nodeType).map ObjectType.checker) other (.container 0) twoNodes
        outcome'.result = outcome.result ∧ outcome'.run.store = outcome.run.store :=
  ObjectType.validate_guard_invisible nodeType_built (fun _ _ h => Option.some.inj h ▸ nodeType_built) twoNodes_acyclic

end ShapeCheck
