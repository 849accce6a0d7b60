import ShapeCheck.Proofs.Constraints

/-!
# What a definition compiles to

Capabilities say which definitions compile, and not to what: `Capabilities.compileProperty_determined` says that a property
compiles to one checker, whatever capabilities let it pass. So a definition has one checker at most
(`TypeDef.Compiles.determined`), and a type that is built is known by its definition.
-/

namespace ShapeCheck

section Constraints

variable {caps caps' : Capabilities} {element element' : Datum → Except CompileError PropertyChecker} {args : List Datum}

/-- What compiles to one checker each compiles to one list of checkers. -/
theorem List.Forall₂.determined {α β : Type} {R S : α → β → Prop} {xs : List α} {ys zs : List β} (hy : List.Forall₂ R xs ys)
    (hz : List.Forall₂ S xs zs) (h : ∀ x ∈ xs, ∀ y z, R x y → S x z → z = y) : zs = ys := by
  induction hy generalizing zs with
  | nil =>
      cases hz
      rfl
  | cons hxy _ ih =>
      cases hz with
      | cons hxz hz =>
          rw [List.forall_mem_cons] at h
          rw [h.1 _ _ hxy hxz, ih hz h.2]

theorem Method.apply_determined {m : Method} {c x y : PropertyChecker}
    (helement : ∀ a ∈ args, ∀ e e', element a = .ok e → element' a = .ok e' → e' = e)
    (hx : m.apply args (fun a _ => element a) c = .ok x) (hy : m.apply args (fun a _ => element' a) c = .ok y) : y = x := by
  cases m with
  | includes =>
      obtain ⟨es, hes, hx⟩ := Except.bind_eq_ok.1 hx
      obtain ⟨es', hes', hy⟩ := Except.bind_eq_ok.1 hy
      cases hx
      cases hy
      rw [List.Forall₂.determined (elements_eq_ok hes) (elements_eq_ok hes') helement]
  | excludes =>
      obtain ⟨es, hes, hx⟩ := Except.bind_eq_ok.1 hx
      obtain ⟨es', hes', hy⟩ := Except.bind_eq_ok.1 hy
      cases hx
      cases hy
      rw [List.Forall₂.determined (elements_eq_ok hes) (elements_eq_ok hes') helement]
  | _ => exact (Except.ok.inj (hx.symm.trans hy)).symm

namespace Capabilities

theorem compileConstraints_determined {kind : Kind} {element element' : String → Datum → Except CompileError PropertyChecker} :
    ∀ {cs : List Constraint} {checker x y : PropertyChecker},
      (∀ c ∈ cs, ∀ a ∈ c.args, ∀ m e e', element m a = .ok e → element' m a = .ok e' → e' = e) →
      caps.compileConstraints kind cs (fun m a _ => element m a) checker = .ok x →
      caps'.compileConstraints kind cs (fun m a _ => element' m a) checker = .ok y → y = x
  | [], checker, x, y, _, hx, hy => by
      unfold compileConstraints at hx hy
      exact Except.ok.inj (hy.symm.trans hx)
  | c :: rest, checker, x, y, helement, hx, hy => by
      unfold compileConstraints at hx hy
      obtain ⟨next, hnext, hx⟩ := Except.bind_eq_ok.1 hx
      obtain ⟨next', hnext', hy⟩ := Except.bind_eq_ok.1 hy
      obtain ⟨_, m, _, hm, happly⟩ := compileConstraint_eq_ok hnext
      obtain ⟨_, m', _, hm', happly'⟩ := compileConstraint_eq_ok hnext'
      cases hm.symm.trans hm'
      rw [List.forall_mem_cons] at helement
      obtain rfl := Method.apply_determined (fun a ha => helement.1 a ha c.method) happly happly'
      exact compileConstraints_determined helement.2 hx hy

/-- The induction is on the size of the description, which is larger than those inside of it. -/
theorem compileElement_determined (d : Datum) (m m' : String) (c c' : PropertyChecker) (h : caps.compileElement m d = .ok c)
    (h' : caps'.compileElement m' d = .ok c') : c' = c := by
  obtain ⟨e, kind, he, hkind, hcs⟩ := compileElement_eq_ok h
  obtain ⟨e', kind', he', hkind', hcs'⟩ := compileElement_eq_ok h'
  cases he.symm.trans he'
  cases (kindNamed_eq_ok hkind).symm.trans (kindNamed_eq_ok hkind')
  refine compileConstraints_determined (fun k hk a ha m x y hx hy => ?_) hcs hcs'
  have hsmaller : sizeOf a < sizeOf d := ElementDef.args_smaller he hk ha
  exact compileElement_determined a m m x y hx hy
termination_by sizeOf d

/-- The constraints of a property come to one checker. -/
theorem propertyConstraints_determined {kind : Kind} {cs : List Constraint} {checker x y : PropertyChecker}
    (hx : caps.compileConstraints kind cs (fun m a _ => caps.compileElement m a) checker = .ok x)
    (hy : caps'.compileConstraints kind cs (fun m a _ => caps'.compileElement m a) checker = .ok y) : y = x :=
  compileConstraints_determined (fun _ _ a _ m e e' h h' => compileElement_determined a m m e e' h h') hx hy

/-- A property compiles to one checker, whatever capabilities let it pass. -/
theorem compileProperty_determined {kindName : String} {cs : List Constraint} {types : Option (List TypeChecker)}
    {c c' : PropertyChecker} (h : caps.compileProperty kindName cs types = .ok c)
    (h' : caps'.compileProperty kindName cs types = .ok c') : c' = c := by
  obtain ⟨kind, b, hkind, hcs, hc⟩ := compileProperty_eq_ok h
  obtain ⟨kind', b', hkind', hcs', hc'⟩ := compileProperty_eq_ok h'
  cases (kindNamed_eq_ok hkind).symm.trans (kindNamed_eq_ok hkind')
  obtain rfl := propertyConstraints_determined hcs hcs'
  rcases hc with ⟨rfl, rfl⟩ | ⟨t, rfl, -, -, rfl⟩
  · rcases hc' with ⟨-, rfl⟩ | ⟨t, ht, -⟩
    · rfl
    · cases ht
  · rcases hc' with ⟨hnone, -⟩ | ⟨t', ht, -, -, rfl⟩
    · cases hnone
    · cases ht
      rfl

end Capabilities

end Constraints

section Definitions

variable {legal legal' : Capabilities → Prop}

mutual
theorem PropertyDef.Compiles.determined : ∀ {d : PropertyDef} {c c' : PropertyChecker}, d.Compiles legal c → d.Compiles legal' c' →
    c' = c
  | ⟨_, kind, constraints, none⟩, c, c', h, h' => by
      rw [PropertyDef.Compiles] at h h'
      obtain ⟨caps, _, hcompile⟩ := h
      obtain ⟨caps', _, hcompile'⟩ := h'
      exact Capabilities.compileProperty_determined hcompile hcompile'
  | ⟨_, kind, constraints, some types⟩, c, c', h, h' => by
      rw [PropertyDef.Compiles] at h h'
      obtain ⟨caps, checkers, _, htypes, hcompile⟩ := h
      obtain ⟨caps', checkers', _, htypes', hcompile'⟩ := h'
      obtain rfl := TypeDef.compilesAll_determined htypes htypes'
      exact Capabilities.compileProperty_determined hcompile hcompile'
theorem TypeDef.compilesAll_determined : ∀ {ds : List TypeDef} {ts ts' : List TypeChecker}, TypeDef.CompilesAll legal ds ts →
    TypeDef.CompilesAll legal' ds ts' → ts' = ts
  | [], [], [], _, _ => rfl
  | [], _, _ :: _, _, h' => by
      unfold TypeDef.CompilesAll at h'
      exact h'.elim
  | [], _ :: _, _, h, _ => by
      unfold TypeDef.CompilesAll at h
      exact h.elim
  | _ :: _, [], _, h, _ => by
      unfold TypeDef.CompilesAll at h
      exact h.elim
  | _ :: _, _, [], _, h' => by
      unfold TypeDef.CompilesAll at h'
      exact h'.elim
  | d :: ds, t :: ts, t' :: ts', h, h' => by
      rw [TypeDef.CompilesAll] at h h'
      rw [TypeDef.Compiles.determined h.1 h'.1, TypeDef.compilesAll_determined h.2 h'.2]
/-- **A definition compiles to one checker.** -/
theorem TypeDef.Compiles.determined : ∀ {d : TypeDef} {t t' : TypeChecker}, d.Compiles legal t → d.Compiles legal' t' → t' = t
  | ⟨_, _, leniency, properties⟩, ⟨checkers, _⟩, ⟨checkers', _⟩, h, h' => by
      rw [TypeDef.Compiles] at h h'
      obtain ⟨hleniency, hfields⟩ := h
      obtain ⟨hleniency', hfields'⟩ := h'
      obtain rfl := PropertyDef.compilesFields_determined hfields hfields'
      rw [TypeChecker.mk.injEq]
      exact ⟨rfl, hleniency'.symm.trans hleniency⟩
theorem PropertyDef.compilesFields_determined : ∀ {ds : List (String × PropertyDef)} {cs cs' : List (String × PropertyChecker)},
    PropertyDef.CompilesFields legal ds cs → PropertyDef.CompilesFields legal' ds cs' → cs' = cs
  | [], [], [], _, _ => rfl
  | [], _, _ :: _, _, h' => by
      unfold PropertyDef.CompilesFields at h'
      exact h'.elim
  | [], _ :: _, _, h, _ => by
      unfold PropertyDef.CompilesFields at h
      exact h.elim
  | _ :: _, [], _, h, _ => by
      unfold PropertyDef.CompilesFields at h
      exact h.elim
  | _ :: _, _, [], _, h' => by
      unfold PropertyDef.CompilesFields at h'
      exact h'.elim
  | (_, d) :: ds, (_, c) :: cs, (_, c') :: cs', h, h' => by
      rw [PropertyDef.CompilesFields] at h h'
      rw [PropertyDef.Compiles.determined h.2.1 h'.2.1, PropertyDef.compilesFields_determined h.2.2 h'.2.2, ← h.1, ← h'.1]
end

end Definitions

end ShapeCheck
