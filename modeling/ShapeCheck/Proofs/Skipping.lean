import ShapeCheck.Proofs.Determined

/-!
# Types that skip conversions

`TypeDef.skipping` sets `skipConversions` in a definition and in all types in place inside of it, and `TypeChecker.skipping` does
so in a checker. A definition with it set compiles to the checker with it set (`TypeDef.Compiles.skipping`): descriptions of
elements hold no types in place, so constraints compile to what they compiled to before. A type that is built from such a
definition is known by that (`ObjectType.Built.checker_skipping`).
-/

namespace ShapeCheck

/-! ## Checkers -/

mutual
/-- A rule whose types in place skip conversions, at any depth. -/
def Rule.skipping : Rule → Rule
  | .includes elements => .includes (PropertyChecker.skippingAll elements)
  | .excludes elements => .excludes (PropertyChecker.skippingAll elements)
  | .inlineType t => .inlineType t.skipping
  | x => x
def Rule.skippingAll : List Rule → List Rule
  | [] => []
  | x :: rest => x.skipping :: Rule.skippingAll rest
/-- A checker whose types in place skip conversions, at any depth. -/
def PropertyChecker.skipping : PropertyChecker → PropertyChecker
  | ⟨kind, required, nullOk, emptyOk, onlyValid, allowed, denied, peersWith, peersWithout, rules⟩ =>
    ⟨kind, required, nullOk, emptyOk, onlyValid, allowed, denied, peersWith, peersWithout, Rule.skippingAll rules⟩
def PropertyChecker.skippingAll : List PropertyChecker → List PropertyChecker
  | [] => []
  | c :: rest => c.skipping :: PropertyChecker.skippingAll rest
def PropertyChecker.skippingFields : List (String × PropertyChecker) → List (String × PropertyChecker)
  | [] => []
  | (name, c) :: rest => (name, c.skipping) :: PropertyChecker.skippingFields rest
/-- A type that skips conversions, as do the types in place inside of it. -/
def TypeChecker.skipping : TypeChecker → TypeChecker
  | ⟨properties, leniency⟩ => ⟨PropertyChecker.skippingFields properties, { leniency with skipConversions := true }⟩
end

/-- What references lead to, where all types skip conversions. -/
def Resolver.skipping (resolve : Resolver) : Resolver := fun ref => (resolve ref).map TypeChecker.skipping

section Checkers

variable {c : PropertyChecker} {t : TypeChecker}

theorem Rule.skippingAll_eq (rules : List Rule) : Rule.skippingAll rules = rules.map Rule.skipping := by
  induction rules with
  | nil => rw [Rule.skippingAll, List.map_nil]
  | cons x rest ih => rw [Rule.skippingAll, List.map_cons, ih]

theorem PropertyChecker.skippingAll_eq (cs : List PropertyChecker) : skippingAll cs = cs.map skipping := by
  induction cs with
  | nil => rw [skippingAll, List.map_nil]
  | cons c rest ih => rw [skippingAll, List.map_cons, ih]

theorem PropertyChecker.skippingFields_eq (ps : List (String × PropertyChecker)) :
    skippingFields ps = ps.map fun p => (p.1, p.2.skipping) := by
  induction ps with
  | nil => rw [skippingFields, List.map_nil]
  | cons p rest ih => rw [skippingFields, List.map_cons, ih]

theorem Rule.skipping_reference (ref : TypeRef) : (Rule.reference ref).skipping = .reference ref := by
  simp only [Rule.skipping]

/-- Beside its rules a checker is as before. -/
theorem PropertyChecker.skipping_eq (c : PropertyChecker) : c.skipping = { c with rules := c.rules.map Rule.skipping } := by
  obtain ⟨_, _, _, _, _, _, _, _, _, rules⟩ := c
  rw [skipping, Rule.skippingAll_eq]

theorem PropertyChecker.skipping_rules (c : PropertyChecker) : c.skipping.rules = c.rules.map Rule.skipping := by
  rw [skipping_eq]

theorem TypeChecker.skipping_leniency (t : TypeChecker) : t.skipping.leniency = { t.leniency with skipConversions := true } := by
  obtain ⟨_, _⟩ := t
  rw [skipping]

theorem TypeChecker.skipping_properties (t : TypeChecker) :
    t.skipping.properties = t.properties.map fun p => (p.1, p.2.skipping) := by
  obtain ⟨properties, _⟩ := t
  rw [skipping, PropertyChecker.skippingFields_eq]

/-- A checker without types in place is as before. -/
theorem PropertyChecker.skipping_same_iff : c.skipping = c ↔ ∀ x ∈ c.rules, x.skipping = x := by
  rw [skipping_eq]
  obtain ⟨_, _, _, _, _, _, _, _, _, rules⟩ := c
  simp only [mk.injEq, true_and]
  have hid := List.map_id rules
  exact ⟨fun h => List.map_inj_left.1 (h.trans hid.symm), fun h => (List.map_congr_left h).trans hid⟩

theorem PropertyChecker.skipping_addRule (c : PropertyChecker) (x : Rule) :
    (c.addRule x).skipping = c.skipping.addRule x.skipping := by
  rw [skipping_eq, skipping_eq]
  simp [addRule]

end Checkers

/-! ## Constraints -/

namespace Capabilities

variable {caps : Capabilities}

theorem skipping_elements {element : Datum → Except CompileError PropertyChecker} {args : List Datum}
    {elements : List PropertyChecker} (h : List.Forall₂ (fun a c => element a = .ok c) args elements)
    (helement : ∀ a ∈ args, ∀ c, element a = .ok c → c.skipping = c) : PropertyChecker.skippingAll elements = elements := by
  have hsame : ∀ c ∈ elements, c.skipping = c := by
    intro c hc
    obtain ⟨a, ha, hcompiled⟩ := List.Forall₂.exists_of_mem_right h hc
    exact helement a ha c hcompiled
  rw [PropertyChecker.skippingAll_eq, List.map_congr_left hsame, List.map_id']

/-- A rule that a constraint adds has no types in place. -/
theorem skipping_added {element : Datum → Except CompileError PropertyChecker} {args : List Datum} {m : Method} {x : Rule}
    (h : m.Adds element args x) (helement : ∀ a ∈ args, ∀ c, element a = .ok c → c.skipping = c) : x.skipping = x := by
  cases h with
  | includes hcompiled => rw [Rule.skipping, skipping_elements hcompiled helement]
  | excludes hcompiled => rw [Rule.skipping, skipping_elements hcompiled helement]
  | _ => simp only [Rule.skipping]

theorem compileConstraints_skipping {kind : Kind} {element : String → Datum → Except CompileError PropertyChecker}
    {cs : List Constraint} {c c' : PropertyChecker}
    (helement : ∀ k ∈ cs, ∀ a ∈ k.args, ∀ m e, element m a = .ok e → e.skipping = e)
    (h : caps.compileConstraints kind cs (fun m a _ => element m a) c = .ok c') (hc : c.skipping = c) : c'.skipping = c' := by
  refine compileConstraints_induct (I := fun c => c.skipping = c) (fun k hk {_ m b b'} _ _ happly hb => ?_) h hc
  rcases Method.apply_cases happly with ⟨_, rfl⟩ | ⟨x, hx, rfl⟩
  · rw [PropertyChecker.skipping_same_iff] at hb ⊢
    rw [Method.adjust_rules]
    exact hb
  · rw [PropertyChecker.skipping_addRule, hb, skipping_added hx fun a ha e he => helement k hk a ha k.method e he]

theorem skipping_ofKind (kind : Kind) : (PropertyChecker.ofKind kind).skipping = PropertyChecker.ofKind kind :=
  PropertyChecker.skipping_same_iff.2 fun _ hx => absurd hx List.not_mem_nil

/-- The description of an element has no types in place. The induction is on the size of the description. -/
theorem compileElement_skipping (m : String) (d : Datum) (c : PropertyChecker) (h : caps.compileElement m d = .ok c) :
    c.skipping = c := by
  obtain ⟨e, kind, he, -, hcs⟩ := compileElement_eq_ok h
  refine compileConstraints_skipping (fun k hk a ha m x hx => ?_) hcs (skipping_ofKind kind)
  have hsmaller : sizeOf a < sizeOf d := ElementDef.args_smaller he hk ha
  exact compileElement_skipping m a x hx
termination_by sizeOf d

/-- With inline types that skip conversions a property compiles to the checker whose types in place do so. -/
theorem compileProperty_skipping {kindName : String} {cs : List Constraint} {types : Option (List TypeChecker)}
    {c : PropertyChecker} (h : caps.compileProperty kindName cs types = .ok c) :
    caps.compileProperty kindName cs (types.map fun ts => ts.map TypeChecker.skipping) = .ok c.skipping := by
  obtain ⟨kind, b, hkind, hcs, hrest⟩ := compileProperty_eq_ok h
  have hb : b.skipping = b :=
    compileConstraints_skipping (fun _ _ a _ m e he => compileElement_skipping m a e he) hcs (skipping_ofKind kind)
  unfold compileProperty
  rw [hkind]
  simp only [bind, Except.bind, hcs]
  rcases hrest with ⟨rfl, rfl⟩ | ⟨t, rfl, rfl, hreference, rfl⟩
  · rw [hb]
    rfl
  · rw [PropertyChecker.skipping_addRule, hb, Rule.skipping]
    simp [hreference]

end Capabilities

/-! ## Definitions -/

mutual
def PropertyDef.skipping : PropertyDef → PropertyDef
  | ⟨description, kind, constraints, none⟩ => ⟨description, kind, constraints, none⟩
  | ⟨description, kind, constraints, some types⟩ => ⟨description, kind, constraints, some (TypeDef.skippingAll types)⟩
def TypeDef.skippingAll : List TypeDef → List TypeDef
  | [] => []
  | t :: rest => t.skipping :: TypeDef.skippingAll rest
/-- A definition with `skipConversions` set, and set in the types in place. -/
def TypeDef.skipping : TypeDef → TypeDef
  | ⟨name, description, leniency, properties⟩ =>
    ⟨name, description, { leniency with skipConversions := true }, PropertyDef.skippingFields properties⟩
def PropertyDef.skippingFields : List (String × PropertyDef) → List (String × PropertyDef)
  | [] => []
  | (name, p) :: rest => (name, p.skipping) :: PropertyDef.skippingFields rest
end

section Definitions

variable {legal legal' : Capabilities → Prop}

mutual
theorem PropertyDef.Compiles.skipping : ∀ {d : PropertyDef} {c : PropertyChecker}, d.Compiles legal c →
    d.skipping.Compiles legal c.skipping
  | ⟨_, kind, constraints, none⟩, c, h => by
      rw [PropertyDef.Compiles] at h
      obtain ⟨caps, hlegal, hcompile⟩ := h
      rw [PropertyDef.skipping, PropertyDef.Compiles]
      exact ⟨caps, hlegal, Capabilities.compileProperty_skipping hcompile⟩
  | ⟨_, kind, constraints, some types⟩, c, h => by
      rw [PropertyDef.Compiles] at h
      obtain ⟨caps, checkers, hlegal, htypes, hcompile⟩ := h
      rw [PropertyDef.skipping, PropertyDef.Compiles]
      exact ⟨caps, _, hlegal, TypeDef.compilesAll_skipping htypes, Capabilities.compileProperty_skipping hcompile⟩
theorem TypeDef.compilesAll_skipping : ∀ {ds : List TypeDef} {ts : List TypeChecker}, TypeDef.CompilesAll legal ds ts →
    TypeDef.CompilesAll legal (TypeDef.skippingAll ds) (ts.map TypeChecker.skipping)
  | [], [], _ => by
      rw [TypeDef.skippingAll, List.map_nil]
      unfold TypeDef.CompilesAll
      trivial
  | [], _ :: _, h => by
      unfold TypeDef.CompilesAll at h
      exact h.elim
  | _ :: _, [], h => by
      unfold TypeDef.CompilesAll at h
      exact h.elim
  | d :: ds, t :: ts, h => by
      rw [TypeDef.CompilesAll] at h
      rw [TypeDef.skippingAll, List.map_cons, TypeDef.CompilesAll]
      exact ⟨TypeDef.Compiles.skipping h.1, TypeDef.compilesAll_skipping h.2⟩
/-- **A definition that skips conversions compiles to the checker that does so.** -/
theorem TypeDef.Compiles.skipping : ∀ {d : TypeDef} {t : TypeChecker}, d.Compiles legal t → d.skipping.Compiles legal t.skipping
  | ⟨_, _, leniency, properties⟩, ⟨checkers, _⟩, h => by
      rw [TypeDef.Compiles] at h
      rw [TypeDef.skipping, TypeChecker.skipping, TypeDef.Compiles]
      exact ⟨by rw [h.1], PropertyDef.compilesFields_skipping h.2⟩
theorem PropertyDef.compilesFields_skipping : ∀ {ds : List (String × PropertyDef)} {cs : List (String × PropertyChecker)},
    PropertyDef.CompilesFields legal ds cs →
      PropertyDef.CompilesFields legal (PropertyDef.skippingFields ds) (PropertyChecker.skippingFields cs)
  | [], [], _ => by
      rw [PropertyDef.skippingFields, PropertyChecker.skippingFields]
      unfold PropertyDef.CompilesFields
      trivial
  | [], _ :: _, h => by
      unfold PropertyDef.CompilesFields at h
      exact h.elim
  | _ :: _, [], h => by
      unfold PropertyDef.CompilesFields at h
      exact h.elim
  | (_, d) :: ds, (_, c) :: cs, h => by
      rw [PropertyDef.CompilesFields] at h
      rw [PropertyDef.skippingFields, PropertyChecker.skippingFields, PropertyDef.CompilesFields]
      exact ⟨h.1, PropertyDef.Compiles.skipping h.2.1, PropertyDef.compilesFields_skipping h.2.2⟩
end

/-- A type with `skipConversions` set has the checker with it set. -/
theorem ObjectType.Built.checker_skipping {t u : ObjectType} (ht : t.Built legal) (hu : u.Built legal')
    (h : u.definition = t.definition.skipping) : u.checker = t.checker.skipping := by
  have hcompiles : t.definition.skipping.Compiles legal' u.checker := h ▸ hu.compiles
  exact ht.compiles.skipping.determined hcompiles

end Definitions

end ShapeCheck
