import ShapeCheck.Proofs.Leading
import ShapeCheck.Proofs.Reaching

/-!
# References of definitions and of checkers

`TypeDef.references` reads the references of a type off its definition, `TypeChecker.references` collects those of the rules
that the definition compiles to. They are the same list (`TypeDef.Compiles.references_eq`): a constraint names what the rule
that it adds may follow, and a constraint that adds no rule names nothing. What stands in place inside of a type names no
reference that the type does not name (`PropertyChecker.references_subset`).
-/

namespace ShapeCheck

open Shape

/-! ## References in lists -/

theorem PropertyChecker.referencesOfAll_eq (cs : List PropertyChecker) :
    PropertyChecker.referencesOfAll cs = cs.flatMap PropertyChecker.references := by
  induction cs with
  | nil => rw [PropertyChecker.referencesOfAll, List.flatMap_nil]
  | cons c rest ih => rw [PropertyChecker.referencesOfAll, List.flatMap_cons, ih]

theorem Rule.referencesOfAll_eq (rules : List Rule) : Rule.referencesOfAll rules = rules.flatMap Rule.references := by
  induction rules with
  | nil => rw [Rule.referencesOfAll, List.flatMap_nil]
  | cons r rest ih => rw [Rule.referencesOfAll, List.flatMap_cons, ih]

theorem PropertyChecker.references_eq (c : PropertyChecker) : c.references = c.rules.flatMap Rule.references := by
  obtain ⟨_, _, _, _, _, _, _, _, _, rules⟩ := c
  rw [PropertyChecker.references, Rule.referencesOfAll_eq]

theorem PropertyChecker.references_addRule (c : PropertyChecker) (r : Rule) :
    (c.addRule r).references = c.references ++ r.references := by
  rw [references_eq, references_eq, addRule_rules, List.flatMap_append, List.flatMap_singleton]

/-! ## One constraint -/

theorem Method.reference_of_name {k : Kind} {m : Method} (h : Method.ofName? k "objectSchemaType" = some m) : m = .reference := by
  revert h m
  cases k <;> decide

theorem Method.elements_of_name {k : Kind} {name : String} {m : Method} (h : Method.ofName? k name = some m)
    (hname : name = "includes" ∨ name = "excludes") : m = .includes ∨ m = .excludes := by
  rcases hname with rfl | rfl <;> revert h m <;> cases k <;> decide

section Compile

variable {caps : Capabilities} {element : Datum → Except CompileError PropertyChecker} {c c' : PropertyChecker}

/-- A constraint names just the references of the rule that it adds. -/
theorem Method.apply_references {kind : Kind} {x : Constraint} {m : Method} (hm : Method.ofName? kind x.method = some m)
    (h : m.apply x.args (fun a _ => element a) c = .ok c')
    (helement : ∀ a ∈ x.args, ∀ e, element a = .ok e → e.references = ElementDef.referencesOf a) :
    c'.references = c.references ++ x.references := by
  have helements : ∀ {elements : List PropertyChecker}, List.Forall₂ (fun a e => element a = .ok e) x.args elements →
      PropertyChecker.referencesOfAll elements = x.args.flatMap ElementDef.referencesOf := by
    intro elements hall
    rw [PropertyChecker.referencesOfAll_eq]
    clear h hm
    generalize x.args = args at hall helement
    induction hall with
    | nil => rfl
    | cons he _ ih =>
      rw [List.flatMap_cons, List.flatMap_cons, helement _ (List.mem_cons_self ..) _ he,
        ih fun a ha => helement a (List.mem_cons_of_mem _ ha)]
  have hnone : m ≠ .reference → m ≠ .includes → m ≠ .excludes → x.references = [] := by
    intro hreference hincludes hexcludes
    unfold Constraint.references Constraint.referencesWith
    rw [if_neg fun hname => hreference (reference_of_name (hname ▸ hm)), if_neg]
    simp only [Bool.or_eq_true, decide_eq_true_eq]
    exact fun hname => (elements_of_name hm hname).elim hincludes hexcludes
  rcases apply_cases h with ⟨hrule, rfl⟩ | ⟨r, hr, rfl⟩
  · rw [hnone (by rintro rfl; cases hrule) (by rintro rfl; cases hrule) (by rintro rfl; cases hrule), List.append_nil,
      PropertyChecker.references_eq, PropertyChecker.references_eq, adjust_rules]
  · rw [PropertyChecker.references_addRule]
    refine congrArg (c.references ++ ·) ?_
    cases hr with
    | includes hall =>
      rw [Constraint.references_of_elements (name_of_elements hm (.inl rfl)).2, Rule.references, helements hall]
    | excludes hall =>
      rw [Constraint.references_of_elements (name_of_elements hm (.inr rfl)).2, Rule.references, helements hall]
    | reference hfirst hread =>
      rw [Constraint.references_of_reference (name_of_reference hm).2 hfirst hread, Rule.references]
    | _ =>
      rw [hnone (by rintro ⟨⟩) (by rintro ⟨⟩) (by rintro ⟨⟩)]
      simp only [Rule.references]

/-! ## From constraints to types -/

namespace Capabilities

theorem compileConstraints_references {kind : Kind} {element : String → Datum → Except CompileError PropertyChecker} :
    ∀ {cs : List Constraint} {c c' : PropertyChecker},
      (∀ x ∈ cs, ∀ a ∈ x.args, ∀ m e, element m a = .ok e → e.references = ElementDef.referencesOf a) →
      caps.compileConstraints kind cs (fun m a _ => element m a) c = .ok c' →
      c'.references = c.references ++ cs.flatMap Constraint.references
  | [], c, c', _, h => by
    unfold compileConstraints at h
    cases h
    exact (List.append_nil _).symm
  | x :: rest, c, c', helement, h => by
    unfold compileConstraints at h
    obtain ⟨next, hnext, h⟩ := Except.bind_eq_ok.1 h
    obtain ⟨form, m, -, hm, happly⟩ := compileConstraint_eq_ok hnext
    have hfirst := Method.apply_references hm happly fun a ha e he => helement x (List.mem_cons_self ..) a ha _ e he
    rw [compileConstraints_references (fun y hy => helement y (List.mem_cons_of_mem _ hy)) h, hfirst, List.append_assoc,
      List.flatMap_cons]

theorem references_ofKind (kind : Kind) : (PropertyChecker.ofKind kind).references = [] := by
  rw [PropertyChecker.references_eq]
  rfl

/-- The induction is on the size of the description. -/
theorem compileElement_references (d : Datum) (m : String) (c : PropertyChecker) (h : caps.compileElement m d = .ok c) :
    c.references = ElementDef.referencesOf d := by
  obtain ⟨e, kind, he, _, hcs⟩ := compileElement_eq_ok h
  have hall := compileConstraints_references (fun x hx a ha m' c' hc' => by
    have hsmaller : sizeOf a < sizeOf d := ElementDef.args_smaller he hx ha
    exact compileElement_references a m' c' hc') hcs
  rw [hall, references_ofKind, List.nil_append, ElementDef.referencesOf_eq he]
termination_by sizeOf d

theorem compileProperty_references {kindName : String} {constraints : List Constraint} {inlineTypes : Option (List TypeChecker)}
    {c : PropertyChecker} (h : caps.compileProperty kindName constraints inlineTypes = .ok c) :
    c.references = constraints.flatMap Constraint.references ++ (inlineTypes.getD []).flatMap TypeChecker.references := by
  obtain ⟨kind, checker, _, hcs, hc⟩ := compileProperty_eq_ok h
  have hown := compileConstraints_references (fun _ _ a _ m c' => compileElement_references a m c') hcs
  rw [references_ofKind, List.nil_append] at hown
  rcases hc with ⟨rfl, rfl⟩ | ⟨t, rfl, _, _, rfl⟩
  · rw [hown]
    exact (List.append_nil _).symm
  · rw [PropertyChecker.references_addRule, hown, Rule.references_inlineType]
    exact congrArg (_ ++ ·) (List.append_nil _).symm

end Capabilities

end Compile

section Types

variable {legal : Capabilities → Prop}

mutual
theorem PropertyDef.Compiles.references_eq : ∀ {d : PropertyDef} {c : PropertyChecker}, d.Compiles legal c →
    c.references = d.references
  | ⟨_, kind, constraints, none⟩, c, h => by
    rw [PropertyDef.Compiles] at h
    obtain ⟨caps, _, hcompile⟩ := h
    rw [Capabilities.compileProperty_references hcompile, PropertyDef.references]
    rfl
  | ⟨_, kind, constraints, some types⟩, c, h => by
    rw [PropertyDef.Compiles] at h
    obtain ⟨caps, checkers, _, htypes, hcompile⟩ := h
    rw [Capabilities.compileProperty_references hcompile, PropertyDef.references]
    exact congrArg (_ ++ ·) (TypeDef.compilesAll_references htypes)
theorem TypeDef.compilesAll_references : ∀ {ds : List TypeDef} {ts : List TypeChecker}, TypeDef.CompilesAll legal ds ts →
    ts.flatMap TypeChecker.references = TypeDef.referencesOfAll ds
  | [], [], _ => by rw [TypeDef.referencesOfAll, List.flatMap_nil]
  | [], _ :: _, h => by
    unfold TypeDef.CompilesAll at h
    exact h.elim
  | _ :: _, [], h => by
    unfold TypeDef.CompilesAll at h
    exact h.elim
  | d :: ds, t :: ts, h => by
    rw [TypeDef.CompilesAll] at h
    rw [TypeDef.referencesOfAll, List.flatMap_cons, TypeDef.Compiles.references_eq h.1, TypeDef.compilesAll_references h.2]
/-- **A definition and its checker name the same references**, in the same order. -/
theorem TypeDef.Compiles.references_eq : ∀ {d : TypeDef} {t : TypeChecker}, d.Compiles legal t → t.references = d.references
  | ⟨_, _, _, properties⟩, t, h => by
    rw [TypeDef.Compiles] at h
    rw [TypeDef.references]
    exact PropertyDef.compilesFields_references h.2
theorem PropertyDef.compilesFields_references : ∀ {ds : List (String × PropertyDef)} {cs : List (String × PropertyChecker)},
    PropertyDef.CompilesFields legal ds cs → PropertyChecker.referencesOfFields cs = PropertyDef.referencesOfAll ds
  | [], [], _ => by rw [PropertyChecker.referencesOfFields, PropertyDef.referencesOfAll]
  | [], _ :: _, h => by
    unfold PropertyDef.CompilesFields at h
    exact h.elim
  | _ :: _, [], h => by
    unfold PropertyDef.CompilesFields at h
    exact h.elim
  | (_, d) :: ds, (_, c) :: cs, h => by
    rw [PropertyDef.CompilesFields] at h
    rw [PropertyChecker.referencesOfFields, PropertyDef.referencesOfAll, PropertyDef.Compiles.references_eq h.2.1,
      PropertyDef.compilesFields_references h.2.2]
end

end Types

/-! ## What stands inside -/

mutual
theorem Rule.references_subset : ∀ {r : Rule} {c : PropertyChecker}, c ∈ r.checkers → c.references ⊆ r.references
  | .includes elements, c, h => by
    rw [Rule.checkers] at h
    rw [Rule.references]
    exact PropertyChecker.referencesOfAll_subset h
  | .excludes elements, c, h => by
    rw [Rule.checkers] at h
    rw [Rule.references]
    exact PropertyChecker.referencesOfAll_subset h
  | .inlineType ⟨properties, _⟩, c, h => by
    rw [Rule.checkers] at h
    rw [Rule.references]
    exact PropertyChecker.referencesOfFields_subset h
  | .length .., c, h | .pattern .., c, h | .alphanumeric _, c, h | .email, c, h | .date, c, h | .atLeast _, c, h
  | .atMost _, c, h | .whole, c, h | .fraction, c, h | .reference _, c, h => by simp only [Rule.checkers] at h; cases h
theorem Rule.referencesOfAll_subset : ∀ {rules : List Rule} {c : PropertyChecker}, c ∈ Rule.checkersOfAll rules →
    c.references ⊆ Rule.referencesOfAll rules
  | r :: rest, c, h => by
    rw [Rule.checkersOfAll] at h
    rw [Rule.referencesOfAll]
    rcases List.mem_append.1 h with h | h
    · exact List.subset_append_of_subset_left _ (Rule.references_subset h)
    · exact List.subset_append_of_subset_right _ (Rule.referencesOfAll_subset h)
/-- A checker inside of another one names no further references. -/
theorem PropertyChecker.references_subset : ∀ {d c : PropertyChecker}, c ∈ d.checkers → c.references ⊆ d.references
  | ⟨_, _, _, _, _, _, _, _, _, rules⟩, c, h => by
    rw [PropertyChecker.checkers] at h
    rcases List.mem_cons.1 h with rfl | h
    · exact List.Subset.refl _
    · rw [PropertyChecker.references]
      exact Rule.referencesOfAll_subset h
theorem PropertyChecker.referencesOfAll_subset : ∀ {cs : List PropertyChecker} {c : PropertyChecker},
    c ∈ PropertyChecker.checkersOfAll cs → c.references ⊆ PropertyChecker.referencesOfAll cs
  | d :: rest, c, h => by
    rw [PropertyChecker.checkersOfAll] at h
    rw [PropertyChecker.referencesOfAll]
    rcases List.mem_append.1 h with h | h
    · exact List.subset_append_of_subset_left _ (PropertyChecker.references_subset h)
    · exact List.subset_append_of_subset_right _ (PropertyChecker.referencesOfAll_subset h)
theorem PropertyChecker.referencesOfFields_subset : ∀ {ps : List (String × PropertyChecker)} {c : PropertyChecker},
    c ∈ PropertyChecker.checkersOfFields ps → c.references ⊆ PropertyChecker.referencesOfFields ps
  | (_, d) :: rest, c, h => by
    rw [PropertyChecker.checkersOfFields] at h
    rw [PropertyChecker.referencesOfFields]
    rcases List.mem_append.1 h with h | h
    · exact List.subset_append_of_subset_left _ (PropertyChecker.references_subset h)
    · exact List.subset_append_of_subset_right _ (PropertyChecker.referencesOfFields_subset h)
end

end ShapeCheck
