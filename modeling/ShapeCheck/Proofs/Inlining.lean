import ShapeCheck.Proofs.AcyclicData
import ShapeCheck.Proofs.Calls
import ShapeCheck.Proofs.Determined
import ShapeCheck.Proofs.Tandem

/-!
# Inlining a type

A property may refer to a type, or have the type in place. The two are compiled to checkers that differ in one rule
(`Capabilities.compileProperty_inlining`), and the runs of these go in tandem: behind the reference one more reference is being
followed than in the inline type, and the bound leaves room for one more. That the mapping itself is among those that
references are being followed for makes no difference on data without cycles, since it is not met again. So
`PropertyDef.inlining` says that the two properties find the same and leave the same.
-/

namespace ShapeCheck

open Relation

/-! ## One checker with two rules -/

/-- Constraints of an object that are no references add no rule. -/
theorem Capabilities.compileConstraints_object {caps : Capabilities} {cs : List Constraint} {c : PropertyChecker}
    (hcs : ∀ k ∈ cs, k.method ≠ "objectSchemaType")
    (h : caps.compileConstraints .object cs (fun m a _ => caps.compileElement m a) (.ofKind .object) = .ok c) :
    c.kind = .object ∧ c.rules = [] := by
  refine Capabilities.compileConstraints_induct (I := fun c => c.kind = .object ∧ c.rules = [])
    (fun k hk {_ m _ _} _ hm happly hc => ?_) h ⟨rfl, rfl⟩
  rcases Method.apply_cases happly with ⟨_, rfl⟩ | ⟨rule, hrule, -⟩
  · rw [Method.adjust_kind, Method.adjust_rules]
    exact hc
  · have hmem := Method.ofName?_mem hm
    cases hrule <;> simp [Method.own, Method.base] at hmem
    exact absurd hmem (hcs k hk)

/-- A reference after other constraints adds one rule, where an inline type adds another one. -/
theorem Capabilities.compileProperty_inlining {caps : Capabilities} {cs : List Constraint} {arg : Datum} {ref : TypeRef}
    (harg : TypeRef.read arg = .ok ref) (hcs : ∀ k ∈ cs, k.method ≠ "objectSchemaType") {p : PropertyChecker}
    (h : caps.compileProperty "Object" (cs ++ [⟨"objectSchemaType", [arg]⟩]) none = .ok p) :
    ∃ b : PropertyChecker, b.kind = .object ∧ b.rules = [] ∧ p = b.addRule (.reference ref) ∧
      ∀ t, caps.compileProperty "Object" cs (some [t]) = .ok (b.addRule (.inlineType t)) := by
  obtain ⟨kind, p', hkind, hall, hp⟩ := compileProperty_eq_ok h
  obtain rfl : p = p' := by
    rcases hp with ⟨-, hp⟩ | ⟨t, ht, -⟩
    · exact hp
    · cases ht
  obtain rfl : kind = .object := (Option.some.inj ((kindNamed_eq_ok hkind).symm.trans (show _ = some Kind.object by decide)) :)
  rw [compileConstraints_append] at hall
  obtain ⟨b, hb, hlast⟩ := Except.bind_eq_ok.1 hall
  obtain ⟨hobject, hrules⟩ := compileConstraints_object hcs hb
  unfold compileConstraints at hlast
  obtain ⟨next, hnext, hlast⟩ := Except.bind_eq_ok.1 hlast
  unfold compileConstraints at hlast
  cases hlast
  obtain ⟨_, m, -, hm, happly⟩ := compileConstraint_eq_ok hnext
  obtain rfl : m = .reference := (Option.some.inj (hm.symm.trans (show _ = some Method.reference by rfl)) :)
  obtain ⟨rule, hrule, happly⟩ := Except.bind_eq_ok.1 happly
  obtain ⟨d, ref', hd, href', rfl⟩ := referenceRule_eq_ok hrule
  cases hd
  cases happly
  obtain rfl : ref = ref' := by simpa [harg] using href'
  refine ⟨b, hobject, hrules, rfl, fun t => ?_⟩
  unfold compileProperty
  simp [bind, Except.bind, hkind, hb, hrules]

/-! ## Two runs inside of one mapping -/

namespace Violation

/-- Two violations of one constraint at one place, whatever they say. -/
structure SamePlace (f g : Violation Value) : Prop where
  path : g.path = f.path
  code : g.code = f.code
  constraint : g.constraint = f.constraint
  value : g.value = f.value

theorem SamePlace.refl (f : Violation Value) : f.SamePlace f := ⟨rfl, rfl, rfl, rfl⟩

end Violation

/-- A value and what it holds, at any depth. What the parts of a type are checked for stands inside of the value. -/
def Area.inside (σ : Store) (v : Value) : Area where
  has a := ReflTransGen σ.Contains v (.container a)
  met w := w.isScalar = true ∨ TransGen σ.Contains v w
  left := σ
  right := σ
  met_scalar _ := .inl rfl
  has_met h := h.elim nofun TransGen.to_reflTransGen

section Runs

variable {σ : Store} {v : Value} (resolve : Resolver)

theorem Area.inside_start (σ : Store) (v : Value) : (Area.inside σ v).Runs { store := σ } { store := σ } where
  size := rfl
  kept := rfl
  same _ _ := rfl
  closed _ c ha hc _ hw := .inr (TransGen.tail' ha ⟨c, hc, hw⟩)
  left _ _ := rfl
  right _ _ := rfl

theorem Area.inside_lies (σ : Store) (v : Value) : (Area.inside σ v).Lies v := by
  cases v with
  | scalar x => trivial
  | container a => exact ReflTransGen.refl

/-- The attempts at an item come to violations at the same places. -/
theorem samePlace_noMatch {path : Path} {item : Value} {xs ys : List Findings}
    (h : List.Forall₂ (List.Forall₂ Violation.SamePlace) xs ys) :
    List.Forall₂ Violation.SamePlace (noMatch path item xs) (noMatch path item ys) := by
  have hone : ∀ message message', List.Forall₂ Violation.SamePlace
      [finding path .includes "includes" message item] [finding path .includes "includes" message' item] :=
    fun _ _ => .cons ⟨rfl, rfl, rfl, rfl⟩ .nil
  match h with
  | .nil => exact hone _ _
  | .cons hfirst .nil => exact hfirst
  | .cons _ (.cons _ _) => exact hone _ _

/-- A type behind a reference finds at a mapping what it finds in place, where one reference less may be followed: on data
without cycles the mapping is not met again inside of itself. -/
theorem TypeChecker.collect_inlining (t : TypeChecker) (hv : σ.Acyclic v) (hc : v.isScalar = false) (ref : TypeRef) (n : Nat)
    (ctx dtx : Context) (hflight : ctx.inFlight = dtx.inFlight) (hconvert : ctx.convert = dtx.convert) (path : Path) {r s : Run}
    (hr : (Area.inside σ v).Runs r s) :
    Agrees (Area.inside σ v).Runs (List.Forall₂ Violation.SamePlace)
      ((t.collect (follow resolve n) (ctx.enter ref v) path v).ending r) ((t.collect (follow resolve n) dtx path v).ending s) := by
  have halike : (ctx.enter ref v).Alike (.inside σ v) Violation.SamePlace dtx := by
    refine ⟨fun {ref' w} hw => ?_, fun _ _ _ => ⟨rfl, rfl, rfl, rfl⟩⟩
    have hne : w ≠ v := by
      rintro rfl
      rcases hw with hw | hw
      · exact Bool.false_ne_true (hc.symm.trans hw)
      · exact hv w .refl hw
    change _ ↔ (ref', w) ∈ (ref, v) :: ctx.inFlight
    simp [hflight, hne]
  have hctx : dtx = { dtx with convert := ctx.convert } := by rw [hconvert]
  rw [hctx]
  exact TypeChecker.collect_tandem (Tandem.following_lawful Violation.SamePlace.refl samePlace_noMatch resolve n halike) t hr
    (Area.inside_lies σ v)

/-- Following a reference goes in tandem with checking the type in place, with bounds that differ by one. -/
theorem follow_inlining {t : TypeChecker} {ref : TypeRef} (href : resolve ref = some t) (hv : σ.Acyclic v) (hc : v.isScalar = false)
    (convert : Bool) (path : Path) (d : Nat) {r s : Run} (hr : (Area.inside σ v).Runs r s) :
    Agrees (Area.inside σ v).Runs (List.Forall₂ Violation.SamePlace)
      ((follow resolve (d + 1) { maxDepth := d + 1, convert := convert } path ref v).ending r)
      ((t.collect (follow resolve d) { maxDepth := d, convert := convert } path v).ending s) := by
  unfold follow
  rw [href]
  dsimp only
  rw [if_neg List.not_mem_nil, Check.ending_bind_ok (Check.ending_record ..)]
  refine Agrees.bind_left (t.collect_inlining resolve hv hc ref d { maxDepth := d + 1, convert := convert }
    { maxDepth := d, convert := convert } rfl rfl path (hr.note _ s.events)) fun found found' r s hfound hr => ?_
  exact .done hfound (hr.note _ _)

end Runs

/-- A checker with one rule: what it decides before its rules, and then its rule. -/
theorem PropertyChecker.collect_oneRule {b : PropertyChecker} (hrules : b.rules = []) {x : Rule} {f : Follow} {ctx : Context}
    {path : Path} {present : Bool} {parent : Option Value} {v : Value} :
    (b.addRule x).collect f ctx path present parent v = (do
      match ← Check.ofExcept (b.early ctx.convert path present (← Check.store) v) with
      | .done found converted => return (found, converted)
      | .goOn converted =>
        let peers ← Check.ofExcept (peerFindings b path (← Check.store) parent v)
        return (peers ++ (← x.run f ctx path converted), converted)) := by
  rw [collect_eq, addRule_rules, hrules, List.nil_append]
  simp only [Rule.runAll_singleton]
  rfl

/-- Two checkers that differ in their last rule alone, where the one follows the reference to the type that the other has. -/
theorem PropertyChecker.alone_inlining {b : PropertyChecker} (hobject : b.kind = .object) (hrules : b.rules = []) {resolve : Resolver}
    {t : TypeChecker} {ref : TypeRef} (href : resolve ref = some t) {σ : Store} {v : Value} (hv : σ.Acyclic v) (d : Nat)
    (convert : Bool) (path : Path) (present : Bool) (parent : Option Value) :
    Agrees (fun r s => s.store = r.store) (fun x y => List.Forall₂ Violation.SamePlace x.1 y.1 ∧ y.2 = x.2)
      (((b.addRule (.reference ref)).alone resolve (d + 1) convert path present parent v).ending { store := σ })
      (((b.addRule (.inlineType t)).alone resolve d convert path present parent v).ending { store := σ }) := by
  have hstart := Area.inside_start σ v
  refine Agrees.mono (J := (Area.inside σ v).Runs) ?_ (fun _ _ h => h) fun _ _ h => h.store_eq rfl
  unfold alone
  rw [Int.toNat_natCast_add_one, Int.toNat_natCast, collect_oneRule hrules, collect_oneRule hrules]
  refine .store (.bind (.ofExcept (fun _ _ => rfl) hstart) fun x _ r s hearly hx hr => ?_)
  subst hx
  rw [Check.ending_ofExcept] at hearly
  cases x with
  | done found w => exact .done ⟨List.forall₂_same.2 fun f _ => .refl f, rfl⟩ hr
  | goOn w =>
      have hkind := early_goOn (congrArg Prod.fst hearly)
      rw [hobject] at hkind
      obtain ⟨rfl, hentries⟩ := Kind.convert_object hkind
      have hc : w.isScalar = false := by
        obtain ⟨a, rfl⟩ := Store.entries?_eq_some (Option.get_mem hentries)
        rfl
      refine .store ?_
      rw [hr.store_eq rfl]
      refine .bind (.ofExcept (fun _ _ => rfl) hr) fun peers _ r s _ hpeers hr => ?_
      subst hpeers
      rw [Rule.run, Rule.run]
      refine (follow_inlining resolve href hv hc convert path d hr).bind fun found found' r s _ hfound hr => ?_
      exact .done ⟨List.rel_append (List.forall₂_same.2 fun f _ => .refl f) hfound, rfl⟩ hr

/-- **Inlining a type keeps its meaning.** Let a property of kind `Object` have some constraints and then a reference to a type
that a registry knows, and let another one have these constraints and the definition of the type in place. The other one
compiles as well, to one checker. On data without cycles, at any path and beside any other keys, the two find violations of
the same constraints at the same places for the same values, and leave equal stores and equal values, if one reference less
may be followed inside of the type in place; and if a run ends in a fault, the other one ends in it too. -/
theorem PropertyDef.inlining {legal : Capabilities → Prop} {t : ObjectType} {registry : TypeRef → Option ObjectType} {ref : TypeRef}
    {arg : Datum} {cs : List Constraint} {description other : Option String} {p : PropertyChecker} (ht : t.Built legal)
    (href : registry ref = some t) (harg : TypeRef.read arg = .ok ref) (hcs : ∀ k ∈ cs, k.method ≠ "objectSchemaType")
    (hp : PropertyDef.Compiles legal ⟨description, "Object", cs ++ [⟨"objectSchemaType", [arg]⟩], none⟩ p) :
    ∃ q, (∀ c, PropertyDef.Compiles legal ⟨other, "Object", cs, some [t.definition]⟩ c ↔ c = q) ∧
      ∀ (σ : Store) (v : Value), σ.Acyclic v → ∀ (d : Nat) (convert : Bool) (path : Path) (present : Bool) (parent : Option Value),
        let resolve := fun ref => (registry ref).map ObjectType.checker
        Agrees (fun r s => s.store = r.store) (fun x y => List.Forall₂ Violation.SamePlace x.1 y.1 ∧ y.2 = x.2)
          ((p.alone resolve (d + 1) convert path present parent v).ending { store := σ })
          ((q.alone resolve d convert path present parent v).ending { store := σ }) := by
  rw [PropertyDef.Compiles] at hp
  obtain ⟨caps, hlegal, hp⟩ := hp
  obtain ⟨b, hobject, hrules, rfl, hinline⟩ := Capabilities.compileProperty_inlining harg hcs hp
  have hq : PropertyDef.Compiles legal ⟨other, "Object", cs, some [t.definition]⟩ (b.addRule (.inlineType t.checker)) := by
    rw [PropertyDef.Compiles]
    refine ⟨caps, [t.checker], hlegal, ?_, hinline t.checker⟩
    rw [TypeDef.CompilesAll, TypeDef.CompilesAll]
    exact ⟨ht.compiles, trivial⟩
  refine ⟨_, fun c => ⟨fun hc => hq.determined hc, fun hc => hc ▸ hq⟩, fun σ v hv d convert path present parent => ?_⟩
  exact PropertyChecker.alone_inlining hobject hrules (by rw [href, Option.map_some]) hv d convert path present parent

/-! The type of a list of nodes, in place of a reference to it. -/

def nodeReference : Datum :=
  .record [("namespace", .text "ns://nodes"), ("version", .text "1.0.0"), ("type", .text "Node")]

theorem isVersion_one : isVersion "1.0.0" = true := by decide +kernel

def nodeRef : TypeRef := ⟨"ns://nodes", "1.0.0", "Node", by decide +kernel, isVersion_one, by decide⟩

theorem nodeReference_read : TypeRef.read nodeReference = .ok nodeRef := by rfl

/-- A registry with the type of nodes. -/
def nodeRegistry (ref : TypeRef) : Option ObjectType := if ref = nodeRef then some nodeType else none

theorem nodeRegistry_nodeRef : nodeRegistry nodeRef = some nodeType := if_pos rfl

/-- A key that has to be there, with a node under it. -/
def nodeProperty : PropertyChecker :=
  { PropertyChecker.ofKind .object with required := true, rules := [.reference nodeRef] }

theorem nodeProperty_compiles : PropertyDef.Compiles (· = .standard)
    ⟨none, "Object", [⟨"required", []⟩] ++ [⟨"objectSchemaType", [nodeReference]⟩], none⟩ nodeProperty := by
  rw [PropertyDef.Compiles]
  exact ⟨.standard, rfl, rfl⟩

theorem nodeProperty_inlining :
    ∃ q, (∀ c, PropertyDef.Compiles (· = .standard) ⟨none, "Object", [⟨"required", []⟩], some [nodeType.definition]⟩ c ↔ c = q) ∧
      ∀ (d : Nat) (convert : Bool) (path : Path) (present : Bool) (parent : Option Value),
        let resolve := fun ref => (nodeRegistry ref).map ObjectType.checker
        Agrees (fun r s => s.store = r.store) (fun x y => List.Forall₂ Violation.SamePlace x.1 y.1 ∧ y.2 = x.2)
          ((nodeProperty.alone resolve (d + 1) convert path present parent (.container 0)).ending { store := twoNodes })
          ((q.alone resolve d convert path present parent (.container 0)).ending { store := twoNodes }) := by
  obtain ⟨q, hq, hagrees⟩ := PropertyDef.inlining nodeType_built nodeRegistry_nodeRef nodeReference_read (by decide)
    nodeProperty_compiles
  exact ⟨q, hq, hagrees twoNodes (.container 0) twoNodes_acyclic⟩

end ShapeCheck
