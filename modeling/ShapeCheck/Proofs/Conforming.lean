import ShapeCheck.Proofs.Gates
import ShapeCheck.Proofs.Keys
import ShapeCheck.Proofs.Leading

/-!
# Checkers decide what definitions mean

On a tree a checker finds nothing exactly if its definition accepts the tree, or it comes to no answer exactly if its
definition stumbles. The proof is by induction on the size of the tree. `AcceptsAt` is the statement for properties and
elements and `ConformsAt` the one for types: a type asks its properties about smaller trees, an array its elements about
smaller trees, and a reference or a type given in place asks another type about the same tree. On the way down references
are followed for smaller and smaller mappings, `Room`, so none is refused.
-/

namespace ShapeCheck

open Relation PropertyChecker

section Conforming

variable {σ : Store} {described : Descriptions} {registry : TypeRef → Option ObjectType} {root : TypeDef}

/-- The definitions that references lead to. -/
def definitionOf (registry : TypeRef → Option ObjectType) (ref : TypeRef) : Option TypeDef :=
  (registry ref).map ObjectType.definition

/-- The checkers that references lead to. -/
def checkerOf (registry : TypeRef → Option ObjectType) (ref : TypeRef) : Option TypeChecker :=
  (registry ref).map ObjectType.checker

/-- There is room to follow references for mappings that are nested less deep than `depth`: the budget allows for it, and
no reference is being followed for one of them. -/
structure Room (σ : Store) (n : Nat) (ctx : Context) (depth : Nat) : Prop where
  budget : depth ≤ n + 1
  fresh : ∀ x ∈ ctx.inFlight, depth ≤ σ.nesting x.2

theorem Room.mono {n : Nat} {ctx dtx : Context} {depth depth' : Nat} (h : Room σ n ctx depth) (hle : depth' ≤ depth)
    (hflight : dtx.inFlight = ctx.inFlight) : Room σ n dtx depth' :=
  ⟨by have := h.budget; omega, fun x hx => hle.trans (h.fresh x (hflight ▸ hx))⟩

variable (σ described registry root) in
/-- The checkers of properties and elements decide about a value what their demands say. -/
def AcceptsAt (v : Value) : Prop :=
  ∀ (path : Path) {q : Demand} {c : PropertyChecker} {n : Nat} {ctx : Context} {parent : Option Value},
    q.Compiled c → q.Placed described (definitionOf registry) (root.Reaches (definitionOf registry)) →
    Room σ n ctx (σ.nesting v + 1) → (∀ p ∈ parent, σ.IsTree p ∧ σ.isMapping p = true) →
    Judges σ (c.collect (follow (checkerOf registry) n) ctx path true parent v) (fun x => x.1 = [])
      (q.Accepts (definitionOf registry) ctx.convert (parent.map σ.datum) (σ.datum v))
      (q.Stumbles (definitionOf registry) ctx.convert (σ.datum v))

variable (σ registry root) in
/-- The checkers of types decide about a value what their definitions say. -/
def ConformsAt (v : Value) : Prop :=
  ∀ (path : Path) {t : TypeDef} {u : TypeChecker} {n : Nat} {ctx : Context},
    t.Compiles (· = .standard) u → root.Reaches (definitionOf registry) t → Room σ n ctx (σ.nesting v) →
    Judges σ (u.collect (follow (checkerOf registry) n) ctx path v) Clean
      (t.Conforms (definitionOf registry) (σ.datum v)) (t.Stumbles (definitionOf registry) (σ.datum v))

/-! ## Parts of candidates -/

theorem Store.Sound.leads {v w : Value} (h : σ.Sound v) (hw : σ.Leads v w) : σ.Sound w where
  numbers a ha := h.numbers a (.head hw ha)
  keys x es hx := h.keys x es (.head hw hx)

theorem Datum.Proper.item {d x : Datum} (h : d.Proper described) (hx : x ∈ d.items) : x.Proper described := by
  unfold Datum.items at hx
  cases d with
  | list xs => exact h.member rfl hx
  | tuple xs => exact h.member rfl hx
  | _ => cases hx

/-- The items of a candidate are candidates, and smaller. -/
theorem Store.Candidate.item {v i : Value} (h : σ.Candidate described v) (hi : i ∈ (σ.items? v).getD []) :
    σ.Candidate described i ∧ sizeOf (σ.datum i) < sizeOf (σ.datum v) ∧ σ.nesting i ≤ σ.nesting v := by
  obtain ⟨xs, hxs, hi'⟩ : ∃ xs, σ.items? v = some xs ∧ i ∈ xs := by
    cases hxs : σ.items? v with
    | none =>
        rw [hxs] at hi
        cases hi
    | some xs =>
        rw [hxs] at hi
        exact ⟨xs, rfl, hi⟩
  have hcontains := contains_item hxs hi'
  have hmem : σ.datum i ∈ (σ.datum v).items := by
    rw [h.tree.items_eq]
    exact List.mem_map_of_mem hi
  have hnesting := h.tree.acyclic.nesting_contains hcontains
  refine ⟨⟨h.tree.contains hcontains, h.sound.leads (.inl ⟨xs, hxs, hi'⟩), h.proper.item hmem⟩, Datum.sizeOf_item hmem, ?_⟩
  omega

/-- What stands under a text in a candidate is a candidate, and smaller. -/
theorem Store.Candidate.entry {v w : Value} {name : String} (h : σ.Candidate described v)
    (hw : (σ.entries? v).bind (Entries.get? name) = some w) :
    σ.Candidate described w ∧ sizeOf (σ.datum w) < sizeOf (σ.datum v) ∧ σ.nesting w + 1 ≤ σ.nesting v := by
  obtain ⟨es, hes, hget⟩ := Option.bind_eq_some_iff.1 hw
  have hentry := Entries.mem_of_get? hget
  have hcontains := contains_entry hes hentry
  have hmapping : σ.isMapping v = true := by
    unfold isMapping
    rw [hes]
    rfl
  have hdatum : (σ.datum v).get? name = some (σ.datum w) := by
    rw [h.tree.get?_eq, hw]
    rfl
  have hproper : (σ.datum w).Proper described := by
    obtain ⟨fs, hfs, hmem⟩ := Option.bind_eq_some_iff.1 hdatum
    obtain ⟨k, _, hk⟩ := Entries.mem_of_find? hmem
    exact (h.proper.entries hfs).1 _ hk
  have hnesting := h.tree.acyclic.nesting_contains hcontains
  rw [if_pos hmapping] at hnesting
  exact ⟨⟨h.tree.contains hcontains, h.sound.leads (.inr ⟨es, name, hes, hentry⟩), hproper⟩, Datum.sizeOf_get? hdatum, hnesting⟩

/-! ## Rules -/

/-- A reference decides what the type that it leads to says. -/
theorem follow_judges (path : Path) (hregistry : ∀ ref w, registry ref = some w → w.Built (· = .standard)) {v : Value} (hv : σ.IsTree v)
    (hmapping : σ.isMapping v = true) (hconforms : ConformsAt σ registry root v) {n : Nat} {ctx : Context} {ref : TypeRef}
    (hgood : ∀ t, definitionOf registry ref = some t → root.Reaches (definitionOf registry) t)
    (hroom : Room σ n ctx (σ.nesting v + 1)) :
    Judges σ (follow (checkerOf registry) n ctx path ref v) Clean
      (∃ t, definitionOf registry ref = some t ∧ t.Conforms (definitionOf registry) (σ.datum v))
      (∃ t, definitionOf registry ref = some t ∧ t.Stumbles (definitionOf registry) (σ.datum v)) := by
  have hone := hv.acyclic.one_le_nesting hmapping
  have hbudget := hroom.budget
  obtain ⟨n, rfl⟩ : ∃ k, n = k + 1 := ⟨n - 1, by omega⟩
  have hnew : (ref, v) ∉ ctx.inFlight := by
    intro h
    have hless : σ.nesting v + 1 ≤ σ.nesting v := hroom.fresh _ h
    omega
  unfold follow
  cases hw : registry ref with
  | none =>
      have hchecker : checkerOf registry ref = none := congrArg _ hw
      have hdefinition : definitionOf registry ref = none := congrArg _ hw
      rw [hchecker, hdefinition]
      refine .record (.pure ⟨fun h => absurd h (List.cons_ne_nil _ _), ?_⟩ ?_)
      · rintro ⟨_, h, _⟩
        cases h
      · rintro ⟨_, h, _⟩
        cases h
  | some w =>
      have hchecker : checkerOf registry ref = some w.checker := congrArg _ hw
      have hdefinition : definitionOf registry ref = some w.definition := congrArg _ hw
      have hinner : Room σ n (ctx.enter ref v) (σ.nesting v) := by
        refine ⟨by omega, fun x hx => ?_⟩
        rcases List.mem_cons.1 hx with rfl | hx
        · exact le_rfl
        · have := hroom.fresh x hx
          omega
      have hcollect := hconforms path (hregistry ref w hw).compiles (hgood _ hdefinition) hinner
      rw [hchecker, hdefinition]
      simp only [Option.some.injEq, exists_eq_left']
      rw [if_neg hnew]
      refine .record (hcollect.bind id fun found hf hfound => ?_)
      exact .record (.pure hfound hf)

section Leaf

variable {m : Method} (hleaf : m ≠ .includes ∧ m ≠ .excludes ∧ m ≠ .reference) {lookup : TypeRef → Option TypeDef}
  {args : List Datum} {w x : Datum} {element stumbles : (i : Datum) → i ∈ w.items → Demand → Prop} {type : TypeDef → Prop}

include hleaf

/-- What a method asks that is not about elements or references is what it admits. -/
theorem Method.asks_eq : m.Asks lookup args w x element type = m.Admits args x := by
  cases m with
  | includes => exact absurd rfl hleaf.1
  | excludes => exact absurd rfl hleaf.2.1
  | reference => exact absurd rfl hleaf.2.2
  | _ => rfl

/-- A method that is not about elements or references never stalls. -/
theorem Method.stalls_eq : m.Stalls lookup args w element stumbles type = False := by
  cases m with
  | includes => exact absurd rfl hleaf.1
  | excludes => exact absurd rfl hleaf.2.1
  | reference => exact absurd rfl hleaf.2.2
  | _ => rfl

end Leaf

/-- What counts as a value of a kind that no scalar is of is the value itself. -/
theorem counts_eq {k : Kind} {v w : Value} (hcounts : w = v ∨ w.Counted) (hof : k.isOf (σ.datum w) = true)
    (hk : k = .array ∨ k = .object) : w = v := by
  rcases hcounts with rfl | hcounted
  · rfl
  · rcases hk with rfl | rfl <;> cases hcounted <;> cases hof

theorem argumentIs_iff (is : Demand → Prop) {a : Datum} {e : ElementDef} (h : ElementDef.read a = .ok e) :
    ArgumentIs is a ↔ is e.demand := by
  constructor
  · rintro ⟨e', he', his⟩
    cases h.symm.trans he'
    exact his
  · exact fun his => ⟨e, h, his⟩

theorem referentIs_iff {lookup : TypeRef → Option TypeDef} (is : TypeDef → Prop) {args : List Datum} {a : Datum} {ref : TypeRef}
    (hfirst : args.head? = some a) (href : TypeRef.read a = .ok ref) :
    ReferentIs lookup is args ↔ ∃ t, lookup ref = some t ∧ is t := by
  constructor
  · rintro ⟨a', ref', t, hfirst', href', ht, his⟩
    cases hfirst.symm.trans hfirst'
    cases href.symm.trans href'
    exact ⟨t, ht, his⟩
  · exact fun ⟨t, ht, his⟩ => ⟨a, ref, t, hfirst, href, ht, his⟩

theorem Store.IsTree.forall_items_iff {v : Value} (hv : σ.IsTree v) (P : Datum → Prop) :
    (∀ i ∈ (σ.items? v).getD [], P (σ.datum i)) ↔ ∀ i, i ∈ (σ.datum v).items → P i := by
  rw [hv.items_eq, List.forall_mem_map]

theorem Store.IsTree.exists_items_iff {v : Value} (hv : σ.IsTree v) (P : Datum → Prop) :
    (∃ i ∈ (σ.items? v).getD [], P (σ.datum i)) ↔ ∃ i, ∃ _ : i ∈ (σ.datum v).items, P i := by
  rw [hv.items_eq]
  constructor
  · exact fun ⟨i, hi, h⟩ => ⟨_, List.mem_map_of_mem hi, h⟩
  · rintro ⟨_, hmem, h⟩
    obtain ⟨i, hi, rfl⟩ := List.mem_map.1 hmem
    exact ⟨i, hi, h⟩

section Rules

variable {q : Demand} {n : Nat} {ctx : Context} {v : Value}

/-- The elements that are compiled from descriptions decide about an item what the descriptions say. -/
theorem elements_judge (hitem : AcceptsAt σ described registry root v) {args : List Datum}
    (hplaced : ∀ a ∈ args, ∀ e, ElementDef.read a = .ok e →
      e.demand.Placed described (definitionOf registry) (root.Reaches (definitionOf registry)))
    (hroom : Room σ n ctx (σ.nesting v + 1)) {m : String} {elements : List PropertyChecker}
    (hcompiled : List.Forall₂ (fun a c => Capabilities.standard.compileElement m a = .ok c) args elements) (path : Path) :
    List.Forall₂ (fun a c => c.JudgesItem σ (follow (checkerOf registry) n) ctx path v
      (ArgumentIs (fun e => e.Accepts (definitionOf registry) ctx.convert none (σ.datum v)) a)
      (ArgumentIs (fun e => e.Stumbles (definitionOf registry) ctx.convert (σ.datum v)) a)) args elements := by
  induction hcompiled with
  | nil => exact .nil
  | @cons a c args elements hc _ ih =>
      obtain ⟨ha, hrest⟩ := List.forall_mem_cons.1 hplaced
      obtain ⟨e, he, hdemand⟩ := Capabilities.compileElement_compiled hc
      refine .cons ?_ (ih hrest)
      exact (hitem path hdemand (ha e he) hroom fun _ hp => by cases hp).congr
        (argumentIs_iff (fun e => e.Accepts (definitionOf registry) ctx.convert none (σ.datum v)) he).symm
        (argumentIs_iff (fun e => e.Stumbles (definitionOf registry) ctx.convert (σ.datum v)) he).symm

variable (hregistry : ∀ ref w, registry ref = some w → w.Built (· = .standard)) (hv : σ.Candidate described v)
  (hitems : ∀ i ∈ (σ.items? v).getD [], AcceptsAt σ described registry root i) (hconforms : ConformsAt σ registry root v)
  (hplaced : q.Placed described (definitionOf registry) (root.Reaches (definitionOf registry)))
  (hroom : Room σ n ctx (σ.nesting v + 1)) {k : Kind} (hkind : q.kind? = some k) {w : Value} (hcounts : w = v ∨ w.Counted)
  (hof : k.isOf (σ.datum w) = true)

include hregistry hv hitems hconforms hplaced hroom hkind hcounts hof

/-- The rule of a constraint decides what the constraint says. -/
theorem constraint_judges {y : Constraint} (hy : y ∈ q.constraints) {m : Method} (hm : q.method? y = some m)
    {r : Rule} (hr : m.Adds (fun a => Capabilities.standard.compileElement y.method a) y.args r)
    (hlimit : ∀ limit ∈ r.limit?, ∃ n, limit = .scalar (.number n)) (path : Path) :
    Judges σ (r.run (follow (checkerOf registry) n) ctx path w) Clean
      (y.Holds (definitionOf registry) ctx.convert (σ.datum v) (σ.datum w) m)
      (y.Stalls (definitionOf registry) ctx.convert (σ.datum v) m) := by
  unfold Constraint.Holds Constraint.Stalls
  have hname : Method.ofName? k y.method = some m := by
    unfold Demand.method? at hm
    rwa [hkind] at hm
  have helements : m = .includes ∨ m = .excludes → ∀ {elements : List PropertyChecker},
      List.Forall₂ (fun a c => Capabilities.standard.compileElement y.method a = .ok c) y.args elements →
      ∀ (p : Path), ∀ i ∈ (σ.items? v).getD [], List.Forall₂ (fun a c => c.JudgesItem σ (follow (checkerOf registry) n) ctx p i
        (ArgumentIs (fun e => e.Accepts (definitionOf registry) ctx.convert none (σ.datum i)) a)
        (ArgumentIs (fun e => e.Stumbles (definitionOf registry) ctx.convert (σ.datum i)) a)) y.args elements := by
    intro hmethod elements hcompiled p i hi
    have hinner : Room σ n ctx (σ.nesting i + 1) := hroom.mono (by have := (hv.item hi).2.2; omega) rfl
    exact elements_judge (hitems i hi) (fun a ha e he => hplaced.element hy hm hmethod ha he) hinner hcompiled p
  by_cases hleaf : m ≠ .includes ∧ m ≠ .excludes ∧ m ≠ .reference
  · have hw : σ.IsTree w := by
      rcases hcounts with rfl | hcounted
      · exact hv.tree
      · cases hcounted with
        | _ => exact .scalar _
    rw [Method.asks_eq hleaf, Method.stalls_eq hleaf]
    exact Rule.run_judges hr hleaf hlimit hw
  cases hr with
  | includes hcompiled =>
      obtain rfl := counts_eq hcounts hof (.inl (Method.name_of_elements hname (.inl rfl)).1)
      exact (Rule.includes_judges (helements (.inl rfl) hcompiled)).congr
        (hv.tree.forall_items_iff fun i => ∃ a ∈ y.args, ArgumentIs (fun e => e.Accepts (definitionOf registry) ctx.convert none i) a)
        (hv.tree.exists_items_iff fun i => ∃ a ∈ y.args, ArgumentIs (fun e => e.Stumbles (definitionOf registry) ctx.convert i) a)
  | excludes hcompiled =>
      obtain rfl := counts_eq hcounts hof (.inl (Method.name_of_elements hname (.inr rfl)).1)
      refine (Rule.excludes_judges (helements (.inr rfl) hcompiled)).congr ?_ ?_
      · refine Iff.trans ?_ (hv.tree.forall_items_iff fun i =>
          ∀ a ∈ y.args, ¬ ArgumentIs (fun e => e.Accepts (definitionOf registry) ctx.convert none i) a)
        simp only [not_exists, not_and]
      · exact hv.tree.exists_items_iff fun i =>
          BadFirst (ArgumentIs fun e => e.Accepts (definitionOf registry) ctx.convert none i)
            (ArgumentIs fun e => e.Stumbles (definitionOf registry) ctx.convert i) y.args
  | reference hfirst href =>
      have hobject := (Method.name_of_reference hname).1
      obtain rfl := counts_eq hcounts hof (.inr hobject)
      have hmapping : σ.isMapping w = true := by
        rw [hobject] at hof
        change (σ.datum w).entries?.isSome = true at hof
        rwa [hv.tree.entries?_eq, Option.isSome_map] at hof
      have hfollow := follow_judges path hregistry hv.tree hmapping hconforms
        (fun t ht => hplaced.referent hy hm hfirst href ht) hroom
      unfold Rule.run
      exact hfollow.congr (referentIs_iff _ hfirst href).symm (referentIs_iff _ hfirst href).symm
  | _ => exact absurd ⟨nofun, nofun, nofun⟩ hleaf

omit hregistry hv hitems hconforms hplaced hroom hkind hcounts hof in
/-- A constraint that adds no rule asks for nothing. -/
theorem Constraint.holds_of_addsRule {lookup : TypeRef → Option TypeDef} {convert : Bool} {w x : Datum} (y : Constraint)
    {m : Method} (h : m.addsRule = false) : y.Holds lookup convert w x m := by
  cases m with
  | required | nullOk | emptyOk | allow | valid | deny | withPeers | withoutPeers => exact trivial
  | _ => cases h

omit hregistry hv hitems hconforms hplaced hroom hkind hcounts hof in
/-- A constraint that adds no rule does not stall. -/
theorem Constraint.not_stalls_of_addsRule {lookup : TypeRef → Option TypeDef} {convert : Bool} {w : Datum} (y : Constraint)
    {m : Method} (h : m.addsRule = false) : ¬ y.Stalls lookup convert w m := by
  cases m with
  | required | nullOk | emptyOk | allow | valid | deny | withPeers | withoutPeers => exact id
  | _ => cases h

omit hregistry hv hitems hconforms hplaced hroom hkind hcounts hof in
/-- A constraint of a method that adds a rule is among those that add rules. -/
theorem Demand.mem_filter_addsRule {y : Constraint} (hy : y ∈ q.constraints) {m : Method} (hm : q.method? y = some m)
    (hadds : m.addsRule = true) : y ∈ q.constraints.filter q.addsRule := by
  refine List.mem_filter.2 ⟨hy, ?_⟩
  unfold Demand.addsRule
  rw [hm]
  exact hadds

/-- The rules of constraints decide together what all constraints say. -/
theorem ownRules_judge {own : List Rule}
    (hown : List.Forall₂ (q.Adds .standard) (q.constraints.filter q.addsRule) own)
    (hlimit : ∀ r ∈ own, ∀ limit ∈ r.limit?, ∃ n, limit = .scalar (.number n)) (path : Path) :
    List.Forall₂ (fun y r => Judges σ (Rule.run (follow (checkerOf registry) n) ctx path r w) Clean
      (∀ m, q.method? y = some m → y.Holds (definitionOf registry) ctx.convert (σ.datum v) (σ.datum w) m)
      (∃ m, q.method? y = some m ∧ y.Stalls (definitionOf registry) ctx.convert (σ.datum v) m))
      (q.constraints.filter q.addsRule) own := by
  refine List.forall₂_iff_zip.2 ⟨hown.length_eq, fun {y r} hmem => ?_⟩
  obtain ⟨hy, hr⟩ := List.of_mem_zip hmem
  obtain ⟨m, hm, hadds⟩ := List.forall₂_zip hown hmem
  have hrun := constraint_judges hregistry hv hitems hconforms hplaced hroom hkind hcounts hof (List.mem_filter.1 hy).1 hm hadds
    (hlimit r hr) path
  simpa only [hm, Option.some.injEq, forall_eq', exists_eq_left'] using hrun

omit hplaced hroom hkind hcounts hof in
/-- A property or an element decides what its demand says, if items, types and references do. -/
theorem AcceptsAt.of_parts :
    AcceptsAt σ described registry root v := by
  intro path q c n ctx parent hcompiled hplaced hroom hparent
  obtain ⟨own, inner, hrules, hmeets, htypes⟩ := hcompiled.rules
  have hkind : q.kind? = some c.kind := hmeets.kind
  rw [Demand.accepts_iff, Demand.stumbles_iff]
  refine collect_judges hmeets hplaced.mentions hv (peerFindings_judges hmeets hcompiled.standard hparent path v)
    fun w hcounts hof => ?_
  have hown := ownRules_judge hregistry hv hitems hconforms hplaced hroom hkind hcounts hof hmeets.rules
    (fun r hr => hcompiled.standard.limits r (hrules ▸ List.mem_append_left _ hr)) path
  have hinner : List.Forall₂ (fun t r => Judges σ (Rule.run (follow (checkerOf registry) n) ctx path r w) Clean
      (t.Conforms (definitionOf registry) (σ.datum v)) (t.Stumbles (definitionOf registry) (σ.datum v))) q.types inner := by
    refine List.forall₂_iff_zip.2 ⟨htypes.length_eq, fun {t r} hmem => ?_⟩
    have ht := (List.of_mem_zip hmem).1
    obtain ⟨u, hu, rfl⟩ := List.forall₂_zip htypes hmem
    obtain rfl := counts_eq hcounts hof (.inr (hcompiled.objects (List.ne_nil_of_mem ht)))
    unfold Rule.run
    exact hconforms path hu (hplaced.types t ht) (hroom.mono (Nat.le_succ _) rfl)
  rw [hrules]
  refine (Rule.runAll_append_judges hown hinner).congr (and_congr_left fun _ => ?_) (or_congr_left ?_)
  · refine ⟨fun hall y hy m hm => ?_, fun hall y hy => hall y (List.mem_filter.1 hy).1⟩
    cases hadds : m.addsRule with
    | false => exact y.holds_of_addsRule hadds
    | true => exact hall y (Demand.mem_filter_addsRule hy hm hadds) m hm
  · refine ⟨fun ⟨y, hy, hs⟩ => ⟨y, (List.mem_filter.1 hy).1, hs⟩, ?_⟩
    rintro ⟨y, hy, m, hm, hs⟩
    cases hadds : m.addsRule with
    | false => exact absurd hs (y.not_stalls_of_addsRule hadds)
    | true => exact ⟨y, Demand.mem_filter_addsRule hy hm hadds, m, hm, hs⟩

end Rules

/-! ## Types -/

/-- A key that is missing is judged by whether it has to be there. -/
theorem missing_judges {q : Demand} {c : PropertyChecker} (hc : q.Compiled c) {follow : Follow} {ctx : Context} {path : Path}
    {parent : Option Value} {v : Value} :
    Judges σ (c.collect follow ctx path false parent v) (fun x => x.1 = []) (¬ q.Asks .required) False := by
  obtain ⟨own, _, _, hmeets, _⟩ := hc.rules
  have hrequired : c.required = true ↔ q.Asks .required := hmeets.required
  obtain ⟨kind, required, nullOk, emptyOk, onlyValid, allowed, denied, peersWith, peersWithout, rules⟩ := c
  unfold collect
  refine .store ?_
  unfold early
  rw [if_pos (show (!false) = true from rfl)]
  refine .pure ?_ id
  rw [← hrequired]
  cases required <;> simp

/-- Keys that are not declared are judged, where they are not stripped. -/
theorem strays_judge {t : TypeDef} (hkeeps : t.leniency.stripExtraKeys = false) {v : Value} (hv : σ.Candidate described v)
    {es : List (Key × Value)} (hes : σ.entries? v = some es) (path : Path) :
    Judges σ (strays t.leniency (t.properties.map Prod.fst) path v) Clean
      (∀ e ∈ es.map fun (k, w) => (k, σ.datum w), t.Tolerates e) False := by
  obtain ⟨found, hfound, hclean⟩ := strayFindings_judges (t := t) (hv.sound.keys v es .refl hes)
    (fun e he => hv.tree.contains (Store.contains_entry hes he)) path
  unfold strays
  refine .store ?_
  rw [hkeeps, hes]
  change Judges σ (Check.ofExcept (strayFindings t.leniency (t.properties.map Prod.fst) path es)) Clean _ _
  rw [hfound]
  exact .pure hclean id

/-- The declared keys of a mapping are judged as the properties say. -/
theorem fields_judge (hplain : ∀ t, root.Reaches (definitionOf registry) t → t.Plain described) {v : Value}
    (hv : σ.Candidate described v) (hmapping : σ.isMapping v = true)
    (hfields : ∀ name w, fieldOf σ v name = some w → AcceptsAt σ described registry root w) {t : TypeDef}
    (hgood : root.Reaches (definitionOf registry) t) {checkers : List (String × PropertyChecker)}
    (hpairs : List.Forall₂ (fun d c => d.1 = c.1 ∧ d.2.Compiles (· = .standard) c.2) t.properties checkers) {n : Nat}
    {ctx : Context} (hroom : Room σ n ctx (σ.nesting v)) (hconvert : ctx.convert = !t.leniency.skipConversions) (path : Path) :
    Judges σ (collectFields (follow (checkerOf registry) n) ctx path t.leniency v checkers) Clean
      (∀ p ∈ t.properties, ((σ.datum v).get? p.1 = none → ¬ p.2.demand.Asks .required) ∧
        ∀ w, (σ.datum v).get? p.1 = some w →
          p.2.demand.Accepts (definitionOf registry) (!t.leniency.skipConversions) (some (σ.datum v)) w)
      (∃ p ∈ t.properties, ∃ w, (σ.datum v).get? p.1 = some w ∧
        p.2.demand.Stumbles (definitionOf registry) (!t.leniency.skipConversions) w) := by
  have hget : ∀ name, (σ.datum v).get? name = (fieldOf σ v name).map σ.datum := hv.tree.get?_eq
  refine collectFields_judges (hplain t hgood).reads (List.forall₂_iff_zip.2 ⟨hpairs.length_eq, fun {p c} hmem => ?_⟩)
  obtain ⟨hname, hc⟩ := List.forall₂_zip hpairs hmem
  rw [← hname, hget, ← hconvert]
  cases hw : fieldOf σ v p.1 with
  | none =>
      refine (missing_judges hc.compiled).congr ?_ ?_
      · exact ⟨fun h => ⟨fun _ => h, nofun⟩, fun h => h.1 rfl⟩
      · exact ⟨False.elim, fun ⟨_, h, _⟩ => nomatch h⟩
  | some w =>
      have hparent : ∀ p ∈ some v, σ.IsTree p ∧ σ.isMapping p = true := fun p hp => Option.mem_some.1 hp ▸ ⟨hv.tree, hmapping⟩
      have haccepts := hfields _ _ hw (path.key p.1) hc.compiled (hgood.placed hplain (List.of_mem_zip hmem).1)
        (hroom.mono (hv.entry hw).2.2 rfl) hparent
      refine haccepts.congr ?_ ?_
      · exact ⟨fun h => ⟨nofun, fun _ hw' => Option.some.inj hw' ▸ h⟩, fun h => h.2 _ rfl⟩
      · exact ⟨fun h => ⟨_, rfl, h⟩, fun ⟨_, hw', h⟩ => Option.some.inj hw' ▸ h⟩

/-- A type decides what its definition says, if its properties do. -/
theorem ConformsAt.of_parts (hplain : ∀ t, root.Reaches (definitionOf registry) t → t.Plain described) {v : Value}
    (hv : σ.Candidate described v) (hfields : ∀ name w, fieldOf σ v name = some w → AcceptsAt σ described registry root w) :
    ConformsAt σ registry root v := by
  rintro path ⟨name, description, leniency, properties⟩ ⟨checkers, leniency'⟩ n ctx hcompiles hgood hroom
  have hkeeps := (hplain _ hgood).keeps
  rw [TypeDef.Compiles] at hcompiles
  obtain ⟨rfl, hcompiles⟩ := hcompiles
  have hpairs := hcompiles.forall₂
  rw [TypeDef.conforms_iff, TypeDef.stumbles_iff, hv.tree.entries?_eq]
  unfold TypeChecker.collect
  refine .store ?_
  cases hes : σ.entries? v with
  | none =>
      rw [if_pos Option.isNone_none]
      refine .pure ⟨fun h => absurd h (List.cons_ne_nil _ _), fun ⟨_, h, _⟩ => nomatch h⟩ ?_
      rintro ⟨p, _, w, hw, _⟩
      rw [hv.tree.get?_eq, hes] at hw
      cases hw
  | some es =>
      have hmapping : σ.isMapping v = true := by
        unfold Store.isMapping
        rw [hes]
        rfl
      have hnames : checkers.map Prod.fst = properties.map Prod.fst := PropertyDef.names_eq hpairs
      rw [if_neg (show ¬ (some es).isNone = true from Bool.false_ne_true), hnames]
      have hstrays := strays_judge hkeeps hv hes path
      have hinner : Room σ n { ctx with convert := !leniency.skipConversions } (σ.nesting v) := hroom.mono le_rfl rfl
      have hproperties := fields_judge hplain hv hmapping hfields hgood hpairs hinner rfl path
      refine (hstrays.append hproperties).congr ?_ ?_
      · simp only [Option.map_some, Option.some.injEq, exists_eq_left']
      · simp only [false_or]

/-! ## Trees of any size -/

/-- About every candidate checkers decide what the definitions say. The induction is on the size of its tree: the type is
asked about it before the properties and elements are, which may ask for a type of the same tree. -/
theorem Store.Candidate.decided (hregistry : ∀ ref w, registry ref = some w → w.Built (· = .standard))
    (hplain : ∀ t, root.Reaches (definitionOf registry) t → t.Plain described) {v : Value} (hv : σ.Candidate described v) :
    AcceptsAt σ described registry root v ∧ ConformsAt σ registry root v := by
  induction hsize : sizeOf (σ.datum v) using Nat.strong_induction_on generalizing v with
  | _ size ih =>
      subst hsize
      have hconforms : ConformsAt σ registry root v := by
        refine ConformsAt.of_parts hplain hv fun name w hw => ?_
        obtain ⟨hcandidate, hless, _⟩ := hv.entry hw
        exact (ih _ hless hcandidate rfl).1
      refine ⟨AcceptsAt.of_parts hregistry hv (fun i hi => ?_) hconforms, hconforms⟩
      obtain ⟨hcandidate, hless, _⟩ := hv.item hi
      exact (ih _ hless hcandidate rfl).1

end Conforming

end ShapeCheck
