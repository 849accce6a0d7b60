import ShapeCheck.Proofs.AcyclicData
import ShapeCheck.Proofs.Determined
import ShapeCheck.Proofs.Fields
import ShapeCheck.Proofs.Names

/-!
# Independent properties

On data without shared or cyclic containers the properties of a type are checked independently of each other, also where
types inside strip keys or save conversions: what is found about a declared key is what its checker finds by itself, and in
what order keys are declared makes no difference to the findings about each, nor to the store that is left
(`ObjectType.properties_independent`).
-/

namespace ShapeCheck

open Relation

/-! ## Keys that are not declared -/

/-- A store whose containers hold no containers but those that they hold in another one, in one order. -/
def Store.Thinner (ρ σ : Store) : Prop :=
  ∀ a c, ρ.read? a = some c → ∃ d, σ.read? a = some d ∧ (c.values.filter (!·.isScalar)).Sublist (d.values.filter (!·.isScalar))

namespace Store.Thinner

variable {σ ρ : Store} {v : Value}

theorem contains (h : ρ.Thinner σ) {b : Address} (hv : ρ.Contains v (.container b)) : σ.Contains v (.container b) := by
  obtain ⟨c, hc, hb⟩ := hv
  cases v with
  | scalar x => cases hc
  | container a =>
      obtain ⟨d, hd, hsub⟩ := h a c hc
      exact ⟨d, hd, (List.mem_filter.1 (hsub.subset (List.mem_filter.2 ⟨hb, rfl⟩))).1⟩

theorem reaches (h : ρ.Thinner σ) {a : Address} (ha : ReflTransGen ρ.Contains v (.container a)) :
    ReflTransGen σ.Contains v (.container a) := by
  generalize hw : Value.container a = w at ha
  induction ha generalizing a with
  | refl => exact hw ▸ .refl
  | @tail y _ _ hyw ih =>
      subst hw
      cases y with
      | scalar x => exact absurd hyw not_contains_scalar
      | container b => exact (ih rfl).tail (h.contains hyw)

/-- Taking values out of containers shares nothing, nor does putting in scalars. -/
theorem unshared (h : ρ.Thinner σ) (hv : σ.Unshared v) : ρ.Unshared v := by
  have hapart : ∀ {x y}, σ.Apart x y → ρ.Apart x y := fun hxy b hb hb' => hxy b (h.reaches hb) (h.reaches hb')
  refine ⟨fun w hw hcycle => ?_, fun {a c} ha hc => ?_⟩
  · obtain ⟨y, hwy, hyw⟩ := TransGen.tail'_iff.1 hcycle
    cases w with
    | scalar x =>
        obtain ⟨_, hcontains, _⟩ := TransGen.head'_iff.1 hcycle
        exact not_contains_scalar hcontains
    | container a =>
        cases y with
        | scalar x => exact not_contains_scalar hyw
        | container b => exact hv.acyclic _ (h.reaches hw) (TransGen.tail' (h.reaches hwy) (h.contains hyw))
  · obtain ⟨d, hd, hsub⟩ := h a c hc
    have hcontainers := ((hv.apart (h.reaches ha) hd).filter (!·.isScalar)).sublist hsub
    refine (List.pairwise_filter.1 hcontainers).imp fun {x y} hxy => hapart ?_
    -- A scalar has no containers inside.
    rcases x with x | x
    · exact fun b hb => absurd hb not_reaches_scalar
    rcases y with y | y
    · exact fun b _ => not_reaches_scalar
    exact hxy rfl rfl

end Store.Thinner

/-- Which keys are not declared does not depend on the order of those that are. -/
theorem strays_perm {names names' : List String} (h : names'.Perm names) (leniency : Leniency) (path : Path) (v : Value) :
    strays leniency names' path v = strays leniency names path v := by
  have hstray : isStray leniency names' = isStray leniency names := by
    funext e
    have hcontains : names'.contains = names.contains := funext fun name => by
      rw [Bool.eq_iff_iff, List.contains_iff_mem, List.contains_iff_mem, h.mem_iff]
    unfold isStray
    rw [hcontains]
  unfold strays strayFindings
  rw [hstray]

/-- Looking for keys that are not declared takes entries out of a mapping at most. -/
theorem strays_leave {leniency : Leniency} {names : List String} {path : Path} {a : Address} {r s : Run} {extra : Findings}
    (h : (strays leniency names path (.container a)).ending r = (.ok extra, s))
    (hmapping : (r.store.entries? (.container a)).isSome = true) :
    s.events = r.events ∧ (s.store.entries? (.container a)).isSome = true ∧ s.store.Thinner r.store := by
  unfold strays at h
  rw [Check.ending_bind_ok (Check.ending_store r)] at h
  dsimp only at h
  split at h
  · next b es hstrip hb hc =>
    cases hb
    cases h
    have hc' : r.store.read? a = some (.mapping es) := hc
    rw [Store.entries?_of_read hc']
    refine ⟨rfl, ?_, fun b c hread => ?_⟩
    · rw [Store.entries?_of_read (Store.read?_write_same _ _ _ (Store.lt_of_read? hc'))]
      rfl
    · rw [Store.read?_write] at hread
      split at hread
      · next hab =>
        obtain rfl := hab.1
        cases hread
        exact ⟨_, hc', ((List.filter_sublist).map Prod.snd).filter _⟩
      · exact ⟨c, hread, List.Sublist.refl _⟩
  · rw [Check.ending_ofExcept] at h
    obtain ⟨-, rfl⟩ := Prod.mk.inj h
    exact ⟨rfl, hmapping, fun b c hread => ⟨c, hread, List.Sublist.refl _⟩⟩

/-- The parts of a run of a type over a mapping: what is found about undeclared keys, the store without those that are
stripped, and the run over the declared keys. -/
structure TypeChecker.Parts (f : Follow) (ctx : Context) (path : Path) (t : TypeChecker) (a : Address) (r : Run)
    (extra others : Findings) (stripped : Store) (r' : Run) : Prop where
  stray : (strays t.leniency (t.properties.map Prod.fst) path (.container a)).ending r = (.ok extra, { r with store := stripped })
  unshared : stripped.Unshared (.container a)
  mapping : (stripped.entries? (.container a)).isSome = true
  fields : (PropertyChecker.collectFields f (ctx.inside t) path t.leniency (.container a) t.properties).ending
    { r with store := stripped } = (.ok others, r')

section Parts

variable {f : Follow} {ctx : Context} {path : Path} {t : TypeChecker} {r r' : Run} {found : Findings}

/-- A run over a mapping has its parts. -/
theorem TypeChecker.collect_parts {a : Address} (hv : r.store.Unshared (.container a))
    (hmapping : (r.store.entries? (.container a)).isSome = true)
    (h : (t.collect f ctx path (.container a)).ending r = (.ok found, r')) :
    ∃ extra others stripped, t.Parts f ctx path a r extra others stripped r' ∧ found = extra ++ others := by
  have hsome : ¬ (r.store.entries? (.container a)).isNone = true := by
    rw [← Option.not_isSome, hmapping]
    nofun
  rw [collect_eq, Check.ending_bind_ok (Check.ending_store r), if_neg hsome] at h
  obtain ⟨extra, s, hstray, h⟩ := Check.ending_bind_eq_ok h
  obtain ⟨others, s', hfields, h⟩ := Check.ending_bind_eq_ok h
  cases h
  obtain ⟨hevents, hleft, hthinner⟩ := strays_leave hstray hmapping
  obtain ⟨stripped, events⟩ := s
  obtain rfl : events = r.events := hevents
  exact ⟨extra, others, stripped, ⟨hstray, hthinner.unshared hv, hleft, hfields⟩, rfl⟩

/-- What is no mapping is found to be none. -/
theorem TypeChecker.collect_no_mapping {v : Value} (hv : ¬ (r.store.entries? v).isSome = true) :
    (t.collect f ctx path v).ending r = (.ok [finding path .kind Kind.object.name "must be an object" v], r) := by
  have hnone : (r.store.entries? v).isNone = true := by simpa using hv
  rw [collect_eq, Check.ending_bind_ok (Check.ending_store r), if_pos hnone]
  rfl

/-- Parts come to a run. -/
theorem TypeChecker.Parts.collect {a : Address} {extra others : Findings} {stripped : Store}
    (h : t.Parts f ctx path a r extra others stripped r') (hmapping : (r.store.entries? (.container a)).isSome = true) :
    (t.collect f ctx path (.container a)).ending r = (.ok (extra ++ others), r') := by
  have hsome : ¬ (r.store.entries? (.container a)).isNone = true := by
    rw [← Option.not_isSome, hmapping]
    nofun
  rw [collect_eq, Check.ending_bind_ok (Check.ending_store r), if_neg hsome, Check.ending_bind_ok h.stray,
    Check.ending_bind_ok h.fields]
  rfl

end Parts

/-! ## Types with the same properties -/

section Types

variable {legal legal' : Capabilities → Prop} {t t' : ObjectType}

/-- Types that declare the same properties in different orders have the same checkers in these orders. -/
theorem TypeDef.Compiles.properties_perm {d d' : TypeDef} {c c' : TypeChecker} (h : d.Compiles legal c) (h' : d'.Compiles legal' c')
    (hperm : d'.properties.Perm d.properties) : c'.properties.Perm c.properties := by
  obtain ⟨_, _, _, properties⟩ := d
  obtain ⟨_, _, _, properties'⟩ := d'
  rw [TypeDef.Compiles] at h h'
  obtain ⟨cs, hcs, hcperm⟩ := List.perm_comp_forall₂ hperm h.2.forall₂
  have hsame : c'.properties = cs := by
    refine List.Forall₂.determined hcs h'.2.forall₂ fun x _ y z hy hz => ?_
    exact Prod.ext (hz.1.symm.trans hy.1) (hy.2.determined hz.2)
  exact hsame ▸ hcperm

end Types

/-- A run over declared keys in another order ends alike. -/
theorem PropertyChecker.collectFields_perm {σ : Store} {a : Address} (hσ : σ.Unshared (.container a))
    (hmapping : (σ.entries? (.container a)).isSome = true) {ps qs : List (String × PropertyChecker)} (hperm : qs.Perm ps)
    (hnames : (ps.map Prod.fst).Nodup) {resolve : Resolver} {n : Nat} {ctx : Context} {path : Path} {leniency : Leniency}
    {r r' : Run} {found : Findings} (hr : r.store = σ)
    (h : (collectFields (follow resolve n) ctx path leniency (.container a) ps).ending r = (.ok found, r')) :
    ∃ s', (collectFields (follow resolve n) ctx path leniency (.container a) qs).ending r =
      (.ok (qs.flatMap fun p => (fieldEnd (follow resolve n) ctx path σ (.container a) p).found), s') ∧ s'.store = r'.store := by
  obtain ⟨hends, -, hafter⟩ := collectFields_after hσ hmapping hnames hr h
  have hnames' : ((([] : List (String × PropertyChecker)) ++ qs).map Prod.fst).Nodup := (hperm.map Prod.fst).nodup_iff.2 hnames
  have hstart : σ.After a leniency (fieldEnd (follow resolve n) ctx path σ (.container a)) [] r.store := hr ▸ .nil r.store a _ _
  obtain ⟨s', hs', hafter'⟩ := Store.After.run hσ hmapping (fun p hp => hends p (hperm.mem_iff.1 hp)) hnames' hstart
  exact ⟨s', hs', hafter.perm hafter' hperm.symm hnames⟩

/-- A type with the same properties in another order has the same parts, with the findings about its declared keys in its order. -/
theorem TypeChecker.Parts.perm {t t' : TypeChecker} (hperm : t'.properties.Perm t.properties) (hleniency : t'.leniency = t.leniency)
    (hnames : (t.properties.map Prod.fst).Nodup) {resolve : Resolver} {n : Nat} {ctx : Context} {path : Path} {a : Address} {r r' : Run}
    {extra others : Findings} {stripped : Store} (h : t.Parts (follow resolve n) ctx path a r extra others stripped r') :
    ∃ s', t'.Parts (follow resolve n) ctx path a r extra (t'.properties.flatMap fun p =>
      (PropertyChecker.fieldEnd (follow resolve n) (ctx.inside t) path stripped (.container a) p).found) stripped s' ∧
      s'.store = r'.store := by
  obtain ⟨properties, leniency⟩ := t
  obtain ⟨properties', _⟩ := t'
  obtain rfl := hleniency
  obtain ⟨s', hs', hstore⟩ := PropertyChecker.collectFields_perm h.unshared h.mapping hperm hnames rfl h.fields
  refine ⟨s', ⟨?_, h.unshared, h.mapping, hs'⟩, hstore⟩
  rw [strays_perm (hperm.map Prod.fst)]
  exact h.stray

/-- **Properties are checked independently of each other.** Let two built types declare the same properties in different
orders, with the same leniency, and let a candidate hold no container twice and no container inside of itself. If the run of
the one type ends in no fault, then so does the run of the other one, and both leave the same store. Where the candidate is
a mapping, both find the same about its undeclared keys, and about each declared key exactly what its checker finds by
itself under that key, once undeclared keys are stripped; where it is none, both find the same. -/
theorem ObjectType.properties_independent {legal legal' : Capabilities → Prop} {t t' : ObjectType} (ht : t.Built legal)
    (ht' : t'.Built legal') (hperm : t'.definition.properties.Perm t.definition.properties)
    (hleniency : t'.definition.leniency = t.definition.leniency) (resolve : Resolver) (maxDepth : Int) {σ : Store} {v : Value}
    (hv : σ.Unshared v) {found : Findings} (hfound : (t.checker.validate resolve maxDepth v σ).result = .ok found) :
    let outcome := t.checker.validate resolve maxDepth v σ
    let outcome' := t'.checker.validate resolve maxDepth v σ
    ∃ found', outcome'.result = .ok found' ∧ outcome'.run.store = outcome.run.store ∧
      (σ.isMapping v = false → found' = found) ∧
      (σ.isMapping v = true → ∃ (extra : Findings) (stripped : Store) (own : String × PropertyChecker → Findings),
        (strays t.checker.leniency (t.checker.properties.map Prod.fst) {} v).ending { store := σ } =
          (.ok extra, { store := stripped }) ∧
        (∀ p ∈ t.checker.properties, ∃ x s, ((p.2.alone resolve maxDepth (!t.checker.leniency.skipConversions) (Path.key {} p.1)
          (stripped.under? v p.1).isSome (some v) (stripped.child v p.1)).ending { store := stripped }) = (.ok (own p, x), s)) ∧
        t'.checker.properties.Perm t.checker.properties ∧
        found = extra ++ t.checker.properties.flatMap own ∧ found' = extra ++ t'.checker.properties.flatMap own) := by
  intro outcome outcome'
  have hcheckers := ht.compiles.properties_perm ht'.compiles hperm
  have hsame : t'.checker.leniency = t.checker.leniency :=
    ht'.compiles.leniency_eq.symm.trans (hleniency.trans ht.compiles.leniency_eq)
  by_cases hmapping : (σ.entries? v).isSome = true
  · obtain ⟨a, rfl⟩ := Store.entries?_eq_some (Option.get_mem hmapping)
    have hrun : (t.checker.collect (follow resolve maxDepth.toNat) { maxDepth := maxDepth } {} (.container a)).ending { store := σ } =
        (.ok found, outcome.run) := Prod.ext hfound rfl
    obtain ⟨extra, others, stripped, hparts, rfl⟩ := TypeChecker.collect_parts (by exact hv) hmapping hrun
    obtain ⟨hends, hothers, -⟩ := PropertyChecker.collectFields_after hparts.unshared hparts.mapping ht.named.own rfl hparts.fields
    obtain ⟨s', hparts', hstore⟩ := hparts.perm hcheckers hsame ht.named.own
    have hrun' := hparts'.collect hmapping
    refine ⟨_, congrArg Prod.fst hrun', (congrArg (Run.store ∘ Prod.snd) hrun').trans hstore, fun hnone => ?_, fun _ => ?_⟩
    · cases hmapping.symm.trans hnone
    · exact ⟨extra, stripped, _, hparts.stray, fun p hp => ⟨_, _, hends p hp⟩, hcheckers, congrArg (extra ++ ·) hothers, rfl⟩
  · have hrun : ∀ u : TypeChecker, (u.collect (follow resolve maxDepth.toNat) { maxDepth := maxDepth } {} v).ending { store := σ } =
        (.ok [finding {} .kind Kind.object.name "must be an object" v], { store := σ }) :=
      fun u => u.collect_no_mapping hmapping
    have hstore := fun u => congrArg (Run.store ∘ Prod.snd) (hrun u)
    cases (congrArg Prod.fst (hrun t.checker)).symm.trans hfound
    exact ⟨_, congrArg Prod.fst (hrun t'.checker), (hstore t'.checker).trans (hstore t.checker).symm, fun _ => rfl,
      fun h => absurd h hmapping⟩

/-! A type that saves conversions, with a number and with a type in place that strips keys, in both orders. -/

/-- What a property without constraints says: its kind, and how lenient a type without properties in place of it is. -/
def PropertyDef.plain? : PropertyDef → Option (String × Option Leniency)
  | ⟨none, kind, [], none⟩ => some (kind, none)
  | ⟨none, kind, [], some [⟨none, none, leniency, []⟩]⟩ => some (kind, some leniency)
  | _ => none

theorem PropertyDef.plain?_injective {p q : PropertyDef} {x : String × Option Leniency} (hp : p.plain? = some x)
    (hq : q.plain? = some x) : q = p := by
  unfold plain? at hp hq
  split at hp <;> cases hp <;> split at hq <;> cases hq <;> rfl

def partsData (names : List String) : Datum :=
  .record [("saveConversions", .bool true), ("properties", .record (names.map fun name => (name,
    if name = "part" then .record [("type", .text "Object"), ("typeArgs", .list [.record [("stripExtraKeys", .bool true)]])]
    else .record [("type", .text "Number")])))]

def partsType : ObjectType := (ObjectType.ofDatum? (partsData ["part", "size"])).get (by decide +kernel)

def sizedType : ObjectType := (ObjectType.ofDatum? (partsData ["size", "part"])).get (by decide +kernel)

/-- Two properties without constraints are known by their names and by what they say. -/
theorem PropertyDef.two_plain {ps : List (String × PropertyDef)} {m n : String} {x y : String × Option Leniency}
    (h : (ps.map fun p => (p.1, p.2.plain?)) = [(m, some x), (n, some y)]) :
    ∃ p q, ps = [(m, p), (n, q)] ∧ p.plain? = some x ∧ q.plain? = some y := by
  obtain ⟨⟨_, p⟩, ps, rfl, hp, h⟩ := List.map_eq_cons_iff.1 h
  obtain ⟨⟨_, q⟩, ps, rfl, hq, h⟩ := List.map_eq_cons_iff.1 h
  obtain rfl := List.map_eq_nil_iff.1 h
  obtain ⟨rfl, hplain⟩ := Prod.mk.inj hp
  obtain ⟨rfl, hplain'⟩ := Prod.mk.inj hq
  exact ⟨p, q, rfl, hplain, hplain'⟩

theorem partsType_perm : sizedType.definition.properties.Perm partsType.definition.properties := by
  have hparts : (partsType.definition.properties.map fun p => (p.1, p.2.plain?)) =
      [("part", some ("Object", some { stripExtraKeys := true })), ("size", some ("Number", none))] := by decide +kernel
  have hsized : (sizedType.definition.properties.map fun p => (p.1, p.2.plain?)) =
      [("size", some ("Number", none)), ("part", some ("Object", some { stripExtraKeys := true }))] := by decide +kernel
  obtain ⟨part, size, hparts, hpart, hsize⟩ := PropertyDef.two_plain hparts
  obtain ⟨size', part', hsized, hsize', hpart'⟩ := PropertyDef.two_plain hsized
  rw [hparts, hsized, PropertyDef.plain?_injective hpart hpart', PropertyDef.plain?_injective hsize hsize']
  exact .swap ..

/-- Each container holds one container at most, at a higher address. -/
def Store.IsChain (σ : Store) : Prop :=
  ∀ x ∈ σ.cells.toList.zipIdx, (∀ w ∈ x.1.values, x.2 < w.address ∨ w.isScalar = true) ∧
    x.1.values.Pairwise fun v w => v.isScalar = true ∨ w.isScalar = true

instance (σ : Store) : Decidable σ.IsChain :=
  inferInstanceAs (Decidable (∀ x ∈ σ.cells.toList.zipIdx, _))

theorem Store.IsChain.unshared {σ : Store} (h : σ.IsChain) (v : Value) : σ.Unshared v := by
  have hcells : ∀ {a c}, σ.read? a = some c → (c, a) ∈ σ.cells.toList.zipIdx := by
    intro a c hc
    rw [List.mem_zipIdx_iff_getElem?, Array.getElem?_toList]
    exact hc
  refine ⟨Store.acyclic_of_lt (fun a w hw => ?_) v, fun {a c} _ hc => (h _ (hcells hc)).2.imp fun {x y} hxy b hb hb' => ?_⟩
  · obtain ⟨c, hc, hw⟩ := hw
    exact (h _ (hcells hc)).1 w hw
  · cases x with
    | scalar => exact Store.not_reaches_scalar hb
    | container =>
        cases y with
        | scalar => exact Store.not_reaches_scalar hb'
        | container => simp [Value.isScalar] at hxy

/-- A mapping with a numeral for the size, a part with a key to strip, and a key that is not declared. -/
def partStore : Store :=
  ⟨#[.mapping [(.text "size", .scalar (.text "5")), (.text "part", .container 1), (.text "rest", .scalar .null)],
    .mapping [(.text "x", .scalar (.int 1))]]⟩

theorem partStore_unshared : partStore.Unshared (.container 0) := Store.IsChain.unshared (by decide +kernel) _

theorem partsType_run : ∃ found, (partsType.checker.validate (fun _ => none) 4 (.container 0) partStore).result = .ok found := by
  have hok : (partsType.checker.validate (fun _ => none) 4 (.container 0) partStore).result.isOk = true := by decide +kernel
  generalize (partsType.checker.validate (fun _ => none) 4 (.container 0) partStore).result = x at hok ⊢
  cases x with
  | error e => cases hok
  | ok found => exact ⟨found, rfl⟩

theorem partsType_independent :
    let outcome := partsType.checker.validate (fun _ => none) 4 (.container 0) partStore
    let outcome' := sizedType.checker.validate (fun _ => none) 4 (.container 0) partStore
    ∃ found found', outcome.result = .ok found ∧ outcome'.result = .ok found' ∧ outcome'.run.store = outcome.run.store ∧
      ∃ (extra : Findings) (stripped : Store) (own : String × PropertyChecker → Findings),
        (strays partsType.checker.leniency (partsType.checker.properties.map Prod.fst) {} (.container 0)).ending
          { store := partStore } = (.ok extra, { store := stripped }) ∧
        (∀ p ∈ partsType.checker.properties, ∃ x s, ((p.2.alone (fun _ => none) 4 (!partsType.checker.leniency.skipConversions)
          (Path.key {} p.1) (stripped.under? (.container 0) p.1).isSome (some (.container 0))
          (stripped.child (.container 0) p.1)).ending { store := stripped }) = (.ok (own p, x), s)) ∧
        sizedType.checker.properties.Perm partsType.checker.properties ∧
        found = extra ++ partsType.checker.properties.flatMap own ∧ found' = extra ++ sizedType.checker.properties.flatMap own := by
  intro outcome outcome'
  obtain ⟨found, hfound⟩ := partsType_run
  have ht : partsType.Built (· = .standard) := ObjectType.ofDatum?_built (Option.some_get _).symm
  have ht' : sizedType.Built (· = .standard) := ObjectType.ofDatum?_built (Option.some_get _).symm
  obtain ⟨found', hfound', hstore, -, hparts⟩ :=
    ObjectType.properties_independent ht ht' partsType_perm (by decide +kernel) (fun _ => none) 4 partStore_unshared hfound
  exact ⟨found, found', hfound, hfound', hstore, hparts rfl⟩

end ShapeCheck
