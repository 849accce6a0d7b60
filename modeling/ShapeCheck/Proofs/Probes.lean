import ShapeCheck.Proofs.Faults

/-!
# Types that look for one thing

For each value that a candidate leads to there is a type that comes to it: `Probe.Finds` is a checker, with the types behind
it, that ends in a fault at a value. It is made for a number that no double is near and for a mapping with a key that cannot
be written, and from a value it goes back to the array or the mapping around it. So whatever `Escape` names in a candidate
does end some run, of types that save nothing and strip nothing (`Store.exists_fault`).
-/

namespace ShapeCheck

open Relation

/-! ## Candidates that give no cause -/

/-- A candidate holds no number that no double is near, and no key that cannot be written. -/
structure Store.Sound (σ : Store) (v : Value) : Prop where
  numbers : ∀ a, ReflTransGen σ.Leads v (.scalar a) → ¬ a.Oversized
  keys : ∀ w es, ReflTransGen σ.Leads v w → σ.entries? w = some es → ∀ e ∈ es, e.1.isTooLong = false

/-- No mapping has a key twice. -/
def Store.DistinctKeys (σ : Store) : Prop :=
  ∀ v es, σ.entries? v = some es → es.Pairwise fun a b => a.1.same b.1 = false

theorem Store.items?_of_isMapping {σ : Store} {v : Value} (h : σ.isMapping v = true) : σ.items? v = none := by
  unfold isMapping entries? at h
  unfold items?
  split at h
  · next hc => rw [hc]
  · next hc => rw [hc]
  · cases h

theorem Store.DistinctKeys.get? {σ : Store} (h : σ.DistinctKeys) {v w : Value} {es : List (Key × Value)} {name : String}
    (hes : σ.entries? v = some es) (hw : (.text name, w) ∈ es) : Entries.get? name es = some w := by
  have hdistinct := h v es hes
  clear hes
  unfold Entries.get?
  induction es with
  | nil => cases hw
  | cons e rest ih =>
      obtain ⟨k, x⟩ := e
      obtain ⟨hfirst, hrest⟩ := List.pairwise_cons.1 hdistinct
      unfold Entries.find?
      rcases List.mem_cons.1 hw with hw | hw
      · cases hw
        rw [if_pos (by simp [Key.same, Key.text, Scalar.equals])]
      · rw [if_neg (by simp [hfirst _ hw])]
        exact ih hw hrest

/-! ## Builds that go well -/

namespace Building

variable {α β : Type}

/-- A build gives a result after any notices. -/
def Yields (b : Building α) (x : α) : Prop := ∀ notices, (b.run.run notices).1 = .ok x

theorem yields_pure (x : α) : Yields (pure x : Building α) x := fun _ => rfl

theorem yields_bind {b : Building α} {f : α → Building β} {x : α} {y : β} (hb : Yields b x) (hf : Yields (f x) y) :
    Yields (b >>= f) y := by
  intro ns
  have hx := hb ns
  rw [run_bind]
  rcases hbn : b.run.run ns with ⟨z, ms⟩
  rw [hbn] at hx
  cases hx
  exact hf ms

theorem yields_optional_some {r : Record} {f : Field} {absent x : α} {s : String} {d : Datum}
    {read : (d : Datum) → (∃ k, (k, d) ∈ r.entries) → Building (Reading α)} (hf : f.find? r.entries = some (s, d))
    (hread : ∀ hd, Yields (read d hd) (.ok x)) : Yields (optional r f absent read) (.ok x) := by
  unfold optional
  split
  · next s' d' h =>
    cases hf.symm.trans h
    exact yields_bind (hread _) (yields_pure _)
  · next h => cases hf.symm.trans h

theorem yields_optional_none {r : Record} {f : Field} {absent : α}
    {read : (d : Datum) → (∃ k, (k, d) ∈ r.entries) → Building (Reading α)} (hf : f.find? r.entries = none) :
    Yields (optional r f absent read) (.ok absent) := by
  unfold optional
  split
  · next h => cases hf.symm.trans h
  · exact yields_pure _

theorem yields_entry {name : String} {d : Datum} {read : (e : Datum) → (∃ k, (k, e) ∈ [(Key.text name, d)]) → Building (Reading α)}
    {x : α} (hread : ∀ hd, Yields (read d hd) (.ok x)) : Yields (entries [(.text name, d)] read) (.ok [(name, x)]) := by
  unfold entries
  refine yields_bind (hread _) ?_
  unfold entries
  exact yields_bind (yields_pure _) (yields_pure _)

end Building

namespace Probe

/-! ## Data of probes -/

/-- The data of a property, or of an element, of a kind with some constraints. -/
def part (kind : String) (constraints : List (String × List Datum)) : Datum :=
  .record [("type", .text kind), ("constraints", .list (constraints.map fun (m, args) =>
    .record [("method", .text m), ("args", .list args)]))]

def partRecord (kind : String) (constraints : List (String × List Datum)) : Record :=
  ⟨part kind constraints, [("type", Datum.text kind), ("constraints", .list (constraints.map fun (m, args) =>
    .record [("method", .text m), ("args", .list args)]))].map fun (k, d) => (Key.text k, d)⟩

/-- Data that a property and an element compile from, to one checker. -/
structure Describes (d : Datum) (c : PropertyChecker) : Prop where
  mapping : ∃ es, d = .mapping es
  element : ∀ m, Capabilities.standard.compileElement m d = .ok c
  property : ∃ p, Building.Yields (Building.property ⟨.standard, fun _ => none⟩ d) (.ok (p, c))

/-- A property is finished with what its data read to. -/
theorem run_property_part {around : Surroundings} {kind : String} {constraints : List (String × List Datum)}
    (hread : ElementDef.read (part kind constraints) = .ok ⟨kind, constraints.map fun (m, args) => ⟨m, args⟩, none⟩)
    (notices : List Notice) : (Building.property around (part kind constraints)).run.run notices =
      (around.capabilities.finishProperty (part kind constraints)
        ⟨none, kind, constraints.map fun (m, args) => ⟨m, args⟩, none⟩ none).run.run notices := by
  unfold Building.property
  split
  · next heq => cases heq
  split
  · next h => cases h
  · next r h =>
    cases h
    dsimp only
    obtain ⟨⟨⟨hkind, hconstraints, _⟩, _⟩, hp, hx⟩ := Reading.map_eq_ok.1 hread
    cases hx
    obtain ⟨hparts, _⟩ := Record.closing_eq_ok.1 hp
    obtain ⟨hkind, hrest⟩ := Reading.both_eq_ok.1 hparts
    obtain ⟨hconstraints, hnote⟩ := Reading.both_eq_ok.1 hrest
    change ((pure (.ok none) : Building (Reading (Option (List ObjectType)))) >>= _).run.run notices = _
    rw [pure_bind]
    have hfirst : ((partRecord kind constraints).optional .description none Reading.note).both
        (((partRecord kind constraints).required .kind Reading.someText).both
          ((partRecord kind constraints).optional .constraints [] Reading.constraints)) =
        .ok (none, kind, constraints.map fun (m, args) => ⟨m, args⟩) :=
      Reading.both_eq_ok.2 ⟨hnote, Reading.both_eq_ok.2 ⟨hkind, hconstraints⟩⟩
    have htypes := Reading.both_eq_ok (p := (_, (none : Option (List ObjectType)))).2 ⟨hfirst, rfl⟩
    have hclose : (partRecord kind constraints).close PropertyDef.fields = .ok () := rfl
    have hall := Record.closing_eq_ok (p := (_, ())).2 ⟨htypes, hclose⟩
    split
    · next issues hbad => cases hall.symm.trans hbad
    · next hok =>
      cases hall.symm.trans hok
      rfl

/-- A property without types in place compiles to what its constraints do. -/
theorem compileProperty_typeless {caps : Capabilities} {kindName : String} {cs : List Constraint} {c : PropertyChecker} {k : Kind}
    (hk : caps.kindNamed kindName = .ok k)
    (hcs : caps.compileConstraints k cs (fun m a _ => caps.compileElement m a) (.ofKind k) = .ok c) :
    caps.compileProperty kindName cs none = .ok c := by
  unfold Capabilities.compileProperty
  rw [hk]
  dsimp only [bind, Except.bind]
  rw [hcs]

/-- A property is built from what its data read and compile to. -/
theorem property_of_part {kind : String} {constraints : List (String × List Datum)} {c : PropertyChecker} {k : Kind}
    (hread : ElementDef.read (part kind constraints) = .ok ⟨kind, constraints.map fun (m, args) => ⟨m, args⟩, none⟩)
    (hk : Capabilities.standard.kindNamed kind = .ok k)
    (hcs : Capabilities.standard.compileConstraints k (constraints.map fun (m, args) => ⟨m, args⟩)
      (fun m a _ => Capabilities.standard.compileElement m a) (.ofKind k) = .ok c) :
    Building.Yields (Building.property ⟨.standard, fun _ => none⟩ (part kind constraints))
      (.ok (⟨none, kind, constraints.map fun (m, args) => ⟨m, args⟩, none⟩, c)) := by
  intro notices
  have hcompile := compileProperty_typeless hk hcs
  rw [run_property_part hread]
  unfold Capabilities.finishProperty
  rw [hcompile]
  rfl

theorem Describes.of_part {kind : String} {constraints : List (String × List Datum)} {c : PropertyChecker} {k : Kind}
    (hread : ElementDef.read (part kind constraints) = .ok ⟨kind, constraints.map fun (m, args) => ⟨m, args⟩, none⟩)
    (hk : Capabilities.standard.kindNamed kind = .ok k)
    (hcs : Capabilities.standard.compileConstraints k (constraints.map fun (m, args) => ⟨m, args⟩)
      (fun m a _ => Capabilities.standard.compileElement m a) (.ofKind k) = .ok c) : Describes (part kind constraints) c := by
  refine ⟨⟨_, rfl⟩, fun m => ?_, _, property_of_part hread hk hcs⟩
  rw [Capabilities.compileElement_of_read hread, hk]
  exact hcs

/-- The data of a type that looks under one key. -/
def keyType (extra : Bool) (name : String) (d : Datum) : Datum :=
  .record [("properties", .record [(name, d)]), ("allowExtraKeys", .bool extra)]

def keyTypeRecord (extra : Bool) (name : String) (d : Datum) : Record :=
  ⟨keyType extra name d, [("properties", Datum.record [(name, d)]), ("allowExtraKeys", .bool extra)].map fun (k, d) => (Key.text k, d)⟩

/-- What the type that looks under one key compiles to. -/
def keyChecker (extra : Bool) (name : String) (c : PropertyChecker) : TypeChecker := ⟨[(name, c)], { allowExtraKeys := extra }⟩

/-- The type that looks under one key. -/
def keyObject (extra : Bool) (name : String) (p : PropertyDef) (c : PropertyChecker) : ObjectType :=
  ⟨⟨none, none, { allowExtraKeys := extra }, [(name, p)]⟩, keyChecker extra name c⟩

theorem keyObject_built {d : Datum} {p : PropertyDef} {c : PropertyChecker}
    (hp : Building.Yields (Building.property ⟨.standard, fun _ => none⟩ d) (.ok (p, c))) (extra : Bool) (name : String) :
    (keyObject extra name p c).Built (· = .standard) := by
  have hbuild : Building.Yields (Building.type ⟨.standard, fun _ => none⟩ (keyType extra name d)) (.ok (keyObject extra name p c)) := by
    unfold Building.type
    split
    · next hd => cases hd
    split
    · next h => cases h
    · next r h =>
      cases h
      dsimp only
      refine Building.yields_bind (x := .ok [(name, (p, c))])
        (Building.yields_optional_some (s := "properties") (d := .record [(name, d)]) rfl fun hd => ?_) ?_
      · split
        · next he => cases he
        · next es he =>
          cases he
          exact Building.yields_bind (Building.yields_entry fun _ => hp) (Building.yields_pure _)
      · have hfirst : ((keyTypeRecord extra name d).optional .typeName none Reading.note).both
            (((keyTypeRecord extra name d).optional .description none Reading.note).both
              (Leniency.ofRecord (keyTypeRecord extra name d))) = .ok (none, none, { allowExtraKeys := extra }) := rfl
        have hproperties := Reading.both_eq_ok (p := (_, [(name, (p, c))])).2 ⟨hfirst, rfl⟩
        have hclose : (keyTypeRecord extra name d).close TypeDef.fields = .ok () := rfl
        have hall := Record.closing_eq_ok (p := (_, ())).2 ⟨hproperties, hclose⟩
        split
        · next issues hbad => cases hall.symm.trans hbad
        · next hok =>
          cases hall.symm.trans hok
          have hfinish : Building.Yields (ObjectType.finish none none { allowExtraKeys := extra } [(name, (p, c))]) _ :=
            Building.yields_bind (x := ()) (fun _ => rfl) (Building.yields_pure _)
          exact Building.yields_bind hfinish (Building.yields_pure _)
  exact .build rfl (fun _ _ hu => by cases hu) (hbuild [])

theorem Describes.type {d : Datum} {c : PropertyChecker} (h : Describes d c) (extra : Bool) (name : String) :
    ∃ t : ObjectType, t.Built (· = .standard) ∧ t.checker = keyChecker extra name c := by
  obtain ⟨p, hp⟩ := h.property
  exact ⟨_, keyObject_built hp extra name, rfl⟩

/-- A checker of a kind that has rules and nothing else. -/
def bare (k : Kind) (rules : List Rule) : PropertyChecker := { PropertyChecker.ofKind k with rules := rules }

def numberPart : Datum := part "Number" []

def itemsPart (d : Datum) : Datum := part "Array" [("includes", [d])]

def referencePart (ref : TypeRef) : Datum := part "Object" [("objectSchemaType", [.scalar (.reference ref)])]

theorem describes_number : Describes numberPart (bare .number []) := .of_part rfl rfl (by rfl)

theorem describes_reference (ref : TypeRef) : Describes (referencePart ref) (bare .object [.reference ref]) :=
  .of_part rfl rfl (by rfl)

/-- A constraint on items compiles to a rule with the checker of its element. -/
theorem compileConstraints_items {d : Datum} {c : PropertyChecker} (h : Describes d c) {m : String}
    {rule : List PropertyChecker → Rule} (hm : (m, rule) = ("includes", Rule.includes) ∨ (m, rule) = ("excludes", Rule.excludes)) :
    Capabilities.standard.compileConstraints .array [⟨m, [d]⟩] (fun m a _ => Capabilities.standard.compileElement m a)
      (.ofKind .array) = .ok (bare .array [rule [c]]) := by
  obtain ⟨es, rfl⟩ := h.mapping
  have helements : ([Datum.mapping es].attach.mapM fun ⟨a, _⟩ => Capabilities.standard.compileElement m a) = .ok [c] := by
    exact Except.bind_eq_ok.2 ⟨c, h.element m, rfl⟩
  have hconstraint : Capabilities.standard.compileConstraint .array ⟨m, [.mapping es]⟩
      (fun a _ => Capabilities.standard.compileElement m a) (.ofKind .array) = .ok (bare .array [rule [c]]) := by
    rcases hm with hm | hm <;> cases hm <;>
      exact Except.bind_eq_ok.2 ⟨.elements, rfl, Except.bind_eq_ok.2 ⟨_, helements, rfl⟩⟩
  exact Except.bind_eq_ok.2 ⟨_, hconstraint, rfl⟩

theorem describes_items {d : Datum} {c : PropertyChecker} (h : Describes d c) :
    Describes (itemsPart d) (bare .array [.includes [c]]) := by
  obtain ⟨es, rfl⟩ := h.mapping
  exact .of_part rfl rfl (compileConstraints_items h (.inl rfl))

/-! ## Runs of probes -/

/-- A checker that gives no cause for a fault, and changes nothing. -/
structure Calm (c : PropertyChecker) : Prop where
  followsObjects : c.FollowsObjects
  loud : ∀ e, ¬ c.Loud e
  noConstant : ∀ d, d ∉ c.allowed ++ c.denied
  inlineType : ∀ t, .inlineType t ∉ c.rules

/-- A leniency of a type that changes nothing. -/
structure Still (l : Leniency) : Prop where
  strip : l.stripExtraKeys = false
  save : l.saveConversions = false

theorem placed_calm : Placed Calm Still where
  followsObjects _ hc := hc.followsObjects
  inlineType hc ht := absurd ht (hc.inlineType _)

theorem calm_bare {k : Kind} {rules : List Rule} (hr : ∀ ref, .reference ref ∈ rules → k = .object)
    (ht : ∀ t, .inlineType t ∉ rules) : Calm (bare k rules) := by
  refine ⟨hr, fun e he => ?_, fun _ => List.not_mem_nil, ht⟩
  cases he with
  | denied constant => cases constant
  | valid only => cases only

theorem every_bare {k : Kind} {rules : List Rule} (h : Calm (bare k rules)) (hrules : ∀ r ∈ rules, r.Every Calm) :
    (bare k rules).Every Calm := PropertyChecker.every_iff.2 ⟨h, hrules⟩

theorem known_keyChecker {extra : Bool} {name : String} {c : PropertyChecker} (h : c.Every Calm) :
    (keyChecker extra name c).Known Calm Still where
  every := by
    refine PropertyChecker.everyOfFields_iff.2 fun p hp => ?_
    obtain rfl := List.mem_singleton.1 hp
    exact h
  leniency := ⟨rfl, rfl⟩

/-- A checker that changes nothing leaves the store as it is. -/
theorem collect_still {resolve : Resolver} (hresolve : ∀ ref t, resolve ref = some t → t.Known Calm Still)
    {c : PropertyChecker} (hc : c.Every Calm) {n : Nat} {ctx : Context} {path : Path} {present : Bool} {v : Value} {r r' : Run}
    {x : Findings × Value} (h : (c.collect (follow resolve n) ctx path present none v).ending r = (.ok x, r')) :
    r'.store = r.store := by
  refine PropertyChecker.collect_survives placed_calm hresolve hc (fun _ hp => by cases hp) (.refl r.store) h
    (I := fun ρ => ρ = r.store) rfl ⟨fun _ hl hstrip => ?_, fun _ _ hl hsave => ?_⟩
  · rw [hl.strip] at hstrip
    cases hstrip
  · rw [hl.save] at hsave
    cases hsave

/-- A check ends in a fault. -/
def Fails {α : Type} (c : Check α) (r : Run) : Prop := ∃ e s, c.ending r = (.error e, s)

section Fails

variable {α β : Type} {c : Check α} {k : α → Check β} {r s : Run}

theorem Fails.bind (h : Fails c r) : Fails (c >>= k) r := by
  obtain ⟨e, s, h⟩ := h
  exact ⟨e, s, Check.ending_bind_error h⟩

theorem Fails.after {a : α} (hc : c.ending r = (.ok a, s)) (h : Fails (k a) s) : Fails (c >>= k) r := by
  unfold Fails
  rw [Check.ending_bind_ok hc]
  exact h

end Fails

/-- Checks of items end in a fault if the one of some item does, and the others change nothing. -/
theorem eachItem_fails {σ : Store} {check : Path → Value → Check Findings} {xs : List Value} {y : Value} (hy : y ∈ xs)
    (hfails : ∀ path r, r.store = σ → Fails (check path y) r)
    (hstill : ∀ path x r found s, (check path x).ending r = (.ok found, s) → s.store = r.store) (path : Path) :
    ∀ (i : Nat) {r : Run}, r.store = σ → Fails (eachItem path check i xs) r := by
  induction xs with
  | nil => cases hy
  | cons x rest ih =>
      intro i r hr
      unfold eachItem
      rcases hx : (check (path.index i) x).ending r with ⟨e | found, s⟩
      · exact Fails.bind ⟨e, s, hx⟩
      · refine Fails.after hx (Fails.bind ?_)
        rcases List.mem_cons.1 hy with rfl | hy
        · obtain ⟨e, s', hs⟩ := hfails (path.index i) r hr
          rw [hx] at hs
          cases hs
        · exact ih hy (i + 1) ((hstill _ _ _ _ _ hx).trans hr)

section Bare

variable {k : Kind} {rules : List Rule} {f : Follow} {ctx : Context} {path : Path} {parent : Option Value} {v : Value} {r : Run}

theorem bare_fails_early {e : Fault} (hv : v ≠ .scalar .null) (h : k.convert ctx.convert r.store v = .error e) :
    Fails ((bare k rules).collect f ctx path true parent v) r := by
  have hearly : (bare k rules).early ctx.convert path true r.store v = .error e := by
    unfold PropertyChecker.early
    rw [if_neg (by simp), if_neg hv]
    change (do let counted ← k.convert ctx.convert r.store v; _) = _
    rw [h]
    rfl
  have hcheck : (Check.ofExcept ((bare k rules).early ctx.convert path true r.store v)).ending r = (.error e, r) := by
    rw [Check.ending_ofExcept, hearly]
  unfold bare PropertyChecker.ofKind at hcheck ⊢
  rw [PropertyChecker.collect]
  exact Fails.after (Check.ending_store r) (Fails.bind ⟨e, r, hcheck⟩)

theorem bare_fails_rules (hv : v ≠ .scalar .null) (hk : k ≠ .string) (h : k.convert ctx.convert r.store v = .ok (some v))
    (hrules : Fails (Rule.runAll f ctx path rules v) r) : Fails ((bare k rules).collect f ctx path true parent v) r := by
  have hearly : (bare k rules).early ctx.convert path true r.store v = .ok (.goOn v) := by
    unfold PropertyChecker.early
    rw [if_neg (by simp), if_neg hv]
    change (do let counted ← k.convert ctx.convert r.store v; _) = _
    rw [h]
    have hends : (bare k rules).comparesOn r.store v = false := by
      simp [PropertyChecker.comparesOn, Store.seeksOn, PropertyChecker.seeksOn, bare, PropertyChecker.ofKind]
    have hnone : ¬ (readings v v).any (r.store.isAmong []) = true := by simp [Store.isAmong]
    dsimp only [bind, Except.bind]
    rw [hends]
    change (if (readings v v).any (r.store.isAmong []) = true then _ else
      if (readings v v).any (r.store.isAmong []) = true then _ else _) = _
    rw [if_neg hnone, if_neg hnone]
    change (if (decide (k = .string) && _ && _) = true then _ else _) = _
    rw [decide_eq_false hk]
    rfl
  have hcheck : (Check.ofExcept ((bare k rules).early ctx.convert path true r.store v)).ending r = (.ok (.goOn v), r) := by
    rw [Check.ending_ofExcept, hearly]
  have hpeers : (Check.ofExcept (peerFindings (bare k rules) path r.store parent v)).ending r = (.ok [], r) := by
    rw [Check.ending_ofExcept]
    cases parent <;> rfl
  unfold bare PropertyChecker.ofKind at hcheck hpeers ⊢
  rw [PropertyChecker.collect]
  refine Fails.after (Check.ending_store r) (Fails.after hcheck (Fails.after (Check.ending_store r) (Fails.after hpeers ?_)))
  exact hrules.bind

end Bare

/-! ## Finding a value -/

/-- The reference to a type behind a probe. -/
def reference (n : Nat) : TypeRef where
  namespaceName := "ns://probes"
  version := "1.0.0"
  name := String.ofList (List.replicate (n + 1) 'T')
  namespace_ok := by decide
  version_ok := by decide
  name_ok := by simp [List.replicate_succ, String.ext_iff]

theorem reference_length (n : Nat) : (reference n).name.length = n + 1 := by
  simp [reference]

/-- Where the references of probes lead to. -/
def registry (types : List ObjectType) (ref : TypeRef) : Option ObjectType :=
  if ref = reference (ref.name.length - 1) then types[ref.name.length - 1]? else none

theorem registry_reference (types : List ObjectType) (n : Nat) : registry types (reference n) = types[n]? := by
  unfold registry
  rw [reference_length, Nat.add_sub_cancel, if_pos rfl]

theorem registry_mem {types : List ObjectType} {ref : TypeRef} {t : ObjectType} (h : registry types ref = some t) :
    t ∈ types := by
  unfold registry at h
  split at h
  · exact List.mem_of_getElem? h
  · cases h

theorem reference_inj {m n : Nat} (h : reference m = reference n) : m = n := by
  have hlength : (reference m).name.length = (reference n).name.length := by rw [h]
  rw [reference_length, reference_length] at hlength
  omega

/-- A checker, with the types behind it, that ends in a fault at a value of a store. -/
structure Finds (σ : Store) (x : Value) (types : List ObjectType) (d : Datum) (c : PropertyChecker) : Prop where
  describes : Describes d c
  calm : c.Every Calm
  built : ∀ t ∈ types, t.Built (· = .standard) ∧ t.checker.Known Calm Still
  fails : ∀ {resolve : Resolver}, (∀ ref t, resolve ref = some t → t.Known Calm Still) →
    (∀ (i : Nat) (t : ObjectType), types[i]? = some t → resolve (reference i) = some t.checker) →
    ∀ {n : Nat} {ctx : Context} {path : Path} {parent : Option Value} {r : Run}, types.length ≤ n → ctx.convert = true →
    (∀ p ∈ ctx.inFlight, ∀ i < types.length, p.1 ≠ reference i) → r.store = σ →
    Fails (c.collect (follow resolve n) ctx path true parent x) r

variable {σ : Store}

theorem every_number : (bare .number []).Every Calm :=
  every_bare (calm_bare (fun _ h => by cases h) fun _ h => by cases h) fun _ h => by cases h

/-- A number that no double is near is found as a number. -/
theorem finds_oversized {a : Scalar} (ha : a.Oversized) : Finds σ (.scalar a) [] numberPart (bare .number []) where
  describes := describes_number
  calm := every_number
  built _ ht := nomatch ht
  fails {_} _ _ {n ctx path parent r} _ hconvert _ _ := by
    have hnull : Value.scalar a ≠ .scalar .null := by
      intro h
      cases h
      exact ha
    refine bare_fails_early (e := .integerTooLarge) hnull ?_
    rw [hconvert]
    cases a with
    | number n =>
        change finite? n = _
        unfold finite?
        rw [show n.isFinite? = none from ha]
    | text s =>
        obtain ⟨n, hs, hn⟩ := ha
        unfold Kind.convert
        dsimp only
        rw [if_pos rfl, hs]
        dsimp only
        unfold finite?
        rw [hn]
    | _ => exact ha.elim

/-- What an array holds is found from the array. -/
theorem Finds.item {x y : Value} {types : List ObjectType} {d : Datum} {c : PropertyChecker} (h : Finds σ y types d c)
    {xs : List Value} (hx : σ.items? x = some xs) (hy : y ∈ xs) :
    Finds σ x types (itemsPart d) (bare .array [.includes [c]]) where
  describes := describes_items h.describes
  calm := by
    refine every_bare (calm_bare (fun _ h => by simp at h) fun _ h => by simp at h) fun r hr => ?_
    obtain rfl := List.mem_singleton.1 hr
    rw [Rule.every_includes, PropertyChecker.everyOfAll_iff]
    exact fun e he => List.mem_singleton.1 he ▸ h.calm
  built := h.built
  fails {resolve} hresolve hagree {n ctx path parent r} hn hconvert hflight hr := by
    have hnull : x ≠ .scalar .null := by
      rintro rfl
      cases hx
    have hkind : Kind.array.convert ctx.convert r.store x = .ok (some x) := by
      unfold Kind.convert
      dsimp only
      rw [hr, hx]
      rfl
    refine bare_fails_rules hnull nofun hkind ?_
    rw [Rule.runAll]
    refine Fails.bind ?_
    rw [Rule.run]
    refine Fails.after (Check.ending_store r) ?_
    rw [hr, hx]
    refine eachItem_fails hy (fun path r hr => ?_) (fun path z r found s hz => ?_) path 0 hr
    · refine Fails.bind ?_
      rw [PropertyChecker.attempts]
      exact (h.fails hresolve hagree hn hconvert hflight hr).bind
    · obtain ⟨attempts, s', hs', hrest⟩ := Check.ending_bind_eq_ok hz
      cases hrest
      rw [PropertyChecker.attempts] at hs'
      obtain ⟨first, s1, hs1, hrest⟩ := Check.ending_bind_eq_ok hs'
      cases hrest
      exact collect_still hresolve h.calm hs1

/-- What a type finds in a mapping that is entered, through what it asks of one key. -/
theorem keyChecker_fails {extra : Bool} {name : String} {c : PropertyChecker} {f : Follow} {ctx : Context} {path : Path}
    {v : Value} {es : List (Key × Value)} {r : Run} (hes : r.store.entries? v = some es)
    (h : (∃ e, strayFindings { allowExtraKeys := extra } [name] path es = .error e) ∨
      ∃ x, Entries.get? name es = some x ∧ extra = true ∧
        Fails (c.collect f { ctx with convert := true } (path.key name) true (some v) x) r) :
    Fails ((keyChecker extra name c).collect f ctx path v) r := by
  have hstrays : (strays { allowExtraKeys := extra } [name] path v).ending r =
      (strayFindings { allowExtraKeys := extra } [name] path es, r) := by
    unfold strays
    rw [Check.ending_bind_ok (Check.ending_store r), hes]
    dsimp only [Option.getD_some]
    rw [Check.ending_ofExcept]
  unfold keyChecker
  rw [TypeChecker.collect]
  refine Fails.after (Check.ending_store r) ?_
  rw [hes]
  dsimp only [Option.isNone_some]
  rw [if_neg nofun]
  rcases h with ⟨e, he⟩ | ⟨x, hx, rfl, hfails⟩
  · rw [he] at hstrays
    exact Fails.bind ⟨e, r, hstrays⟩
  · refine Fails.after (a := []) hstrays (Fails.bind ?_)
    rw [PropertyChecker.collectFields]
    refine Fails.after (Check.ending_store r) ?_
    rw [hes, Option.bind_some, hx]
    exact hfails.bind

/-- A type, with the types behind it, that ends in a fault at a mapping of a store. -/
structure Stops (σ : Store) (x : Value) (types : List ObjectType) (t : ObjectType) : Prop where
  built : ∀ u ∈ t :: types, u.Built (· = .standard) ∧ u.checker.Known Calm Still
  fails : ∀ {resolve : Resolver}, (∀ ref t, resolve ref = some t → t.Known Calm Still) →
    (∀ (i : Nat) (u : ObjectType), types[i]? = some u → resolve (reference i) = some u.checker) →
    ∀ {n : Nat} {ctx : Context} {path : Path} {r : Run}, types.length ≤ n →
    (∀ p ∈ ctx.inFlight, ∀ i < types.length, p.1 ≠ reference i) → r.store = σ →
    Fails (t.checker.collect (follow resolve n) ctx path x) r

/-- A key that cannot be written is found where no keys are tolerated but declared ones. -/
theorem stops_longKey {w : Value} {es : List (Key × Value)} (hes : σ.entries? w = some es) {e : Key × Value} (he : e ∈ es)
    (hlong : e.1.isTooLong = true) : ∃ t, Stops σ w [] t := by
  obtain ⟨t, ht, hchecker⟩ := describes_number.type false ""
  have hstray : isStray {} [""] e = true := by
    obtain ⟨k, x⟩ := e
    match k, hlong with
    | .scalar (.number n), _ => rfl
    | .tuple ks, _ => rfl
  have hany : (es.filter (isStray {} [""])).any (fun e => e.1.isTooLong) = true :=
    List.any_eq_true.2 ⟨e, List.mem_filter.2 ⟨he, hstray⟩, hlong⟩
  refine ⟨t, fun u hu => ?_, fun {resolve} _ _ {n ctx path r} _ _ hr => ?_⟩
  · obtain rfl := List.mem_singleton.1 hu
    exact ⟨ht, hchecker ▸ known_keyChecker every_number⟩
  · rw [hchecker]
    refine keyChecker_fails (hr ▸ hes) (.inl ⟨.integerTooLong, ?_⟩)
    unfold strayFindings
    dsimp only
    rw [if_neg nofun, if_pos hany]

/-- What a mapping holds under a text is found from the mapping. -/
theorem Finds.entry {x y : Value} {types : List ObjectType} {d : Datum} {c : PropertyChecker} (h : Finds σ y types d c)
    {es : List (Key × Value)} {name : String} (hx : σ.entries? x = some es) (hy : Entries.get? name es = some y) :
    ∃ t, Stops σ x types t := by
  obtain ⟨t, ht, hchecker⟩ := h.describes.type true name
  refine ⟨t, fun u hu => ?_, fun {resolve} hresolve hagree {n ctx path r} hn hflight hr => ?_⟩
  · rcases List.mem_cons.1 hu with rfl | hu
    · exact ⟨ht, hchecker ▸ known_keyChecker h.calm⟩
    · exact h.built u hu
  · rw [hchecker]
    exact keyChecker_fails (hr ▸ hx) (.inr ⟨y, hy, rfl, h.fails hresolve hagree hn rfl hflight hr⟩)

/-- A mapping that a type stops at is found through a reference to the type. -/
theorem Stops.finds {x : Value} {types : List ObjectType} {t : ObjectType} (h : Stops σ x types t) (hx : σ.isMapping x = true) :
    Finds σ x (types ++ [t]) (referencePart (reference types.length)) (bare .object [.reference (reference types.length)]) where
  describes := describes_reference _
  calm := by
    refine every_bare (calm_bare (fun _ _ => rfl) fun _ h => by simp at h) fun r hr => ?_
    obtain rfl := List.mem_singleton.1 hr
    exact Rule.every_of_checkers_nil (by rw [Rule.checkers] <;> nofun)
  built u hu := by
    refine h.built u ?_
    rcases List.mem_append.1 hu with hu | hu
    · exact List.mem_cons_of_mem _ hu
    · exact List.mem_singleton.1 hu ▸ List.mem_cons_self ..
  fails {resolve} hresolve hagree {n ctx path parent r} hn hconvert hflight hr := by
    rw [List.length_append, List.length_singleton] at hn hflight
    have hnull : x ≠ .scalar .null := by
      rintro rfl
      cases hx
    have hkind : Kind.object.convert ctx.convert r.store x = .ok (some x) := by
      obtain ⟨es, hes⟩ := Option.isSome_iff_exists.1 hx
      unfold Kind.convert
      dsimp only
      rw [hr, hes]
      rfl
    obtain ⟨n, rfl⟩ : ∃ m, n = m + 1 := ⟨n - 1, by omega⟩
    have hnew : (reference types.length, x) ∉ ctx.inFlight := fun h => hflight _ h _ (Nat.lt_succ_self _) rfl
    refine bare_fails_rules hnull nofun hkind ?_
    rw [Rule.runAll]
    refine Fails.bind ?_
    rw [Rule.run]
    unfold follow
    rw [hagree types.length t (by simp)]
    dsimp only
    rw [if_neg hnew]
    refine Fails.after (Check.ending_record ..) (Fails.bind ?_)
    refine h.fails hresolve (fun i u hu => ?_) (by omega) (fun p hp i hi => ?_) hr
    · exact hagree i u (by rw [List.getElem?_append_left (List.getElem?_eq_some_iff.1 hu).1, hu])
    · rcases List.mem_cons.1 hp with rfl | hp
      · intro h
        have := reference_inj h
        omega
      · exact hflight p hp i (by omega)

/-- What is found below a value is found from the value. The induction is along the path, from its end. -/
theorem Finds.reached (hkeys : σ.DistinctKeys) {x y : Value} (h : ReflTransGen σ.Leads x y)
    (hy : ∃ types d c, Finds σ y types d c) : ∃ types d c, Finds σ x types d c := by
  induction h using ReflTransGen.head_induction_on with
  | refl => exact hy
  | head hstep _ ih =>
      obtain ⟨types, d, c, hz⟩ := ih
      rcases hstep with ⟨xs, hxs, hmem⟩ | ⟨es, name, hes, hmem⟩
      · exact ⟨_, _, _, hz.item hxs hmem⟩
      · obtain ⟨t, ht⟩ := hz.entry hes (hkeys.get? hes hmem)
        exact ⟨_, _, _, ht.finds (by unfold Store.isMapping; rw [hes]; rfl)⟩

end Probe

/-- Where a mapping holds what a run may fault on, some run does, of types that give no cause for it themselves. -/
theorem Store.exists_fault {σ : Store} (hkeys : σ.DistinctKeys) {v : Value} (hv : σ.isMapping v = true) (hσ : ¬ σ.Sound v) :
    ∃ types t, Probe.Stops σ v types t := by
  have hstops : ∀ {w : Value}, ReflTransGen σ.Leads v w → (∃ types d c, Probe.Finds σ w types d c) → w ≠ v →
      ∃ types t, Probe.Stops σ v types t := by
    intro w hw hfinds hne
    rcases ReflTransGen.cases_head hw with rfl | ⟨y, hy, hyw⟩
    · exact absurd rfl hne
    · obtain ⟨types, d, c, hz⟩ := Probe.Finds.reached hkeys hyw hfinds
      rcases hy with ⟨xs, hxs, _⟩ | ⟨es, name, hes, hmem⟩
      · rw [Store.items?_of_isMapping hv] at hxs
        cases hxs
      · obtain ⟨t, ht⟩ := hz.entry hes (hkeys.get? hes hmem)
        exact ⟨types, t, ht⟩
  by_contra hnone
  refine hσ ⟨fun a ha hlarge => hnone ?_, fun w es hw hes e he => ?_⟩
  · refine hstops ha ⟨_, _, _, Probe.finds_oversized hlarge⟩ ?_
    rintro rfl
    cases hv
  · by_contra hlong
    rw [Bool.not_eq_false] at hlong
    obtain ⟨t, ht⟩ := Probe.stops_longKey hes he hlong
    by_cases hwv : w = v
    · subst hwv
      exact hnone ⟨_, _, ht⟩
    · exact hnone (hstops hw ⟨_, _, _, ht.finds (by unfold Store.isMapping; rw [hes]; rfl)⟩ hwv)

end ShapeCheck
