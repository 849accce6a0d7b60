import ShapeCheck.Proofs.Accounts
import ShapeCheck.Proofs.Frame

/-!
# What a run may come to

A run stays among the types that its type leads to, `TypeChecker.Reaches`, and among the values that its value leads to. A
`Territory` says what is known of the types, the checkers and the references that a run may come to; if it is closed, a run
from inside of it stays inside (`Reached.inside`). As the store only shrinks along a run, values stay `Below` the first one,
and references are met at mappings (`Reached.liesBelow`). Where no type of a territory strips keys or saves conversions, the
store stays as it is (`Account.still_lawful`).
-/

namespace ShapeCheck

open Relation

/-! ## References of the parts of a type -/

section References

variable {ref : TypeRef}

theorem PropertyChecker.mem_referencesOfFields {ps : List (String × PropertyChecker)} {p : String × PropertyChecker}
    (hp : p ∈ ps) (href : ref ∈ p.2.references) : ref ∈ PropertyChecker.referencesOfFields ps := by
  induction ps with
  | nil => cases hp
  | cons q rest ih =>
      obtain ⟨name, c⟩ := q
      rw [PropertyChecker.referencesOfFields]
      rcases List.mem_cons.1 hp with rfl | hp
      · exact List.mem_append_left _ href
      · exact List.mem_append_right _ (ih hp)

theorem Rule.mem_referencesOfAll {rules : List Rule} {x : Rule} (hx : x ∈ rules) (href : ref ∈ x.references) :
    ref ∈ Rule.referencesOfAll rules := by
  induction rules with
  | nil => cases hx
  | cons y rest ih =>
      rw [Rule.referencesOfAll]
      rcases List.mem_cons.1 hx with rfl | hx
      · exact List.mem_append_left _ href
      · exact List.mem_append_right _ (ih hx)

theorem PropertyChecker.mem_references {c : PropertyChecker} {x : Rule} (hx : x ∈ c.rules) (href : ref ∈ x.references) :
    ref ∈ c.references := by
  obtain ⟨_, _, _, _, _, _, _, _, _, rules⟩ := c
  rw [PropertyChecker.references]
  exact Rule.mem_referencesOfAll hx href

theorem PropertyChecker.mem_referencesOfAll {cs : List PropertyChecker} :
    ref ∈ PropertyChecker.referencesOfAll cs ↔ ∃ c ∈ cs, ref ∈ c.references := by
  induction cs with
  | nil =>
      rw [PropertyChecker.referencesOfAll]
      exact ⟨fun h => (nomatch h), fun ⟨_, h, _⟩ => nomatch h⟩
  | cons c rest ih => rw [PropertyChecker.referencesOfAll, List.mem_append, ih, List.exists_mem_cons_iff]

theorem Rule.references_inlineType (t : TypeChecker) : (Rule.inlineType t).references = t.references := by
  obtain ⟨properties, leniency⟩ := t
  rw [Rule.references]
  rfl

end References

/-! ## Types -/

section Types

variable (resolve : Resolver)

/-- The types that a type leads to: itself, those in place inside of it, and those behind references. -/
inductive TypeChecker.Reaches (t : TypeChecker) : TypeChecker → Prop
  | refl : Reaches t t
  | inside {u w : TypeChecker} {c : PropertyChecker} (reached : Reaches t u)
      (checker : c ∈ PropertyChecker.checkersOfFields u.properties) (rule : .inlineType w ∈ c.rules) : Reaches t w
  | named {u w : TypeChecker} {ref : TypeRef} (reached : Reaches t u) (named : ref ∈ u.references)
      (found : resolve ref = some w) : Reaches t w

/-- The references that a type leads to. -/
def TypeChecker.ReachesRef (t : TypeChecker) (ref : TypeRef) : Prop := ∃ u, t.Reaches resolve u ∧ ref ∈ u.references

variable {resolve}

theorem TypeChecker.Reaches.trans {t u w : TypeChecker} (htu : t.Reaches resolve u) (huw : u.Reaches resolve w) :
    t.Reaches resolve w := by
  induction huw with
  | refl => exact htu
  | inside _ hc hw ih => exact ih.inside hc hw
  | named _ href hw ih => exact ih.named href hw

/-- Whether a rule has a type in place. -/
def Rule.isInlineType : Rule → Bool
  | .inlineType _ => true
  | _ => false

/-- Without types in place, and where all references lead to it, a type leads to itself only. -/
theorem TypeChecker.Reaches.eq_self {t u : TypeChecker} (h : t.Reaches resolve u) (hself : ∀ ref w, resolve ref = some w → w = t)
    (hplain : (PropertyChecker.checkersOfFields t.properties).any (fun c => c.rules.any Rule.isInlineType) = false) : u = t := by
  induction h with
  | refl => rfl
  | inside _ hc hw ih =>
    subst ih
    have hrule := List.any_eq_false.1 (Bool.eq_false_iff.2 (List.any_eq_false.1 hplain _ hc)) _ hw
    cases hrule rfl
  | named _ _ hw => exact hself _ _ hw

/-- What holds of the checkers inside of a checker holds of those inside of each of them. The induction goes down in size. -/
theorem PropertyChecker.Every.deep {Φ : PropertyChecker → Prop} (c : PropertyChecker) (h : c.Every Φ) : c.Every (·.Every Φ) := by
  refine PropertyChecker.every_iff.2 ⟨h, fun x hx => ?_⟩
  have hrule := (PropertyChecker.every_iff.1 h).2 x hx
  cases x with
  | includes elements =>
      refine Rule.every_includes.2 (PropertyChecker.everyOfAll_iff.2 fun d hd => ?_)
      exact PropertyChecker.Every.deep d (PropertyChecker.everyOfAll_iff.1 (Rule.every_includes.1 hrule) d hd)
  | excludes elements =>
      refine Rule.every_excludes.2 (PropertyChecker.everyOfAll_iff.2 fun d hd => ?_)
      exact PropertyChecker.Every.deep d (PropertyChecker.everyOfAll_iff.1 (Rule.every_excludes.1 hrule) d hd)
  | inlineType t =>
      refine Rule.every_inlineType.2 (PropertyChecker.everyOfFields_iff.2 fun p hp => ?_)
      exact PropertyChecker.Every.deep p.2 (PropertyChecker.everyOfFields_iff.1 (Rule.every_inlineType.1 hrule) p hp)
  | _ => exact Rule.every_of_checkers_nil (by simp only [Rule.checkers])
termination_by sizeOf c
decreasing_by
  all_goals
    have hrule := PropertyChecker.sizeOf_rule hx
    simp only [Rule.includes.sizeOf_spec, Rule.excludes.sizeOf_spec, Rule.inlineType.sizeOf_spec] at hrule
  · have helement := List.sizeOf_lt_of_mem hd
    omega
  · have helement := List.sizeOf_lt_of_mem hd
    omega
  · have hproperty := TypeChecker.sizeOf_property hp
    omega

/-- What holds of all checkers of a type, and of the types behind references, holds of those of each type that it leads to. -/
theorem TypeChecker.Every.reached {Φ : PropertyChecker → Prop} {t u : TypeChecker} (ht : t.Every Φ)
    (hresolve : ∀ ref w, resolve ref = some w → w.Every Φ) (h : t.Reaches resolve u) : u.Every Φ := by
  induction h with
  | refl => exact ht
  | @inside u w c _ hc hw ih =>
      have hdeep : u.Every (·.Every Φ) :=
        PropertyChecker.everyOfFields_iff.2 fun p hp => .deep p.2 (PropertyChecker.everyOfFields_iff.1 ih p hp)
      exact Rule.every_inlineType.1 ((PropertyChecker.every_iff.1 (hdeep c hc)).2 _ hw)
  | named _ _ found => exact hresolve _ _ found

/-- What is known of the types, the checkers and the references that a run may come to. -/
structure Territory where
  types : TypeChecker → Prop
  checkers : PropertyChecker → Prop
  references : TypeRef → Prop

/-- No type leads out of a territory. -/
structure Territory.Closed (resolve : Resolver) (k : Territory) : Prop where
  every : ∀ {u}, k.types u → u.Every k.checkers
  names : ∀ {u}, k.types u → ∀ ref ∈ u.references, k.references ref
  inside : ∀ {c u}, k.checkers c → .inlineType u ∈ c.rules → u.Every k.checkers → k.types u
  behind : ∀ {ref u}, k.references ref → resolve ref = some u → k.types u

/-- All that a type leads to, where something is known of each checker. -/
def Territory.leading (resolve : Resolver) (t : TypeChecker) (Φ : PropertyChecker → Prop) : Territory where
  types u := t.Reaches resolve u ∧ u.Every Φ
  checkers c := Φ c ∧ ∀ u, .inlineType u ∈ c.rules → t.Reaches resolve u
  references := t.ReachesRef resolve

theorem Territory.leading_closed {t : TypeChecker} {Φ : PropertyChecker → Prop}
    (hnamed : ∀ ref u, t.ReachesRef resolve ref → resolve ref = some u → u.Every Φ) :
    (Territory.leading resolve t Φ).Closed resolve where
  every h c hc := ⟨h.2 c hc, fun _ hw => h.1.inside hc hw⟩
  names h _ href := ⟨_, h.1, href⟩
  inside hc hu hevery := ⟨hc.2 _ hu, hevery.mono fun _ h => h.1⟩
  behind href hu := by
    refine ⟨?_, hnamed _ _ href hu⟩
    obtain ⟨w, hw, href⟩ := href
    exact hw.named href hu

/-- A point of a run is inside of a territory. -/
def Point.Inside (k : Territory) : Point → Prop
  | .type _ _ _ t _ => k.types t
  | .property _ _ _ _ _ c _ => c.Every k.checkers ∧ ∀ ref ∈ c.references, k.references ref
  | .rule _ _ _ x _ => x.Every k.checkers ∧ (∃ c, k.checkers c ∧ x ∈ c.rules) ∧ ∀ ref ∈ x.references, k.references ref

variable {k : Territory} {p q : Point} {r s : Run} {b : Bool}

namespace Point.Inside

variable {m n : Nat} {ctx dtx : Context} {path q : Path} {present present' : Bool} {parent parent' : Option Value} {v w : Value}

theorem field (hk : k.Closed resolve) {t : TypeChecker} {name : String} {c : PropertyChecker} (ht : k.types t)
    (hc : (name, c) ∈ t.properties) : (Point.property n ctx path present parent c v).Inside k :=
  ⟨PropertyChecker.everyOfFields_iff.1 (hk.every ht) _ hc,
    fun ref href => hk.names ht ref (PropertyChecker.mem_referencesOfFields hc href)⟩

theorem rule {c : PropertyChecker} {x : Rule} (h : (Point.property n ctx path present parent c v).Inside k) (hx : x ∈ c.rules) :
    (Point.rule m dtx q x w).Inside k := by
  have hevery := PropertyChecker.every_iff.1 h.1
  exact ⟨hevery.2 _ hx, ⟨_, hevery.1, hx⟩, fun ref href => h.2 ref (PropertyChecker.mem_references hx href)⟩

theorem included {c : PropertyChecker} {elements : List PropertyChecker} (h : (Point.rule n ctx path (.includes elements) v).Inside k)
    (hc : c ∈ elements) : (Point.property m dtx q present' parent' c w).Inside k := by
  refine ⟨PropertyChecker.everyOfAll_iff.1 (Rule.every_includes.1 h.1) _ hc, fun ref href => h.2.2 ref ?_⟩
  rw [Rule.references]
  exact PropertyChecker.mem_referencesOfAll.2 ⟨_, hc, href⟩

theorem excluded {c : PropertyChecker} {elements : List PropertyChecker} (h : (Point.rule n ctx path (.excludes elements) v).Inside k)
    (hc : c ∈ elements) : (Point.property m dtx q present' parent' c w).Inside k := by
  refine ⟨PropertyChecker.everyOfAll_iff.1 (Rule.every_excludes.1 h.1) _ hc, fun ref href => h.2.2 ref ?_⟩
  rw [Rule.references]
  exact PropertyChecker.mem_referencesOfAll.2 ⟨_, hc, href⟩

theorem referent (hk : k.Closed resolve) {ref : TypeRef} {t : TypeChecker} (h : (Point.rule n ctx path (.reference ref) v).Inside k)
    (ht : resolve ref = some t) : k.types t := by
  refine hk.behind (h.2.2 _ ?_) ht
  rw [Rule.references]
  exact List.mem_singleton_self _

theorem inPlace (hk : k.Closed resolve) {t : TypeChecker} (h : (Point.rule n ctx path (.inlineType t) v).Inside k) : k.types t := by
  obtain ⟨c, hc, hmem⟩ := h.2.1
  exact hk.inside hc hmem (Rule.every_inlineType.1 h.1)

end Point.Inside

/-- A call stays inside of a closed territory. -/
theorem Call.inside (hk : k.Closed resolve) (h : Call resolve b p r q s) (hp : p.Inside k) : q.Inside k := by
  cases h with
  | field _ hproperties _ _ => exact .field hk hp (hproperties ▸ List.mem_append_cons_self)
  | rule _ _ hrules _ => exact hp.rule (hrules ▸ List.mem_append_cons_self)
  | included _ _ hsplit _ => exact hp.included (hsplit ▸ List.mem_append_cons_self)
  | excluded _ _ hsplit _ => exact hp.excluded (hsplit ▸ List.mem_append_cons_self)
  | reference hresolve _ => exact hp.referent hk hresolve
  | inlineType => exact hp.inPlace hk

/-- A run from inside of a closed territory stays inside. -/
theorem Reached.inside (hk : k.Closed resolve) (hp : p.Inside k) (h : Reached resolve p r b q s) : q.Inside k := by
  induction h with
  | start => exact hp
  | call _ hcall ih => exact hcall.inside hk ih

end Types

/-! ## The store -/

section Stores

variable {resolve : Resolver} {start : Point} {first : Run}

/-- Where it is decided early, a value counts as itself or as what it is converted to. -/
theorem PropertyChecker.early_converted {c : PropertyChecker} {convert present : Bool} {path : Path} {σ : Store} {v w : Value}
    {found : Findings} (h : c.early convert path present σ v = .ok (.done found w)) :
    w = v ∨ c.kind.convert convert σ v = .ok (some w) := by
  unfold early at h
  split at h
  · cases h
    exact .inl rfl
  split at h
  · cases h
    exact .inl rfl
  cases hk : c.kind.convert convert σ v with
  | error e =>
      rw [hk] at h
      cases h
  | ok counted =>
      rw [hk] at h
      simp only [bind, Except.bind] at h
      split at h
      · cases h
      split at h
      · cases h
        cases counted with
        | none => exact .inl rfl
        | some w => exact .inr rfl
      split at h
      · split at h <;> cases h
        exact .inl rfl
      split at h
      · split at h <;> cases h
        exact .inl rfl
      split at h
      · cases h
        exact .inl rfl
      · split at h <;> cases h
        exact .inl rfl

/-- A property counts its value as itself or as what it is converted to. -/
theorem PropertyChecker.collect_converts {c : PropertyChecker} {f : Follow} {ctx : Context} {path : Path} {present : Bool}
    {parent : Option Value} {v x : Value} {found : Findings} {r s : Run}
    (h : (c.collect f ctx path present parent v).ending r = (.ok (found, x), s)) :
    x = v ∨ c.kind.convert ctx.convert r.store v = .ok (some x) := by
  rw [PropertyChecker.collect_eq, Check.ending_bind_ok (Check.ending_store r)] at h
  obtain ⟨early, r', hearly, h⟩ := Check.ending_bind_eq_ok h
  rw [Check.ending_ofExcept] at hearly
  replace hearly := (Prod.mk.inj hearly).1
  cases early with
  | done found w =>
      cases h
      exact PropertyChecker.early_converted hearly
  | goOn w =>
      rw [Check.ending_bind_ok (Check.ending_store r')] at h
      obtain ⟨peers, _, _, h⟩ := Check.ending_bind_eq_ok h
      obtain ⟨others, _, _, h⟩ := Check.ending_bind_eq_ok h
      cases h
      exact .inr (PropertyChecker.early_goOn hearly)

/-- The store only shrinks. -/
def Account.within (σ : Store) : Account := fun _ r _ s => r.store.Within σ → s.store.Within σ

theorem Account.within_lawful (σ : Store) : (Account.within σ).Lawful resolve start first where
  refl h := h
  append h h' hr := h' (h hr)
  forget h := h
  plain h _ := h
  strip _ _ hread hr := hr.strip hread _
  save {_ _ _ _ _ _ _ name c w s s' x es current} _ _ _ _ _ hw hends htold hread _ _ hr := by
    refine (htold hr).save hread name ?_
    have hcounts : x = w ∨ x.Counted := (PropertyChecker.collect_converts hends).elim .inl Kind.convert_eq
    rcases hcounts with rfl | hx
    · obtain ⟨fs, hfs, hget⟩ := Option.bind_eq_some_iff.1 hw
      exact hr.entry hfs hget
    · exact .inl hx
  meet _ _ hr := hr
  leave _ _ hr := hr

theorem Reached.within {σ : Store} (hfirst : first.store.Within σ) {b : Bool} {p : Point} {r : Run}
    (h : Reached resolve start first b p r) : r.store.Within σ :=
  (Account.within_lawful σ).upTo h hfirst

/-- The store stays as it is. -/
def Account.still : Account := fun _ r _ s => s.store = r.store

/-- Without a type that strips keys or saves conversions at a container the store stays as it is. -/
theorem Account.still_lawful
    (h : ∀ {b n ctx path u a r}, Reached resolve start first b (.type n ctx path u (.container a)) r →
      u.leniency.stripExtraKeys = false ∧ u.leniency.saveConversions = false) :
    Account.still.Lawful resolve start first where
  refl := rfl
  append h h' := h'.trans h
  forget h := h
  plain h _ := h
  strip hp hstrip _ := by
    rw [(h hp).1] at hstrip
    cases hstrip
  save hp _ hsave _ _ _ _ _ _ _ _ := by
    rw [(h hp).2] at hsave
    cases hsave
  meet _ _ := rfl
  leave _ _ := rfl

/-- What is checked where the store stays as it is leaves it so, also if a fault ends it. -/
theorem Account.still_check {p : Point} {r : Run} (h : Account.still.Lawful resolve p r) :
    ((p.check resolve).ending r).2.store = r.store := by
  have htold := h.sound .start
  rcases hends : (p.check resolve).ending r with ⟨e | x, s⟩
  all_goals
    rw [hends] at htold
    exact htold

/-- A type neither strips keys nor saves conversions. -/
def TypeChecker.Keeps (t : TypeChecker) : Prop := t.leniency.stripExtraKeys = false ∧ t.leniency.saveConversions = false

/-- All that leads only to types that neither strip nor save. -/
def Territory.keeping (resolve : Resolver) : Territory where
  types u := ∀ w, u.Reaches resolve w → w.Keeps
  checkers c := ∀ u, .inlineType u ∈ c.rules → ∀ w, u.Reaches resolve w → w.Keeps
  references ref := ∀ u, resolve ref = some u → ∀ w, u.Reaches resolve w → w.Keeps

theorem Territory.keeping_closed (resolve : Resolver) : (Territory.keeping resolve).Closed resolve where
  every hu _ hc _ hw _ hreached := hu _ ((TypeChecker.Reaches.refl.inside hc hw).trans hreached)
  names hu _ href _ hw _ hreached := hu _ ((TypeChecker.Reaches.refl.named href hw).trans hreached)
  inside hc hu _ := hc _ hu
  behind href hu := href _ hu

/-- From a point inside of such a territory the store stays as it is. -/
theorem Point.check_store {p : Point} {r : Run} (hp : p.Inside (Territory.keeping resolve)) :
    ((p.check resolve).ending r).2.store = r.store :=
  Account.still_check (Account.still_lawful fun hreached => hreached.inside (Territory.keeping_closed resolve) hp _ .refl)

end Stores

/-! ## Values -/

section Values

variable {resolve : Resolver} {k : Territory} {σ : Store} {root : Value}

/-- The value of a point is below another one, and references are met at mappings. -/
def Point.LiesBelow (σ : Store) (root : Value) : Point → Prop
  | .rule _ _ _ (.reference _) v => Below σ root v ∧ σ.isMapping v = true
  | p => Below σ root p.value

theorem Point.LiesBelow.below {p : Point} (h : p.LiesBelow σ root) : Below σ root p.value := by
  unfold Point.LiesBelow at h
  split at h
  · exact h.1
  · exact h

theorem Below.tail {v w : Value} (h : Below σ root v) (hvw : σ.Leads v w) : Below σ root w := by
  rcases h with h | h
  · cases v with
    | scalar a => exact absurd hvw.contains Store.not_contains_scalar
    | container a => cases h
  · exact .inr (h.tail hvw)

/-- What stands under a text in a mapping that only shrank, or the value for a missing one. -/
theorem Store.Within.below_under {ρ : Store} (h : ρ.Within σ) {v : Value} (hv : Below σ root v) (name : String) :
    Below σ root ((ρ.under? v name).getD default) := by
  cases hunder : ρ.under? v name with
  | none => exact .inl .null
  | some w =>
      obtain ⟨es, hes, hget⟩ := Option.bind_eq_some_iff.1 hunder
      exact (h.entry hes hget).elim .inl hv.tail

theorem Store.Within.below_item {ρ : Store} (h : ρ.Within σ) {v item : Value} (hv : Below σ root v)
    (hitem : item ∈ (ρ.items? v).getD []) : Below σ root item := by
  cases hitems : ρ.items? v with
  | none =>
      rw [hitems] at hitem
      cases hitem
  | some items =>
      rw [hitems] at hitem
      exact hv.tail (h.item hitems hitem)

/-- A call goes down among the values, and to a reference at a mapping only. -/
theorem Call.liesBelow (hk : ∀ c, k.checkers c → c.FollowsObjects) {b : Bool} {p q : Point} {r s : Run}
    (h : Call resolve b p r q s) (hp : p.LiesBelow σ root) (hinside : p.Inside k) (hr : r.store.Within σ)
    (hs : s.store.Within σ) : q.LiesBelow σ root := by
  cases h with
  | field => exact hs.below_under hp.below _
  | @rule _ ctx path present _ c v w before after x _ _ _ _ hearly _ hrules _ =>
      have hconvert := PropertyChecker.early_goOn hearly
      have hw : Below σ root w := (Kind.convert_eq hconvert).elim (fun h => h ▸ hp.below) .inl
      cases x with
      | reference ref =>
          have hkind := hk c (PropertyChecker.every_iff.1 hinside.1).1 ref (hrules ▸ List.mem_append_cons_self)
          rw [hkind] at hconvert
          obtain ⟨rfl, hmapping⟩ := Kind.convert_object hconvert
          exact ⟨hw, hr.isMapping_eq w ▸ hmapping⟩
      | _ => exact hw
  | included hitems => exact hr.below_item hp.below (hitems ▸ List.mem_append_cons_self)
  | excluded hitems => exact hr.below_item hp.below (hitems ▸ List.mem_append_cons_self)
  | reference => exact hp.below
  | inlineType => exact hp.below

/-- A run from below a value stays below it, and meets references at mappings only. -/
theorem Reached.liesBelow {start : Point} {first : Run} (hclosed : k.Closed resolve)
    (hk : ∀ c, k.checkers c → c.FollowsObjects) (hstart : start.LiesBelow σ root) (hinside : start.Inside k)
    (hfirst : first.store.Within σ) {b : Bool} {p : Point} {r : Run} (h : Reached resolve start first b p r) :
    p.LiesBelow σ root := by
  induction h with
  | start => exact hstart
  | call hq hcall ih => exact hcall.liesBelow hk ih (hq.inside hclosed hinside) (hq.within hfirst) ((hq.call hcall).within hfirst)

end Values

end ShapeCheck
