import ShapeCheck.Proofs.Knots
import ShapeCheck.Proofs.Standard

/-!
# What ends a run in a fault

A run of a type that is built with the standard capabilities can end in a fault for a few causes alone. Some are in the
candidate: a number that no double is near, a key that cannot be written, and a mapping inside of itself, from which a type
takes a key that another one is about to save a conversion under. One is in the types: a constant that cannot be written. And
one is in both: a constant and a part of the candidate that both contain themselves, and are compared without an end. `Escape`
lists them, and `ObjectType.validate_escape` says that the list is complete.
-/

namespace ShapeCheck

open Relation

/-! ## Causes -/

/-- A number, or a text that denotes one, that no double is near. -/
def Scalar.Oversized : Scalar → Prop
  | .number n => n.isFinite? = none
  | .text s => ∃ n, Number.ofText? s = some n ∧ n.isFinite? = none
  | _ => False

/-- A checker whose own constants can end a run in a fault. -/
inductive PropertyChecker.Loud (c : PropertyChecker) : Fault → Prop
  | denied {d e : Datum} (constant : d ∈ c.denied) (same : d.same e = true) (long : e.isTooLong = true) :
    c.Loud .integerTooLong
  | valid (only : c.onlyValid = true) (long : (Datum.list c.allowed).isTooLong = true) : c.Loud .integerTooLong

/-- The leniency of a type, or of a type given in place inside of it. -/
inductive TypeChecker.Uses (t : TypeChecker) : Leniency → Prop
  | own : t.Uses t.leniency
  | inside {c : PropertyChecker} {u : TypeChecker} (checker : c ∈ PropertyChecker.checkersOfFields t.properties)
    (rule : .inlineType u ∈ c.rules) : t.Uses u.leniency

/-- Some of the types at hand have a checker that can end a run in a fault. -/
def AnyLoud (types : TypeChecker → Prop) (e : Fault) : Prop :=
  ∃ t, types t ∧ ∃ c ∈ PropertyChecker.checkersOfFields t.properties, c.Loud e

/-- Some of the types at hand have an allowed or denied constant that contains itself. -/
def AnyKnotted (types : TypeChecker → Prop) : Prop :=
  ∃ t, types t ∧ ∃ c ∈ PropertyChecker.checkersOfFields t.properties, ∃ d ∈ c.allowed ++ c.denied, d.isKnotted = true

/-- One type at hand saves conversions, and one strips keys. -/
def SavesAndStrips (types : TypeChecker → Prop) : Prop :=
  (∃ t l, types t ∧ t.Uses l ∧ l.saveConversions = true) ∧ ∃ t l, types t ∧ t.Uses l ∧ l.stripExtraKeys = true

/-- Why a run on a candidate may end in a fault. -/
inductive Escape (types : TypeChecker → Prop) (σ : Store) (v : Value) : Fault → Prop
  | oversized {a : Scalar} (reached : ReflTransGen σ.Leads v (.scalar a)) (large : a.Oversized) :
    Escape types σ v .integerTooLarge
  | longKey {w : Value} {es : List (Key × Value)} {e : Key × Value} (reached : ReflTransGen σ.Leads v w)
    (entries : σ.entries? w = some es) (entry : e ∈ es) (long : e.1.isTooLong = true) : Escape types σ v .integerTooLong
  | loud {e : Fault} (checker : AnyLoud types e) : Escape types σ v e
  | lostKey {a : Address} {name : String} (reached : ReflTransGen σ.Leads v (.container a))
    (inside : TransGen σ.Leads (.container a) (.container a)) (flags : SavesAndStrips types) :
    Escape types σ v (.missingKey name)
  | endless (constants : AnyKnotted types) (inside : ¬ σ.Acyclic v) : Escape types σ v .endless

/-! ## Faults of single steps -/

theorem Datum.written_eq_error {write : Datum → String} {d : Datum} {e : Fault} (h : d.written write = .error e) :
    e = .integerTooLong ∧ d.isTooLong = true := by
  unfold Datum.written at h
  split at h
  · next hlong =>
    cases h
    exact ⟨rfl, hlong⟩
  · cases h

theorem finite?_eq_error {n : Number} {e : Fault} (h : finite? n = .error e) :
    e = .integerTooLarge ∧ n.isFinite? = none := by
  unfold finite? at h
  split at h
  · next hn =>
    cases h
    exact ⟨rfl, hn⟩
  · cases h
  · cases h

/-- A value is found to be of no kind at all if it is a number that no double is near. -/
theorem Kind.convert_error {k : Kind} {convert : Bool} {σ : Store} {v : Value} {e : Fault}
    (h : k.convert convert σ v = .error e) : e = .integerTooLarge ∧ ∃ a, v = .scalar a ∧ a.Oversized := by
  unfold Kind.convert at h
  split at h
  · split at h <;> cases h
  · split at h
    · next n =>
      obtain ⟨rfl, hn⟩ := finite?_eq_error h
      exact ⟨rfl, _, rfl, hn⟩
    · next s =>
      split at h
      · split at h
        · next n hs =>
          obtain ⟨rfl, hn⟩ := finite?_eq_error h
          exact ⟨rfl, _, rfl, n, hs, hn⟩
        · cases h
      · cases h
    · cases h
  · split at h <;> cases h
  · cases h
  · cases h
  · split at h <;> cases h
  · cases h

/-- Only a text counts as something else. -/
theorem Kind.convert_text {k : Kind} {convert : Bool} {σ : Store} {v w : Value}
    (h : k.convert convert σ v = .ok (some w)) : w = v ∨ ∃ s, v = .scalar (.text s) := by
  unfold Kind.convert at h
  split at h
  · split at h <;> cases h
    exact .inl rfl
  · split at h
    · exact .inl (finite?_eq h).1
    · exact .inr ⟨_, rfl⟩
    · cases h
  · split at h
    · cases h
      exact .inl rfl
    · exact .inr ⟨_, rfl⟩
    · cases h
  · cases hi : σ.items? v <;> rw [hi] at h <;> cases h
    exact .inl rfl
  · cases he : σ.entries? v <;> rw [he] at h <;> cases h
    exact .inl rfl
  · split at h <;> cases h
    exact .inl rfl
  · cases h
    exact .inl rfl

theorem Store.exists_of_isAmong {σ : Store} {data : List Datum} {v : Value} (h : σ.isAmong data v = true) :
    ∃ d ∈ data, d.same (σ.datum v) = true := by
  unfold Store.isAmong at h
  obtain ⟨d, hd, hsame⟩ := List.any_eq_true.1 h
  rw [Bool.and_eq_true] at hsame
  exact ⟨d, hd, hsame.2⟩

namespace PropertyChecker

variable {c : PropertyChecker} {path : Path} {σ : Store} {v : Value} {e : Fault}

/-- A value that is denied and cannot be written is one of a loud checker. -/
theorem loud_of_denied {counted : Option Value} {convert : Bool} (hk : c.kind.convert convert σ v = .ok counted)
    (hdenied : (readings v (counted.getD v)).any (σ.isAmong c.denied) = true) (hlong : (σ.datum v).isTooLong = true) :
    c.Loud .integerTooLong := by
  have hsame : counted.getD v = v := by
    cases counted with
    | none => rfl
    | some w =>
        rcases Kind.convert_text hk with h | ⟨s, rfl⟩
        · exact h
        · rw [Store.datum_scalar] at hlong
          cases hlong
  unfold readings at hdenied
  rw [if_pos hsame] at hdenied
  have hamong : σ.isAmong c.denied v = true := by simpa using hdenied
  obtain ⟨d, hd, hds⟩ := Store.exists_of_isAmong hamong
  exact .denied hd hds hlong

/-- What is decided early ends in a fault only for a number that no double is near, in a loud checker, or where the value and
a constant contain themselves. -/
theorem early_error {convert present : Bool} (h : c.early convert path present σ v = .error e) :
    (e = .integerTooLarge ∧ ∃ a, v = .scalar a ∧ a.Oversized) ∨ c.Loud e ∨
      e = .endless ∧ (∃ d ∈ c.allowed ++ c.denied, d.isKnotted = true) ∧ ¬ σ.Acyclic v := by
  unfold early at h
  split at h
  · cases h
  split at h
  · cases h
  cases hk : c.kind.convert convert σ v with
  | error e' =>
      rw [hk] at h
      cases h
      exact .inl (Kind.convert_error hk)
  | ok counted =>
      rw [hk] at h
      simp only [bind, Except.bind] at h
      split at h
      · next hon =>
        cases h
        refine .inr (.inr ⟨rfl, (comparesOn_eq_true hon).1, fun hacyclic => ?_⟩)
        rw [hacyclic.comparesOn] at hon
        cases hon
      split at h
      · cases h
      split at h
      · next hdenied =>
        split at h
        · next e' hw =>
          cases h
          obtain ⟨rfl, hlong⟩ := Datum.written_eq_error hw
          exact .inr (.inl (loud_of_denied hk hdenied hlong))
        · cases h
      split at h
      · next honly =>
        split at h
        · next e' hw =>
          cases h
          obtain ⟨rfl, hlong⟩ := Datum.written_eq_error hw
          exact .inr (.inl (.valid honly hlong))
        · cases h
      split at h
      · cases h
      · split at h <;> cases h

end PropertyChecker

/-- Texts are looked for in a mapping without a fault. -/
theorem peersShown_text {σ : Store} {parent : Value} {es : List (Key × Value)} (h : σ.entries? parent = some es)
    (standing : Bool) {peers : List Datum} (hpeers : ∀ d ∈ peers, ∃ s, d = .scalar (.text s)) :
    ∃ shown, peersShown σ parent standing peers = .ok shown := by
  induction peers with
  | nil => exact ⟨[], rfl⟩
  | cons d rest ih =>
      obtain ⟨s, rfl⟩ := hpeers d (List.mem_cons_self ..)
      obtain ⟨others, hothers⟩ := ih fun e he => hpeers e (List.mem_cons_of_mem _ he)
      have hholds : σ.holds parent (.scalar (.text s)) = .ok (Entries.find? (.text s) es).isSome := by
        unfold Store.holds
        rw [h]
        rfl
      unfold peersShown
      rw [hholds, hothers]
      simp only [bind, Except.bind]
      split
      · exact ⟨_, rfl⟩
      · exact ⟨_, rfl⟩

theorem peerFindings_text {σ : Store} {c : PropertyChecker} (hc : c.Standard) {parent : Option Value}
    (hp : ∀ p ∈ parent, σ.isMapping p = true) (path : Path) (v : Value) : ∃ found, peerFindings c path σ parent v = .ok found := by
  unfold peerFindings
  cases parent with
  | none => exact ⟨_, rfl⟩
  | some p =>
      obtain ⟨es, hes⟩ := Option.isSome_iff_exists.1 (hp p rfl)
      obtain ⟨absent, habsent⟩ := peersShown_text hes false hc.peersWith
      obtain ⟨present, hpresent⟩ := peersShown_text hes true hc.peersWithout
      dsimp only
      rw [habsent, hpresent]
      exact ⟨_, rfl⟩

theorem limitAtMost_number (m n : Number) : limitAtMost (.scalar (.number m)) n = .ok (m.atMost n) := rfl

theorem atMostLimit_number (m n : Number) : atMostLimit n (.scalar (.number m)) = .ok (n.atMost m) := rfl

theorem LengthBound.allows_number (b : LengthBound) (m : Number) (n : Nat) :
    ∃ allowed, b.allows (.scalar (.number m)) n = .ok allowed := by
  cases b with
  | atLeast => exact ⟨_, limitAtMost_number m _⟩
  | atMost => exact ⟨_, atMostLimit_number m _⟩
  | exactly => exact ⟨_, rfl⟩

/-! ## Faults of runs -/

section Runs

variable {σ : Store} {root : Value} {resolve : Resolver} {types : TypeChecker → Prop}

/-- A checker of the types at hand. -/
structure PropertyChecker.AtHand (types : TypeChecker → Prop) (c : PropertyChecker) : Prop where
  standard : c.Standard
  loud : ∀ e, c.Loud e → AnyLoud types e
  knotted : ∀ d ∈ c.allowed ++ c.denied, d.isKnotted = true → AnyKnotted types
  inlineType : ∀ t, .inlineType t ∈ c.rules → ∃ u, types u ∧ u.Uses t.leniency

/-- A leniency of the types at hand. -/
def Leniency.AtHand (types : TypeChecker → Prop) (l : Leniency) : Prop := ∃ t, types t ∧ t.Uses l

theorem placed_atHand : Placed (PropertyChecker.AtHand types) (Leniency.AtHand types) where
  followsObjects _ hc := hc.standard.followsObjects
  inlineType hc ht := hc.inlineType _ ht

theorem TypeChecker.known_atHand {t : TypeChecker} (ht : t.Every PropertyChecker.Standard) (htypes : types t) :
    t.Known (PropertyChecker.AtHand types) (Leniency.AtHand types) where
  every c hc := ⟨ht c hc, fun _ he => ⟨t, htypes, c, hc, he⟩, fun d hd hknotted => ⟨t, htypes, c, hc, d, hd, hknotted⟩,
    fun _ hu => ⟨t, htypes, .inside hc hu⟩⟩
  leniency := ⟨t, htypes, .own⟩

/-- A key is gone after its value was checked only where the value holds the mapping, and a type strips keys. -/
theorem PropertyChecker.collect_lost_key
    (hresolve : ∀ ref t, resolve ref = some t → t.Known (PropertyChecker.AtHand types) (Leniency.AtHand types))
    {c : PropertyChecker} (hc : c.Every (PropertyChecker.AtHand types)) {n : Nat} {ctx : Context} {path : Path} {a : Address}
    (ha : σ.isMapping (.container a) = true) {w : Value} {r r' : Run} {x : Findings × Value}
    (hr : r.store.Within σ) {es es' : List (Key × Value)} (hes : r.store.entries? (.container a) = some es) {name : String}
    (hw : Entries.get? name es = some w)
    (h : (c.collect (follow resolve n) ctx path true (some (.container a)) w).ending r = (.ok x, r'))
    (hes' : r'.store.read? a = some (.mapping es')) (hgone : Entries.get? name es' = none) :
    TransGen σ.Leads (.container a) (.container a) ∧ ∃ l, Leniency.AtHand types l ∧ l.stripExtraKeys = true := by
  have hparent : ∀ p ∈ some (Value.container a), σ.isMapping p = true := fun p hp => Option.mem_some.1 hp ▸ ha
  have hkept : ∀ fs, r.store.read? a = some (.mapping fs) → (Entries.get? name fs).isSome = true := by
    intro fs hfs
    unfold Store.entries? Store.cell? at hes
    dsimp only at hes
    rw [hfs] at hes
    cases hes
    rw [hw]
    rfl
  refine ⟨?_, ?_⟩
  · by_contra hcycle
    have hframe : ¬ ReflTransGen σ.Leads w (.container a) := by
      intro hreach
      rcases hr.entry hes hw with hcounted | hleads
      · have hscalar := hcounted.isScalar
        rcases ReflTransGen.cases_head hreach with rfl | ⟨y, hy, _⟩
        · cases hscalar
        · cases w with
          | scalar b => exact Store.not_contains_scalar hy.contains
          | container b => cases hscalar
      · exact hcycle (TransGen.head' hleads hreach)
    have hsame := PropertyChecker.collect_frame placed_atHand hresolve hc hparent hr h hframe
    rw [hes'] at hsame
    have hsome := hkept es' hsame.symm
    rw [hgone] at hsome
    cases hsome
  · by_contra hnone
    have hstrip : ∀ l, Leniency.AtHand types l → l.stripExtraKeys = false :=
      fun l hl => Bool.eq_false_iff.2 fun htrue => hnone ⟨l, hl, htrue⟩
    have hsome := PropertyChecker.collect_keeps_key placed_atHand hresolve hstrip hc hparent hr h hkept es' hes'
    rw [hgone] at hsome
    cases hsome

/-- The faults of a run below a value, each with its cause. -/
theorem Keeping.below_escape
    (hresolve : ∀ ref t, resolve ref = some t → t.Known (PropertyChecker.AtHand types) (Leniency.AtHand types)) (n : Nat)
    (ctx : Context) :
    (Keeping.below σ root (follow resolve n) ctx (PropertyChecker.AtHand types) (Leniency.AtHand types) (fun _ => True)
      (Escape types σ root)).KnownFaults := by
  have hlimit : ∀ {c : PropertyChecker} {rule : Rule} {limit : Datum}, c.AtHand types → rule ∈ c.rules →
      rule.limit? = some limit → ∃ n, limit = .scalar (.number n) := fun hc hrule h => hc.standard.limits _ hrule _ h
  constructor
  case early_fault =>
    intro r s c convert path present v e hr hc hv h
    rcases PropertyChecker.early_error h with ⟨rfl, a, rfl, ha⟩ | hloud | ⟨rfl, ⟨d, hd, hknotted⟩, hcycle⟩
    · rcases hv with hv | hv
      · cases hv with
        | null => exact ha.elim
        | bool => exact ha.elim
        | number hfinite =>
            change _ = _ at ha
            rw [hfinite] at ha
            cases ha
      · exact .oversized hv ha
    · exact .loud (hc.loud e hloud)
    · refine .endless (hc.knotted d hd hknotted) fun hacyclic => hcycle ?_
      rcases hv with hv | hv
      · cases hv with
        | _ => exact Store.acyclic_scalar _
      · exact hr.2.1.acyclic (hacyclic.of_reaches (ReflTransGen.mono (fun _ _ => Store.Leads.contains) _ _ hv))
  case peer_fault =>
    intro r s c path parent v e hr hc hp h
    have hmapping : ∀ p ∈ parent, r.store.isMapping p = true := by
      intro p hparent
      rw [hr.2.1.isMapping_eq]
      exact hp p hparent
    obtain ⟨found, hfound⟩ := peerFindings_text hc.standard hmapping path v
    rw [hfound] at h
    cases h
  case length_fault =>
    intro r s c bound unit limit n e hr hc hrule h
    obtain ⟨m, rfl⟩ := hlimit hc hrule rfl
    obtain ⟨allowed, hallowed⟩ := bound.allows_number m n
    rw [hallowed] at h
    cases h
  case atLeast_fault =>
    intro r s c limit n e hr hc hrule h
    obtain ⟨m, rfl⟩ := hlimit hc hrule rfl
    cases h
  case atMost_fault =>
    intro r s c limit n e hr hc hrule h
    obtain ⟨m, rfl⟩ := hlimit hc hrule rfl
    cases h
  case key_fault =>
    intro r s v es e hr hv hes he hlong
    rcases hr.2.1.key hes he with ⟨name, htext⟩ | ⟨fs, hfs, hmem⟩
    · rw [htext] at hlong
      cases hlong
    · rcases hv with hv | hv
      · cases hv with
        | _ => cases hfs
      · exact .longKey hv hfs hmem hlong
  case missing_fault =>
    intro c leniency convert path es es' name a w x found r s r' s' hr ha hl hsave hc hes hw hrun _ hes' hgone
    have hmapping : σ.isMapping (.container a) = true := by
      rw [← hr.2.1.isMapping_eq]
      unfold Store.isMapping
      rw [hes]
      rfl
    obtain ⟨hcycle, l, ⟨u, hu, hul⟩, hstrip⟩ :=
      PropertyChecker.collect_lost_key hresolve hc hmapping hr.2.1 hes hw hrun hes' hgone
    obtain ⟨t, ht, htl⟩ := hl
    exact .lostKey ha.reaches hcycle ⟨⟨t, leniency, ht, htl, hsave⟩, u, l, hu, hul, hstrip⟩

end Runs

/-- A type and what a registry leads to. -/
def ObjectType.Together (t : ObjectType) (registry : TypeRef → Option ObjectType) (u : TypeChecker) : Prop :=
  u = t.checker ∨ ∃ ref w, registry ref = some w ∧ u = w.checker

/-- **Faults have a known cause.** When a run of a built type ends in a fault, its cause is in the candidate or in the types,
and the fault is the one that belongs to this cause. -/
theorem ObjectType.validate_escape {t : ObjectType} {registry : TypeRef → Option ObjectType} (ht : t.Built (· = .standard))
    (hregistry : ∀ ref u, registry ref = some u → u.Built (· = .standard)) {σ : Store} {v : Value} {maxDepth : Int} {e : Fault}
    (h : (t.checker.validate (fun ref => (registry ref).map ObjectType.checker) maxDepth v σ).result = .error e) :
    Escape (t.Together registry) σ v e := by
  have hresolve : ∀ ref u, (registry ref).map ObjectType.checker = some u →
      u.Known (PropertyChecker.AtHand (t.Together registry)) (Leniency.AtHand (t.Together registry)) := by
    intro ref u hu
    obtain ⟨w, hw, rfl⟩ := Option.map_eq_some_iff.1 hu
    exact TypeChecker.known_atHand (hregistry ref w hw).standard (.inr ⟨ref, w, hw, rfl⟩)
  have hwrite : σ.Survives v (Leniency.AtHand (t.Together registry)) fun _ => True :=
    ⟨fun _ _ _ _ _ _ => trivial, fun _ _ _ _ _ _ _ => trivial⟩
  have hlawful := Keeping.below_follow placed_atHand hresolve hwrite (Keeping.below_escape hresolve) maxDepth.toNat
    { maxDepth := maxDepth }
  unfold TypeChecker.validate at h
  rw [Outcome.ofCheck_eq] at h
  refine Ends.of_error (TypeChecker.collect_below hlawful ?_ ?_ trivial .refl) h
  · exact TypeChecker.known_atHand ht.standard (.inl rfl)
  · exact .refl σ

end ShapeCheck
