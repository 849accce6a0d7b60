import ShapeCheck.Proofs.Calls
import ShapeCheck.Proofs.Compiled
import ShapeCheck.Proofs.Gates

/-!
# Denied values

A value that was last mentioned as not allowed is looked at only after two other gates. Null is asked for before any value is
compared, and a value passes if one of its readings is allowed, which comes before the denied values. So it is refused unless
the property takes null, or the text that it is stands for a value that is allowed, `Demand.Spares`. This is what
`PropertyDef.denied_refused` says for every property, and that both exceptions are real says `Demand.spared_accepted`.
-/

namespace ShapeCheck

open PropertyChecker

/-- What becomes of a property before its inline type is added comes from its constraints, with any capabilities. -/
theorem PropertyDef.Compiles.meets {legal : Capabilities → Prop} {p : PropertyDef} {c : PropertyChecker}
    (h : p.Compiles legal c) : ∃ caps own, p.demand.Meets caps { c with rules := own } := by
  obtain ⟨description, kindName, constraints, inlineTypes⟩ := p
  have hmeets : ∀ {caps : Capabilities} {types : Option (List TypeChecker)},
      caps.compileProperty kindName constraints types = .ok c →
        ∃ own, (PropertyDef.demand ⟨description, kindName, constraints, inlineTypes⟩).Meets caps { c with rules := own } := by
    intro caps types hcompile
    obtain ⟨kind, b, hkind, hcs, hrest⟩ := Capabilities.compileProperty_eq_ok hcompile
    have hb : (PropertyDef.demand ⟨description, kindName, constraints, inlineTypes⟩).Meets caps b :=
      Demand.Meets.compile (Capabilities.kindNamed_eq_ok hkind) hcs
    refine ⟨b.rules, ?_⟩
    rcases hrest with ⟨_, rfl⟩ | ⟨_, _, _, _, rfl⟩
    · cases c
      exact hb
    · cases b
      exact hb
  cases inlineTypes with
  | none =>
      rw [PropertyDef.Compiles] at h
      obtain ⟨caps, _, hcompile⟩ := h
      exact ⟨caps, hmeets hcompile⟩
  | some types =>
      rw [PropertyDef.Compiles] at h
      obtain ⟨caps, _, _, _, hcompile⟩ := h
      exact ⟨caps, hmeets hcompile⟩

/-! ## What spares a value -/

/-- What spares a value that was last mentioned as not allowed: it is null and null is fine, or it is a text that stands for
an allowed value. -/
def Demand.Spares (q : Demand) (convert : Bool) (d : Datum) : Prop :=
  d = .null ∧ q.Asks .nullOk ∨
    convert = true ∧ ∃ k x, q.kind? = some k ∧ k.conversion? d = some x ∧ q.lastMention x = some true

namespace Demand

variable {q : Demand} {convert : Bool} {d : Datum}

/-- Nothing stands for null, and null stands for nothing. -/
theorem spares_null_iff : q.Spares convert .null ↔ q.Asks .nullOk := by
  refine ⟨fun h => ?_, fun h => .inl ⟨rfl, h⟩⟩
  rcases h with ⟨_, h⟩ | ⟨_, k, x, _, hx, _⟩
  · exact h
  · cases k <;> cases hx

/-- A value other than null is spared if one of its candidates is allowed, which it is not itself. -/
theorem spares_iff (hd : d ≠ .null) (hlast : q.lastMention d ≠ some true) :
    q.Spares convert d ↔ ∃ x ∈ q.candidates convert d, q.lastMention x = some true := by
  unfold Spares candidates
  constructor
  · rintro (⟨hnull, _⟩ | ⟨rfl, k, x, hk, hx, hmention⟩)
    · exact absurd hnull hd
    · refine ⟨x, ?_, hmention⟩
      simp [hk, Kind.candidates, hx]
  · rintro ⟨x, hx, hmention⟩
    cases hk : q.kind? with
    | none => simp [hk] at hx
    | some k =>
        rw [hk] at hx
        rcases List.mem_cons.1 hx with rfl | hx
        · exact absurd hmention hlast
        · cases convert with
          | false => cases hx
          | true => exact .inr ⟨rfl, k, x, rfl, by simpa using hx, hmention⟩

end Demand

/-! ## What is decided about a denied value -/

section Early

variable {σ : Store} {described : Descriptions} {caps : Capabilities} {q : Demand} {c : PropertyChecker} {own : List Rule}
  {v : Value}

/-- What is decided about a denied value, if anything is: it passes exactly if it is spared, and there is a fault only for a
number that is too large to be one, and for a value that no message can show. -/
inductive Early.Denies (σ : Store) (q : Demand) (convert : Bool) (v : Value) : Except Fault Early → Prop
  | fault {e : Fault} (why : (q.kind? = some .number ∧ ∃ a, v = .scalar a ∧ a.Oversized) ∨ (σ.datum v).isTooLong = true) :
    Early.Denies σ q convert v (.error e)
  | done {found : Findings} {w : Value} (verdict : found = [] ↔ q.Spares convert (σ.datum v)) :
    Early.Denies σ q convert v (.ok (.done found w))

/-- Only a number can be too large for its kind. -/
theorem Kind.convert_error_number {k : Kind} {convert : Bool} {e : Fault} (h : k.convert convert σ v = .error e) :
    k = .number := by
  cases k with
  | number => rfl
  | string | boolean | function =>
      simp only [Kind.convert] at h
      split at h <;> cases h
  | array | object | any => cases h

variable (hq : q.Meets caps { c with rules := own }) (hmentions : ∀ m ∈ q.mentions, m.1.Proper described)

include hq hmentions

/-- The gates of null and of the allowed values are the only ones that a denied value can pass. -/
theorem Early.denies (convert : Bool) (path : Path) (hv : σ.IsTree v) (hd : (σ.datum v).Proper described)
    (hlast : q.lastMention (σ.datum v) = some false) : Early.Denies σ q convert v (c.early convert path true σ v) := by
  have hkind : q.kind? = some c.kind := hq.kind
  have hnot : q.lastMention (σ.datum v) ≠ some true := fun h => Bool.false_ne_true (Option.some.inj (hlast.symm.trans h))
  unfold early
  rw [if_neg (by decide)]
  by_cases hnull : v = .scalar .null
  · subst hnull
    have hnone : holds c.allowed .null = false := Bool.eq_false_iff.2 fun h => hnot ((hq.holds_allowed hmentions hd).1 h)
    have hok : c.nullOk = true ↔ q.Asks .nullOk := hq.nullOk
    rw [if_pos rfl, hnone, Bool.or_false]
    refine .done ?_
    change _ ↔ q.Spares convert .null
    rw [Demand.spares_null_iff, ← hok]
    cases c.nullOk <;> simp
  · rw [if_neg hnull]
    cases hconvert : c.kind.convert convert σ v with
    | error e =>
        have hnumber := Kind.convert_error_number hconvert
        exact .fault (.inl ⟨hnumber ▸ hkind, (Kind.convert_error hconvert).2⟩)
    | ok counted =>
        obtain ⟨_, hcounted⟩ := Kind.exists_converts c.kind convert hv fun e he => nomatch hconvert.symm.trans he
        obtain rfl := Except.ok.inj (hconvert.symm.trans hcounted.result)
        have hne : σ.datum v ≠ .null := fun h => hnull (hv.isNull_iff.1 (by rw [h]; rfl))
        have hspares : q.Spares convert (σ.datum v) ↔ _ := Demand.spares_iff hne hnot
        have hallow := readings_any_iff hq hv hd hcounted fun x hx => hq.holds_allowed hmentions hx
        have hdeny := readings_any_iff hq hv hd hcounted fun x hx => hq.holds_denied hmentions hx
        simp only [bind, Except.bind]
        rw [hv.acyclic.comparesOn, if_neg Bool.false_ne_true]
        by_cases hallowed : (readings v (counted.getD v)).any (σ.isAmong c.allowed) = true
        · rw [if_pos hallowed]
          exact .done (iff_of_true rfl (hspares.2 (hallow.1 hallowed)))
        · have hcandidate : σ.datum v ∈ q.candidates convert (σ.datum v) := by
            simp [Demand.candidates, hkind, Kind.candidates]
          rw [if_neg hallowed, if_pos (hdeny.2 ⟨_, hcandidate, hlast⟩)]
          unfold Datum.written
          by_cases hlong : (σ.datum v).isTooLong = true
          · rw [if_pos hlong]
            exact .fault (.inr hlong)
          · rw [if_neg hlong]
            exact .done (iff_of_false (List.cons_ne_nil _ _) fun h => hallowed (hallow.2 (hspares.1 h)))

end Early

/-- **A denied value is refused, unless null or what it stands for is fine.** Take any property that compiles, any mix and
order of its constraints and any type in place, and a value that the last constraint to mention it denies. In both modes of
conversion, at every place, for every mapping around it and every way to follow references, what is found about the value is
nothing exactly if it is null and the property takes null, or if it is a text and what it stands for was last mentioned as
allowed. The check comes to a result, and changes nothing, unless the value is out of the range of numbers where one is
wanted or has an integer in it that no message can show. -/
theorem PropertyDef.denied_refused {legal : Capabilities → Prop} {p : PropertyDef} {c : PropertyChecker}
    (hc : p.Compiles legal c) {described : Descriptions} (hmentions : ∀ m ∈ p.demand.mentions, m.1.Proper described)
    {r : Run} {v : Value} (hv : r.store.IsTree v) (hd : (r.store.datum v).Proper described)
    (hlast : p.demand.lastMention (r.store.datum v) = some false) (follow : Follow) (ctx : Context) (path : Path)
    (parent : Option Value) :
    let collected := (c.collect follow ctx path true parent v).ending r
    (∀ found w, collected.1 = .ok (found, w) → (found = [] ↔ p.demand.Spares ctx.convert (r.store.datum v))) ∧
      collected.2 = r ∧
      ((p.demand.kind? = some .number → ∀ a, v = .scalar a → ¬ a.Oversized) → (r.store.datum v).isTooLong = false →
        ∃ found w, collected.1 = .ok (found, w)) := by
  intro collected
  obtain ⟨caps, own, hq⟩ := hc.meets
  have hdenies := Early.denies hq hmentions ctx.convert path hv hd hlast
  have hcollected : collected = (c.collect follow ctx path true parent v).ending r := rfl
  rw [collect_eq, Check.ending_bind_ok (Check.ending_store r)] at hcollected
  generalize c.early ctx.convert path true r.store v = early at hdenies hcollected
  cases hdenies with
  | fault why =>
      rw [Check.ending_bind_error (Check.ending_ofExcept _ r)] at hcollected
      rw [hcollected]
      refine ⟨nofun, rfl, fun hrange hshort => ?_⟩
      rcases why with ⟨hnumber, a, ha, hlarge⟩ | hlong
      · exact absurd hlarge (hrange hnumber a ha)
      · rw [hshort] at hlong
        cases hlong
  | @done found w verdict =>
      rw [Check.ending_bind_ok (Check.ending_ofExcept _ r)] at hcollected
      rw [hcollected]
      refine ⟨fun found' w' h => ?_, rfl, fun _ _ => ⟨found, w, rfl⟩⟩
      cases h
      exact verdict

/-! Null that is fine and then denied, and five that is allowed before its text is denied. -/

def nullProperty : PropertyDef := ⟨none, "Any", [⟨"nullOk", []⟩, ⟨"deny", [.null]⟩], none⟩

def nullChecker : PropertyChecker := { PropertyChecker.ofKind .any with nullOk := true, denied := [.null] }

def fiveProperty : PropertyDef := ⟨none, "Number", [⟨"allow", [.int 5]⟩, ⟨"deny", [.text "5", .text "6"]⟩], none⟩

def fiveChecker : PropertyChecker :=
  { PropertyChecker.ofKind .number with allowed := [.int 5], denied := [.text "5", .text "6"] }

theorem nullProperty_compiles : nullProperty.Compiles (· = .standard) nullChecker := by
  unfold nullProperty
  rw [PropertyDef.Compiles]
  exact ⟨_, rfl, rfl⟩

theorem fiveProperty_compiles : fiveProperty.Compiles (· = .standard) fiveChecker := by
  unfold fiveProperty
  rw [PropertyDef.Compiles]
  exact ⟨_, rfl, by with_unfolding_all rfl⟩

theorem fiveProperty_denied :
    fiveProperty.Compiles (· = .standard) fiveChecker ∧ fiveProperty.demand.lastMention (.text "6") = some false ∧
      ∃ found w, ((fiveChecker.collect (follow (fun _ => none) 64) ⟨64, true, 0, []⟩ {} true none (.scalar (.text "6"))).ending
        { store := ⟨#[]⟩ }).1 = .ok (found, w) ∧ found ≠ [] := by
  have hlast : fiveProperty.demand.lastMention (.text "6") = some false := by decide +kernel
  have hspares : ¬ fiveProperty.demand.Spares true (.text "6") := by
    have hne : Datum.text "6" ≠ .null := by simp [Datum.text, Datum.null]
    rw [Demand.spares_iff hne (by rw [hlast]; decide)]
    decide +kernel
  have hmentions : ∀ m ∈ fiveProperty.demand.mentions, m.1.Proper fun _ => none := by
    have heq : fiveProperty.demand.mentions = [(.int 5, true), (.text "5", false), (.text "6", false)] := by rfl
    simp only [heq, List.forall_mem_cons]
    exact ⟨Datum.proper_scalar _, Datum.proper_scalar _, Datum.proper_scalar _, nofun⟩
  obtain ⟨hverdict, _, hanswers⟩ := PropertyDef.denied_refused fiveProperty_compiles hmentions
    (r := { store := ⟨#[]⟩ }) (.scalar (.text "6")) (Datum.proper_scalar _) hlast (follow (fun _ => none) 64) ⟨64, true, 0, []⟩ {} none
  have hrange : ∀ a : Scalar, Value.scalar (.text "6") = .scalar a → ¬ a.Oversized := by
    rintro a ha hlarge
    cases ha
    obtain ⟨n, hn, hlarge⟩ := hlarge
    have hsix : Number.ofText? "6" = some (.int 6) := by decide +kernel
    cases hsix.symm.trans hn
    revert hlarge
    decide +kernel
  obtain ⟨found, w, hfound⟩ := hanswers (fun _ => hrange) (by decide +kernel)
  exact ⟨fiveProperty_compiles, hlast, found, w, hfound, fun h => hspares ((hverdict found w hfound).1 h)⟩

/-- A denied value may be accepted: null where it is fine, and a text for a number that is allowed. -/
theorem Demand.spared_accepted :
    (nullProperty.Compiles (· = .standard) nullChecker ∧ nullProperty.demand.lastMention .null = some false ∧
      ((nullChecker.collect (follow (fun _ => none) 64) ⟨64, true, 0, []⟩ {} true none (.scalar .null)).ending
        { store := ⟨#[]⟩ }).1.map (·.1.isEmpty) = .ok true) ∧
    fiveProperty.Compiles (· = .standard) fiveChecker ∧ fiveProperty.demand.lastMention (.text "5") = some false ∧
      ((fiveChecker.collect (follow (fun _ => none) 64) ⟨64, true, 0, []⟩ {} true none (.scalar (.text "5"))).ending
        { store := ⟨#[]⟩ }).1.map (·.1.isEmpty) = .ok true := by
  refine ⟨⟨nullProperty_compiles, ?_, ?_⟩, fiveProperty_compiles, ?_, ?_⟩
  · decide +kernel
  · decide +kernel
  · decide +kernel
  · decide +kernel

end ShapeCheck
