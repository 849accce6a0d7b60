import ShapeCheck.Proofs.Demands
import ShapeCheck.Proofs.Judging
import ShapeCheck.Proofs.Knots
import ShapeCheck.Proofs.Probes

/-!
# What is decided before the rules

Before its rules run a checker looks at null, at the allowed and denied values, at the kind and at emptiness, in this order.
On a tree each of these steps decides what `Demand.Passes` and `Demand.Trips` say of the demand that the checker comes from,
and what they leave open is left to the rules: `PropertyChecker.collect_judges`.
-/

namespace ShapeCheck

open PropertyChecker

/-! ## Kinds -/

section Kinds

variable {σ : Store} {v w : Value} {k : Kind} {convert : Bool}

/-- How what a value counts as shows among the candidates of its tree. -/
structure Kind.Converts (σ : Store) (k : Kind) (convert : Bool) (v : Value) (counted : Option Value) : Prop where
  result : k.convert convert σ v = .ok counted
  candidates : (readings v (counted.getD v)).map σ.datum = k.candidates convert (σ.datum v)
  suits : ∀ x ∈ k.candidates convert (σ.datum v), k.isOf x = true ↔ ∃ w ∈ counted, x = σ.datum w

/-- A value that stands for nothing else counts as itself if it is of the kind. -/
theorem Kind.Converts.alone (hresult : k.convert convert σ v = .ok (if k.isOf (σ.datum v) then some v else none))
    (hnone : convert = true → k.conversion? (σ.datum v) = none) : k.Converts σ convert v (if k.isOf (σ.datum v) then some v else none) := by
  have hcandidates : k.candidates convert (σ.datum v) = [σ.datum v] := by
    unfold Kind.candidates
    cases convert with
    | false => rfl
    | true => rw [if_pos rfl, hnone rfl]; rfl
  refine ⟨hresult, ?_, fun x hx => ?_⟩
  · rw [hcandidates]
    unfold readings
    cases k.isOf (σ.datum v) <;> simp
  · rw [hcandidates] at hx
    obtain rfl := List.mem_singleton.1 hx
    cases k.isOf (σ.datum v) <;> simp

/-- A text that stands for a number or a truth value counts as that. -/
theorem Kind.Converts.conversion {a : Scalar} (hresult : k.convert true σ v = .ok (some (.scalar a))) (hne : .scalar a ≠ v)
    (hsome : k.conversion? (σ.datum v) = some (.scalar a)) (hraw : k.isOf (σ.datum v) = false)
    (hof : k.isOf (.scalar a) = true) : k.Converts σ true v (some (.scalar a)) := by
  have hcandidates : k.candidates true (σ.datum v) = [σ.datum v, .scalar a] := by
    unfold Kind.candidates
    rw [if_pos rfl, hsome]
    rfl
  refine ⟨hresult, ?_, fun x hx => ?_⟩
  · rw [hcandidates]
    unfold readings
    rw [Option.getD_some, if_neg hne]
    rfl
  · rw [hcandidates] at hx
    rcases List.mem_cons.1 hx with rfl | hx
    · rw [hraw]
      refine ⟨nofun, ?_⟩
      rintro ⟨w, hw, heq⟩
      obtain rfl := Option.mem_some.1 hw
      rw [heq] at hraw
      exact absurd (hof.symm.trans hraw) (by decide)
    · obtain rfl := List.mem_singleton.1 hx
      exact ⟨fun _ => ⟨_, rfl, rfl⟩, fun _ => hof⟩

/-- A reading is the value itself, or what it counts as instead. -/
theorem readings_cases {counted : Option Value} (h : k.convert convert σ v = .ok counted)
    (hw : w ∈ readings v (counted.getD v)) : w = v ∨ w.Counted := by
  unfold readings at hw
  cases counted with
  | none =>
      rw [Option.getD_none, if_pos rfl] at hw
      exact .inl (List.mem_singleton.1 hw)
  | some u =>
      rw [Option.getD_some] at hw
      split at hw
      · exact .inl (List.mem_singleton.1 hw)
      · rcases List.mem_cons.1 hw with rfl | hw
        · exact .inl rfl
        · rw [List.mem_singleton.1 hw]
          exact Kind.convert_eq h

theorem Kind.convert_container (k : Kind) (convert : Bool) {a : Address} (h : σ.IsTree (.container a)) :
    k.convert convert σ (.container a) = .ok (if k.isOf (σ.datum (.container a)) then some (.container a) else none) ∧
      k.conversion? (σ.datum (.container a)) = none := by
  have hitems := h.items?_eq
  have hentries := h.entries?_eq
  have hscalar := h.isScalar_eq
  generalize σ.datum (.container a) = d at hitems hentries hscalar ⊢
  refine ⟨?_, ?_⟩
  · cases k with
    | array =>
        have hof : Kind.array.isOf d = (σ.items? (.container a)).isSome := by
          change d.items?.isSome = _
          rw [hitems, Option.isSome_map]
        rw [hof]
        unfold Kind.convert
        cases σ.items? (.container a) <;> rfl
    | object =>
        have hof : Kind.object.isOf d = (σ.entries? (.container a)).isSome := by
          change d.entries?.isSome = _
          rw [hentries, Option.isSome_map]
        rw [hof]
        unfold Kind.convert
        cases σ.entries? (.container a) <;> rfl
    | any => rfl
    | _ =>
        cases d with
        | scalar => cases hscalar
        | _ => rfl
  · cases d with
    | scalar => cases hscalar
    | _ => cases k <;> rfl

theorem finite?_of_not_oversized {n : Number} (h : n.isFinite? ≠ none) :
    finite? n = .ok (if n.isFinite? == some true then some (.scalar (.number n)) else none) := by
  unfold finite?
  cases hn : n.isFinite? with
  | none => exact absurd hn h
  | some b => cases b <;> rfl

theorem finite?_of_oversized {n : Number} (h : n.isFinite? = none) : finite? n = .error .integerTooLarge := by
  unfold finite?
  rw [h]

theorem Kind.conversion?_number (s : String) : Kind.number.conversion? (.scalar (.text s)) =
    ((Number.ofText? s).filter fun n => n.isFinite? == some true).map fun n => .scalar (.number n) := rfl

theorem Kind.conversion?_boolean (s : String) : Kind.boolean.conversion? (.scalar (.text s)) = (truth? s).map .bool := rfl

theorem Kind.convert_number_text (σ : Store) (s : String) : Kind.number.convert true σ (.scalar (.text s)) =
    match Number.ofText? s with
    | some n => finite? n
    | none => .ok none := rfl

theorem Kind.convert_boolean_text (σ : Store) (s : String) : Kind.boolean.convert true σ (.scalar (.text s)) =
    .ok ((truth? s).map fun b => .scalar (.bool b)) := rfl

/-- A value of a tree converts where that ends in no fault. -/
theorem Kind.exists_converts (k : Kind) (convert : Bool) (hv : σ.IsTree v) (hok : ∀ e, k.convert convert σ v ≠ .error e) :
    ∃ counted, k.Converts σ convert v counted := by
  cases v with
  | container a =>
      obtain ⟨hresult, hnone⟩ := k.convert_container convert hv
      exact ⟨_, .alone hresult fun _ => hnone⟩
  | scalar a =>
      cases a with
      | number n =>
          refine ⟨_, .alone ?_ fun _ => ?_⟩
          · cases k with
            | number => exact finite?_of_not_oversized fun h => hok _ (finite?_of_oversized h)
            | _ => rfl
          · cases k <;> rfl
      | text s =>
          cases k with
          | number =>
              cases convert with
              | false => exact ⟨_, .alone rfl nofun⟩
              | true =>
                  have hresult := convert_number_text σ s
                  have hconversion := conversion?_number s
                  cases hs : Number.ofText? s with
                  | none =>
                      rw [hs] at hresult hconversion
                      exact ⟨_, .alone hresult fun _ => hconversion⟩
                  | some n =>
                      rw [hs] at hresult hconversion
                      dsimp only at hresult
                      have hn : n.isFinite? ≠ none := fun h => hok _ (hresult.trans (finite?_of_oversized h))
                      rw [finite?_of_not_oversized hn] at hresult
                      rw [Option.filter_some] at hconversion
                      by_cases hfinite : (n.isFinite? == some true) = true
                      · rw [if_pos hfinite] at hresult hconversion
                        exact ⟨_, .conversion hresult nofun hconversion rfl hfinite⟩
                      · rw [if_neg hfinite] at hresult hconversion
                        exact ⟨_, .alone hresult fun _ => hconversion⟩
          | boolean =>
              cases convert with
              | false => exact ⟨_, .alone rfl nofun⟩
              | true =>
                  have hresult := convert_boolean_text σ s
                  have hconversion := conversion?_boolean s
                  cases hs : truth? s with
                  | none =>
                      rw [hs] at hresult hconversion
                      exact ⟨_, .alone hresult fun _ => hconversion⟩
                  | some b =>
                      rw [hs] at hresult hconversion
                      exact ⟨_, .conversion hresult nofun hconversion rfl rfl⟩
          | _ => exact ⟨_, .alone rfl fun _ => rfl⟩
      | _ => exact ⟨_, .alone (by cases k <;> rfl) fun _ => by cases k <;> rfl⟩

end Kinds

/-! ## What the steps say -/

namespace Demand

variable {q : Demand} {convert : Bool} {w : Datum}

/-- A value that is allowed passes. -/
theorem passes_of_allowed (rest : Datum → Prop) (hw : w.isNull = false)
    (hallowed : ∃ x ∈ q.candidates convert w, q.lastMention x = some true) :
    q.Passes convert w rest ∧ ¬ q.Trips convert w rest := by
  refine ⟨(passes_iff hw).2 (.inl hallowed), fun htrips => ?_⟩
  obtain ⟨x, hx, hmention⟩ := hallowed
  exact htrips.2.1 x hx hmention

/-- A value that is denied does not pass, and trips if it cannot be written. -/
theorem fails_of_denied (rest : Datum → Prop) (hw : w.isNull = false)
    (hallowed : ∀ x ∈ q.candidates convert w, q.lastMention x ≠ some true)
    (hdenied : ∃ x ∈ q.candidates convert w, q.lastMention x = some false) :
    ¬ q.Passes convert w rest ∧ (q.Trips convert w rest ↔ w.isTooLong = true) := by
  obtain ⟨y, hy, hmention⟩ := hdenied
  refine ⟨fun h => ?_, fun h => ?_, fun h => ⟨hw, hallowed, .inl ⟨⟨y, hy, hmention⟩, h⟩⟩⟩
  · rcases (passes_iff hw).1 h with ⟨x, hx, hmention'⟩ | ⟨hno, _⟩
    · exact hallowed x hx hmention'
    · exact hno y hy hmention
  · rcases h.2.2 with ⟨_, h⟩ | ⟨hno, _⟩
    · exact h
    · exact absurd hmention (hno y hy)

/-- Where only allowed values pass others do not, and trip if the allowed ones cannot be written. -/
theorem fails_of_valid (rest : Datum → Prop) (hw : w.isNull = false)
    (hallowed : ∀ x ∈ q.candidates convert w, q.lastMention x ≠ some true)
    (hdenied : ∀ x ∈ q.candidates convert w, q.lastMention x ≠ some false) (hvalid : q.Asks .valid) :
    ¬ q.Passes convert w rest ∧
      (q.Trips convert w rest ↔ (Datum.list (standing true q.mentions)).isTooLong = true) := by
  refine ⟨fun h => ?_, fun h => ?_, fun h => ⟨hw, hallowed, .inr ⟨hdenied, .inl ⟨hvalid, h⟩⟩⟩⟩
  · rcases (passes_iff hw).1 h with ⟨x, hx, hmention⟩ | ⟨_, hnot, _⟩
    · exact hallowed x hx hmention
    · exact hnot hvalid
  · rcases h.2.2 with ⟨⟨x, hx, hmention⟩, _⟩ | ⟨_, ⟨_, h⟩ | ⟨hnot, _⟩⟩
    · exact absurd hmention (hdenied x hx)
    · exact h
    · exact absurd hvalid hnot

/-- What becomes of a datum depends only on whether a candidate suits, and on the rest there. -/
def LeavesOpen (q : Demand) (convert : Bool) (w : Datum) : Prop :=
  ∀ rest, (q.Passes convert w rest ↔ ∃ x ∈ q.candidates convert w, q.Suits x ∧ rest x) ∧
    (q.Trips convert w rest ↔ ∃ x ∈ q.candidates convert w, q.Suits x ∧ rest x)

theorem leavesOpen (hw : w.isNull = false) (hallowed : ∀ x ∈ q.candidates convert w, q.lastMention x ≠ some true)
    (hdenied : ∀ x ∈ q.candidates convert w, q.lastMention x ≠ some false) (hvalid : ¬ q.Asks .valid) :
    q.LeavesOpen convert w := by
  intro rest
  constructor
  · rw [passes_iff hw]
    refine ⟨fun h => ?_, fun h => .inr ⟨hdenied, hvalid, h⟩⟩
    rcases h with ⟨x, hx, hmention⟩ | ⟨_, _, h⟩
    · exact absurd hmention (hallowed x hx)
    · exact h
  · refine ⟨fun h => ?_, fun h => ⟨hw, hallowed, .inr ⟨hdenied, .inr ⟨hvalid, h⟩⟩⟩⟩
    rcases h.2.2 with ⟨⟨x, hx, hmention⟩, _⟩ | ⟨_, ⟨h, _⟩ | ⟨_, h⟩⟩
    · exact absurd hmention (hdenied x hx)
    · exact absurd h hvalid
    · exact h

end Demand

/-! ## Early decisions -/

theorem Datum.isScalar_of_same {d e : Datum} (h : d.same e = true) : d.isScalar = e.isScalar := by
  unfold same at h
  rw [Bool.and_eq_true] at h
  have hequals := h.2
  cases d <;> cases e <;> first | rfl | (simp [equals] at hequals)

/-- In a tree a value is among some data if it is the same as one of them. -/
theorem Store.IsTree.isAmong_eq {σ : Store} {v : Value} (h : σ.IsTree v) (data : List Datum) :
    σ.isAmong data v = PropertyChecker.holds data (σ.datum v) := by
  unfold isAmong PropertyChecker.holds
  refine congrArg data.any (funext fun d => ?_)
  rw [← h.isScalar_eq]
  cases hsame : d.same (σ.datum v) with
  | false => rw [Bool.and_false]
  | true => rw [Datum.isScalar_of_same hsame, beq_self_eq_true, Bool.and_self]

theorem Store.IsTree.isNull_iff {σ : Store} {v : Value} (h : σ.IsTree v) : (σ.datum v).isNull = true ↔ v = .scalar .null := by
  cases v with
  | scalar a => cases a <;> simp [Store.datum_scalar, Datum.isNull]
  | container a =>
      have hscalar := h.isScalar_eq
      generalize σ.datum (.container a) = d at hscalar
      cases d with
      | scalar => cases hscalar
      | _ => simp [Datum.isNull]

section Early

variable {σ : Store} {described : Descriptions} {caps : Capabilities} {q : Demand} {c : PropertyChecker} {own : List Rule}
  {v : Value} {convert : Bool} {path : Path}

/-- A value of a candidate: a tree of proper data with no number out of range and no key that cannot be written. -/
structure Store.Candidate (σ : Store) (described : Descriptions) (v : Value) : Prop where
  tree : σ.IsTree v
  sound : σ.Sound v
  proper : (σ.datum v).Proper described

/-- What is decided early is what the demand says: a fault where it trips, findings where it does not pass, and what is left
open is left to the rest. -/
inductive Early.Decides (σ : Store) (q : Demand) (convert : Bool) (v : Value) (kind : Kind) : Except Fault Early → Prop
  | trips {e : Fault} (h : ∀ rest, q.Trips convert (σ.datum v) rest) : Early.Decides σ q convert v kind (.error e)
  | done {found : Findings} {w : Value} (answers : ∀ rest, ¬ q.Trips convert (σ.datum v) rest)
    (verdict : ∀ rest, found = [] ↔ q.Passes convert (σ.datum v) rest) : Early.Decides σ q convert v kind (.ok (.done found w))
  | goOn {w : Value} (counts : w = v ∨ w.Counted) (suits : kind.isOf (σ.datum w) = true)
    (verdict : ∀ rest, q.Passes convert (σ.datum v) rest ↔ rest (σ.datum w))
    (answers : ∀ rest, q.Trips convert (σ.datum v) rest ↔ rest (σ.datum w)) : Early.Decides σ q convert v kind (.ok (.goOn w))

/-- A message that cannot be written trips a value that does not pass. -/
theorem Early.Decides.of_written {kind : Kind} {write : Datum → String} {d : Datum} {found : String → Findings} {w : Value}
    (hfound : ∀ s, found s ≠ [])
    (h : ∀ rest, ¬ q.Passes convert (σ.datum v) rest ∧ (q.Trips convert (σ.datum v) rest ↔ d.isTooLong = true)) :
    Early.Decides σ q convert v kind (do return .done (found (← d.written write)) w) := by
  unfold Datum.written
  by_cases hlong : d.isTooLong = true
  · rw [if_pos hlong]
    exact .trips fun rest => (h rest).2.2 hlong
  · rw [if_neg hlong]
    exact .done (fun rest htrips => hlong ((h rest).2.1 htrips)) fun rest => iff_of_false (hfound _) (h rest).1

/-- A value with no candidate that suits does not pass, and nothing trips at it. -/
theorem Early.Decides.of_unsuited {kind : Kind} {found : Findings} {w : Value} (hfound : found ≠ [])
    (hopen : q.LeavesOpen convert (σ.datum v)) (hsuits : ∀ x ∈ q.candidates convert (σ.datum v), ¬ q.Suits x) :
    Early.Decides σ q convert v kind (.ok (.done found w)) := by
  refine .done (fun rest h => ?_) fun rest => iff_of_false hfound fun h => ?_
  · obtain ⟨x, hx, hs, _⟩ := (hopen rest).2.1 h
    exact hsuits x hx hs
  · obtain ⟨x, hx, hs, _⟩ := (hopen rest).1.1 h
    exact hsuits x hx hs

variable (hq : q.Meets caps { c with rules := own }) (hmentions : ∀ m ∈ q.mentions, m.1.Proper described)

include hq hmentions

/-- Null passes where it is allowed, and nothing trips at it. -/
theorem Early.decides_null :
    Early.Decides σ q convert (.scalar .null) c.kind (c.early convert path true σ (.scalar .null)) := by
  have hallowed : holds c.allowed .null = true ↔ q.lastMention .null = some true :=
    hq.holds_allowed hmentions (Datum.proper_scalar .null)
  have hnull : (σ.datum (.scalar .null)).isNull = true := rfl
  unfold early
  rw [if_neg (by decide), if_pos rfl]
  refine .done (fun rest h => ?_) fun rest => ?_
  · rw [h.1] at hnull
    cases hnull
  · change _ ↔ q.Asks .nullOk ∨ q.lastMention .null = some true
    rw [← hallowed, ← hq.nullOk, ← Bool.or_eq_true]
    dsimp only
    cases c.nullOk || holds c.allowed .null <;> simp

omit hmentions in
/-- Some reading of a value is among those that stand in a sense exactly if some candidate was last mentioned so. -/
theorem readings_any_iff {counted : Option Value} (hv : σ.IsTree v) (hd : (σ.datum v).Proper described)
    (hcounted : c.kind.Converts σ convert v counted) {values : List Datum} {sense : Bool}
    (hvalues : ∀ x : Datum, x.Proper described → (holds values x = true ↔ q.lastMention x = some sense)) :
    (readings v (counted.getD v)).any (σ.isAmong values) = true ↔
      ∃ x ∈ q.candidates convert (σ.datum v), q.lastMention x = some sense := by
  have hreading : ∀ w ∈ readings v (counted.getD v), σ.IsTree w ∧ (σ.datum w).Proper described := by
    intro w hw
    rcases readings_cases hcounted.result hw with rfl | hw
    · exact ⟨hv, hd⟩
    · cases hw with
      | _ => exact ⟨.scalar _, Datum.proper_scalar _⟩
  have hcandidates : q.candidates convert (σ.datum v) = (readings v (counted.getD v)).map σ.datum := by
    unfold Demand.candidates
    rw [hq.kind, hcounted.candidates]
    rfl
  rw [hcandidates, List.any_eq_true]
  constructor
  · rintro ⟨w, hw, hamong⟩
    obtain ⟨htree, hproper⟩ := hreading w hw
    rw [htree.isAmong_eq, hvalues _ hproper] at hamong
    exact ⟨_, List.mem_map_of_mem hw, hamong⟩
  · rintro ⟨x, hx, hmention⟩
    obtain ⟨w, hw, rfl⟩ := List.mem_map.1 hx
    obtain ⟨htree, hproper⟩ := hreading w hw
    refine ⟨w, hw, ?_⟩
    rw [htree.isAmong_eq, hvalues _ hproper]
    exact hmention

omit hmentions in
/-- A candidate suits a demand if it is what the value counts as, and is no empty text where none is allowed. -/
theorem suits_iff {counted : Option Value} (hcounted : c.kind.Converts σ convert v counted) {x : Datum}
    (hx : x ∈ q.candidates convert (σ.datum v)) :
    q.Suits x ↔ ∃ w ∈ counted, x = σ.datum w ∧ ¬ (c.kind = .string ∧ w = .scalar (.text "") ∧ c.emptyOk = false) := by
  have hkind : q.kind? = some c.kind := hq.kind
  have hmem : x ∈ c.kind.candidates convert (σ.datum v) := by
    unfold Demand.candidates at hx
    rwa [hkind] at hx
  have hempty : ∀ w ∈ counted, x = σ.datum w → c.kind = .string → (x.content = "" ↔ w = .scalar (.text "")) := by
    rintro w hw rfl hstring
    have hresult := hcounted.result
    rw [hstring, Option.mem_def.1 hw] at hresult
    cases w with
    | container a =>
        rcases Kind.convert_text hresult with heq | ⟨s, rfl⟩
        · rw [← heq] at hresult
          cases hresult
        · cases hresult
    | scalar a =>
        cases a with
        | text s => simp [Store.datum_scalar, Datum.content, Datum.text?]
        | _ =>
            rcases Kind.convert_text hresult with heq | ⟨s, rfl⟩
            · rw [← heq] at hresult
              cases hresult
            · cases hresult
  have hok : c.emptyOk = true ↔ q.Asks .emptyOk := hq.emptyOk
  unfold Demand.Suits
  rw [hkind]
  constructor
  · rintro ⟨k, hk, hof, hfull⟩
    cases hk
    obtain ⟨w, hw, heq⟩ := (hcounted.suits x hmem).1 hof
    refine ⟨w, hw, heq, fun ⟨hstring, hw', hnot⟩ => ?_⟩
    rw [hok.2 (hfull hstring ((hempty w hw heq hstring).2 hw'))] at hnot
    cases hnot
  · rintro ⟨w, hw, heq, hnot⟩
    refine ⟨c.kind, rfl, (hcounted.suits x hmem).2 ⟨w, hw, heq⟩, fun hstring hcontent => ?_⟩
    rw [← hok]
    by_contra hne
    exact hnot ⟨hstring, (hempty w hw heq hstring).1 hcontent, Bool.eq_false_iff.2 hne⟩

omit hmentions in
/-- What a value counts as goes on to the rules, if it is no empty text where none is allowed. -/
theorem Early.Decides.of_suited {w : Value} (hcounted : c.kind.Converts σ convert v (some w))
    (hfull : ¬ (c.kind = .string ∧ w = .scalar (.text "") ∧ c.emptyOk = false)) (hopen : q.LeavesOpen convert (σ.datum v)) :
    Early.Decides σ q convert v c.kind (.ok (.goOn w)) := by
  have hcandidates : q.candidates convert (σ.datum v) = c.kind.candidates convert (σ.datum v) := by
    unfold Demand.candidates
    rw [hq.kind]
    rfl
  have hmem : σ.datum w ∈ q.candidates convert (σ.datum v) := by
    rw [hcandidates, ← hcounted.candidates]
    refine List.mem_map_of_mem ?_
    unfold readings
    rw [Option.getD_some]
    split
    · next heq => exact heq ▸ List.mem_singleton_self _
    · exact List.mem_cons_of_mem _ (List.mem_singleton_self _)
  have hone : ∀ rest : Datum → Prop, (∃ x ∈ q.candidates convert (σ.datum v), q.Suits x ∧ rest x) ↔ rest (σ.datum w) := by
    intro rest
    constructor
    · rintro ⟨x, hx, hs, hrest⟩
      obtain ⟨w', hw', heq, _⟩ := (suits_iff hq hcounted hx).1 hs
      obtain rfl := Option.mem_some.1 hw'
      exact heq ▸ hrest
    · exact fun hrest => ⟨_, hmem, (suits_iff hq hcounted hmem).2 ⟨w, rfl, rfl, hfull⟩, hrest⟩
  have hof : c.kind.isOf (σ.datum w) = true := (hcounted.suits _ (hcandidates ▸ hmem)).2 ⟨w, rfl, rfl⟩
  exact .goOn (Kind.convert_eq hcounted.result) hof (fun rest => (hopen rest).1.trans (hone rest))
    fun rest => (hopen rest).2.trans (hone rest)

/-- Early decisions are those of the demand. The cases are the steps in their order. -/
theorem Early.decides (convert : Bool) (path : Path) (hv : σ.Candidate described v) :
    Early.Decides σ q convert v c.kind (c.early convert path true σ v) := by
  by_cases hnull : v = .scalar .null
  · subst hnull
    exact Early.decides_null hq hmentions
  have hraw : (σ.datum v).isNull = false := Bool.eq_false_iff.2 fun h => hnull (hv.tree.isNull_iff.1 h)
  have hsound : ∀ e, c.kind.convert convert σ v ≠ .error e := by
    intro e he
    obtain ⟨_, a, rfl, hlarge⟩ := Kind.convert_error he
    exact hv.sound.numbers a .refl hlarge
  obtain ⟨counted, hcounted⟩ := Kind.exists_converts c.kind convert hv.tree hsound
  have hallow := readings_any_iff hq hv.tree hv.proper hcounted fun x hx => hq.holds_allowed hmentions hx
  have hdeny := readings_any_iff hq hv.tree hv.proper hcounted fun x hx => hq.holds_denied hmentions hx
  have honly : c.onlyValid = true ↔ q.Asks .valid := hq.onlyValid
  have hlist : c.allowed = Demand.standing true q.mentions := hq.allowed
  unfold early
  rw [if_neg (by decide), if_neg hnull, hcounted.result]
  simp only [bind, Except.bind]
  rw [hv.tree.acyclic.comparesOn, if_neg Bool.false_ne_true]
  by_cases hallowed : (readings v (counted.getD v)).any (σ.isAmong c.allowed) = true
  · rw [if_pos hallowed]
    have hpasses := fun rest => Demand.passes_of_allowed (q := q) rest hraw (hallow.1 hallowed)
    exact .done (fun rest => (hpasses rest).2) fun rest => iff_of_true rfl (hpasses rest).1
  have hnotAllowed : ∀ x ∈ q.candidates convert (σ.datum v), q.lastMention x ≠ some true :=
    fun x hx hmention => hallowed (hallow.2 ⟨x, hx, hmention⟩)
  rw [if_neg hallowed]
  by_cases hdenied : (readings v (counted.getD v)).any (σ.isAmong c.denied) = true
  · rw [if_pos hdenied]
    exact .of_written (fun _ => List.cons_ne_nil _ _) fun rest => Demand.fails_of_denied rest hraw hnotAllowed (hdeny.1 hdenied)
  have hnotDenied : ∀ x ∈ q.candidates convert (σ.datum v), q.lastMention x ≠ some false :=
    fun x hx hmention => hdenied (hdeny.2 ⟨x, hx, hmention⟩)
  rw [if_neg hdenied]
  by_cases hvalid : c.onlyValid = true
  · rw [if_pos hvalid, hlist]
    exact .of_written (fun _ => List.cons_ne_nil _ _)
      fun rest => Demand.fails_of_valid rest hraw hnotAllowed hnotDenied (honly.1 hvalid)
  have hopen := Demand.leavesOpen hraw hnotAllowed hnotDenied fun h => hvalid (honly.2 h)
  rw [if_neg hvalid]
  cases counted with
  | none =>
      refine .of_unsuited (List.cons_ne_nil _ _) hopen fun x hx hs => ?_
      obtain ⟨_, hw, _⟩ := (suits_iff hq hcounted hx).1 hs
      cases hw
  | some w =>
      have hempty : (c.kind = .string && w = .scalar (.text "") && !c.emptyOk) = true ↔
          c.kind = .string ∧ w = .scalar (.text "") ∧ c.emptyOk = false := by
        simp only [Bool.and_eq_true, decide_eq_true_eq, Bool.not_eq_true', and_assoc]
      dsimp only
      by_cases hfull : c.kind = .string ∧ w = .scalar (.text "") ∧ c.emptyOk = false
      · rw [if_pos (hempty.2 hfull)]
        refine .of_unsuited (List.cons_ne_nil _ _) hopen fun x hx hs => ?_
        obtain ⟨w', hw', _, hnot⟩ := (suits_iff hq hcounted hx).1 hs
        obtain rfl := Option.mem_some.1 hw'
        exact hnot hfull
      · rw [if_neg (mt hempty.1 hfull)]
        exact .of_suited hq hcounted hfull hopen

/-- What a checker decides about a value, given what its rules decide about what the value counts as. -/
theorem PropertyChecker.collect_judges {follow : Follow} {ctx : Context} {parent : Option Value} {B : Prop} {P F : Datum → Prop}
    (hv : σ.Candidate described v)
    (hpeers : ∃ found, peerFindings c path σ parent v = .ok found ∧ (found = [] ↔ B))
    (hrules : ∀ w, (w = v ∨ w.Counted) → c.kind.isOf (σ.datum w) = true →
      Judges σ (Rule.runAll follow ctx path c.rules w) Clean (P (σ.datum w)) (F (σ.datum w))) :
    Judges σ (c.collect follow ctx path true parent v) (fun x => x.1 = [])
      (q.Passes ctx.convert (σ.datum v) fun x => B ∧ P x) (q.Trips ctx.convert (σ.datum v) F) := by
  have hearly := Early.decides hq hmentions ctx.convert path hv
  obtain ⟨peers, hpeers, hclean⟩ := hpeers
  obtain ⟨kind, required, nullOk, emptyOk, onlyValid, allowed, denied, peersWith, peersWithout, rules⟩ := c
  unfold collect
  refine .store (.ofExcept (fun e he => ?_) fun early he => ?_)
  · rw [he] at hearly
    cases hearly with
    | trips h => exact h _
  · rw [he] at hearly
    cases hearly with
    | done answers verdict => exact .pure (verdict _) (answers _)
    | goOn counts suits verdict answers =>
        refine .store (.ofExcept (fun e he => ?_) fun found hfound => ?_)
        · cases hpeers.symm.trans he
        · cases hpeers.symm.trans hfound
          refine (hrules _ counts suits).bind (answers F).2 fun others hf hothers => .pure ?_ fun h => hf ((answers F).1 h)
          rw [verdict, ← hclean, ← hothers]
          exact List.append_eq_nil_iff

end Early

end ShapeCheck
