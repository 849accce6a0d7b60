import Mathlib.Tactic.ByContra
import ShapeCheck.Proofs.Calls
import ShapeCheck.Proofs.Demands
import ShapeCheck.Proofs.Faults
import ShapeCheck.Proofs.Gates
import ShapeCheck.Proofs.Numerals
import ShapeCheck.Proofs.Tandem

/-!
# Texts of integers

A text that writes an integer in decimal is read as just this integer, however many digits it has, as long as it is no more
than an integer may have; an integer that is finite as a double has far fewer. So a property of numbers that mentions no texts
says the same of the text as of the integer: both come to the same gate, `PropertyChecker.integerGate`, and what passes it goes
on as the same number. Only the values that findings name are different ones.
-/

namespace ShapeCheck

/-! ## Reading what is written -/

namespace Numeral

/-- Characters write an integer in decimal: digits, no more than an integer may have, and perhaps a sign before them. -/
inductive Writes : List Char → Int → Prop
  | unsigned {ds : List Char} (some : ds ≠ []) (digits : ∀ c ∈ ds, c.isDigit = true) (few : ds.length ≤ integerDigitLimit) :
      Writes ds (Nat.ofDigitChars 10 ds 0)
  | plus {ds : List Char} (some : ds ≠ []) (digits : ∀ c ∈ ds, c.isDigit = true) (few : ds.length ≤ integerDigitLimit) :
      Writes ('+' :: ds) (Nat.ofDigitChars 10 ds 0)
  | minus {ds : List Char} (some : ds ≠ []) (digits : ∀ c ∈ ds, c.isDigit = true) (few : ds.length ≤ integerDigitLimit) :
      Writes ('-' :: ds) (-(Nat.ofDigitChars 10 ds 0 : Int))

theorem isDigit_iff {c : Char} : c.isDigit = true ↔ 48 ≤ c.toNat ∧ c.toNat ≤ 57 := by
  simp only [Char.isDigit, Bool.and_eq_true, decide_eq_true_eq, ge_iff_le, UInt32.le_iff_toNat_le]
  rfl

theorem mem_numeralChars_of_isDigit {c : Char} (h : c.isDigit = true) : c ∈ JsonText.numeralChars := by
  obtain ⟨hlow, hhigh⟩ := isDigit_iff.1 h
  have hd := JsonText.mem_numeralChars_digit ⟨c.toNat - 48, by omega⟩
  have hc : (c.toNat - 48).digitChar = c := by
    apply Char.toNat_inj.1
    rw [Nat.toNat_digitChar_of_lt_ten (by omega)]
    omega
  rwa [hc] at hd

theorem isDigitIn_of_isDigit {c : Char} (h : c.isDigit = true) : isDigitIn 10 c = true := by
  obtain ⟨hlow, hhigh⟩ := isDigit_iff.1 h
  have hvalue : c.toNat - '0'.toNat < 10 := by
    simp only [Char.reduceToNat]
    omega
  unfold isDigitIn
  rw [h, Bool.true_and, decide_eq_true hvalue, Bool.true_or]

section Digits

variable {ds : List Char} (h : ∀ c ∈ ds, c.isDigit = true)
include h

theorem digitsValue_eq : digitsValue 10 ds = Nat.ofDigitChars 10 ds 0 := by
  refine List.foldl_ext _ _ 0 fun n c hc => ?_
  rw [if_pos (h c hc)]

theorem takeDigits?_digits : takeDigits? 10 false ds = some (ds, []) := by
  induction ds with
  | nil => rfl
  | cons c rest ih =>
      obtain ⟨hc, hrest⟩ := List.forall_mem_cons.1 h
      rw [takeDigits?, if_pos (isDigitIn_of_isDigit hc), ih hrest]
      rfl

/-- What is read behind a sign is the value of the digits. -/
theorem readIntegerIn_digits (hne : ds ≠ []) (hfew : ds.length ≤ integerDigitLimit) {cs : List Char} {negative : Bool}
    (hcs : ∀ c ∈ cs, c ∈ JsonText.numeralChars) (hsign : takeSign cs = (negative, ds)) :
    readIntegerIn 10 cs = .value (if negative then -(Nat.ofDigitChars 10 ds 0 : Int) else Nat.ofDigitChars 10 ds 0) := by
  have hunderscore : '_' ∉ ds := by
    intro hmem
    have hdigit := h _ hmem
    revert hdigit
    decide
  unfold readIntegerIn
  rw [JsonText.plain_eq hcs, hsign]
  dsimp only
  rw [JsonText.dropBase_ten]
  split
  · exact absurd (List.mem_cons_self ..) hunderscore
  · rw [takeDigits?_digits h]
    dsimp only
    rw [decide_eq_false (Nat.not_lt.2 hfew), List.isEmpty_eq_false_iff.2 hne, digitsValue_eq h]
    rfl

end Digits

theorem takeSign_digits {ds : List Char} (h : ∀ c ∈ ds, c.isDigit = true) : takeSign ds = (false, ds) := by
  unfold takeSign
  split
  · exact absurd (h _ (List.mem_cons_self ..)) (by decide)
  · exact absurd (h _ (List.mem_cons_self ..)) (by decide)
  · rfl

theorem Writes.mem_numeralChars {cs : List Char} {n : Int} (h : Writes cs n) : ∀ c ∈ cs, c ∈ JsonText.numeralChars := by
  cases h with
  | unsigned _ digits _ => exact fun c hc => mem_numeralChars_of_isDigit (digits c hc)
  | plus _ digits _ =>
      exact List.forall_mem_cons.2 ⟨by decide, fun c hc => mem_numeralChars_of_isDigit (digits c hc)⟩
  | minus _ digits _ =>
      exact List.forall_mem_cons.2 ⟨by decide, fun c hc => mem_numeralChars_of_isDigit (digits c hc)⟩

/-- The integer that is written is the one that is read. -/
theorem Writes.read {cs : List Char} {n : Int} (h : Writes cs n) : readInteger? cs = some n := by
  have hmem := h.mem_numeralChars
  unfold readInteger?
  cases h with
  | unsigned some digits few => rw [readIntegerIn_digits digits some few hmem (takeSign_digits digits)]; rfl
  | plus some digits few => rw [readIntegerIn_digits digits some few hmem rfl]; rfl
  | minus some digits few => rw [readIntegerIn_digits digits some few hmem rfl]; rfl

theorem Writes.ne_nil {cs : List Char} {n : Int} (h : Writes cs n) : cs ≠ [] := by
  cases h with
  | unsigned some _ _ => exact some
  | plus _ _ _ => exact List.cons_ne_nil _ _
  | minus _ _ _ => exact List.cons_ne_nil _ _

/-- What an integer is printed as writes it. -/
theorem writes_toString {n : Int} (h : n.natAbs < 10 ^ integerDigitLimit) : Writes (toString n).toList n := by
  have hdigits : ∀ m : Nat, m < 10 ^ integerDigitLimit → (Nat.toDigits 10 m) ≠ [] ∧
      (∀ c ∈ Nat.toDigits 10 m, c.isDigit = true) ∧ (Nat.toDigits 10 m).length ≤ integerDigitLimit := by
    intro m hm
    refine ⟨Nat.toDigits_ne_nil, fun c hc => Nat.isDigit_of_mem_toDigits (by decide) (by decide) hc, ?_⟩
    exact (Nat.length_toDigits_le_iff (by decide) (by decide)).2 hm
  rw [Int.toString_eq_repr, Int.repr_eq_if]
  split
  · next hn =>
    obtain ⟨hne, hall, hfew⟩ := hdigits n.toNat (by omega)
    have hwrites := Writes.unsigned hne hall hfew
    rw [Nat.ofDigitChars_toDigits (by decide) (by decide), Int.toNat_of_nonneg hn] at hwrites
    rwa [Nat.toList_repr]
  · next hn =>
    obtain ⟨hne, hall, hfew⟩ := hdigits (-n).toNat (by omega)
    have hwrites := Writes.minus hne hall hfew
    rw [Nat.ofDigitChars_toDigits (by decide) (by decide), Int.toNat_of_nonneg (by omega), Int.neg_neg] at hwrites
    rw [String.toList_append, Nat.toList_repr]
    exact hwrites

end Numeral

/-! ## Integers that are finite as doubles -/

theorem Binary64.ofInt_of_large {n : Int} {k : Nat} (hk : 1025 ≤ k) (h : 2 ^ k ≤ n.natAbs) : ofInt n = .infinite (n < 0) := by
  have hne : n.natAbs ≠ 0 := by
    have hpos := Nat.two_pow_pos k
    omega
  have hlog : k ≤ n.natAbs.log2 := (Nat.le_log2 hne).2 h
  have hexponent : maxExponent < exponentFor n.natAbs 1 := by
    have hone : Nat.log2 1 = 0 := by decide
    unfold exponentFor maxExponent
    dsimp only
    rw [hone]
    split <;> omega
  unfold ofInt ofRatio
  rw [if_neg hne]
  dsimp only
  split
  · exact if_pos (Int.lt_add_one_of_le hexponent.le)
  · rfl

/-- An integer that is finite as a double is far below the limit for written ones. -/
theorem Number.natAbs_lt_of_isFinite? {n : Int} (h : (Number.int n).isFinite? = some true) :
    n.natAbs < 10 ^ Numeral.integerDigitLimit := by
  have hlimit : 2 ^ Numeral.integerDigitLimit ≤ 10 ^ Numeral.integerDigitLimit := Nat.pow_le_pow_left (by decide) _
  by_contra hlarge
  have hinfinite := Binary64.ofInt_of_large (by decide) (hlimit.trans (Nat.not_lt.1 hlarge))
  have hnone : (Number.int n).isFinite? = none := by
    unfold Number.isFinite?
    dsimp only
    rw [hinfinite]
  rw [hnone] at h
  cases h

/-! ## Texts with blanks around -/

/-- A text writes an integer in decimal, perhaps with blanks around. -/
def Text.WritesInteger (s : String) (n : Int) : Prop :=
  ∃ before cs after, s.toList = before ++ cs ++ after ∧ (∀ c ∈ before, Text.isBlank c = true) ∧
    (∀ c ∈ after, Text.isBlank c = true) ∧ Numeral.Writes cs n

theorem Text.strip_append {before cs after : List Char} (hbefore : ∀ c ∈ before, isBlank c = true)
    (hafter : ∀ c ∈ after, isBlank c = true) (hcs : ∀ c ∈ cs, isBlank c = false) (hne : cs ≠ []) :
    strip (before ++ cs ++ after) = cs := by
  have hstop : ∀ {ds es : List Char}, ds ≠ [] → (∀ c ∈ ds, isBlank c = false) → (ds ++ es).dropWhile isBlank = ds ++ es := by
    intro ds es hne hds
    cases ds with
    | nil => exact absurd rfl hne
    | cons d ds =>
        have hd := hds d (List.mem_cons_self ..)
        exact List.dropWhile_cons_of_neg (by rw [hd]; exact Bool.false_ne_true)
  unfold strip
  rw [List.append_assoc, List.dropWhile_append_of_pos hbefore, hstop hne hcs, List.reverse_append,
    List.dropWhile_append_of_pos fun c hc => hafter c (List.mem_reverse.1 hc)]
  have hback := @hstop cs.reverse [] (mt List.reverse_eq_nil_iff.1 hne) fun c hc => hcs c (List.mem_reverse.1 hc)
  rw [List.append_nil] at hback
  rw [hback, List.reverse_reverse]

/-- A text that writes an integer is that integer as a number. -/
theorem Text.WritesInteger.ofText? {s : String} {n : Int} (h : Text.WritesInteger s n) : Number.ofText? s = some (.int n) := by
  obtain ⟨before, cs, after, hs, hbefore, hafter, hwrites⟩ := h
  have hblank : ∀ c ∈ JsonText.numeralChars, Text.isBlank c = false := List.all_iff_forall_prop.1 (by decide +kernel)
  unfold Number.ofText?
  rw [hs, Text.strip_append hbefore hafter (fun c hc => hblank c (hwrites.mem_numeralChars c hc)) hwrites.ne_nil]
  dsimp only
  rw [hwrites.read]

/-! ## The gate of an integer -/

/-- The value of an integer. -/
def Value.int (n : Int) : Value := .scalar (.number (.int n))

namespace PropertyChecker

/-- What is decided early about a value that counts as an integer. -/
def integerGate (c : PropertyChecker) (path : Path) (σ : Store) (n : Int) (v : Value) : Except Fault Early := do
  if holds c.allowed (.int n) then return .done [] (.int n)
  if holds c.denied (.int n) then
    return .done [finding path .denied "deny" ("value " ++ (σ.datum v).literal ++ " is not allowed") v] v
  if c.onlyValid then
    let shown ← (Datum.list c.allowed).written Datum.literal
    return .done [finding path .notValid "valid" ("must be one of " ++ shown) v] v
  return .goOn (.int n)

/-- A value that is an integer, or else a text of one where no text is allowed or denied, goes through the gate. -/
theorem early_eq_integerGate {c : PropertyChecker} (hc : c.kind = .number) {n : Int} {v : Value} {σ : Store}
    (hv : v ≠ .scalar .null) (hconvert : Kind.number.convert true σ v = .ok (some (.int n)))
    (hlong : (σ.datum v).isTooLong = false) (hends : c.comparesOn σ v = false)
    (hamong : ∀ data, data = c.allowed ∨ data = c.denied →
      (readings v (.int n)).any (σ.isAmong data) = holds data (.int n)) (path : Path) :
    c.early true path true σ v = c.integerGate path σ n v := by
  have hwritten : (σ.datum v).written Datum.literal = .ok (σ.datum v).literal := by
    unfold Datum.written
    rw [hlong]
    rfl
  unfold early integerGate
  rw [hc, hconvert]
  simp only [Bool.not_true, Bool.false_eq_true, ↓reduceIte, hv, hends, bind, Except.bind, pure, Except.pure, Option.getD_some,
    hamong _ (.inl rfl), hamong _ (.inr rfl), hwritten, reduceCtorEq, Bool.false_and, decide_false]

end PropertyChecker

/-! ## Saying the same -/

/-- Two violations of one constraint at one place, whatever they say and whatever value they name. -/
structure Violation.SameComplaint (x y : Violation Value) : Prop where
  path : x.path = y.path
  code : x.code = y.code
  constraint : x.constraint = y.constraint

theorem Violation.SameComplaint.refl (x : Violation Value) : x.SameComplaint x := ⟨rfl, rfl, rfl⟩

theorem sameComplaint_refl (xs : Findings) : List.Forall₂ Violation.SameComplaint xs xs :=
  List.forall₂_same.2 fun x _ => .refl x

/-- Two results that complain of the same, and count as one integer if they complain of nothing. -/
def SameOutcome (n : Int) (x y : Findings × Value) : Prop :=
  List.Forall₂ Violation.SameComplaint x.1 y.1 ∧ (x.1 = [] → x.2 = .int n ∧ y.2 = .int n)

/-- Two early decisions that say the same of an integer. -/
inductive Early.SameDecision (n : Int) : Early → Early → Prop
  | done {x y : Findings × Value} (same : SameOutcome n x y) : SameDecision n (.done x.1 x.2) (.done y.1 y.2)
  | goOn : SameDecision n (.goOn (.int n)) (.goOn (.int n))

namespace PropertyChecker

variable {c : PropertyChecker} {n : Int} {v w : Value} {path : Path} {r : Run}

/-- The gate decides the same for all values that count as one integer. -/
theorem integerGate_agrees : Agrees Eq (Early.SameDecision n) ((Check.ofExcept (c.integerGate path r.store n v)).ending r)
    ((Check.ofExcept (c.integerGate path r.store n w)).ending r) := by
  have hfinding : ∀ (code : Code) (constraint message message' : String), SameOutcome n
      ([finding path code constraint message v], v) ([finding path code constraint message' w], w) :=
    fun _ _ _ _ => ⟨.cons ⟨rfl, rfl, rfl⟩ .nil, nofun⟩
  rw [Check.ending_ofExcept, Check.ending_ofExcept]
  unfold integerGate
  by_cases hallowed : holds c.allowed (.int n) = true
  · rw [if_pos hallowed, if_pos hallowed]
    exact .done (.done (x := ([], .int n)) (y := ([], .int n)) ⟨.nil, fun _ => ⟨rfl, rfl⟩⟩) rfl
  rw [if_neg hallowed, if_neg hallowed]
  by_cases hdenied : holds c.denied (.int n) = true
  · rw [if_pos hdenied, if_pos hdenied]
    exact .done (.done (hfinding _ _ _ _)) rfl
  rw [if_neg hdenied, if_neg hdenied]
  by_cases honly : c.onlyValid = true
  · rw [if_pos honly, if_pos honly]
    cases (Datum.list c.allowed).written Datum.literal with
    | error e => exact .fault rfl
    | ok shown => exact .done (.done (hfinding _ _ _ _)) rfl
  · rw [if_neg honly, if_neg honly]
    exact .done .goOn rfl

/-- The keys beside a value are looked at in the same way, whatever the value is. -/
theorem peerFindings_agrees {parent : Option Value} : Agrees Eq (List.Forall₂ Violation.SameComplaint)
    ((Check.ofExcept (peerFindings c path r.store parent v)).ending r)
    ((Check.ofExcept (peerFindings c path r.store parent w)).ending r) := by
  have hmap : ∀ (code : Code) (constraint : String) (message : String → String) (shown : List String),
      List.Forall₂ Violation.SameComplaint (shown.map fun s => finding path code constraint (message s) v)
        (shown.map fun s => finding path code constraint (message s) w) := by
    intro code constraint message shown
    rw [List.forall₂_map_left_iff, List.forall₂_map_right_iff, List.forall₂_same]
    exact fun _ _ => ⟨rfl, rfl, rfl⟩
  rw [Check.ending_ofExcept, Check.ending_ofExcept]
  unfold peerFindings
  cases parent with
  | none => exact .done .nil rfl
  | some p =>
      dsimp only
      cases peersShown r.store p false c.peersWith with
      | error e => exact .fault rfl
      | ok absent =>
          cases peersShown r.store p true c.peersWithout with
          | error e => exact .fault rfl
          | ok present => exact .done (List.rel_append (hmap _ _ _ _) (hmap _ _ _ _)) rfl

/-- What goes through one gate ends alike: with the same fault, or with the same complaints. -/
theorem collect_agrees_of_gate {f : Follow} {ctx : Context} {parent : Option Value} (hconvert : ctx.convert = true)
    (hv : c.early true path true r.store v = c.integerGate path r.store n v)
    (hw : c.early true path true r.store w = c.integerGate path r.store n w) :
    Agrees Eq (SameOutcome n) ((c.collect f ctx path true parent v).ending r) ((c.collect f ctx path true parent w).ending r) := by
  rw [collect_eq, collect_eq]
  refine .store ?_
  rw [hconvert, hv, hw]
  refine integerGate_agrees.bind fun early early' s s' _ hsame hs => ?_
  subst hs
  cases hsame with
  | @done x y hsame => exact .done hsame rfl
  | goOn =>
      refine .store (peerFindings_agrees.bind fun xs ys t t' _ hxs ht => ?_)
      subst ht
      have hrules : Agrees Eq Eq ((Rule.runAll f ctx path c.rules (.int n)).ending t)
          ((Rule.runAll f ctx path c.rules (.int n)).ending t) := by
        rcases (Rule.runAll f ctx path c.rules (.int n)).ending t with ⟨e | found, u⟩
        · exact .fault rfl
        · exact .done rfl rfl
      refine hrules.bind fun found found' u u' _ hfound hu => ?_
      subst hfound
      subst hu
      exact .done ⟨List.rel_append hxs (sameComplaint_refl found), fun _ => ⟨rfl, rfl⟩⟩ rfl

end PropertyChecker

/-! ## What checkers of numbers do -/

/-- A rule that only looks at a number. -/
inductive Rule.Numeric : Rule → Prop
  | whole : Rule.Numeric .whole
  | fraction : Rule.Numeric .fraction
  | atLeast (m : Number) : Rule.Numeric (.atLeast (.scalar (.number m)))
  | atMost (m : Number) : Rule.Numeric (.atMost (.scalar (.number m)))

theorem Rule.Numeric.run {x : Rule} (h : x.Numeric) (f : Follow) (ctx : Context) (path : Path) (v : Value) (r : Run) :
    ∃ found, (x.run f ctx path v).ending r = (.ok found, r) := by
  cases h with
  | whole | fraction =>
      unfold Rule.run
      exact ⟨_, rfl⟩
  | atLeast m | atMost m =>
      unfold Rule.run
      exact ⟨_, rfl⟩

theorem Rule.Numeric.runAll {rules : List Rule} (h : ∀ x ∈ rules, x.Numeric) (f : Follow) (ctx : Context) (path : Path) (v : Value)
    (r : Run) : ∃ found, (Rule.runAll f ctx path rules v).ending r = (.ok found, r) := by
  induction rules with
  | nil => exact ⟨[], rfl⟩
  | cons x rest ih =>
      obtain ⟨hx, hrest⟩ := List.forall_mem_cons.1 h
      obtain ⟨found, hfound⟩ := hx.run f ctx path v r
      obtain ⟨others, hothers⟩ := ih hrest
      unfold Rule.runAll
      rw [Check.ending_bind_ok hfound, Check.ending_bind_ok hothers]
      exact ⟨_, rfl⟩

/-- What constraints ask of numbers. -/
def numberDemand (cs : List Constraint) : Demand := ⟨"Number", cs, []⟩

theorem Capabilities.compileProperty_number {caps : Capabilities} {cs : List Constraint} {types : Option (List TypeChecker)}
    {c : PropertyChecker} (h : caps.compileProperty "Number" cs types = .ok c) :
    types = none ∧ (numberDemand cs).Meets caps c := by
  obtain ⟨kind, b, hkind, hcs, hrest⟩ := compileProperty_eq_ok h
  obtain rfl : Kind.number = kind := Option.some.inj (kindNamed_eq_ok hkind)
  rcases hrest with ⟨hnone, rfl⟩ | ⟨_, _, hobject, _⟩
  · exact ⟨hnone, Demand.Meets.compile (q := numberDemand cs) rfl hcs⟩
  · cases hobject

theorem Demand.Meets.kind_number {caps : Capabilities} {cs : List Constraint} {c : PropertyChecker}
    (h : (numberDemand cs).Meets caps c) : c.kind = .number := (Option.some.inj h.kind).symm

/-- By the standard capabilities, the rules of a property of numbers only look at the number. -/
theorem Demand.Meets.numeric {cs : List Constraint} {c : PropertyChecker} (h : (numberDemand cs).Meets .standard c)
    (hc : c.Standard) : ∀ x ∈ c.rules, x.Numeric := by
  intro x hx
  obtain ⟨k, _, m, hm, hadds⟩ := List.Forall₂.exists_of_mem_right h.rules hx
  have hown : (k.method, m) ∈ Method.own .number ++ Method.base := Method.ofName?_mem hm
  have hlimit := hc.limits x hx
  cases hadds with
  | whole => exact .whole
  | fraction => exact .fraction
  | atLeast hfirst _ =>
      obtain ⟨l, rfl⟩ := hlimit _ rfl
      exact .atLeast l
  | atMost hfirst _ =>
      obtain ⟨l, rfl⟩ := hlimit _ rfl
      exact .atMost l
  | _ => simp [Method.own, Method.base] at hown

/-! ## Texts and integers at one gate -/

theorem Store.isAmong_int (σ : Store) (data : List Datum) (n : Int) :
    σ.isAmong data (.int n) = PropertyChecker.holds data (.int n) :=
  ((Store.IsTree.scalar _).isAmong_eq data).trans (congrArg _ (Store.datum_scalar σ _))

/-- A text is not the same as anything but a text. -/
theorem Store.isAmong_text (σ : Store) {data : List Datum} (h : ∀ d ∈ data, d.text? = none) (s : String) :
    σ.isAmong data (.scalar (.text s)) = false := by
  rw [(Store.IsTree.scalar _).isAmong_eq data, Store.datum_scalar, Bool.eq_false_iff]
  intro hholds
  obtain ⟨d, hd, hsame⟩ := Demand.holds_iff.1 hholds
  have htext := h d hd
  unfold Datum.same at hsame
  rw [Bool.and_eq_true] at hsame
  cases d with
  | scalar a =>
      obtain ⟨_, heq, hequal⟩ := Datum.equals_scalar_iff.1 hsame.2
      cases heq
      have hsense := (Scalar.equals_iff.1 hequal).2
      cases a with
      | text => cases htext
      | bool | number =>
          unfold Scalar.sense? at hsense
          obtain ⟨x, _, hx⟩ := Option.map_eq_some_iff.1 hsense
          cases hx
      | _ => cases hsense
  | _ => simp [Datum.equals] at hsame

theorem mem_of_mem_standing {sense : Bool} {ms : List (Datum × Bool)} : ∀ d ∈ Demand.standing sense ms, ∃ m ∈ ms, m.1 = d := by
  induction ms using List.reverseRecOn with
  | nil => exact nofun
  | append_singleton ms m ih =>
      obtain ⟨a, s⟩ := m
      have hbefore : ∀ d ∈ Demand.standing sense ms, ∃ m ∈ ms ++ [(a, s)], m.1 = d := by
        intro d hd
        obtain ⟨m, hm, heq⟩ := ih d hd
        exact ⟨m, List.mem_append_left _ hm, heq⟩
      intro d hd
      rw [Demand.standing_append] at hd
      split at hd
      · unfold PropertyChecker.including at hd
        split at hd
        · exact hbefore d hd
        · rcases List.mem_append.1 hd with hd | hd
          · exact hbefore d hd
          · exact ⟨(a, s), List.mem_append_right _ (List.mem_singleton_self _), (List.mem_singleton.1 hd).symm⟩
      · exact hbefore d (List.mem_filter.1 hd).1

section Gate

variable {cs : List Constraint} {caps : Capabilities} {c : PropertyChecker} {n : Int} {s : String}

theorem Kind.convert_int (hn : (Number.int n).isFinite? = some true) (σ : Store) :
    Kind.number.convert true σ (.int n) = .ok (some (.int n)) := by
  have hfinite := finite?_of_not_oversized (n := .int n) (by rw [hn]; nofun)
  rw [hn] at hfinite
  exact hfinite

/-- The text of an integer counts as the integer, without rounding. -/
theorem Kind.convert_writesInteger (hn : (Number.int n).isFinite? = some true) (hs : Text.WritesInteger s n) (σ : Store) :
    Kind.number.convert true σ (.scalar (.text s)) = .ok (some (.int n)) := by
  rw [Kind.convert_number_text, hs.ofText?]
  exact Kind.convert_int hn σ

theorem Demand.Meets.early_int (h : (numberDemand cs).Meets caps c) (hn : (Number.int n).isFinite? = some true) (σ : Store)
    (path : Path) : c.early true path true σ (.int n) = c.integerGate path σ n (.int n) := by
  refine PropertyChecker.early_eq_integerGate (v := .int n) h.kind_number nofun (Kind.convert_int hn σ) ?_
    ((Store.acyclic_scalar _).comparesOn c) (fun data _ => ?_) path
  · have hshort : ∀ k, n.natAbs < 10 ^ k → decide (Nat.pow 10 k ≤ n.natAbs) = false :=
      fun k hk => decide_eq_false (Nat.not_le.2 hk)
    rw [Value.int, Store.datum_scalar]
    unfold Datum.isTooLong Scalar.isTooLong
    exact hshort _ (Number.natAbs_lt_of_isFinite? hn)
  · unfold readings
    rw [if_pos rfl, List.any_cons, List.any_nil, Bool.or_false, Store.isAmong_int]

theorem Demand.Meets.early_text (h : (numberDemand cs).Meets caps c) (htexts : ∀ m ∈ (numberDemand cs).mentions, m.1.text? = none)
    (hn : (Number.int n).isFinite? = some true) (hs : Text.WritesInteger s n) (σ : Store) (path : Path) :
    c.early true path true σ (.scalar (.text s)) = c.integerGate path σ n (.scalar (.text s)) := by
  have hnone : ∀ data, data = c.allowed ∨ data = c.denied → ∀ d ∈ data, d.text? = none := by
    rintro data (rfl | rfl) d hd
    · rw [h.allowed] at hd
      obtain ⟨m, hm, rfl⟩ := mem_of_mem_standing d hd
      exact htexts m hm
    · rw [h.denied] at hd
      obtain ⟨m, hm, rfl⟩ := mem_of_mem_standing d hd
      exact htexts m hm
  have hconvert := Kind.convert_writesInteger hn hs σ
  refine PropertyChecker.early_eq_integerGate (v := .scalar (.text s)) h.kind_number nofun hconvert ?_
    ((Store.acyclic_scalar _).comparesOn c) (fun data hdata => ?_) path
  · rw [Store.datum_scalar]
    rfl
  · have hother : (Value.int n) ≠ .scalar (.text s) := nofun
    unfold readings
    rw [if_neg hother, List.any_cons, List.any_cons, List.any_nil, Bool.or_false, Store.isAmong_text σ (hnone data hdata),
      Bool.false_or, Store.isAmong_int]

/-- Nothing can be said of an integer: it is neither allowed nor denied, only allowed values pass, and these are too long to be
written in a message. -/
def Demand.Chokes (q : Demand) (n : Int) : Prop :=
  q.Asks .valid ∧ PropertyChecker.holds (standing true q.mentions) (.int n) = false ∧
    PropertyChecker.holds (standing false q.mentions) (.int n) = false ∧
    (Datum.list (standing true q.mentions)).isTooLong = true

theorem Demand.Meets.gate_fault_iff (h : (numberDemand cs).Meets caps c) (path : Path) (σ : Store) (v : Value) :
    (∃ e, c.integerGate path σ n v = .error e) ↔ (numberDemand cs).Chokes n := by
  have hok : ∀ x : Early, ¬ ∃ e, (pure x : Except Fault Early) = .error e := by
    rintro x ⟨e, he⟩
    cases he
  unfold PropertyChecker.integerGate Demand.Chokes
  rw [← h.allowed, ← h.denied, ← h.onlyValid]
  by_cases hallowed : PropertyChecker.holds c.allowed (.int n) = true
  · rw [if_pos hallowed, hallowed]
    refine ⟨fun he => absurd he (hok _), ?_⟩
    rintro ⟨_, hnot, _⟩
    cases hnot
  rw [if_neg hallowed]
  by_cases hdenied : PropertyChecker.holds c.denied (.int n) = true
  · rw [if_pos hdenied, hdenied]
    refine ⟨fun he => absurd he (hok _), ?_⟩
    rintro ⟨_, _, hnot, _⟩
    cases hnot
  rw [if_neg hdenied]
  by_cases honly : c.onlyValid = true
  · rw [if_pos honly]
    unfold Datum.written
    by_cases hlong : (Datum.list c.allowed).isTooLong = true
    · rw [if_pos hlong]
      exact ⟨fun _ => ⟨honly, Bool.eq_false_iff.2 hallowed, Bool.eq_false_iff.2 hdenied, hlong⟩, fun _ => ⟨_, rfl⟩⟩
    · rw [if_neg hlong]
      exact ⟨fun he => absurd he (hok _), fun hchokes => absurd hchokes.2.2.2 hlong⟩
  · rw [if_neg honly]
    exact ⟨fun he => absurd he (hok _), fun hchokes => absurd hchokes.1 honly⟩

/-- By the standard capabilities, nothing behind the gate ends in a fault. -/
theorem Demand.Meets.collect_fault_iff (h : (numberDemand cs).Meets .standard c) (hc : c.Standard) {v : Value} {f : Follow}
    {ctx : Context} {path : Path} {parent : Option Value} {r : Run} (hconvert : ctx.convert = true)
    (hparent : ∀ p ∈ parent, r.store.isMapping p = true)
    (hearly : c.early true path true r.store v = c.integerGate path r.store n v) :
    (∃ e, ((c.collect f ctx path true parent v).ending r).1 = .error e) ↔ (numberDemand cs).Chokes n := by
  rw [← h.gate_fault_iff path r.store v, PropertyChecker.collect_eq, Check.ending_bind_ok (Check.ending_store r), hconvert, hearly]
  cases c.integerGate path r.store n v with
  | error e => exact ⟨fun _ => ⟨e, rfl⟩, fun _ => ⟨e, rfl⟩⟩
  | ok early =>
      have hnone : ¬ ∃ e, Except.ok early = (Except.error e : Except Fault Early) := by
        rintro ⟨e, he⟩
        cases he
      refine iff_of_false ?_ hnone
      rintro ⟨e, he⟩
      rw [Check.ending_bind_ok (Check.ending_ofExcept _ r)] at he
      cases early with
      | done found w => cases he
      | goOn w =>
          obtain ⟨peers, hpeers⟩ := peerFindings_text hc hparent path v
          obtain ⟨found, hfound⟩ := Rule.Numeric.runAll (h.numeric hc) f ctx path w r
          dsimp only at he
          rw [Check.ending_bind_ok (Check.ending_store r), hpeers, Check.ending_bind_ok (Check.ending_ofExcept _ r),
            Check.ending_bind_ok hfound] at he
          cases he

end Gate

/-- A text that writes an integer counts as this integer, and a property of numbers that mentions no texts says the same of both:
it ends in one fault, or complains of the same, and what it does not complain of counts as the integer. By the standard
capabilities the fault is that nothing can be said of the integer. -/
theorem Capabilities.compileProperty_integerText {caps : Capabilities} {cs : List Constraint} {types : Option (List TypeChecker)}
    {c : PropertyChecker} (hc : caps.compileProperty "Number" cs types = .ok c)
    (htexts : ∀ m ∈ (numberDemand cs).mentions, m.1.text? = none) {n : Int} (hn : (Number.int n).isFinite? = some true) :
    (∀ before after : List Char, (∀ b ∈ before, Text.isBlank b = true) → (∀ b ∈ after, Text.isBlank b = true) →
      Text.WritesInteger (String.ofList (before ++ (toString n).toList ++ after)) n) ∧
    ∀ s, Text.WritesInteger s n →
      (∀ σ, Kind.number.convert true σ (.scalar (.text s)) = .ok (some (.int n))) ∧
      ∀ (f : Follow) (ctx : Context) (path : Path) (parent : Option Value) (r : Run), ctx.convert = true →
        let onText := (c.collect f ctx path true parent (.scalar (.text s))).ending r
        let onInteger := (c.collect f ctx path true parent (.int n)).ending r
        Agrees Eq (SameOutcome n) onText onInteger ∧
        (caps = .standard → (∀ p ∈ parent, r.store.isMapping p = true) →
          ((∃ e, onText.1 = .error e) ↔ (numberDemand cs).Chokes n)) := by
  obtain ⟨rfl, hmeets⟩ := compileProperty_number hc
  refine ⟨fun before after hbefore hafter => ?_, fun s hs => ⟨Kind.convert_writesInteger hn hs, ?_⟩⟩
  · have hwrites := Numeral.writes_toString (Number.natAbs_lt_of_isFinite? hn)
    exact ⟨before, (toString n).toList, after, String.toList_ofList, hbefore, hafter, hwrites⟩
  · intro f ctx path parent r hconvert
    have htext := hmeets.early_text htexts hn hs r.store path
    refine ⟨PropertyChecker.collect_agrees_of_gate hconvert htext (hmeets.early_int hn r.store path), ?_⟩
    rintro rfl hparent
    have hevery := compileProperty_every PropertyChecker.standard_settles rfl (fun _ hts => by cases hts) hc
    exact hmeets.collect_fault_iff (PropertyChecker.every_iff.1 hevery).1 hconvert hparent htext

/-- A property that lets one integer pass, which is between two doubles. -/
def betweenDoubles : List Constraint := [⟨"valid", [.int 9007199254740993]⟩, ⟨"integer", []⟩]

theorem betweenDoubles_integerText : ∃ c, Capabilities.standard.compileProperty "Number" betweenDoubles none = .ok c ∧
    (∀ σ, Kind.number.convert true σ (.scalar (.text "\t9007199254740993 \n")) = .ok (some (.int 9007199254740993))) ∧
    ∀ (f : Follow) (path : Path) (r : Run), ∃ x y s t,
      (c.collect f ⟨64, true, 0, []⟩ path true none (.scalar (.text "\t9007199254740993 \n"))).ending r = (.ok x, s) ∧
      (c.collect f ⟨64, true, 0, []⟩ path true none (.int 9007199254740993)).ending r = (.ok y, t) ∧ s = t ∧
      SameOutcome 9007199254740993 x y := by
  obtain ⟨c, hc⟩ : ∃ c, Capabilities.standard.compileProperty "Number" betweenDoubles none = .ok c := ⟨_, rfl⟩
  have htexts : ∀ m ∈ (numberDemand betweenDoubles).mentions, m.1.text? = none := by
    rw [show (numberDemand betweenDoubles).mentions = [(.int 9007199254740993, true)] from rfl]
    exact List.forall_mem_singleton.2 rfl
  have hfinite : (Number.int 9007199254740993).isFinite? = some true := by decide +kernel
  obtain ⟨hprints, hreads⟩ := Capabilities.compileProperty_integerText hc htexts hfinite
  have hbefore : ∀ b ∈ ['\t'], Text.isBlank b = true := List.forall_mem_singleton.2 (by decide)
  have hafter : ∀ b ∈ [' ', '\n'], Text.isBlank b = true :=
    List.forall_mem_cons.2 ⟨by decide, List.forall_mem_singleton.2 (by decide)⟩
  have hwrites := hprints ['\t'] [' ', '\n'] hbefore hafter
  rw [show String.ofList _ = "\t9007199254740993 \n" by decide +kernel] at hwrites
  obtain ⟨hconvert, hcollect⟩ := hreads _ hwrites
  refine ⟨c, hc, hconvert, fun f path r => ?_⟩
  obtain ⟨hagrees, hfault⟩ := hcollect f ⟨64, true, 0, []⟩ path none r rfl
  have hspeaks : ¬ (numberDemand betweenDoubles).Chokes 9007199254740993 := by
    rintro ⟨_, hallowed, _⟩
    revert hallowed
    decide +kernel
  have hgiven := mt (hfault rfl nofun).1 hspeaks
  revert hagrees hgiven
  generalize (c.collect f ⟨64, true, 0, []⟩ path true none (.scalar (.text "\t9007199254740993 \n"))).ending r = onText
  generalize (c.collect f ⟨64, true, 0, []⟩ path true none (.int 9007199254740993)).ending r = onInteger
  intro hagrees hgiven
  cases hagrees with
  | done hsame hruns => exact ⟨_, _, _, _, rfl, rfl, hruns, hsame⟩
  | fault _ => exact absurd ⟨_, rfl⟩ hgiven

/-- A property that lets one integer pass, which is too long to be named, ends in a fault where it should say that another one does
not pass: for its text as for the integer. -/
theorem longConstant_chokes : ∃ c, Capabilities.standard.compileProperty "Number" [⟨"valid", [.int (10 ^ 4300)]⟩] none = .ok c ∧
    Text.WritesInteger "5" 5 ∧ (Number.int 5).isFinite? = some true ∧
    ∀ (f : Follow) (path : Path) (r : Run),
      (∃ e, ((c.collect f ⟨64, true, 0, []⟩ path true none (.scalar (.text "5"))).ending r).1 = .error e) ∧
      ∃ e, ((c.collect f ⟨64, true, 0, []⟩ path true none (.int 5)).ending r).1 = .error e := by
  obtain ⟨c, hc⟩ : ∃ c, Capabilities.standard.compileProperty "Number" [⟨"valid", [.int (10 ^ 4300)]⟩] none = .ok c := ⟨_, rfl⟩
  have hfinite : (Number.int 5).isFinite? = some true := by decide +kernel
  have hwrites : Text.WritesInteger "5" 5 :=
    ⟨[], ['5'], [], by decide +kernel, nofun, nofun, .unsigned (by decide) (List.forall_mem_singleton.2 (by decide)) (by decide)⟩
  obtain ⟨_, hmeets⟩ := Capabilities.compileProperty_number hc
  have hstandard := (PropertyChecker.every_iff.1
    (Capabilities.compileProperty_every PropertyChecker.standard_settles rfl (fun _ hts => by cases hts) hc)).1
  have htexts : ∀ m ∈ (numberDemand [⟨"valid", [.int (10 ^ 4300)]⟩]).mentions, m.1.text? = none := by
    rw [show (numberDemand [⟨"valid", [.int (10 ^ 4300)]⟩]).mentions = [(.int (10 ^ 4300), true)] from rfl]
    exact List.forall_mem_singleton.2 rfl
  have hchokes : (numberDemand [⟨"valid", [.int (10 ^ 4300)]⟩]).Chokes 5 :=
    ⟨⟨⟨"valid", [.int (10 ^ 4300)]⟩, List.mem_singleton_self _, rfl⟩, by decide +kernel, by decide +kernel, by decide +kernel⟩
  have hends : ∀ (f : Follow) (path : Path) (r : Run) (v : Value),
      c.early true path true r.store v = c.integerGate path r.store 5 v →
      ∃ e, ((c.collect f ⟨64, true, 0, []⟩ path true none v).ending r).1 = .error e :=
    fun _ _ _ _ h => (hmeets.collect_fault_iff hstandard rfl (fun _ hp => by cases hp) h).2 hchokes
  refine ⟨c, hc, hwrites, hfinite, fun f path r => ⟨?_, ?_⟩⟩
  · exact hends f path r _ (hmeets.early_text htexts hfinite hwrites r.store path)
  · exact hends f path r _ (hmeets.early_int hfinite r.store path)

end ShapeCheck
