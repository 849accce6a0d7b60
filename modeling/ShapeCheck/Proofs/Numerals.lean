import Mathlib.Data.Bool.AllAny
import Mathlib.Data.Fintype.Basic
import Mathlib.Tactic.FinCases
import ShapeCheck.Proofs.JsonTexts

/-!
# Numbers of JSON as plain scalars

A number of JSON is told from all other plain scalars by whether it has a fraction and an exponent (`ofText_chars`, `isFloat_chars`,
`isInt_chars`), and it is read as `Decimal.read` says (`Decimal.reads`): an integer, or the nearest double, where the sign is put on
afterwards, or only its text.
-/

namespace ShapeCheck.JsonText

open Yaml

/-! ## Characters of numbers -/

def numeralChars : List Char := "0123456789.eE+-".toList

theorem mem_numeralChars_digit : ∀ d : Fin 10, d.val.digitChar ∈ numeralChars := by decide

theorem plainChar_eq : ∀ c ∈ numeralChars, Numeral.plainChar c = c := List.all_iff_forall_prop.1 (by decide +kernel)

theorem isLoose_digit : ∀ d : Fin 10, isLoose Char.isDigit d.val.digitChar = true := by decide

theorem isDigit_digit : ∀ d : Fin 10, d.val.digitChar.isDigit = true := by decide

/-- What no character of a number is. -/
theorem not_mem_numeralChars : '_' ∉ numeralChars ∧ ':' ∉ numeralChars ∧ '\n' ∉ numeralChars := by decide

theorem lowercase_eq : ∀ c ∈ numeralChars, c ≠ 'Σ' ∧ c ≠ 'İ' ∧ Char.ofNat (Text.lowerCode c.toNat) = c.toLower :=
  List.all_iff_forall_prop.1 (by decide +kernel)

theorem lowercaseAfter_eq : ∀ {cs : List Char} (before : List Char), (∀ c ∈ cs, c ∈ numeralChars) →
    Text.lowercaseAfter before cs = cs.map Char.toLower
  | [], _, _ => rfl
  | c :: rest, before, h => by
    obtain ⟨hsigma, hdotted, hlower⟩ := lowercase_eq c (h c (List.mem_cons_self ..))
    rw [Text.lowercaseAfter, if_neg hsigma, if_neg hdotted, hlower,
      lowercaseAfter_eq _ fun d hd => h d (List.mem_cons_of_mem _ hd)]
    rfl

variable {ds : List (Fin 10)} {rest : List Char}

theorem digitChars_append (ds es : List (Fin 10)) : digitChars (ds ++ es) = digitChars ds ++ digitChars es := List.map_append

theorem forall_digitChars {p : Char → Prop} (h : ∀ d : Fin 10, p d.val.digitChar) : ∀ c ∈ digitChars ds, p c := by
  intro c hc
  obtain ⟨d, -, rfl⟩ := List.mem_map.1 hc
  exact h d

/-- Digits are taken up to the first character that is none. -/
theorem takeWhile_digits {test : Char → Bool} (htest : ∀ d : Fin 10, test d.val.digitChar = true)
    (hrest : ∀ c ∈ rest.head?, test c = false) :
    (digitChars ds ++ rest).takeWhile test = digitChars ds ∧ (digitChars ds ++ rest).dropWhile test = rest := by
  rw [List.takeWhile_append_of_pos (forall_digitChars htest), List.dropWhile_append_of_pos (forall_digitChars htest)]
  cases rest with
  | nil => exact ⟨List.append_nil _, rfl⟩
  | cons c rest =>
    have hc := hrest c rfl
    rw [List.takeWhile_cons_of_neg (by rw [hc]; exact Bool.false_ne_true),
      List.dropWhile_cons_of_neg (by rw [hc]; exact Bool.false_ne_true)]
    exact ⟨List.append_nil _, rfl⟩

theorem colon_not_mem (ds : List (Fin 10)) : ':' ∉ digitChars ds := fun hmem =>
  not_mem_numeralChars.2.1 (forall_digitChars mem_numeralChars_digit _ hmem)

theorem digitsValue_digitChars (ds : List (Fin 10)) : Numeral.digitsValue 10 (digitChars ds) = decimalValue ds := by
  have hdigit : ∀ (d : Fin 10) (n : Nat), 10 * n + (if d.val.digitChar.isDigit then d.val.digitChar.toNat - '0'.toNat
      else if 'a' ≤ d.val.digitChar && d.val.digitChar ≤ 'f' then d.val.digitChar.toNat - 'a'.toNat + 10
      else if 'A' ≤ d.val.digitChar && d.val.digitChar ≤ 'F' then d.val.digitChar.toNat - 'A'.toNat + 10 else 0) =
        10 * n + d.val := by
    intro d n
    rw [if_pos (isDigit_digit d)]
    exact congrArg (10 * n + ·) (Nat.toNat_digitChar_sub_48_of_lt_ten d.isLt)
  unfold Numeral.digitsValue decimalValue digitChars
  rw [List.foldl_map]
  exact congrArg (fun f => List.foldl f 0 ds) (funext fun n => funext fun d => hdigit d n)

/-! ## Texts that begin with a digit -/

theorem dropSign_digit (d : Fin 10) (rest : List Char) : dropSign (d.val.digitChar :: rest) = d.val.digitChar :: rest := by
  fin_cases d <;> rfl

theorem takeSign_digit (d : Fin 10) (rest : List Char) :
    Numeral.takeSign (d.val.digitChar :: rest) = (false, d.val.digitChar :: rest) := by
  fin_cases d <;> rfl

theorem signed_digit {α : Type} (read : List Char → Except Error α) (neg : α → α) (d : Fin 10) (rest : List Char) :
    signed read neg (d.val.digitChar :: rest) = read (d.val.digitChar :: rest) := by
  fin_cases d <;> rfl

theorem unsignedInt_digit {d : Fin 10} (hd : d ≠ 0) (h : ':' ∉ d.val.digitChar :: rest) :
    unsignedInt (d.val.digitChar :: rest) = intIn 10 (d.val.digitChar :: rest) := by
  have hsplit : splitOn ':' (d.val.digitChar :: rest) = [d.val.digitChar :: rest] := splitAtChar_of_not_mem h
  fin_cases d
  · exact absurd rfl hd
  all_goals
    unfold unsignedInt
    dsimp only at hsplit ⊢
    rw [hsplit]
    rfl

/-- What begins with a digit or a minus is not among words of which none does. -/
theorem contains_eq_false {ws : List String}
    (hws : (ws.all fun w => w.toList.head?.all fun c => decide (c ∉ "-0123456789".toList)) = true)
    {c : Char} (hc : c ∈ "-0123456789".toList) : ws.contains (String.ofList (c :: rest)) = false := by
  rw [List.contains_eq_mem, decide_eq_false_iff_not]
  intro hmem
  have hword := List.all_eq_true.1 hws _ hmem
  rw [@String.toList_ofList (c :: rest)] at hword
  exact of_decide_eq_true hword hc

theorem mem_starts_digit : ∀ d : Fin 10, d.val.digitChar ∈ "-0123456789".toList := by decide

/-! ## Integers -/

theorem dropWhile_isMargin : ∀ {cs : List Char}, (∀ c ∈ cs, c ∈ numeralChars) → cs.dropWhile Numeral.isMargin = cs
  | [], _ => rfl
  | c :: rest, h => by
    have hmargin : ∀ c ∈ numeralChars, ¬ Numeral.isMargin c = true := List.all_iff_forall_prop.1 (by decide)
    exact List.dropWhile_cons_of_neg (hmargin c (h c (List.mem_cons_self ..)))

theorem plain_eq {cs : List Char} (h : ∀ c ∈ cs, c ∈ numeralChars) : Numeral.plain cs = cs := by
  unfold Numeral.plain
  rw [List.map_congr_left fun c hc => plainChar_eq c (h c hc), List.map_id', dropWhile_isMargin h]

theorem takeDigits?_digitChars (ds : List (Fin 10)) :
    Numeral.takeDigits? 10 false (digitChars ds) = some (digitChars ds, []) := by
  have hdigit : ∀ d : Fin 10, Numeral.isDigitIn 10 d.val.digitChar = true := by decide
  induction ds with
  | nil => rfl
  | cons d ds ih =>
    change Numeral.takeDigits? 10 false (d.val.digitChar :: digitChars ds) = _
    rw [Numeral.takeDigits?, if_pos (hdigit d), ih]
    rfl

theorem dropBase_ten (cs : List Char) : Numeral.dropBase 10 cs = cs := by
  unfold Numeral.dropBase
  split
  · exact if_neg nofun
  · rfl

theorem intIn_digitChars (d : Fin 10) (h : (d :: ds).length ≤ Numeral.integerDigitLimit) :
    intIn 10 (digitChars (d :: ds)) = .ok (decimalValue (d :: ds)) := by
  have hread : Numeral.readIntegerIn 10 (digitChars (d :: ds)) = .value (decimalValue (d :: ds)) := by
    have hunderscore : ∀ d : Fin 10, d.val.digitChar ≠ '_' := by decide
    unfold Numeral.readIntegerIn
    rw [plain_eq (forall_digitChars mem_numeralChars_digit)]
    have hsign : Numeral.takeSign (digitChars (d :: ds)) = (false, digitChars (d :: ds)) := takeSign_digit d _
    rw [hsign]
    dsimp only
    rw [dropBase_ten]
    split
    · next heq => exact absurd (List.cons.inj heq).1 (hunderscore d)
    · rw [takeDigits?_digitChars]
      have hlength : (digitChars (d :: ds)).length = (d :: ds).length := List.length_map _
      dsimp only
      rw [hlength, decide_eq_false (Nat.not_lt.2 h), digitsValue_digitChars]
      rfl
  unfold intIn
  rw [hread]

/-! ## Doubles -/

theorem neg_ofDecimal (digits : Nat) (exponent : Int) :
    (Binary64.ofDecimal false digits exponent).neg = Binary64.ofDecimal true digits exponent := by
  have hratio : ∀ num den, (Binary64.ofRatio false num den).neg = Binary64.ofRatio true num den := by
    intro num den
    unfold Binary64.ofRatio
    dsimp only
    split
    · rfl
    · split <;>
      · dsimp only
        split <;> rfl
  unfold Binary64.ofDecimal
  dsimp only
  split
  · rfl
  · split
    · rfl
    · split
      · rfl
      · split <;> exact hratio ..

theorem exists_unsignedChars (n : Decimal) : ∃ rest, n.unsignedChars = n.whole.first.val.digitChar :: rest := ⟨_, rfl⟩

/-- A text with a sign or not has the value of what stands behind the sign. -/
theorem signed_chars {α : Type} (read : List Char → Except Error α) (neg : α → α) (n : Decimal) {a : α}
    (h : read n.unsignedChars = .ok a) : signed read neg n.chars = .ok (if n.negative then neg a else a) := by
  obtain ⟨rest, hrest⟩ := exists_unsignedChars n
  unfold Decimal.chars
  cases n.negative with
  | true =>
    change (read n.unsignedChars).map neg = _
    rw [h]
    rfl
  | false =>
    rw [if_neg Bool.false_ne_true, hrest, signed_digit, ← hrest, h]
    rfl

theorem dropSign_chars (n : Decimal) : dropSign n.chars = n.unsignedChars := by
  obtain ⟨rest, hrest⟩ := exists_unsignedChars n
  unfold Decimal.chars
  cases n.negative with
  | true => rfl
  | false => rw [if_neg Bool.false_ne_true, hrest, dropSign_digit]

/-- The first character of a number is a digit or a minus. -/
theorem exists_chars (n : Decimal) : ∃ c rest, n.chars = c :: rest ∧ c ∈ "-0123456789".toList := by
  obtain ⟨rest, hrest⟩ := exists_unsignedChars n
  unfold Decimal.chars
  cases n.negative with
  | true => exact ⟨'-', n.unsignedChars, rfl, by decide⟩
  | false => exact ⟨_, rest, hrest, mem_starts_digit _⟩

theorem mem_unsignedChars (n : Decimal) : ∀ c ∈ n.unsignedChars, c ∈ numeralChars := by
  have hdigits : ∀ ds : Digits, ∀ c ∈ ds.chars, c ∈ numeralChars := fun ds => forall_digitChars mem_numeralChars_digit
  have hfraction : ∀ c ∈ Decimal.fractionChars n.fraction, c ∈ numeralChars := by
    cases n.fraction with
    | none => exact nofun
    | some ds => exact List.forall_mem_cons.2 ⟨by decide, hdigits ds⟩
  have hexponent : ∀ c ∈ Decimal.exponentChars n.exponent, c ∈ numeralChars := by
    cases n.exponent with
    | none => exact nofun
    | some e =>
      have hletter : ∀ capital : Bool, (if capital then 'E' else 'e') ∈ numeralChars := by decide
      have hsign : ∀ sign : Option Bool, ∀ c ∈ Exponent.signChars sign, c ∈ numeralChars := by
        rintro (_ | _ | _) <;> exact List.all_iff_forall_prop.1 (by decide)
      exact List.forall_mem_cons.2 ⟨hletter _, List.forall_mem_append.2 ⟨hsign _, hdigits e.digits⟩⟩
  exact List.forall_mem_append.2 ⟨hdigits n.whole, List.forall_mem_append.2 ⟨hfraction, hexponent⟩⟩

theorem mem_chars (n : Decimal) : ∀ c ∈ n.chars, c ∈ numeralChars := by
  unfold Decimal.chars
  cases n.negative with
  | true => exact List.forall_mem_cons.2 ⟨by decide, mem_unsignedChars n⟩
  | false => exact mem_unsignedChars n

/-! ## Telling numbers from other scalars -/

/-- What stands behind the whole part. -/
def tailChars (n : Decimal) : List Char := Decimal.fractionChars n.fraction ++ Decimal.exponentChars n.exponent

theorem unsignedChars_eq (n : Decimal) :
    n.unsignedChars = n.whole.first.val.digitChar :: (digitChars n.whole.more ++ tailChars n) := rfl

theorem head_exponentChars {test : Char → Bool} (hsmall : test 'e' = false) (hcapital : test 'E' = false) (e : Option Exponent) :
    ∀ c ∈ (Decimal.exponentChars e).head?, test c = false := by
  intro c hc
  match e, hc with
  | some e, hc =>
    cases hc
    split
    · exact hcapital
    · exact hsmall

theorem head_tailChars {test : Char → Bool} (hpoint : test '.' = false) (hsmall : test 'e' = false) (hcapital : test 'E' = false)
    (n : Decimal) : ∀ c ∈ (tailChars n).head?, test c = false := by
  unfold tailChars
  cases n.fraction with
  | none => exact head_exponentChars hsmall hcapital _
  | some ds =>
    intro c hc
    cases hc
    exact hpoint

/-! ### Doubles -/

/-- An exponent is one of YAML if it has a sign. -/
theorem isExponentOrEnd_chars (e : Exponent) : isExponentOrEnd e.chars = e.sign.isSome := by
  have hdigits : ∀ ds : Digits, ds.chars.all Char.isDigit = true := fun ds => List.all_eq_true.2 (forall_digitChars isDigit_digit)
  have hsign : ∀ d : Fin 10, (decide (d.val.digitChar = '+') || decide (d.val.digitChar = '-')) = false := by decide
  have hletter : ∀ capital : Bool,
      (decide ((if capital then 'E' else 'e') = 'e') || decide ((if capital then 'E' else 'e') = 'E')) = true := by
    decide
  obtain ⟨capital, sign, ds⟩ := e
  cases sign with
  | none =>
    change ((_ || _) && (_ || _) && !(digitChars ds.more).isEmpty && (digitChars ds.more).all Char.isDigit) = false
    rw [hsign, Bool.and_false]
    rfl
  | some negative =>
    have hboth : ∀ negative : Bool,
        isExponentOrEnd ((if capital then 'E' else 'e') :: (Exponent.signChars (some negative) ++ ds.chars)) =
        true := by
      rintro (_ | _) <;>
      · change ((_ || _) && _ && !ds.chars.isEmpty && ds.chars.all Char.isDigit) = true
        rw [hletter, hdigits]
        rfl
    exact hboth negative

/-- A number is a double of YAML if it has a fraction, and each exponent has a sign. -/
theorem isFloat_chars (n : Decimal) : isFloat n.chars = (n.fraction.isSome && n.isFaithful) := by
  obtain ⟨c, rest, hchars, hc⟩ := exists_chars n
  have hinf : [".inf", ".Inf", ".INF"].contains (String.ofList (dropSign n.chars)) = false := by
    rw [dropSign_chars, unsignedChars_eq]
    exact contains_eq_false (by decide) (mem_starts_digit _)
  have hnan : [".nan", ".NaN", ".NAN"].contains (String.ofList n.chars) = false := by
    rw [hchars]
    exact contains_eq_false (by decide) hc
  unfold isFloat
  dsimp only
  rw [hinf, hnan, Bool.false_or, Bool.false_or]
  split
  · next heq =>
    rw [hchars] at heq
    cases heq
    exact absurd hc (by decide)
  · rw [dropSign_chars, unsignedChars_eq]
    dsimp only
    rw [isDigit_digit, Bool.true_and, (takeWhile_digits isLoose_digit (head_tailChars rfl rfl rfl n)).2]
    unfold Decimal.isFaithful tailChars
    cases n.fraction with
    | none =>
      cases n.exponent with
      | none => rfl
      | some e =>
        obtain ⟨capital, sign, ds⟩ := e
        cases capital <;> rfl
    | some ds =>
      change isExponentOrEnd ((digitChars ds.all ++ Decimal.exponentChars n.exponent).dropWhile _) = _
      rw [(takeWhile_digits isLoose_digit (head_exponentChars rfl rfl _)).2]
      cases n.exponent with
      | none => rfl
      | some e => exact isExponentOrEnd_chars e

/-! ### Integers -/

theorem eq_zero_of_digitChar : ∀ d : Fin 10, d.val.digitChar = '0' → d = 0 := by decide

/-- Digits that do not begin with a zero are an integer of YAML. -/
theorem isInt_digits {cs : List Char} {d : Fin 10} (hd : d ≠ 0) (h : dropSign cs = digitChars (d :: ds)) : isInt cs = true := by
  have hsplit : splitOn ':' (digitChars ds) = [digitChars ds] := splitAtChar_of_not_mem (colon_not_mem ds)
  have hloose : (digitChars ds).all (isLoose Char.isDigit) = true := List.all_eq_true.2 (forall_digitChars isLoose_digit)
  have hzero : d.val.digitChar ≠ '0' := fun heq => hd (eq_zero_of_digitChar d heq)
  have hcons : digitChars (d :: ds) = d.val.digitChar :: digitChars ds := List.map_cons
  unfold isInt
  rw [h, hcons]
  split
  · rfl
  · next heq => exact absurd (List.cons.inj heq).1 hzero
  · next heq => exact absurd (List.cons.inj heq).1 hzero
  · next heq => exact absurd (List.cons.inj heq).1 hzero
  · next heq =>
    obtain ⟨rfl, rfl⟩ := List.cons.inj heq
    rw [isDigit_digit, Bool.true_and, hsplit]
    exact Bool.and_eq_true_iff.2 ⟨hloose, rfl⟩
  · next heq => cases heq

/-- Digits with a point or an exponent behind them are no integer of YAML. -/
theorem isInt_eq_false {cs : List Char} {d : Fin 10} {c : Char}
    (h : dropSign cs = d.val.digitChar :: (digitChars ds ++ c :: rest))
    (hzero : d = 0 → ds = []) (hc : c ∈ ".eE".toList) (hcolon : ':' ∉ digitChars ds ++ c :: rest) : isInt cs = false := by
  have hletter : ∀ c ∈ ".eE".toList, c ≠ 'b' ∧ c ≠ 'x' ∧ isLoose isOctalDigit c = false ∧ isLoose Char.isDigit c = false :=
    List.all_iff_forall_prop.1 (by decide)
  obtain ⟨hbinary, hhexadecimal, hoctal, hdecimal⟩ := hletter c hc
  have hsplit : splitOn ':' (digitChars ds ++ c :: rest) = [digitChars ds ++ c :: rest] := splitAtChar_of_not_mem hcolon
  have hnone : d.val.digitChar = '0' → digitChars ds ++ c :: rest = c :: rest := fun heq => by
    rw [hzero (eq_zero_of_digitChar d heq)]
    rfl
  unfold isInt
  rw [h]
  split
  · next heq =>
    obtain ⟨hfirst, hmore⟩ := List.cons.inj heq
    cases (hnone hfirst).symm.trans hmore
  · next heq =>
    obtain ⟨hfirst, hmore⟩ := List.cons.inj heq
    exact absurd (List.cons.inj ((hnone hfirst).symm.trans hmore)).1 hbinary
  · next heq =>
    obtain ⟨hfirst, hmore⟩ := List.cons.inj heq
    exact absurd (List.cons.inj ((hnone hfirst).symm.trans hmore)).1 hhexadecimal
  · next heq =>
    obtain ⟨hfirst, hmore⟩ := List.cons.inj heq
    rw [← (hnone hfirst).symm.trans hmore, List.all_cons, hoctal]
    rfl
  · next heq =>
    obtain ⟨rfl, rfl⟩ := List.cons.inj heq
    rw [hsplit]
    dsimp only
    rw [List.all_append, List.all_cons, hdecimal, Bool.false_and, Bool.and_false, Bool.false_and, Bool.and_false]
  · next heq => cases heq

/-- A number is an integer of YAML if it has no fraction and no exponent. -/
theorem isInt_chars (n : Decimal) : isInt n.chars = (n.fraction.isNone && n.exponent.isNone) := by
  have hcolon : ':' ∉ digitChars n.whole.more ++ tailChars n := fun h =>
    not_mem_numeralChars.2.1 (mem_unsignedChars n _ (List.mem_cons_of_mem _ h))
  have hplain : dropSign n.chars = n.whole.first.val.digitChar :: (digitChars n.whole.more ++ tailChars n) := dropSign_chars n
  have hletter : ∀ capital : Bool, (if capital then 'E' else 'e') ∈ ".eE".toList := by decide
  unfold tailChars at hcolon hplain
  cases hfraction : n.fraction with
  | some ds =>
    rw [hfraction] at hcolon hplain
    exact isInt_eq_false hplain n.noLeadingZero (by decide) hcolon
  | none =>
    rw [hfraction] at hcolon hplain
    cases hexponent : n.exponent with
    | some e =>
      rw [hexponent] at hcolon hplain
      exact isInt_eq_false hplain n.noLeadingZero (hletter e.capital) hcolon
    | none =>
      rw [hexponent] at hplain
      have hdigits : dropSign n.chars = digitChars n.whole.all := hplain.trans (congrArg _ (List.append_nil _))
      by_cases hfirst : n.whole.first = 0
      · unfold Digits.all at hdigits
        rw [hfirst, n.noLeadingZero hfirst] at hdigits
        unfold isInt
        rw [hdigits]
        rfl
      · exact isInt_digits hfirst hdigits

/-! ### Time stamps -/

/-- Four digits are taken, if there are so many in front of something else. -/
theorem digits?_digitChars (hrest : ∀ c ∈ rest.head?, c.isDigit = false) :
    digits? 4 4 (digitChars ds ++ rest) = if ds.length < 4 then none else
      some (Numeral.digitsValue 10 (digitChars (ds.take 4)), digitChars (ds.drop 4) ++ rest) := by
  have hhead : ∀ c ∈ (rest.take (4 - ds.length)).head?, c.isDigit = false := by
    intro c hc
    rw [List.head?_take] at hc
    split at hc
    · cases hc
    · exact hrest c hc
  have htake : ((digitChars ds ++ rest).take 4).takeWhile Char.isDigit = digitChars (ds.take 4) := by
    have hboth : (digitChars ds ++ rest).take 4 = digitChars (ds.take 4) ++ rest.take (4 - ds.length) := by
      unfold digitChars
      rw [List.take_append, List.length_map, List.map_take]
    rw [hboth, (takeWhile_digits isDigit_digit hhead).1]
  have hlength : (digitChars (ds.take 4)).length = min 4 ds.length := by
    unfold digitChars
    rw [List.length_map, List.length_take]
  unfold digits?
  rw [htake]
  dsimp only
  rw [hlength]
  by_cases hshort : ds.length < 4
  · rw [if_pos hshort, if_pos (by omega)]
  · have hdrop : (digitChars ds ++ rest).drop (min 4 ds.length) = digitChars (ds.drop 4) ++ rest := by
      unfold digitChars
      rw [Nat.min_eq_left (Nat.not_lt.1 hshort), List.drop_append_of_le_length (by rw [List.length_map]; omega), List.map_drop]
    rw [if_neg hshort, if_neg (by omega), hdrop]

/-- A number is no time stamp: behind four digits there is no dash. -/
theorem isStamp_chars (n : Decimal) : isStamp n.chars = false := by
  have hnone : stampParts? n.chars = none := by
    cases hyear : digits? 4 4 n.chars with
    | none =>
      unfold stampParts?
      rw [hyear]
      rfl
    | some p =>
      have hdash : sign? '-' p.2 = none := by
        unfold Decimal.chars at hyear
        cases hnegative : n.negative with
        | true =>
          rw [hnegative] at hyear
          cases hyear
        | false =>
          rw [hnegative, if_neg Bool.false_ne_true, show n.unsignedChars = digitChars n.whole.all ++ tailChars n from rfl,
            digits?_digitChars (head_tailChars rfl rfl rfl n)] at hyear
          split at hyear
          · cases hyear
          · cases hyear
            have hdigit : ∀ d : Fin 10, d.val.digitChar ≠ '-' := by decide
            cases n.whole.all.drop 4 with
            | cons d ds => exact if_neg (hdigit d)
            | nil =>
              have htail := @head_tailChars (fun c => decide (c = '-')) rfl rfl rfl n
              change sign? '-' (tailChars n) = none
              cases htext : tailChars n with
              | nil => rfl
              | cons c rest => exact if_neg (of_decide_eq_false (htail c (by rw [htext]; rfl)))
      unfold stampParts?
      rw [hyear]
      change (sign? '-' p.2 >>= _) = none
      rw [hdash]
      rfl
  unfold isStamp
  rw [hnone]

/-- A text of a number is told by whether it is a double or an integer; else it is only a text. -/
theorem ofText_chars (n : Decimal) : NodeSort.ofText (String.ofList n.chars) =
    if isFloat n.chars then .float else if isInt n.chars then .int else .text := by
  obtain ⟨c, rest, hchars, hc⟩ := exists_chars n
  have hfeed : Text.withoutFinalFeed n.chars = n.chars := by
    unfold Text.withoutFinalFeed
    rw [if_neg]
    intro hlast
    exact not_mem_numeralChars.2.2 (mem_chars n _ (List.mem_of_getLast? hlast))
  have hother : ∀ {ws : List String}, (ws.all fun w => w.toList.head?.all fun c => decide (c ∉ "-0123456789".toList)) = true →
      ws.contains (String.ofList n.chars) = false := by
    intro ws hws
    rw [hchars]
    exact contains_eq_false hws hc
  have hwords : ∀ w ∈ ["\n", "<<", "="], String.ofList n.chars ≠ w := by
    have hnone := @hother ["\n", "<<", "="] (by decide)
    rw [List.contains_eq_mem, decide_eq_false_iff_not] at hnone
    rintro w hw rfl
    exact hnone hw
  unfold NodeSort.ofText
  rw [if_neg (hwords "\n" (by decide)), String.toList_ofList, hfeed]
  dsimp only
  rw [hother (by decide : (nulls.all fun w => _) = true), hother (by decide : (truths.all fun w => _) = true),
    hother (by decide : (untruths.all fun w => _) = true), if_neg (hwords "<<" (by decide)), if_neg (hwords "=" (by decide)),
    isStamp_chars, hother (by decide : (["!", "&", "*"].all fun w => _) = true)]
  rfl

/-! ## Reading numbers -/

theorem filter_chars (n : Decimal) : n.chars.filter (· ≠ '_') = n.chars := by
  refine List.filter_eq_self.2 fun c hc => decide_eq_true fun heq => ?_
  exact not_mem_numeralChars.1 (heq ▸ mem_chars n c hc)

/-- An integer that is not too long is read. -/
theorem intOf_chars {n : Decimal} (hfraction : n.fraction = none) (hexponent : n.exponent = none)
    (h : n.whole.all.length ≤ Numeral.integerDigitLimit) :
    intOf (String.ofList n.chars) = .ok (if n.negative then -(decimalValue n.whole.all : Int) else decimalValue n.whole.all) := by
  have hunsigned : n.unsignedChars = digitChars n.whole.all := by
    unfold Decimal.unsignedChars
    rw [hfraction, hexponent]
    exact List.append_nil _
  unfold intOf
  rw [String.toList_ofList, filter_chars]
  refine signed_chars _ _ n ?_
  rw [hunsigned]
  by_cases hfirst : n.whole.first = 0
  · unfold Digits.all
    rw [hfirst, n.noLeadingZero hfirst]
    rfl
  · exact (unsignedInt_digit hfirst (colon_not_mem (n.whole.first :: n.whole.more))).trans (intIn_digitChars _ h)

/-- An exponent part in lower case is read as its number. -/
theorem exponent?_chars (e : Exponent) (h : e.sign.isSome = true) :
    Numeral.exponent? (Exponent.chars { e with capital := false }) = some e.value := by
  obtain ⟨capital, sign, ds⟩ := e
  have hdigits : ds.chars.all Char.isDigit = true := List.all_eq_true.2 (forall_digitChars isDigit_digit)
  have hvalue : Numeral.digitsValue 10 ds.chars = decimalValue ds.all := digitsValue_digitChars ds.all
  unfold Exponent.value
  rw [← hvalue]
  match sign, h with
  | some negative, _ =>
    have hsign : Numeral.takeSign (Exponent.signChars (some negative) ++ ds.chars) = (negative, ds.chars) := by
      cases negative <;> rfl
    unfold Numeral.exponent? Exponent.chars
    rw [if_neg Bool.false_ne_true]
    dsimp only
    rw [hsign]
    dsimp only
    rw [hdigits]
    cases negative <;> rfl

/-- A number with a small letter in front of its exponent. -/
def Decimal.lowered (n : Decimal) : Decimal := { n with exponent := n.exponent.map fun e => { e with capital := false } }

theorem map_toLower_chars (n : Decimal) : n.chars.map Char.toLower = n.lowered.chars := by
  have hdigits : ∀ ds : Digits, ds.chars.map Char.toLower = ds.chars := by
    intro ds
    have hlower : ∀ d : Fin 10, d.val.digitChar.toLower = d.val.digitChar := by decide
    exact (List.map_congr_left (forall_digitChars hlower)).trans (List.map_id _)
  have hfraction : (Decimal.fractionChars n.fraction).map Char.toLower = Decimal.fractionChars n.fraction := by
    cases n.fraction with
    | none => rfl
    | some ds => exact congrArg ('.' :: ·) (hdigits ds)
  have hexponent : (Decimal.exponentChars n.exponent).map Char.toLower = Decimal.exponentChars n.lowered.exponent := by
    unfold Decimal.lowered
    cases n.exponent with
    | none => rfl
    | some e =>
      have hletter : ∀ capital : Bool, (if capital then 'E' else 'e').toLower = 'e' := by decide
      have hsign : ∀ sign, (Exponent.signChars sign).map Char.toLower = Exponent.signChars sign := by
        rintro (_ | _ | _) <;> rfl
      change (Exponent.chars e).map Char.toLower = _
      unfold Exponent.chars
      rw [List.map_cons, List.map_append, hletter, hsign, hdigits]
      rfl
  have hunsigned : n.unsignedChars.map Char.toLower = n.lowered.unsignedChars := by
    unfold Decimal.unsignedChars
    rw [List.map_append, List.map_append, hdigits, hfraction, hexponent]
    rfl
  unfold Decimal.chars
  change _ = if n.negative then '-' :: n.lowered.unsignedChars else n.lowered.unsignedChars
  rw [← hunsigned]
  cases n.negative <;> rfl

theorem dropUnderscores?_eq : ∀ {cs : List Char} {before : Char}, before ≠ '_' → (∀ c ∈ cs, c ∈ numeralChars) →
    Numeral.dropUnderscores? before cs = some cs
  | [], before, hbefore, _ => by rw [Numeral.dropUnderscores?, if_neg hbefore]
  | c :: rest, before, hbefore, h => by
    have hc : c ≠ '_' := fun heq => not_mem_numeralChars.1 (heq ▸ h c (List.mem_cons_self ..))
    rw [Numeral.dropUnderscores?, if_neg hc, decide_eq_false hbefore, Bool.false_and, if_neg Bool.false_ne_true,
      dropUnderscores?_eq hc fun d hd => h d (List.mem_cons_of_mem _ hd)]
    rfl

/-- What stands behind the fraction counts as the exponent. -/
theorem exponent?_lowered {n : Decimal} (h : ∀ e ∈ n.exponent, e.sign.isSome = true) :
    Numeral.exponent? (Decimal.exponentChars n.lowered.exponent) = some ((n.exponent.map Exponent.value).getD 0) := by
  unfold Decimal.lowered
  match hexponent : n.exponent with
  | none => rfl
  | some e => exact exponent?_chars e (h e hexponent)

/-- A double without its sign. -/
theorem readDecimal?_lowered {n : Decimal} {fs : Digits} (hfraction : n.fraction = some fs)
    (h : ∀ e ∈ n.exponent, e.sign.isSome = true) :
    Numeral.readDecimal? n.lowered.unsignedChars = some (Binary64.ofDecimal false (decimalValue (n.whole.all ++ n.places))
      ((n.exponent.map Exponent.value).getD 0 - n.places.length)) := by
  have hunsigned : n.lowered.unsignedChars =
      n.whole.first.val.digitChar :: (digitChars n.whole.more ++ tailChars n.lowered) := rfl
  have hwhole : n.lowered.unsignedChars.takeWhile Char.isDigit = digitChars n.whole.all ∧
      n.lowered.unsignedChars.dropWhile Char.isDigit = tailChars n.lowered :=
    takeWhile_digits isDigit_digit (head_tailChars rfl rfl rfl _)
  have htail : tailChars n.lowered = '.' :: (digitChars fs.all ++ Decimal.exponentChars n.lowered.exponent) := by
    unfold tailChars
    change Decimal.fractionChars n.fraction ++ _ = _
    rw [hfraction]
    rfl
  have hplaces := @takeWhile_digits fs.all (Decimal.exponentChars n.lowered.exponent) Char.isDigit isDigit_digit
    (head_exponentChars rfl rfl _)
  have hword : Numeral.word? false n.lowered.unsignedChars = none := by
    have hlower : ∀ d : Fin 10, d.val.digitChar.toLower = d.val.digitChar := by decide
    have hnone := @contains_eq_false ((digitChars n.whole.more ++ tailChars n.lowered).map Char.toLower)
      ["inf", "infinity", "nan"]
      (by decide) _ (mem_starts_digit n.whole.first)
    rw [List.contains_eq_mem, decide_eq_false_iff_not, List.mem_cons, List.mem_cons, List.mem_singleton, not_or, not_or] at hnone
    unfold Numeral.word?
    rw [hunsigned, List.map_cons, hlower]
    dsimp only
    rw [decide_eq_false hnone.1, decide_eq_false hnone.2.1, if_neg hnone.2.2]
    rfl
  have hmem := mem_unsignedChars n.lowered
  unfold Numeral.readDecimal?
  rw [plain_eq hmem, dropWhile_isMargin (fun c hc => hmem c (List.mem_reverse.1 hc)), List.reverse_reverse,
    dropUnderscores?_eq (by decide) hmem]
  change Numeral.plainDecimal? _ = _
  unfold Numeral.plainDecimal?
  rw [hunsigned, takeSign_digit, ← hunsigned]
  dsimp only
  rw [hword]
  dsimp only
  have hnumber : n.places = fs.all := by
    unfold Decimal.places
    rw [hfraction]
    rfl
  have hlength : (digitChars fs.all).length = fs.all.length := List.length_map _
  rw [hwhole.1, hwhole.2, htail]
  generalize digitChars fs.all ++ Decimal.exponentChars n.lowered.exponent = behind at hplaces ⊢
  change (if (digitChars n.whole.all).isEmpty && (behind.takeWhile Char.isDigit).isEmpty then none else
    (Numeral.exponent? (behind.dropWhile Char.isDigit)).map fun e => Binary64.ofDecimal false
      (Numeral.digitsValue 10 (digitChars n.whole.all ++ behind.takeWhile Char.isDigit))
      (e - (behind.takeWhile Char.isDigit).length)) = _
  rw [hplaces.1, hplaces.2, exponent?_lowered h, ← digitChars_append, digitsValue_digitChars, hlength, hnumber]
  rfl

/-- A number with a fraction is read as the nearest double. -/
theorem floatOf_chars {n : Decimal} {fs : Digits} (hfraction : n.fraction = some fs)
    (h : ∀ e ∈ n.exponent, e.sign.isSome = true) :
    floatOf (String.ofList n.chars) = .ok (Binary64.ofDecimal n.negative (decimalValue (n.whole.all ++ n.places))
      ((n.exponent.map Exponent.value).getD 0 - n.places.length)) := by
  have hplain : plainDouble (String.ofList n.chars) = n.lowered.chars := by
    unfold plainDouble Text.lowercase
    rw [String.toList_ofList, String.toList_ofList, String.toList_ofList, filter_chars, lowercaseAfter_eq [] (mem_chars n),
      map_toLower_chars]
  have hunsigned : n.lowered.unsignedChars =
      n.whole.first.val.digitChar :: (digitChars n.whole.more ++ tailChars n.lowered) := rfl
  have hword : ∀ w : String, w.toList.head? = some '.' → n.lowered.unsignedChars ≠ w.toList := by
    intro w hw heq
    have hpoint : ∀ d : Fin 10, d.val.digitChar ≠ '.' := by decide
    rw [← heq, hunsigned] at hw
    exact hpoint _ (Option.some.inj hw)
  have hread : unsignedDouble n.lowered.unsignedChars = .ok (Binary64.ofDecimal false (decimalValue (n.whole.all ++ n.places))
      ((n.exponent.map Exponent.value).getD 0 - n.places.length)) := by
    have hsplit : splitOn ':' n.lowered.unsignedChars = [n.lowered.unsignedChars] :=
      splitAtChar_of_not_mem fun hmem => not_mem_numeralChars.2.1 (mem_unsignedChars n.lowered _ hmem)
    unfold unsignedDouble
    rw [if_neg (hword _ (by decide)), if_neg (hword _ (by decide)), hsplit]
    dsimp only
    unfold doubleIn
    rw [readDecimal?_lowered hfraction h]
  unfold floatOf
  rw [hplain, signed_chars unsignedDouble Binary64.neg n.lowered hread]
  change Except.ok (if n.negative then _ else _) = _
  cases n.negative with
  | true => exact congrArg Except.ok (neg_ofDecimal _ _)
  | false => rfl

/-- What YAML reads a number as: with an exponent that is not one of YAML it is a text. -/
theorem Decimal.reads {n : Decimal} (h : n.isReadable = true) :
    (NodeSort.ofText (String.ofList n.chars)).read (String.ofList n.chars) = .ok (some n.read) := by
  rw [ofText_chars, isFloat_chars, isInt_chars]
  cases hfaithful : n.isFaithful with
  | false =>
    have hexponent : n.exponent.isNone = false := by
      cases hnone : n.exponent with
      | none =>
        unfold Decimal.isFaithful at hfaithful
        rw [hnone] at hfaithful
        cases hfaithful
      | some e => rfl
    unfold Decimal.read
    rw [hfaithful, Bool.and_false, hexponent, Bool.and_false]
    rfl
  | true =>
    have hexponent : ∀ e ∈ n.exponent, n.fraction.isSome = true ∧ e.sign.isSome = true := by
      intro e he
      unfold Decimal.isFaithful at hfaithful
      rw [he] at hfaithful
      exact Bool.and_eq_true_iff.1 hfaithful
    rw [n.read_eq_iff.2 hfaithful, Bool.and_true]
    unfold Decimal.value
    cases hfraction : n.fraction with
    | some ds =>
      change NodeSort.float.read (String.ofList n.chars) = _
      unfold NodeSort.read
      dsimp only
      rw [floatOf_chars hfraction fun e he => (hexponent e he).2]
      rfl
    | none =>
      have hnone : n.exponent = none := by
        refine Option.eq_none_iff_forall_not_mem.2 fun e he => ?_
        have hsome := (hexponent e he).1
        rw [hfraction] at hsome
        cases hsome
      unfold Decimal.isReadable at h
      rw [hfraction, hnone] at h
      rw [hnone]
      change NodeSort.int.read (String.ofList n.chars) = _
      unfold NodeSort.read
      dsimp only
      rw [intOf_chars hfraction hnone (of_decide_eq_true h)]
      rfl

theorem Word.reads (w : Word) : (NodeSort.ofText (String.ofList w.chars)).read (String.ofList w.chars) = .ok (some w.value) := by
  cases w <;> decide +kernel

end ShapeCheck.JsonText
