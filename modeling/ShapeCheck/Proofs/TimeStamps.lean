import Mathlib.Algebra.Group.Nat.Defs
import Mathlib.Data.List.Induction
import Mathlib.Data.List.TakeWhile
import ShapeCheck.Proofs.Calendar
import ShapeCheck.Proofs.Constraints
import ShapeCheck.Shape.TimeStamp

/-!
# Time stamps

What is read as a time stamp is a moment that exists: `Reading.timeStamp_valid`. A moment that exists is read back from the
text in which schemas write it, but for the seconds of its zone, which that text has not: `Reading.timeStamp_stamp`.
-/

namespace ShapeCheck

open Shape

/-! ## Numbers of a fixed width -/

theorem toList_paddedNat_one {n : Nat} (h : n < 10) : (paddedNat 1 n).toList = [n.digitChar] := by
  unfold paddedNat
  simp [Nat.toDigits_of_lt_base h]

theorem toList_paddedNat_succ (width n : Nat) :
    (paddedNat (width + 2) n).toList = (paddedNat (width + 1) (n / 10)).toList ++ [(n % 10).digitChar] := by
  unfold paddedNat
  simp only [Nat.toString_eq_ofList_toDigits, String.toList_ofList]
  by_cases h : n < 10
  · rw [Nat.toDigits_of_lt_base h, Nat.div_eq_of_lt h, Nat.mod_eq_of_lt h, Nat.toDigits_zero]
    simp [List.replicate_succ']
  · rw [Nat.toDigits_of_base_le (by omega) (by omega), List.length_append, List.length_singleton,
      show width + 2 = width + 1 + 1 from rfl, Nat.add_sub_add_right, List.append_assoc]

theorem toList_paddedNat_two {n : Nat} (h : n < 100) : (paddedNat 2 n).toList = [(n / 10).digitChar, (n % 10).digitChar] := by
  rw [toList_paddedNat_succ, toList_paddedNat_one (by omega)]
  rfl

theorem toList_paddedNat_four {n : Nat} (h : n < 10000) : (paddedNat 4 n).toList =
    [(n / 100 / 10).digitChar, (n / 100 % 10).digitChar, (n % 100 / 10).digitChar, (n % 100 % 10).digitChar] := by
  have htens : n % 100 / 10 = n / 10 % 10 := by omega
  have hones : n % 100 % 10 = n % 10 := by omega
  have hhundreds : n / 10 / 10 = n / 100 := Nat.div_div_eq_div_mul ..
  rw [toList_paddedNat_succ, toList_paddedNat_succ, toList_paddedNat_two (by omega), hhundreds, htens, hones]
  rfl

theorem length_paddedNat (width : Nat) : ∀ {n : Nat}, n < 10 ^ (width + 1) →
    (paddedNat (width + 1) n).toList.length = width + 1 := by
  induction width with
  | zero => exact fun h => congrArg List.length (toList_paddedNat_one h)
  | succ width ih =>
    intro n h
    rw [toList_paddedNat_succ, List.length_append, ih (by rw [Nat.pow_succ] at h; omega)]
    rfl

theorem isDigit_paddedNat (width n : Nat) : ∀ c ∈ (paddedNat width n).toList, c.isDigit = true := by
  intro c hc
  unfold paddedNat at hc
  rw [String.toList_ofList, Nat.toString_eq_ofList_toDigits, String.toList_ofList] at hc
  rcases List.mem_append.1 hc with hc | hc
  · rw [List.eq_of_mem_replicate hc]
    rfl
  · exact Nat.isDigit_of_mem_toDigits (by decide) (by decide) hc

theorem Numeral.digitsValue_append_digit (cs : List Char) {n : Nat} (h : n < 10) :
    digitsValue 10 (cs ++ [n.digitChar]) = 10 * digitsValue 10 cs + n := by
  unfold digitsValue
  rw [List.foldl_append, List.foldl_cons, List.foldl_nil, if_pos (by rw [Nat.isDigit_digitChar]; exact decide_eq_true h)]
  exact congrArg (_ + ·) (Nat.toNat_digitChar_sub_48_of_lt_ten h)

/-- The value of a number of a fixed width is the number. -/
theorem Numeral.digitsValue_paddedNat (width : Nat) : ∀ {n : Nat}, n < 10 ^ (width + 1) →
    digitsValue 10 (paddedNat (width + 1) n).toList = n := by
  induction width with
  | zero =>
    intro n h
    rw [toList_paddedNat_one h]
    exact (digitsValue_append_digit [] h).trans (by simp [digitsValue])
  | succ width ih =>
    intro n h
    rw [toList_paddedNat_succ, digitsValue_append_digit _ (Nat.mod_lt _ (by decide)),
      ih (by rw [Nat.pow_succ] at h; omega)]
    omega

theorem Char.sub_zero_lt {c : Char} (h : c.isDigit = true) : c.toNat - 48 < 10 := by
  unfold Char.isDigit at h
  obtain ⟨_, hlast⟩ := Bool.and_eq_true_iff.1 h
  have hlast' : c.toNat ≤ 57 := UInt32.le_iff_toNat_le.1 (of_decide_eq_true hlast)
  omega

/-- A number of so many digits is below that power of ten. -/
theorem Numeral.digitsValue_lt {cs : List Char} (h : ∀ c ∈ cs, c.isDigit = true) : digitsValue 10 cs < 10 ^ cs.length := by
  induction cs using List.reverseRecOn with
  | nil => simp [digitsValue]
  | append_singleton cs c ih =>
    have hc := h c (by simp)
    have hcs := ih fun d hd => h d (List.mem_append_left _ hd)
    have hlast := Char.sub_zero_lt hc
    unfold digitsValue at hcs ⊢
    rw [List.foldl_append, List.foldl_cons, List.foldl_nil, if_pos hc, List.length_append, List.length_singleton, Nat.pow_succ]
    change _ + (c.toNat - 48) < _
    omega

namespace TimeStamp

theorem digitAt_digitChar {cs : List Char} {i n : Nat} {error : String} (hn : n < 10) (h : cs[i]? = some n.digitChar) :
    digitAt cs i error = .ok n := by
  unfold digitAt
  rw [h]
  dsimp only
  rw [if_pos (by rw [Nat.isDigit_digitChar]; exact decide_eq_true hn)]
  exact congrArg Except.ok (Nat.toNat_digitChar_sub_48_of_lt_ten hn)

theorem pairAt_digits {cs : List Char} {i n : Nat} {error : String} (hn : n < 100)
    (hfirst : cs[i]? = some (n / 10).digitChar) (hsecond : cs[i + 1]? = some (n % 10).digitChar) : pairAt cs i error = .ok n := by
  unfold pairAt
  rw [digitAt_digitChar (by omega) hfirst, digitAt_digitChar (by omega) hsecond]
  exact congrArg Except.ok (Nat.div_add_mod n 10)

end TimeStamp

/-! ## Dates -/

theorem Date.toList_iso {d : Date} (h : d.isValid = true) : d.iso.toList =
    [(d.year / 100 / 10).digitChar, (d.year / 100 % 10).digitChar, (d.year % 100 / 10).digitChar,
      (d.year % 100 % 10).digitChar, '-', (d.month / 10).digitChar, (d.month % 10).digitChar, '-',
      (d.day / 10).digitChar, (d.day % 10).digitChar] := by
  obtain ⟨_, hle, _, hmonth, _, hday⟩ := Date.isValid_iff.1 h
  have hlast := Nat.le_trans hday (Date.daysIn_le d.year d.month)
  unfold Date.iso
  simp only [String.toList_append, toList_paddedNat_four (show d.year < 10000 by omega),
    toList_paddedNat_two (show d.month < 100 by omega), toList_paddedNat_two (show d.day < 100 by omega)]
  rfl

/-- A date is read off the front of its text. -/
theorem TimeStamp.leadingDate_iso {d : Date} (h : d.isValid = true) (rest : List Char) :
    leadingDate (d.iso.toList ++ rest) = .ok d := by
  obtain ⟨hpos, hle, hmonth, hmonth', hday, hday'⟩ := Date.isValid_iff.1 h
  have hlast := Nat.le_trans hday' (Date.daysIn_le d.year d.month)
  rw [Date.toList_iso h]
  simp only [List.cons_append, List.nil_append]
  generalize hlist : (d.year / 100 / 10).digitChar :: _ = cs
  have hlength : ¬ cs.length < 10 := by
    rw [← hlist]
    simp
  have hcentury : ∀ e, pairAt cs 0 e = .ok (d.year / 100) := fun e =>
    pairAt_digits (by omega) (by rw [← hlist]; rfl) (by rw [← hlist]; rfl)
  have hyear : ∀ e, pairAt cs 2 e = .ok (d.year % 100) := fun e =>
    pairAt_digits (by omega) (by rw [← hlist]; rfl) (by rw [← hlist]; rfl)
  have hmonthText : ∀ e, pairAt cs 5 e = .ok d.month := fun e =>
    pairAt_digits (by omega) (by rw [← hlist]; rfl) (by rw [← hlist]; rfl)
  have hdayText : ∀ e, pairAt cs 8 e = .ok d.day := fun e =>
    pairAt_digits (by omega) (by rw [← hlist]; rfl) (by rw [← hlist]; rfl)
  have hfirstDash : cs[4]? = some '-' := by rw [← hlist]; rfl
  have hsecondDash : cs[7]? = some '-' := by rw [← hlist]; rfl
  have hparts : 100 * (d.year / 100) + d.year % 100 = d.year := Nat.div_add_mod d.year 100
  have hmonthRange : (decide (d.month < 1) || decide (12 < d.month)) = false := by simp; omega
  have hdayRange : (decide (d.day < 1) || decide (Date.daysIn d.year d.month < d.day)) = false := by simp; omega
  unfold leadingDate
  simp only [if_neg hlength, hcentury, hyear, hmonthText, hdayText, hfirstDash, hsecondDash, bind, Except.bind, ne_eq,
    not_true_eq_false, if_false, hparts, hmonthRange, hdayRange, Bool.false_eq_true]
  rfl

/-- What comes after a test is given only if the test is passed. -/
theorem Except.unless_eq_ok {ε α : Type} {c : Prop} [Decidable c] {e : ε} {x : Except ε α} {a : α} :
    (if c then (Except.error e : Except ε PUnit) >>= fun _ => x else x) = .ok a ↔ ¬ c ∧ x = .ok a := by
  by_cases h : c
  · rw [if_pos h]
    exact iff_of_false nofun fun h' => h'.1 h
  · rw [if_neg h, and_iff_right h]

theorem Option.unless_eq_some {α : Type} {c : Prop} [Decidable c] {x : Option α} {a : α} :
    (if c then (none : Option PUnit) >>= fun _ => x else x) = some a ↔ ¬ c ∧ x = some a := by
  by_cases h : c
  · rw [if_pos h]
    exact iff_of_false nofun fun h' => h'.1 h
  · rw [if_neg h, and_iff_right h]

namespace TimeStamp

theorem digitAt_lt {cs : List Char} {i n : Nat} {error : String} (h : digitAt cs i error = .ok n) : n < 10 := by
  unfold digitAt at h
  split at h
  · next c _ =>
    split at h
    · next hc =>
      cases h
      exact Char.sub_zero_lt hc
    · cases h
  · cases h

theorem pairAt_lt {cs : List Char} {i n : Nat} {error : String} (h : pairAt cs i error = .ok n) : n < 100 := by
  unfold pairAt at h
  obtain ⟨a, ha, h⟩ := Except.bind_eq_ok.1 h
  obtain ⟨b, hb, h⟩ := Except.bind_eq_ok.1 h
  cases h
  have := digitAt_lt ha
  have := digitAt_lt hb
  omega

/-- A date at the front of a text is one of the calendar, if its year has a number. -/
theorem leadingDate_valid {cs : List Char} {d : Date} (h : leadingDate cs = .ok d) (hyear : d.year ≠ 0) : d.isValid = true := by
  unfold leadingDate at h
  obtain ⟨_, h⟩ := Except.unless_eq_ok.1 h
  obtain ⟨century, hcentury, h⟩ := Except.bind_eq_ok.1 h
  obtain ⟨year, hyearText, h⟩ := Except.bind_eq_ok.1 h
  obtain ⟨_, h⟩ := Except.unless_eq_ok.1 h
  obtain ⟨month, _, h⟩ := Except.bind_eq_ok.1 h
  obtain ⟨_, h⟩ := Except.unless_eq_ok.1 h
  obtain ⟨day, _, h⟩ := Except.bind_eq_ok.1 h
  obtain ⟨hmonth, h⟩ := Except.unless_eq_ok.1 h
  obtain ⟨hday, h⟩ := Except.unless_eq_ok.1 h
  cases h
  have := pairAt_lt hcentury
  have := pairAt_lt hyearText
  simp only [Bool.or_eq_true, decide_eq_true_eq, not_or, Nat.not_lt] at hmonth hday
  rw [Date.isValid_iff]
  dsimp only at hyear ⊢
  omega

end TimeStamp

/-! ## Times of day and zones -/

/-- A distance from universal time without its seconds. -/
def Moment.wholeMinutes (offset : Int) : Int := if offset < 0 then -(-offset / 60 * 60) else offset / 60 * 60

theorem Moment.toList_minuteZone {o : Int} (h : o ≠ 0) (ho : o.natAbs < 86400) : (minuteZone o).toList =
    [if o < 0 then '-' else '+', (o.natAbs / 3600 / 10).digitChar, (o.natAbs / 3600 % 10).digitChar, ':',
      (o.natAbs / 60 % 60 / 10).digitChar, (o.natAbs / 60 % 60 % 10).digitChar] := by
  unfold minuteZone
  rw [if_neg h]
  simp only [String.toList_append, toList_paddedNat_two (show o.natAbs / 3600 < 100 by omega),
    toList_paddedNat_two (show o.natAbs / 60 % 60 < 100 by omega)]
  split <;> rfl

/-- The text of a zone begins with what no number and no fraction goes on with. -/
theorem Moment.head?_zone {offset : Option Int} (h : ∀ o ∈ offset, o.natAbs < 86400) :
    ∀ c ∈ ((offset.map minuteZone).getD "").toList.head?, c = 'Z' ∨ c = '+' ∨ c = '-' := by
  cases offset with
  | none => exact nofun
  | some o =>
    change ∀ c ∈ (minuteZone o).toList.head?, _
    intro c hc
    by_cases hzero : o = 0
    · subst hzero
      cases hc
      exact .inl rfl
    · rw [toList_minuteZone hzero (h o rfl)] at hc
      cases hc
      split
      · exact .inr (.inr rfl)
      · exact .inr (.inl rfl)

namespace TimeStamp

/-- The zone whose digits come after a sign. -/
def signedZone? (factor : Int) (rest : List Char) : Option (Option Int) := do
  let hours ← (pairAt rest 0 "").toOption
  let tail := match rest.drop 2 with
    | ':' :: more => more
    | more => more
  let minutes ← (pairAt tail 0 "").toOption
  if tail.length ≠ 2 || 60 ≤ minutes || 24 ≤ hours then none
  return some (factor * (3600 * hours + 60 * minutes : Nat))

theorem signedZone?_valid {factor : Int} (hfactor : factor.natAbs = 1) {rest : List Char} {o : Int}
    (h : signedZone? factor rest = some (some o)) : o.natAbs < 86400 := by
  unfold signedZone? at h
  obtain ⟨hours, _, h⟩ := Option.bind_eq_some_iff.1 h
  obtain ⟨minutes, _, h⟩ := Option.bind_eq_some_iff.1 h
  obtain ⟨hrange, h⟩ := Option.unless_eq_some.1 h
  cases h
  simp only [Bool.or_eq_true, decide_eq_true_eq, not_or, Nat.not_le] at hrange
  rw [Int.natAbs_mul, hfactor, Nat.one_mul, Int.natAbs_natCast]
  omega

theorem zone?_valid {cs : List Char} {o : Int} (h : zone? cs = some (some o)) : o.natAbs < 86400 := by
  unfold zone? at h
  split at h
  · cases h
  · cases h
    decide
  · cases h
    decide
  · split at h
    · exact signedZone?_valid (Int.natAbs_one) h
    · exact signedZone?_valid (show (-1 : Int).natAbs = 1 from rfl) h
    · exact signedZone?_valid (show (-1 : Int).natAbs = 1 from rfl) h
    · cases h

theorem signedZone?_digits (factor : Int) {hours minutes : Nat} (hhours : hours < 24) (hminutes : minutes < 60) :
    signedZone? factor [(hours / 10).digitChar, (hours % 10).digitChar, ':', (minutes / 10).digitChar, (minutes % 10).digitChar] =
      some (some (factor * (3600 * hours + 60 * minutes : Nat))) := by
  have hfirst : ∀ rest : List Char,
      pairAt ((hours / 10).digitChar :: (hours % 10).digitChar :: rest) 0 "" = .ok hours :=
    fun rest => pairAt_digits (by omega) rfl rfl
  have hsecond : pairAt [(minutes / 10).digitChar, (minutes % 10).digitChar] 0 "" = .ok minutes :=
    pairAt_digits (by omega) rfl rfl
  have hrange : (decide (60 ≤ minutes) || decide (24 ≤ hours)) = false := by simp; omega
  unfold signedZone?
  simp only [hfirst, List.drop_succ_cons, List.drop_zero, hsecond, Except.toOption, bind, Option.bind, List.length_cons,
    List.length_nil, Nat.reduceAdd, ne_eq, not_true_eq_false, decide_false, Bool.false_or, hrange]
  rfl

/-- A zone is read off its text, without its seconds. -/
theorem zone?_text {offset : Option Int} (h : ∀ o ∈ offset, o.natAbs < 86400) :
    zone? ((offset.map Moment.minuteZone).getD "").toList = some (offset.map Moment.wholeMinutes) := by
  cases offset with
  | none => rfl
  | some o =>
    have ho := h o rfl
    change zone? (Moment.minuteZone o).toList = some (some (Moment.wholeMinutes o))
    by_cases hzero : o = 0
    · subst hzero
      rfl
    have hdigits := fun factor : Int => signedZone?_digits factor (show o.natAbs / 3600 < 24 by omega)
      (show o.natAbs / 60 % 60 < 60 by omega)
    rw [Moment.toList_minuteZone hzero ho]
    unfold Moment.wholeMinutes
    by_cases hneg : o < 0
    · rw [if_pos hneg, if_pos hneg]
      refine (hdigits (-1)).trans (congrArg (some ∘ some) ?_)
      omega
    · rw [if_neg hneg, if_neg hneg]
      refine (hdigits 1).trans (congrArg (some ∘ some) ?_)
      omega

/-- The time of day is read off its text, and the zone behind it. -/
theorem clock?_text {t : Moment} (h : t.isValid = true) {zoneText : List Char} {offset : Option Int}
    (hzone : zone? zoneText = some offset) (hhead : ∀ c ∈ zoneText.head?, c = 'Z' ∨ c = '+' ∨ c = '-') :
    clock? (t.clock.toList ++ zoneText) = some ((t.hour, t.minute, t.second, t.micro), offset) := by
  have hparts : t.hour < 24 ∧ t.minute < 60 ∧ t.second < 60 ∧ t.micro < 1000000 := by
    simp only [Moment.isValid, Bool.and_eq_true, decide_eq_true_eq] at h
    exact ⟨h.1.1.1.1.2, h.1.1.1.2, h.1.1.2, h.1.2⟩
  obtain ⟨hhour, hminute, hsecond, hmicro⟩ := hparts
  have hcs : t.clock.toList ++ zoneText =
      (t.hour / 10).digitChar :: (t.hour % 10).digitChar :: ':' :: (t.minute / 10).digitChar :: (t.minute % 10).digitChar ::
      ':' :: (t.second / 10).digitChar :: (t.second % 10).digitChar ::
      ((if t.micro = 0 then [] else '.' :: (paddedNat 6 t.micro).toList) ++ zoneText) := by
    unfold Moment.clock
    simp only [String.toList_append, toList_paddedNat_two (show t.hour < 100 by omega),
      toList_paddedNat_two (show t.minute < 100 by omega), toList_paddedNat_two (show t.second < 100 by omega)]
    split <;> simp
  rw [hcs]
  generalize hrest : (if t.micro = 0 then [] else '.' :: (paddedNat 6 t.micro).toList) ++ zoneText = rest
  generalize hlist : (t.hour / 10).digitChar :: _ = cs
  have hlength : ¬ cs.length < 5 := by
    rw [← hlist]
    simp
  have hhourText : pairAt cs 0 "" = .ok t.hour := pairAt_digits (by omega) (by rw [← hlist]; rfl) (by rw [← hlist]; rfl)
  have hminuteText : pairAt cs 3 "" = .ok t.minute := pairAt_digits (by omega) (by rw [← hlist]; rfl) (by rw [← hlist]; rfl)
  have hsecondText : pairAt cs 6 "" = .ok t.second := pairAt_digits (by omega) (by rw [← hlist]; rfl) (by rw [← hlist]; rfl)
  have hfirst : cs[2]? = some ':' := by rw [← hlist]; rfl
  have hnext : cs[5]? = some ':' := by rw [← hlist]; rfl
  have htail : cs.drop 8 = rest := by rw [← hlist]; rfl
  have hpoint : cs[8]? = rest.head? := by
    rw [← hlist]
    cases rest <;> rfl
  have hafter : cs.drop 9 = rest.tail := by
    rw [← hlist]
    exact List.drop_one
  have hclockRange : (decide (23 < t.hour) || decide (59 < t.minute)) = false := by simp; omega
  have hsecondRange : ¬ 59 < t.second := by omega
  unfold clock?
  simp only [hlength, hfirst, hnext, hhourText, hminuteText, hsecondText, hpoint, htail, hafter, hclockRange, hsecondRange,
    Except.toOption, bind, Option.bind, pure, ne_eq, not_true_eq_false, decide_false, Bool.or_self, Bool.false_eq_true, if_false]
  subst hrest
  by_cases hwhole : t.micro = 0
  · rw [if_pos hwhole]
    cases zoneText with
    | nil =>
      cases hzone
      simp [hwhole]
    | cons c more =>
      have hc : ¬ (c = '.' ∨ c = ',') := by
        rcases hhead c rfl with rfl | rfl | rfl <;> decide
      simp [hc, hzone, hwhole]
  · have hsix : (paddedNat 6 t.micro).toList.length = 6 := length_paddedNat 5 hmicro
    have hnone : zoneText.takeWhile Char.isDigit = [] := by
      cases zoneText with
      | nil => rfl
      | cons c more =>
        have hc : ¬ c.isDigit = true := by
          rcases hhead c rfl with rfl | rfl | rfl <;> decide
        exact List.takeWhile_cons_of_neg hc
    have hdigits : ((paddedNat 6 t.micro).toList ++ zoneText).takeWhile Char.isDigit = (paddedNat 6 t.micro).toList := by
      rw [List.takeWhile_append_of_pos (isDigit_paddedNat 6 t.micro), hnone, List.append_nil]
    have hpresent : (paddedNat 6 t.micro).toList.isEmpty = false := by
      rw [List.isEmpty_eq_false_iff, ← List.length_pos_iff, hsix]
      decide
    rw [if_neg hwhole]
    simp only [List.cons_append, List.head?_cons, List.tail_cons, hdigits, hpresent, List.take_left' hsix,
      List.drop_left, hzone, Numeral.digitsValue_paddedNat 5 hmicro, decide_true, Bool.true_or, if_true, if_false,
      Bool.false_eq_true]

/-- A time of day in a text is one that a day has, and its zone is less than a day away. -/
theorem clock?_valid {cs : List Char} {hour minute second micro : Nat} {offset : Option Int}
    (h : clock? cs = some ((hour, minute, second, micro), offset)) :
    hour < 24 ∧ minute < 60 ∧ second < 60 ∧ micro < 1000000 ∧ ∀ o ∈ offset, o.natAbs < 86400 := by
  have hzone : ∀ {rest : List Char}, zone? rest = some offset → ∀ o ∈ offset, o.natAbs < 86400 := by
    rintro rest hrest o rfl
    exact zone?_valid hrest
  unfold clock? at h
  obtain ⟨_, h⟩ := Option.unless_eq_some.1 h
  obtain ⟨hh, _, h⟩ := Option.bind_eq_some_iff.1 h
  obtain ⟨mm, _, h⟩ := Option.bind_eq_some_iff.1 h
  obtain ⟨hrange, h⟩ := Option.unless_eq_some.1 h
  simp only [Bool.or_eq_true, decide_eq_true_eq, not_or, Nat.not_lt] at hrange
  split at h
  · obtain ⟨z, hz, h⟩ := Option.bind_eq_some_iff.1 h
    cases h
    exact ⟨by omega, by omega, by omega, by omega, hzone hz⟩
  · obtain ⟨ss, _, h⟩ := Option.bind_eq_some_iff.1 h
    obtain ⟨hsecond, h⟩ := Option.unless_eq_some.1 h
    split at h
    · split at h
      · dsimp only at h
        obtain ⟨_, h⟩ := Option.unless_eq_some.1 h
        obtain ⟨z, hz, h⟩ := Option.bind_eq_some_iff.1 h
        cases h
        have hdigits : ∀ c ∈ (((cs.drop 9).takeWhile Char.isDigit) ++ List.replicate 6 '0').take 6, c.isDigit = true := by
          intro c hc
          rcases List.mem_append.1 (List.mem_of_mem_take hc) with hc | hc
          · exact List.mem_takeWhile_imp hc
          · rw [List.eq_of_mem_replicate hc]
            rfl
        have hmicro := Numeral.digitsValue_lt hdigits
        rw [List.length_take, List.length_append, List.length_replicate, Nat.min_eq_left (Nat.le_add_left ..)] at hmicro
        exact ⟨by omega, by omega, by omega, hmicro, hzone hz⟩
      · obtain ⟨z, hz, h⟩ := Option.bind_eq_some_iff.1 h
        cases h
        exact ⟨by omega, by omega, by omega, by omega, hzone hz⟩
    · cases h
      exact ⟨by omega, by omega, by omega, by omega, nofun⟩

end TimeStamp

/-! ## Bytes of plain texts -/

theorem ByteArray.toList_eq (bytes : ByteArray) : bytes.toList = bytes.data.toList := by
  have hloop : ∀ (k i : Nat) (before : List UInt8), bytes.size - i = k →
      ByteArray.toList.loop bytes i before = before.reverse ++ bytes.data.toList.drop i := by
    intro k
    induction k with
    | zero =>
      intro i before hk
      rw [ByteArray.toList.loop, if_neg (by omega), List.drop_eq_nil_of_le, List.append_nil]
      change bytes.size ≤ i
      omega
    | succ k ih =>
      intro i before hk
      have hi : i < bytes.size := by omega
      have hget : bytes.get! i = bytes.data.toList.get ⟨i, hi⟩ := by
        change bytes.data[i]! = _
        rw [getElem!_pos bytes.data i hi]
        rfl
      rw [ByteArray.toList.loop, if_pos hi, ih (i + 1) _ (by omega), List.drop_eq_getElem_cons hi, List.reverse_cons,
        List.append_assoc, hget]
      rfl
  exact hloop _ 0 [] rfl

namespace Text

/-- A text has characters of ASCII only. -/
def IsAscii (s : String) : Prop := ∀ c ∈ s.toList, c.toNat < 128

theorem IsAscii.append {s t : String} (hs : IsAscii s) (ht : IsAscii t) : IsAscii (s ++ t) := by
  intro c hc
  rw [String.toList_append] at hc
  exact (List.mem_append.1 hc).elim (hs c) (ht c)

theorem isAscii_paddedNat (width n : Nat) : IsAscii (paddedNat width n) := by
  intro c hc
  have := Char.sub_zero_lt (isDigit_paddedNat width n c hc)
  omega

/-- The bytes of a text in ASCII are its characters. -/
theorem utf8?_ascii {s : String} (h : IsAscii s) :
    ∃ bytes, utf8? s = some bytes ∧ (bytes.map fun b => Char.ofNat b.toNat) = s.toList := by
  have hpoints : ∀ cs : List Char, (∀ c ∈ cs, c.toNat < 128) → pointsOf cs = cs.map .char := by
    intro cs
    induction cs with
    | nil => exact fun _ => rfl
    | cons c rest ih =>
      intro hcs
      have hmark : c ≠ surrogateMark := by
        rintro rfl
        exact absurd (hcs _ (List.mem_cons_self ..)) (by decide)
      have hrest := ih fun d hd => hcs d (List.mem_cons_of_mem _ hd)
      cases rest with
      | nil => rfl
      | cons d rest =>
        rw [pointsOf, if_neg hmark, hrest]
        rfl
  have hchars : ∀ cs : List Char, (cs.map CodePoint.char).mapM CodePoint.char? = some cs := by
    intro cs
    induction cs with
    | nil => rfl
    | cons c rest ih =>
      rw [List.map_cons, List.mapM_cons, ih]
      rfl
  have hencode : s.toList.flatMap String.utf8EncodeChar = s.toList.map fun c => UInt8.ofNat c.toNat := by
    rw [List.map_eq_flatMap]
    refine List.flatMap_congr fun c hc => ?_
    have hsmall := h c hc
    unfold String.utf8EncodeChar
    exact if_pos (Nat.le_of_lt_succ hsmall)
  refine ⟨s.toList.map fun c => UInt8.ofNat c.toNat, ?_, ?_⟩
  · unfold utf8? points
    rw [hpoints _ h, hchars]
    change some (String.ofList s.toList).toByteArray.toList = _
    rw [ByteArray.toList_eq]
    change some ((s.toList.flatMap String.utf8EncodeChar).toByteArray).data.toList = _
    rw [List.toList_data_toByteArray, hencode]
  · rw [List.map_map]
    refine (List.map_congr_left fun c hc => ?_).trans (List.map_id _)
    have hsmall := h c hc
    change Char.ofNat (UInt8.ofNat c.toNat).toNat = c
    rw [UInt8.toNat_ofNat', Nat.mod_eq_of_lt (by omega)]
    exact Char.ofNat_toNat c

end Text

/-! ## Moments in texts -/

/-- A moment without the seconds of its zone. -/
def Moment.cut (t : Moment) : Moment := { t with offset := t.offset.map wholeMinutes }

/-- The zone of a moment is whole minutes away from universal time, if there is one. -/
def Moment.InMinutes (t : Moment) : Prop := ∀ o ∈ t.offset, 60 ∣ o

theorem Moment.wholeMinutes_eq_iff {o : Int} : wholeMinutes o = o ↔ 60 ∣ o := by
  unfold wholeMinutes
  split <;> omega

theorem Moment.cut_eq_iff {t : Moment} : t.cut = t ↔ t.InMinutes := by
  obtain ⟨date, hour, minute, second, micro, offset⟩ := t
  unfold cut InMinutes
  cases offset with
  | none => simp
  | some o => simp [wholeMinutes_eq_iff]

namespace TimeStamp

theorem toList_stamp (t : Moment) : t.stamp.toList =
    t.date.iso.toList ++ 'T' :: (t.clock.toList ++ ((t.offset.map Moment.minuteZone).getD "").toList) := by
  have hbetween : "T".toList = ['T'] := rfl
  unfold Moment.stamp
  simp only [String.toList_append, List.append_assoc, hbetween, List.cons_append, List.nil_append]

theorem moment?_stamp {t : Moment} (h : t.isValid = true) : moment? t.stamp.toList = some t.cut := by
  obtain ⟨hdate, _, _, _, _, hoffset⟩ := Moment.isValid_iff.1 h
  have hlength : t.date.iso.toList.length = 10 := by
    rw [Date.toList_iso hdate]
    rfl
  have hbetween : t.stamp.toList[10]? = some 'T' := by
    rw [toList_stamp, List.getElem?_append_right (by omega), hlength]
    rfl
  have hrest : t.stamp.toList.drop 11 = t.clock.toList ++ ((t.offset.map Moment.minuteZone).getD "").toList := by
    rw [toList_stamp, List.append_cons]
    exact List.drop_left' (by rw [List.length_append, hlength]; rfl)
  unfold moment?
  rw [hbetween, hrest, clock?_text h (zone?_text hoffset) (Moment.head?_zone hoffset), toList_stamp, leadingDate_iso hdate]
  rfl

/-- A moment in a text exists, if its year has a number. -/
theorem moment?_valid {cs : List Char} {t : Moment} (h : moment? cs = some t) (hyear : t.date.year ≠ 0) : t.isValid = true := by
  unfold moment? at h
  obtain ⟨d, hd, h⟩ := Option.bind_eq_some_iff.1 h
  obtain ⟨between, _, h⟩ := Option.bind_eq_some_iff.1 h
  obtain ⟨_, h⟩ := Option.unless_eq_some.1 h
  obtain ⟨⟨⟨hour, minute, second, micro⟩, offset⟩, hclock, h⟩ := Option.bind_eq_some_iff.1 h
  cases h
  have hdate : leadingDate cs = .ok d := by
    cases hleading : leadingDate cs <;> rw [hleading] at hd <;> cases hd
    rfl
  obtain ⟨hhour, hminute, hsecond, hmicro, hoffset⟩ := clock?_valid hclock
  exact Moment.isValid_iff.2 ⟨leadingDate_valid hdate hyear, hhour, hminute, hsecond, hmicro, hoffset⟩

end TimeStamp

theorem Moment.isAscii_stamp (t : Moment) : Text.IsAscii t.stamp := by
  have hmark : ∀ s ∈ ["", "-", "+", "T", ":", ".", "Z"], Text.IsAscii s := by simp [Text.IsAscii]
  have hpad := Text.isAscii_paddedNat
  have hdate : Text.IsAscii t.date.iso :=
    ((((hpad _ _).append (hmark "-" (by decide))).append (hpad _ _)).append (hmark "-" (by decide))).append (hpad _ _)
  have hclock : Text.IsAscii t.clock := by
    refine (((((hpad _ _).append (hmark ":" (by decide))).append (hpad _ _)).append (hmark ":" (by decide))).append
      (hpad _ _)).append ?_
    split
    · exact hmark "" (by decide)
    · exact (hmark "." (by decide)).append (hpad _ _)
  have hzone : ∀ o, Text.IsAscii (minuteZone o) := by
    intro o
    unfold minuteZone
    split
    · exact hmark "Z" (by decide)
    · refine (((?_ : Text.IsAscii _).append (hpad _ _)).append (hmark ":" (by decide))).append (hpad _ _)
      split
      · exact hmark "-" (by decide)
      · exact hmark "+" (by decide)
  refine ((hdate.append (hmark "T" (by decide))).append hclock).append ?_
  cases t.offset with
  | none => exact hmark "" (by decide)
  | some o => exact hzone o

/-- **A time stamp is read back from its text**, but for the seconds of its zone. -/
theorem Reading.timeStamp_stamp {t : Moment} (h : t.isValid = true) : Reading.timeStamp (.text t.stamp) = .ok t.cut := by
  obtain ⟨bytes, hbytes, hchars⟩ := Text.utf8?_ascii t.isAscii_stamp
  have hyear : t.cut.date.year ≠ 0 := by
    have hdate := (Date.isValid_iff.1 (Moment.isValid_iff.1 h).1).1
    exact Nat.ne_of_gt hdate
  have hof : TimeStamp.ofDatum (.text t.stamp) = .ok t.cut := by
    change (Text.utf8? t.stamp).elim (.error .notUnicode) TimeStamp.ofBytes = _
    rw [hbytes]
    change TimeStamp.ofBytes bytes = _
    unfold TimeStamp.ofBytes
    dsimp only
    rw [hchars, TimeStamp.moment?_stamp h]
    exact if_neg hyear
  unfold Reading.timeStamp
  rw [hof]

/-! ## What is read exists -/

namespace TimeStamp

/-- Whether what is counted, or read off a text, is a moment that exists once its year has a number. -/
def Sound {ε : Type} (x : Except ε Moment) : Prop := ∀ t, x = .ok t → t.date.year ≠ 0 → t.isValid = true

theorem placed_valid {t u : Moment} (h : placed t = .ok u) (hsound : t.date.year ≠ 0 → t.isValid = true) : u.isValid = true := by
  unfold placed at h
  split at h
  · cases h
  · next hyear =>
    cases h
    exact hsound hyear

theorem ofCount_sound (count : Int) (micro : Nat) : Sound (ofCount count micro) := by
  have hplaced : ∀ (seconds : Int) (total : Nat) (early late : String),
      Sound (if seconds < firstSecond then .error early
        else if lastSecond < seconds then .error late else .ok (Moment.ofEpoch seconds (total % 1000000))) := by
    intro seconds total early late t h hyear
    split at h
    · cases h
    split at h
    · cases h
    · next hfirst hlast =>
      rw [← Except.ok.inj h] at hyear ⊢
      unfold firstSecond at hfirst
      unfold lastSecond at hlast
      exact Moment.ofEpoch_valid (by omega) (by omega) (by omega) hyear
  exact hplaced _ _ _ _

theorem ofDouble_sound (f : Binary64) : Sound (ofDouble f) := by
  cases f with
  | nan => exact nofun
  | infinite negative => cases negative <;> exact nofun
  | finite negative m e => exact ofCount_sound _ _

/-- A text that is a date has a date at its front. -/
theorem leadingDate_of_date {cs : List Char} {d : Date} (h : date cs = .ok d) : leadingDate cs = .ok d := by
  unfold date at h
  obtain ⟨d', hd, h⟩ := Except.bind_eq_ok.1 h
  obtain ⟨_, h⟩ := Except.unless_eq_ok.1 h
  cases h
  exact hd

theorem moment_of_date_valid {d : Date} (h : d.isValid = true) : ({ date := d } : Moment).isValid = true :=
  Moment.isValid_iff.2 ⟨h, Nat.zero_lt_succ _, Nat.zero_lt_succ _, Nat.zero_lt_succ _, Nat.zero_lt_succ _, nofun⟩

theorem dateOrCount_sound (cs : List Char) : Sound (dateOrCount cs) := by
  intro t h hyear
  unfold dateOrCount at h
  split at h
  · next d hd =>
    cases h
    exact moment_of_date_valid (leadingDate_valid (leadingDate_of_date hd) hyear)
  · split at h
    · exact ofCount_sound _ _ t h hyear
    · cases h

theorem ofBytes_valid {bytes : List UInt8} {t : Moment} (h : ofBytes bytes = .ok t) : t.isValid = true := by
  unfold ofBytes at h
  dsimp only at h
  split at h
  · next u hu => exact placed_valid h (moment?_valid hu)
  split at h
  · next u hu =>
    obtain ⟨n, _, hcount⟩ := Option.map_eq_some_iff.1 hu
    exact placed_valid h (ofCount_sound n 0 u hcount)
  split at h
  · next u hu =>
    obtain ⟨f, _, hdouble⟩ := Option.map_eq_some_iff.1 hu
    exact placed_valid h (ofDouble_sound f u hdouble)
  split at h
  · next u hu => exact placed_valid h (dateOrCount_sound _ u hu)
  · cases h

theorem ofNumber_valid {count : Except String Moment} (hcount : Sound count) {t : Moment} (h : ofNumber count = .ok t) :
    t.isValid = true := by
  unfold ofNumber at h
  split at h
  · exact placed_valid h (hcount _ rfl)
  · cases h

end TimeStamp

/-- Whether a datum that is a moment or a date is one that exists. -/
def Datum.Dated : Datum → Prop
  | .scalar (.moment t) => t.isValid = true
  | .scalar (.date d) => d.isValid = true
  | _ => True

/-- **What is read as a time stamp is a moment that exists.** -/
theorem Reading.timeStamp_valid {d : Datum} {t : Moment} (hd : d.Dated) (h : Reading.timeStamp d = .ok t) : t.isValid = true := by
  unfold Reading.timeStamp at h
  split at h
  · next u hu =>
    cases h
    unfold TimeStamp.ofDatum at hu
    split at hu
    · cases hu
      exact hd
    · cases hu
      exact TimeStamp.moment_of_date_valid hd
    · next s =>
      cases hbytes : Text.utf8? s with
      | none =>
        rw [hbytes] at hu
        cases hu
      | some bytes =>
        rw [hbytes] at hu
        exact TimeStamp.ofBytes_valid hu
    · exact TimeStamp.ofBytes_valid hu
    · split at hu
      · exact TimeStamp.ofNumber_valid (TimeStamp.ofCount_sound _ _) hu
      · cases hu
    · exact TimeStamp.ofNumber_valid (TimeStamp.ofDouble_sound _) hu
    · cases hu
  · cases h

end ShapeCheck
