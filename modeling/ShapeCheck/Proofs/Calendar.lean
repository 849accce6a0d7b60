import ShapeCheck.Calendar.Date

/-!
# Dates of the calendar

The date with a given number is one of the calendar, in the year that holds the number: `Date.ofOrdinal_spec`. So a count of
seconds since 1970 that is neither before the year zero nor after the year 9999 gives a moment that exists, but for the year
zero, which has no number: `Moment.ofEpoch_valid`.
-/

namespace ShapeCheck

namespace Date

theorem daysIn_le (year month : Nat) : daysIn year month ≤ 31 := by
  unfold daysIn
  split <;> split <;> first | omega | split <;> omega

/-- The parts of a date that exists. -/
theorem isValid_iff {d : Date} : d.isValid = true ↔
    1 ≤ d.year ∧ d.year ≤ 9999 ∧ 1 ≤ d.month ∧ d.month ≤ 12 ∧ 1 ≤ d.day ∧ d.day ≤ daysIn d.year d.month := by
  have hmonth : 1 ≤ d.day ∧ d.day ≤ daysIn d.year d.month → 1 ≤ d.month ∧ d.month ≤ 12 := by
    rintro ⟨hpos, hle⟩
    unfold daysIn at hle
    simp only [Bool.or_eq_true, Bool.and_eq_true, decide_eq_true_eq] at hle
    split at hle
    · omega
    split at hle
    · omega
    split at hle <;> omega
  unfold isValid
  simp only [Bool.and_eq_true, decide_eq_true_eq]
  constructor
  · rintro ⟨⟨⟨hpos, hle⟩, hfirst⟩, hlast⟩
    obtain ⟨hm, hm'⟩ := hmonth ⟨hfirst, hlast⟩
    exact ⟨hpos, hle, hm, hm', hfirst, hlast⟩
  · rintro ⟨hpos, hle, _, _, hfirst, hlast⟩
    exact ⟨⟨⟨hpos, hle⟩, hfirst⟩, hlast⟩

/-! ## Months of a year -/

/-- The days of so many months at the end of a year. -/
def daysAtEnd (year : Nat) : Nat → Nat
  | 0 => 0
  | months + 1 => daysIn year (12 - months) + daysAtEnd year months

/-- A year has a day more if it is a leap year. -/
theorem daysAtEnd_year (year : Nat) : daysAtEnd year 12 = if isLeap year then 366 else 365 := by
  cases h : isLeap year <;> simp [daysAtEnd, daysIn, h]

/-- The days before a year, without subtraction. -/
theorem daysBeforeYear_add (y : Nat) : daysBeforeYear (y + 1) + y / 100 = y * 365 + y / 4 + y / 400 := by
  unfold daysBeforeYear
  dsimp only
  rw [Nat.add_sub_cancel]
  omega

theorem daysBeforeYear_succ (y : Nat) : daysBeforeYear (y + 2) = daysBeforeYear (y + 1) + daysAtEnd (y + 1) 12 := by
  have hthis := daysBeforeYear_add y
  have hnext : daysBeforeYear (y + 2) + (y + 1) / 100 = (y + 1) * 365 + (y + 1) / 4 + (y + 1) / 400 := daysBeforeYear_add (y + 1)
  -- each quotient grows by one at a multiple, and the rule of leap years is about these multiples
  have hat : ∀ {k}, (y + 1) % k = 0 → (y + 1) / k = y / k + 1 := fun h => Nat.succ_div_of_mod_eq_zero h
  have hoff : ∀ {k}, ¬ (y + 1) % k = 0 → (y + 1) / k = y / k := fun h => Nat.succ_div_of_mod_ne_zero h
  have hcentury : (y + 1) % 100 = 0 → (y + 1) % 4 = 0 := by omega
  have hcycle : (y + 1) % 400 = 0 → (y + 1) % 100 = 0 := by omega
  rw [daysAtEnd_year]
  unfold isLeap
  by_cases h4 : (y + 1) % 4 = 0
  · by_cases h100 : (y + 1) % 100 = 0
    · by_cases h400 : (y + 1) % 400 = 0
      · rw [hat h4, hat h100, hat h400] at hnext
        simp only [h4, h400, decide_true, Bool.or_true, Bool.and_true, if_true]
        omega
      · rw [hat h4, hat h100, hoff h400] at hnext
        simp only [h4, h100, h400, ne_eq, not_true_eq_false, decide_false, Bool.or_self, Bool.and_false, Bool.false_eq_true,
          if_false]
        omega
    · rw [hat h4, hoff h100, hoff (mt hcycle h100)] at hnext
      simp only [h4, h100, ne_eq, not_false_eq_true, decide_true, Bool.true_or, Bool.and_true, if_true]
      omega
  · rw [hoff h4, hoff (mt hcentury h4), hoff (mt hcycle (mt hcentury h4))] at hnext
    simp only [h4, decide_false, Bool.false_and, Bool.false_eq_true, if_false]
    omega

theorem isLeap_sub {year : Nat} (h : 400 ≤ year) : isLeap (year - 400) = isLeap year := by
  have h4 : (year - 400) % 4 = year % 4 := by omega
  have h100 : (year - 400) % 100 = year % 100 := by omega
  have h400 : (year - 400) % 400 = year % 400 := by omega
  unfold isLeap
  rw [h4, h100, h400]

theorem daysIn_sub {year : Nat} (h : 400 ≤ year) (month : Nat) : daysIn (year - 400) month = daysIn year month := by
  unfold daysIn
  rw [isLeap_sub h]

/-- A day of the last months of a year lies in one of them. -/
theorem monthOfDay_spec (year : Nat) : ∀ {months rest : Nat}, months ≤ 12 → rest < daysAtEnd year months →
    1 ≤ (monthOfDay year rest months).1 ∧ (monthOfDay year rest months).1 ≤ 12 ∧ 1 ≤ (monthOfDay year rest months).2 ∧
      (monthOfDay year rest months).2 ≤ daysIn year (monthOfDay year rest months).1
  | 0, rest, _, h => absurd h (Nat.not_lt_zero _)
  | months + 1, rest, hmonths, h => by
    rw [daysAtEnd] at h
    rw [monthOfDay]
    by_cases hin : rest < daysIn year (12 - months)
    · rw [if_pos hin]
      exact ⟨by omega, by omega, by omega, Nat.succ_le_of_lt hin⟩
    · rw [if_neg hin]
      exact monthOfDay_spec year (by omega) (by omega)

/-! ## Numbers of days -/

/-- The last year that begins before a day is among the first ones that are tried, if one of these begins before that day. -/
theorem find?_year {n k guess : Nat} (hguess : n ≤ daysBeforeYear (guess + 1))
    (hin : ∃ i < k, daysBeforeYear (guess - i) < n ∧ 1 ≤ guess - i) :
    ∃ y, ((List.range k).map (guess - ·)).find? (fun y => daysBeforeYear y < n && 1 ≤ y) = some y ∧
      1 ≤ y ∧ daysBeforeYear y < n ∧ n ≤ daysBeforeYear (y + 1) := by
  induction k generalizing guess with
  | zero =>
    obtain ⟨_, hi, _⟩ := hin
    exact absurd hi (Nat.not_lt_zero _)
  | succ k ih =>
    obtain ⟨i, hi, hyear⟩ := hin
    have hlist : (List.range (k + 1)).map (guess - ·) = guess :: (List.range k).map (guess - 1 - ·) := by
      rw [List.range_succ_eq_map, List.map_cons, List.map_map]
      exact congrArg _ (List.map_congr_left fun j _ => by simp only [Function.comp]; omega)
    rw [hlist]
    by_cases hfirst : daysBeforeYear guess < n ∧ 1 ≤ guess
    · refine ⟨guess, ?_, hfirst.2, hfirst.1, hguess⟩
      exact List.find?_cons_of_pos (by simpa using hfirst)
    · rw [List.find?_cons_of_neg (by simpa using hfirst)]
      have hpos : i ≠ 0 := by
        rintro rfl
        exact hfirst hyear
      have hless : guess - 1 - (i - 1) = guess - i := by omega
      refine ih ?_ ⟨i - 1, by omega, by rwa [hless]⟩
      rw [Nat.sub_add_cancel (by omega)]
      exact Nat.le_of_not_lt fun h => hfirst ⟨h, by omega⟩

/-- The year in which a day lies is found among those that are tried. -/
theorem year_spec {n : Nat} (h : 1 ≤ n) :
    ∃ y, ((List.range 4).map (n * 400 / 146097 + 2 - ·)).find? (fun y => daysBeforeYear y < n && 1 ≤ y) = some y ∧
      1 ≤ y ∧ daysBeforeYear y < n ∧ n ≤ daysBeforeYear (y + 1) := by
  generalize hq : n * 400 / 146097 = q
  have hlow : 146097 * q ≤ n * 400 := by omega
  have hhigh : n * 400 < 146097 * (q + 1) := by omega
  have hlast : daysBeforeYear (q + 3) + (q + 2) / 100 = (q + 2) * 365 + (q + 2) / 4 + (q + 2) / 400 := daysBeforeYear_add (q + 2)
  refine find?_year (show n ≤ daysBeforeYear (q + 3) by omega) ?_
  by_cases hsmall : q < 2
  · refine ⟨q + 1, by omega, ?_, by omega⟩
    rw [show q + 2 - (q + 1) = 1 by omega]
    exact h
  · obtain ⟨y, rfl⟩ : ∃ y, q = y + 2 := ⟨q - 2, by omega⟩
    have hyear := daysBeforeYear_add y
    refine ⟨3, by decide, ?_, by omega⟩
    rw [show y + 2 + 2 - 3 = y + 1 by omega]
    omega

/-- A day that has a number lies in the year and in the month that are found for it. -/
theorem ofOrdinal_spec {n : Nat} (h : 1 ≤ n) :
    1 ≤ (ofOrdinal n).year ∧ daysBeforeYear (ofOrdinal n).year < n ∧ n ≤ daysBeforeYear ((ofOrdinal n).year + 1) ∧
      1 ≤ (ofOrdinal n).month ∧ (ofOrdinal n).month ≤ 12 ∧ 1 ≤ (ofOrdinal n).day ∧
      (ofOrdinal n).day ≤ daysIn (ofOrdinal n).year (ofOrdinal n).month := by
  obtain ⟨y, hy, hpos, hbefore, hafter⟩ := year_spec h
  have hyear : (ofOrdinal n).year = y := by
    simp only [ofOrdinal, hy, Option.getD_some]
  have hmonth : ((ofOrdinal n).month, (ofOrdinal n).day) = monthOfDay y (n - daysBeforeYear y - 1) 12 := by
    simp only [ofOrdinal, hy, Option.getD_some]
  obtain ⟨z, rfl⟩ : ∃ z, y = z + 1 := ⟨y - 1, by omega⟩
  have hnext : daysBeforeYear (z + 1 + 1) = daysBeforeYear (z + 1) + daysAtEnd (z + 1) 12 := daysBeforeYear_succ z
  have hspec := monthOfDay_spec (z + 1) (Nat.le_refl 12) (show n - daysBeforeYear (z + 1) - 1 < _ by omega)
  rw [← hmonth] at hspec
  rw [hyear]
  exact ⟨hpos, hbefore, hafter, hspec⟩

theorem daysBeforeYear_mono {a b : Nat} (h : a ≤ b) : daysBeforeYear (a + 1) ≤ daysBeforeYear (b + 1) := by
  induction h with
  | refl => exact Nat.le_refl _
  | step _ ih =>
    rw [daysBeforeYear_succ]
    omega

end Date

/-- The parts of a moment that exists. -/
theorem Moment.isValid_iff {t : Moment} : t.isValid = true ↔ t.date.isValid = true ∧ t.hour < 24 ∧ t.minute < 60 ∧
    t.second < 60 ∧ t.micro < 1000000 ∧ ∀ o ∈ t.offset, o.natAbs < 86400 := by
  unfold isValid
  cases t.offset <;> simp [and_assoc]

/-- **A count of seconds gives a moment that exists**, unless it lies in the year zero. -/
theorem Moment.ofEpoch_valid {seconds : Int} {micro : Nat} (hfirst : -62167219200 ≤ seconds) (hlast : seconds ≤ 253402300799)
    (hmicro : micro < 1000000) (hyear : (ofEpoch seconds micro).date.year ≠ 0) : (ofEpoch seconds micro).isValid = true := by
  have hdays : -719528 ≤ seconds.fdiv 86400 ∧ seconds.fdiv 86400 ≤ 2932896 := by
    rw [Int.fdiv_eq_ediv_of_nonneg _ (by decide)]
    omega
  have hrest : (seconds.fmod 86400).toNat < 86400 := by
    rw [Int.fmod_eq_emod_of_nonneg _ (by decide)]
    omega
  generalize hn : (seconds.fdiv 86400 + 719163 + 146097).toNat = n
  obtain ⟨hpos, hbefore, hafter, hmonth, hmonth', hday, hday'⟩ := Date.ofOrdinal_spec (show 1 ≤ n by omega)
  have hdate : (ofEpoch seconds micro).date = { Date.ofOrdinal n with year := (Date.ofOrdinal n).year - 400 } := by
    unfold ofEpoch
    dsimp only
    rw [hn]
  rw [hdate] at hyear
  have hge : 400 ≤ (Date.ofOrdinal n).year := by
    dsimp only at hyear
    omega
  have hle : (Date.ofOrdinal n).year ≤ 10399 := by
    have hend : Date.daysBeforeYear (10399 + 1) = 3798156 := by decide
    refine Nat.le_of_not_lt fun h => ?_
    have := Date.daysBeforeYear_mono (show 10399 ≤ (Date.ofOrdinal n).year - 1 by omega)
    rw [Nat.sub_add_cancel hpos] at this
    omega
  have hvalid : (ofEpoch seconds micro).date.isValid = true := by
    rw [hdate, Date.isValid_iff]
    dsimp only at hyear ⊢
    rw [Date.daysIn_sub hge]
    omega
  have hoffset : ∀ o ∈ (ofEpoch seconds micro).offset, o.natAbs < 86400 := by
    rintro o ⟨⟩
    decide
  refine isValid_iff.2 ⟨hvalid, ?_, ?_, ?_, hmicro, hoffset⟩ <;> unfold ofEpoch <;> dsimp only <;> omega

end ShapeCheck
