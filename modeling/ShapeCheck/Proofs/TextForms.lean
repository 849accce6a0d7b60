import Mathlib.Data.List.Basic
import ShapeCheck.Checker.Compile
import ShapeCheck.Proofs.Calls
import ShapeCheck.Proofs.PlainPatterns

/-!
# The words that forms of texts are for

`alphanum` is for words of letters and digits, `IsWord`, and `email` for addresses, `IsAddress`. What they accept is these, and
these with one line feed behind them, `OrFed`: that is what their patterns match as well, where the end of a text is also the
place before a line feed that ends it. A text keeps its code points as characters, of which some stand for others, but no
language here tells one of those from another, so what is so of the characters is so of the code points.
-/

namespace ShapeCheck.Text

/-! ## Languages -/

/-- The code of a letter or a digit of ASCII, or of a space where that is let in. -/
def IsPlainCode (spaces : Bool) (c : Nat) : Prop :=
  ('a'.toNat ≤ c ∧ c ≤ 'z'.toNat) ∨ ('A'.toNat ≤ c ∧ c ≤ 'Z'.toNat) ∨ ('0'.toNat ≤ c ∧ c ≤ '9'.toNat) ∨
    spaces = true ∧ c = ' '.toNat

/-- One or more letters and digits of ASCII, and spaces where these are let in. -/
def IsWord (spaces : Bool) (w : List Nat) : Prop := w ≠ [] ∧ ∀ c ∈ w, IsPlainCode spaces c

/-- No blanks, one `@` with something before it, and after it a point with something on each side. -/
def IsAddress (w : List Nat) : Prop :=
  (∀ c ∈ w, blanks.has c = false) ∧ w.count '@'.toNat = 1 ∧ ∃ user site domain,
    w = user ++ '@'.toNat :: (site ++ '.'.toNat :: domain) ∧ user ≠ [] ∧ site ≠ [] ∧ domain ≠ []

/-- A word of a language, or such a word with a line feed behind it. -/
def OrFed (language : List Nat → Prop) (w : List Nat) : Prop := ∃ t, (w = t ∨ w = t ++ ['\n'.toNat]) ∧ language t

theorem has_blanks_lt {c : Nat} (h : blanks.has c = true) : c < 0xD800 := by
  simp only [blanks, CharRanges.has] at h
  grind

theorem IsPlainCode.lt {spaces : Bool} {c : Nat} (h : IsPlainCode spaces c) : c < 0xD800 := by
  simp only [IsPlainCode, Char.reduceToNat] at h
  omega

theorem IsWord.no_feed {spaces : Bool} {w : List Nat} (h : IsWord spaces w) : '\n'.toNat ∉ w := by
  intro hfeed
  have hplain := h.2 _ hfeed
  simp [IsPlainCode] at hplain

theorem IsAddress.no_feed {w : List Nat} (h : IsAddress w) : '\n'.toNat ∉ w := by
  intro hfeed
  have hblank := h.1 _ hfeed
  revert hblank
  decide

/-! ## Characters -/

theorem isPlain_iff {spaces : Bool} {c : Char} :
    (isAsciiAlphanumeric c || (spaces && c = ' ')) = true ↔ IsPlainCode spaces c.toNat := by
  have hspace : c = ' ' ↔ c.toNat = ' '.toNat := Char.toNat_inj.symm
  simp only [isAsciiAlphanumeric, IsPlainCode, Bool.or_eq_true, Bool.and_eq_true, decide_eq_true_eq, hspace, or_assoc,
    Char.le_def, UInt32.le_iff_toNat_le]
  rfl

/-- The characters without a final line feed are a word exactly if the characters are one, maybe with a line feed behind. -/
theorem orFed_iff {language : List Nat → Prop} (hfeed : ∀ w, language w → '\n'.toNat ∉ w) (cs : List Char) :
    OrFed language (cs.map Char.toNat) ↔ language ((withoutFinalFeed cs).map Char.toNat) := by
  unfold withoutFinalFeed
  split
  · next hlast =>
    obtain ⟨ds, rfl⟩ := List.getLast?_eq_some_iff.1 hlast
    rw [List.dropLast_concat, List.map_append, List.map_singleton]
    constructor
    · rintro ⟨t, rfl | ht, hw⟩
      · exact absurd (List.mem_append_right _ (List.mem_singleton_self _)) (hfeed _ hw)
      · rwa [(List.append_inj' ht rfl).1]
    · intro hw
      exact ⟨_, .inr rfl, hw⟩
  · next hlast =>
    constructor
    · rintro ⟨t, rfl | ht, hw⟩
      · exact hw
      · obtain ⟨us, vs, rfl, _, hvs⟩ := List.map_eq_append_iff.1 ht
        obtain ⟨c, rfl, hc⟩ := List.map_eq_singleton_iff.1 hvs
        obtain rfl := Char.toNat_inj.1 hc
        exact absurd List.getLast?_concat hlast
    · intro hw
      exact ⟨_, .inl rfl, hw⟩

theorem isAlphanumeric_iff {spaces : Bool} {s : String} :
    isAlphanumeric spaces s = true ↔ OrFed (IsWord spaces) (s.toList.map Char.toNat) := by
  rw [orFed_iff fun _ => IsWord.no_feed]
  simp only [isAlphanumeric, IsWord, Bool.and_eq_true, Bool.not_eq_true', List.isEmpty_eq_false_iff, ne_eq, List.map_eq_nil_iff,
    List.all_eq_true, isPlain_iff, List.forall_mem_map]

/-- A thing stands inside of a list, with something on each side. -/
theorem mem_inside_iff {α : Type} {a : α} {xs : List α} :
    a ∈ (xs.drop 1).dropLast ↔ ∃ us vs, xs = us ++ a :: vs ∧ us ≠ [] ∧ vs ≠ [] := by
  constructor
  · intro h
    obtain ⟨us, vs, hsplit⟩ := List.append_of_mem h
    cases xs with
    | nil => cases h
    | cons x rest =>
        rw [List.drop_one, List.tail_cons] at hsplit
        have hne : rest ≠ [] := by
          rintro rfl
          cases h
        refine ⟨x :: us, vs ++ [rest.getLast hne], ?_, List.cons_ne_nil _ _, by simp⟩
        rw [List.cons_append, ← List.cons_append (a := a), ← List.append_assoc, ← hsplit, List.dropLast_concat_getLast]
  · rintro ⟨us, vs, rfl, hus, hvs⟩
    cases us with
    | nil => exact absurd rfl hus
    | cons u us =>
        rw [List.cons_append, List.drop_one, List.tail_cons, List.dropLast_append_of_ne_nil (List.cons_ne_nil _ _),
          List.dropLast_cons_of_ne_nil hvs]
        exact List.mem_append_right _ (List.mem_cons_self ..)

/-- What is an address is told by what stands before its first `@` and behind it. -/
theorem isAddress_append_iff {user host : List Nat} (huser : '@'.toNat ∉ user) :
    IsAddress (user ++ '@'.toNat :: host) ↔ (∀ c ∈ user ++ '@'.toNat :: host, blanks.has c = false) ∧ '@'.toNat ∉ host ∧
      user ≠ [] ∧ '.'.toNat ∈ (host.drop 1).dropLast := by
  have hcount : (user ++ '@'.toNat :: host).count '@'.toNat = 1 ↔ '@'.toNat ∉ host := by
    rw [List.count_append, List.count_cons_self, List.count_eq_zero_of_not_mem huser, Nat.zero_add, Nat.add_eq_right,
      List.count_eq_zero]
  rw [mem_inside_iff]
  unfold IsAddress
  rw [hcount]
  refine and_congr_right fun _ => and_congr_right fun hhost => ?_
  constructor
  · rintro ⟨user', site, domain, heq, hne, hsite, hdomain⟩
    obtain ⟨rfl, _, rfl⟩ := (List.append_cons_inj_of_notMem huser hhost).1 heq
    exact ⟨hne, site, domain, rfl, hsite, hdomain⟩
  · rintro ⟨hne, site, domain, rfl, hsite, hdomain⟩
    exact ⟨user, site, domain, rfl, hne, hsite, hdomain⟩

theorem mem_map_toNat {c : Char} {cs : List Char} : c.toNat ∈ cs.map Char.toNat ↔ c ∈ cs :=
  List.mem_map_of_injective fun _ _ => Char.toNat_inj.1

theorem isEmail_iff {s : String} : isEmail s = true ↔ OrFed IsAddress (s.toList.map Char.toNat) := by
  rw [orFed_iff fun _ => IsAddress.no_feed]
  unfold isEmail
  generalize withoutFinalFeed s.toList = cs
  dsimp only
  have huser : '@' ∉ cs.takeWhile (· ≠ '@') := by
    intro hmem
    have hne := List.mem_takeWhile_imp hmem
    simp at hne
  have hrest : cs.drop (cs.takeWhile (· ≠ '@')).length = cs.dropWhile (· ≠ '@') := by
    conv => lhs; arg 2; rw [← List.takeWhile_append_dropWhile (p := (· ≠ '@')) (l := cs)]
    rw [List.drop_left]
  rw [hrest]
  have hsplit : cs.takeWhile (· ≠ '@') ++ cs.dropWhile (· ≠ '@') = cs := List.takeWhile_append_dropWhile
  cases hdrop : cs.dropWhile (· ≠ '@') with
  | nil =>
      rw [hdrop, List.append_nil] at hsplit
      rw [hsplit] at huser
      refine ⟨nofun, fun h => ?_⟩
      have hcount := h.2.1
      rw [List.count_eq_zero_of_not_mem (mt mem_map_toNat.1 huser)] at hcount
      cases hcount
  | cons c host =>
      have hc : c = '@' := by
        have hhead := List.head?_dropWhile_not (· ≠ '@') cs
        rw [hdrop] at hhead
        simpa using hhead
      subst hc
      rw [hdrop] at hsplit
      generalize cs.takeWhile (· ≠ '@') = user at *
      subst hsplit
      rw [List.map_append, List.map_cons, isAddress_append_iff (mt mem_map_toNat.1 huser), ← List.map_cons, ← List.map_append,
        mem_map_toNat, ← List.map_drop, ← List.map_dropLast, mem_map_toNat]
      simp only [Bool.and_eq_true, Bool.not_eq_true', List.isEmpty_eq_false_iff, List.any_eq_false, List.contains_eq_mem,
        decide_eq_true_eq, decide_eq_false_iff_not, List.forall_mem_map, ne_eq, List.map_eq_nil_iff, isBlank,
        Bool.not_eq_true]
      tauto

/-! ## Code points -/

/-- The characters that keep a code point, by their codes. -/
def CodePoint.writtenCodes (p : CodePoint) : List Nat := p.written.map Char.toNat

theorem toNat_tag (k : Fin 2048) : (Char.ofNat (surrogateTags + k)).toNat = surrogateTags + k := by
  have valid : (surrogateTags + k.val).isValidChar := by
    right
    simp only [surrogateTags]
    omega
  rw [Char.ofNat, dif_pos valid]
  rfl

/-- A code point below the surrogates stands for itself, and the others are kept by characters above them. -/
theorem CodePoint.writtenCodes_cases (p : CodePoint) :
    p.writtenCodes = [p.code] ∨ 0xD800 ≤ p.code ∧ p.writtenCodes ≠ [] ∧ ∀ c ∈ p.writtenCodes, 0xD800 ≤ c := by
  have hmark : surrogateMark.toNat = 0x10FFFF := by decide
  unfold writtenCodes
  cases p with
  | surrogate k =>
      refine .inr ⟨Nat.le_add_right .., by simp [CodePoint.written], ?_⟩
      intro c hc
      simp only [CodePoint.written, List.map_cons, List.map_nil, toNat_tag, hmark, List.mem_cons, List.not_mem_nil,
        or_false] at hc
      unfold surrogateTags at hc
      omega
  | char c =>
      by_cases hc : c = surrogateMark
      · right
        simp [CodePoint.written, CodePoint.code, hc, hmark]
      · left
        simp [CodePoint.written, CodePoint.code, hc]

namespace CodePoint

variable {p : CodePoint} {c : Nat}

theorem writtenCodes_ne_nil : p.writtenCodes ≠ [] := by
  rcases p.writtenCodes_cases with h | ⟨_, h, _⟩
  · simp [h]
  · exact h

/-- Below the surrogates, a code is kept only by itself. -/
theorem writtenCodes_of_mem (hc : c < 0xD800) (h : c ∈ p.writtenCodes) : p.writtenCodes = [c] ∧ p.code = c := by
  rcases p.writtenCodes_cases with hp | ⟨_, _, hhigh⟩
  · rw [hp, List.mem_singleton] at h
    rw [hp, h]
    exact ⟨rfl, rfl⟩
  · have hle := hhigh c h
    omega

theorem mem_writtenCodes_iff (hc : c < 0xD800) : c ∈ p.writtenCodes ↔ p.code = c := by
  refine ⟨fun h => (writtenCodes_of_mem hc h).2, ?_⟩
  rintro rfl
  rcases p.writtenCodes_cases with hp | ⟨hhigh, _, _⟩
  · rw [hp]
    exact List.mem_singleton_self _
  · omega

/-- What holds only of codes below the surrogates holds of all that keep a code point if it holds of the code point. -/
theorem forall_writtenCodes_iff {P : Nat → Prop} (hP : ∀ c, P c → c < 0xD800) :
    (∀ c ∈ p.writtenCodes, P c) ↔ P p.code := by
  rcases p.writtenCodes_cases with hp | ⟨hhigh, hne, hall⟩
  · rw [hp, List.forall_mem_singleton]
  · constructor
    · intro h
      obtain ⟨c, hc⟩ := List.exists_mem_of_ne_nil _ hne
      have hlow := hP c (h c hc)
      have hle := hall c hc
      omega
    · intro h
      have hlow := hP _ h
      omega

theorem exists_writtenCodes_iff {P : Nat → Prop} (hP : ∀ c, P c → c < 0xD800) :
    (∃ c ∈ p.writtenCodes, P c) ↔ P p.code := by
  constructor
  · rintro ⟨c, hc, h⟩
    rwa [(writtenCodes_of_mem (hP c h) hc).2]
  · intro h
    exact ⟨p.code, (mem_writtenCodes_iff (hP _ h)).2 rfl, h⟩

theorem count_writtenCodes (hc : c < 0xD800) : p.writtenCodes.count c = if p.code = c then 1 else 0 := by
  by_cases h : p.code = c
  · rw [if_pos h, (writtenCodes_of_mem hc ((mem_writtenCodes_iff hc).2 h)).1, List.count_singleton_self]
  · rw [if_neg h, List.count_eq_zero]
    exact fun hmem => h ((mem_writtenCodes_iff hc).1 hmem)

end CodePoint

/-- The codes of the characters that keep some code points. -/
def keptCodes (ps : List CodePoint) : List Nat := ps.flatMap CodePoint.writtenCodes

theorem toList_ofPoints (ps : List CodePoint) : (ofPoints ps).toList.map Char.toNat = keptCodes ps := by
  rw [ofPoints, String.toList_ofList, List.map_flatMap]
  rfl

theorem keptCodes_append (ps qs : List CodePoint) : keptCodes (ps ++ qs) = keptCodes ps ++ keptCodes qs :=
  List.flatMap_append

theorem keptCodes_cons (p : CodePoint) (ps : List CodePoint) : keptCodes (p :: ps) = p.writtenCodes ++ keptCodes ps :=
  List.flatMap_cons

theorem keptCodes_eq_nil_iff {ps : List CodePoint} : keptCodes ps = [] ↔ ps = [] := by
  cases ps with
  | nil => simp [keptCodes]
  | cons p ps => simp [keptCodes_cons, CodePoint.writtenCodes_ne_nil]

/-- Where a code below the surrogates stands, its code point stands, and what is around it keeps what is around that. The
induction is on the code points. -/
theorem keptCodes_split {ps : List CodePoint} {us vs : List Nat} {c : Nat} (hc : c < 0xD800)
    (h : keptCodes ps = us ++ c :: vs) :
    ∃ qs p rs, ps = qs ++ p :: rs ∧ p.code = c ∧ keptCodes qs = us ∧ keptCodes rs = vs := by
  induction ps generalizing us with
  | nil =>
      rw [keptCodes_eq_nil_iff.2 rfl] at h
      simp at h
  | cons p ps ih =>
      rw [keptCodes_cons] at h
      rcases List.append_eq_append_iff.1 h with ⟨us', hus, hps⟩ | ⟨xs, hp, hvs⟩
      · obtain ⟨qs, q, rs, rfl, hq, rfl, hrs⟩ := ih hps
        exact ⟨p :: qs, q, rs, rfl, hq, by rw [keptCodes_cons, hus], hrs⟩
      · cases xs with
        | nil =>
            rw [List.append_nil] at hp
            obtain ⟨qs, q, rs, rfl, hq, hqs, hrs⟩ := @ih [] hvs.symm
            exact ⟨p :: qs, q, rs, rfl, hq, by rw [keptCodes_cons, hqs, List.append_nil, hp], hrs⟩
        | cons x xs =>
            cases hvs
            obtain ⟨hsingle, hcode⟩ := CodePoint.writtenCodes_of_mem (p := p) hc (hp ▸ by simp)
            rw [hsingle] at hp
            obtain ⟨rfl, hxs⟩ := List.append_eq_singleton_iff.1 hp.symm |>.resolve_right (by simp)
            obtain rfl := List.cons.inj hxs |>.2
            exact ⟨[], p, ps, rfl, hcode, rfl, rfl⟩

theorem count_keptCodes {c : Nat} (hc : c < 0xD800) (ps : List CodePoint) :
    (keptCodes ps).count c = (ps.map CodePoint.code).count c := by
  induction ps with
  | nil => rfl
  | cons p ps ih =>
      rw [keptCodes_cons, List.count_append, ih, CodePoint.count_writtenCodes hc, List.map_cons, List.count_cons, Nat.add_comm]
      simp

theorem isWord_keptCodes_iff {spaces : Bool} {ps : List CodePoint} :
    IsWord spaces (keptCodes ps) ↔ IsWord spaces (ps.map CodePoint.code) := by
  have hall : (∀ c ∈ keptCodes ps, IsPlainCode spaces c) ↔ ∀ p ∈ ps, IsPlainCode spaces p.code := by
    unfold keptCodes
    rw [List.forall_mem_flatMap]
    exact forall₂_congr fun p _ => CodePoint.forall_writtenCodes_iff fun _ => IsPlainCode.lt
  unfold IsWord
  rw [hall, ne_eq, keptCodes_eq_nil_iff, List.forall_mem_map, ne_eq, List.map_eq_nil_iff]

theorem isAddress_keptCodes_iff {ps : List CodePoint} : IsAddress (keptCodes ps) ↔ IsAddress (ps.map CodePoint.code) := by
  have hall : (∀ c ∈ keptCodes ps, blanks.has c = false) ↔ ∀ p ∈ ps, blanks.has p.code = false := by
    unfold keptCodes
    rw [List.forall_mem_flatMap]
    refine forall₂_congr fun p _ => ?_
    have hblank := CodePoint.exists_writtenCodes_iff (p := p) (P := fun c => blanks.has c = true) fun _ => has_blanks_lt
    simpa using hblank.not
  unfold IsAddress
  rw [hall, count_keptCodes (by decide), List.forall_mem_map]
  refine and_congr_right fun _ => and_congr_right fun _ => ?_
  constructor
  · rintro ⟨user, site, domain, heq, huser, hsite, hdomain⟩
    obtain ⟨us, p, rest, rfl, hp, rfl, hrest⟩ := keptCodes_split (by decide) heq
    obtain ⟨ss, q, ds, rfl, hq, rfl, rfl⟩ := keptCodes_split (by decide) hrest
    refine ⟨us.map CodePoint.code, ss.map CodePoint.code, ds.map CodePoint.code, ?_, ?_, ?_, ?_⟩
    · simp only [List.map_append, List.map_cons, hp, hq]
    · exact mt List.map_eq_nil_iff.1 (mt keptCodes_eq_nil_iff.2 huser)
    · exact mt List.map_eq_nil_iff.1 (mt keptCodes_eq_nil_iff.2 hsite)
    · exact mt List.map_eq_nil_iff.1 (mt keptCodes_eq_nil_iff.2 hdomain)
  · rintro ⟨user, site, domain, heq, huser, hsite, hdomain⟩
    obtain ⟨us, ats, rfl, rfl, hats⟩ := List.map_eq_append_iff.1 heq
    obtain ⟨p, hosts, rfl, hp, hhosts⟩ := List.map_eq_cons_iff.1 hats
    obtain ⟨ss, points, rfl, rfl, hpoints⟩ := List.map_eq_append_iff.1 hhosts
    obtain ⟨q, ds, rfl, hq, rfl⟩ := List.map_eq_cons_iff.1 hpoints
    refine ⟨keptCodes us, keptCodes ss, keptCodes ds, ?_, ?_, ?_, ?_⟩
    · have hat := (CodePoint.writtenCodes_of_mem (by decide) ((CodePoint.mem_writtenCodes_iff (by decide)).2 hp)).1
      have hpoint := (CodePoint.writtenCodes_of_mem (by decide) ((CodePoint.mem_writtenCodes_iff (by decide)).2 hq)).1
      rw [keptCodes_append, keptCodes_cons, keptCodes_append, keptCodes_cons, hat, hpoint]
      rfl
    · exact mt keptCodes_eq_nil_iff.1 fun h => huser (h ▸ rfl)
    · exact mt keptCodes_eq_nil_iff.1 fun h => hsite (h ▸ rfl)
    · exact mt keptCodes_eq_nil_iff.1 fun h => hdomain (h ▸ rfl)

/-- A language that takes what keeps code points for the code points themselves does so with a line feed behind as well. -/
theorem orFed_keptCodes_iff {language : List Nat → Prop}
    (h : ∀ ps : List CodePoint, language (keptCodes ps) ↔ language (ps.map CodePoint.code)) (ps : List CodePoint) :
    OrFed language (keptCodes ps) ↔ OrFed language (ps.map CodePoint.code) := by
  constructor
  · rintro ⟨t, rfl | ht, hw⟩
    · exact ⟨_, .inl rfl, (h ps).1 hw⟩
    · obtain ⟨qs, p, rs, rfl, hp, rfl, hrs⟩ := keptCodes_split (by decide) ht
      obtain rfl := keptCodes_eq_nil_iff.1 hrs
      refine ⟨qs.map CodePoint.code, .inr ?_, (h qs).1 hw⟩
      rw [List.map_append, List.map_singleton, hp]
  · rintro ⟨t, rfl | ht, hw⟩
    · exact ⟨_, .inl rfl, (h ps).2 hw⟩
    · obtain ⟨qs, rs, rfl, rfl, hrs⟩ := List.map_eq_append_iff.1 ht
      obtain ⟨p, rfl, hp⟩ := List.map_eq_singleton_iff.1 hrs
      have hfeed := (CodePoint.writtenCodes_of_mem (by decide) ((CodePoint.mem_writtenCodes_iff (by decide)).2 hp)).1
      refine ⟨keptCodes qs, .inr ?_, (h qs).2 hw⟩
      rw [keptCodes_append, keptCodes_cons, hfeed]
      rfl

theorem isAlphanumeric_ofPoints {spaces : Bool} {ps : List CodePoint} :
    isAlphanumeric spaces (ofPoints ps) = true ↔ OrFed (IsWord spaces) (ps.map CodePoint.code) := by
  rw [isAlphanumeric_iff, toList_ofPoints]
  exact orFed_keptCodes_iff (fun _ => isWord_keptCodes_iff) ps

theorem isEmail_ofPoints {ps : List CodePoint} :
    isEmail (ofPoints ps) = true ↔ OrFed IsAddress (ps.map CodePoint.code) := by
  rw [isEmail_iff, toList_ofPoints]
  exact orFed_keptCodes_iff (fun _ => isAddress_keptCodes_iff) ps

/-! ## Patterns -/

/-- What may stand around the `@` and the point of an address. -/
def IsPartCode (c : Nat) : Prop := c ≠ '@'.toNat ∧ blanks.has c = false

theorem isAddress_iff_parts {w : List Nat} : IsAddress w ↔ ∃ user site domain,
    w = user ++ '@'.toNat :: (site ++ '.'.toNat :: domain) ∧ (user ≠ [] ∧ ∀ c ∈ user, IsPartCode c) ∧
      (site ≠ [] ∧ ∀ c ∈ site, IsPartCode c) ∧ (domain ≠ [] ∧ ∀ c ∈ domain, IsPartCode c) := by
  have hmarks : blanks.has '@'.toNat = false ∧ blanks.has '.'.toNat = false ∧ '.'.toNat ≠ '@'.toNat := by decide
  constructor
  · rintro ⟨hblank, hcount, user, site, domain, rfl, huser, hsite, hdomain⟩
    simp only [List.count_append, List.count_cons_self, List.count_cons_of_ne hmarks.2.2] at hcount
    have hnone : ∀ part : List Nat, part.count '@'.toNat = 0 →
        (∀ c ∈ part, c ∈ user ++ '@'.toNat :: (site ++ '.'.toNat :: domain)) → ∀ c ∈ part, IsPartCode c := by
      intro part hpart hsub c hc
      refine ⟨?_, hblank c (hsub c hc)⟩
      rintro rfl
      exact List.count_eq_zero.1 hpart hc
    refine ⟨user, site, domain, rfl, ⟨huser, hnone user (by omega) ?_⟩, ⟨hsite, hnone site (by omega) ?_⟩,
      ⟨hdomain, hnone domain (by omega) ?_⟩⟩
    · intro c hc
      simp [hc]
    · intro c hc
      simp [hc]
    · intro c hc
      simp [hc]
  · rintro ⟨user, site, domain, rfl, ⟨huser, hu⟩, ⟨hsite, hs⟩, ⟨hdomain, hd⟩⟩
    have hnone : ∀ part : List Nat, (∀ c ∈ part, IsPartCode c) → part.count '@'.toNat = 0 :=
      fun part hpart => List.count_eq_zero.2 fun hmem => (hpart _ hmem).1 rfl
    refine ⟨?_, ?_, user, site, domain, rfl, huser, hsite, hdomain⟩
    · intro c hc
      simp only [List.mem_append, List.mem_cons] at hc
      rcases hc with hc | rfl | hc | rfl | hc
      · exact (hu c hc).2
      · exact hmarks.1
      · exact (hs c hc).2
      · exact hmarks.2.1
      · exact (hd c hc).2
    · simp only [List.count_append, List.count_cons_self, List.count_cons_of_ne hmarks.2.2, hnone _ hu, hnone _ hs, hnone _ hd]

end ShapeCheck.Text

namespace ShapeCheck.Pattern

open Text

/-- One or more characters that pass a test, up to the end of the text. -/
theorem words_many_finish {test : CharTest} {follower : Option Nat} {w : List Nat} :
    PlainStep.Words [.many test 1 follower, .finish] w ↔
      OrFed (fun u => u ≠ [] ∧ ∀ c ∈ u, test.accepts c = true) w := by
  simp only [PlainStep.Words, and_true, Nat.succ_le_iff, List.length_pos_iff]
  constructor
  · rintro ⟨u, v, rfl, hu, htest, rfl | rfl⟩
    · exact ⟨u, .inl (List.append_nil u), hu, htest⟩
    · exact ⟨u, .inr rfl, hu, htest⟩
  · rintro ⟨u, rfl | rfl, hu, htest⟩
    · exact ⟨w, [], (List.append_nil w).symm, hu, htest, .inl rfl⟩
    · exact ⟨u, _, rfl, hu, htest, .inr rfl⟩

def alphanumericTest : CharTest := .set false [.range 97 122, .range 65 90, .range 48 57] false

def alphanumericOrSpaceTest : CharTest := .set false [.range 97 122, .range 65 90, .range 48 57, .code 32] false

/-- Neither an `@` nor a blank. -/
def partTest : CharTest := .set true [.code 64, .category .space false] false

def addressSteps : List PlainStep :=
  [.many partTest 1 (some 64), .one (.code false 64), .many partTest 1 (some 46), .one (.code false 46),
    .many partTest 1 none, .finish]

theorem alphanumericTest_accepts_iff {c : Nat} : alphanumericTest.accepts c = true ↔ IsPlainCode false c := by
  simp [alphanumericTest, CharTest.accepts, SetItem.has, IsPlainCode]

theorem alphanumericOrSpaceTest_accepts_iff {c : Nat} : alphanumericOrSpaceTest.accepts c = true ↔ IsPlainCode true c := by
  simp [alphanumericOrSpaceTest, CharTest.accepts, SetItem.has, IsPlainCode]

theorem partTest_accepts_iff {c : Nat} : partTest.accepts c = true ↔ IsPartCode c := by
  simp [partTest, CharTest.accepts, SetItem.has, Category.has, IsPartCode]

theorem code_accepts_iff {c d : Nat} : (CharTest.code false c).accepts d = true ↔ d = c := by
  simp [CharTest.accepts]

theorem words_address_iff {w : List Nat} : PlainStep.Words addressSteps w ↔ OrFed IsAddress w := by
  unfold addressSteps
  rw [PlainStep.Words]
  simp only [PlainStep.Words, Nat.succ_le_iff, List.length_pos_iff, partTest_accepts_iff, code_accepts_iff, and_true]
  constructor
  · rintro ⟨user, _, rfl, huser, hu, _, _, rfl, rfl, site, _, rfl, hsite, hs, _, _, rfl, rfl, domain, feed, rfl, hdomain, hd,
      hfeed⟩
    have haddress := isAddress_iff_parts.2 ⟨user, site, domain, rfl, ⟨huser, hu⟩, ⟨hsite, hs⟩, ⟨hdomain, hd⟩⟩
    rcases hfeed with rfl | rfl
    · exact ⟨_, .inl (by rw [List.append_nil]; rfl), haddress⟩
    · exact ⟨_, .inr (by simp), haddress⟩
  · rintro ⟨t, hw, ht⟩
    obtain ⟨user, site, domain, rfl, ⟨huser, hu⟩, ⟨hsite, hs⟩, ⟨hdomain, hd⟩⟩ := isAddress_iff_parts.1 ht
    obtain ⟨feed, rfl, hfeed⟩ : ∃ feed, w = (user ++ '@'.toNat :: (site ++ '.'.toNat :: domain)) ++ feed ∧
        (feed = [] ∨ feed = [10]) := by
      rcases hw with rfl | rfl
      · exact ⟨[], (List.append_nil _).symm, .inl rfl⟩
      · exact ⟨_, rfl, .inr rfl⟩
    refine ⟨user, _, List.append_assoc .., huser, hu, _, _, rfl, rfl, site, _, List.append_assoc .., hsite, hs, _, _, rfl, rfl,
      domain, feed, rfl, hdomain, hd, hfeed⟩

/-- What a pattern reads as, where it is plain. -/
theorem read_plain (source : String) (steps : List PlainStep)
    (h : (read source).toOption.bind Program.plain? = some steps) (hfollowed : PlainStep.followed steps = true)
    (hleast : (read source).toOption.map Program.least = some (PlainStep.least steps)) (s : String) :
    ∃ program, read source = .ok program ∧
      (program.search s = .found ↔ PlainStep.Words steps ((Text.points s).map CodePoint.code)) := by
  cases hread : read source with
  | error e =>
      rw [hread] at h
      cases h
  | ok program =>
      rw [hread] at h hleast
      refine ⟨program, rfl, program.search_plain_iff h hfollowed (Nat.le_of_eq (Option.some.inj hleast)) s⟩

theorem read_alphanumeric (s : String) : ∃ program, read "^[a-zA-Z0-9]+$" = .ok program ∧
    (program.search s = .found ↔ OrFed (IsWord false) ((Text.points s).map CodePoint.code)) := by
  have hread := read_plain "^[a-zA-Z0-9]+$" [.many alphanumericTest 1 none, .finish]
    (by decide +kernel) rfl (by decide +kernel) s
  simp only [words_many_finish, alphanumericTest_accepts_iff] at hread
  exact hread

theorem read_alphanumericOrSpace (s : String) : ∃ program, read "^[a-zA-Z0-9 ]+$" = .ok program ∧
    (program.search s = .found ↔ OrFed (IsWord true) ((Text.points s).map CodePoint.code)) := by
  have hread := read_plain "^[a-zA-Z0-9 ]+$" [.many alphanumericOrSpaceTest 1 none, .finish]
    (by decide +kernel) rfl (by decide +kernel) s
  simp only [words_many_finish, alphanumericOrSpaceTest_accepts_iff] at hread
  exact hread

theorem read_address (s : String) : ∃ program, read "^[^@\\s]+@[^@\\s]+\\.[^@\\s]+$" = .ok program ∧
    (program.search s = .found ↔ OrFed IsAddress ((Text.points s).map CodePoint.code)) := by
  have hread := read_plain "^[^@\\s]+@[^@\\s]+\\.[^@\\s]+$" addressSteps
    (by decide +kernel) rfl (by decide +kernel) s
  simp only [words_address_iff] at hread
  exact hread

end ShapeCheck.Pattern

namespace ShapeCheck

open Text

/-! ## Rules and properties -/

/-- Wherever a rule runs, it finds nothing about a text exactly if something is so, and it changes nothing. -/
def Rule.LetsPass (x : Rule) (s : String) (what : Prop) : Prop :=
  ∀ (f : Follow) (ctx : Context) (path : Path) (r : Run), ∃ found,
    (x.run f ctx path (.scalar (.text s))).ending r = (.ok found, r) ∧ (found = [] ↔ what)

/-- Wherever a property is checked, nothing is found about a text exactly if something is so, and nothing is changed. -/
def PropertyChecker.LetsPass (c : PropertyChecker) (s : String) (what : Prop) : Prop :=
  ∀ (f : Follow) (ctx : Context) (path : Path) (parent : Option Value) (r : Run), ∃ found w,
    (c.collect f ctx path true parent (.scalar (.text s))).ending r = (.ok (found, w), r) ∧ (found = [] ↔ what)

theorem judged_eq_nil_iff {passes : Bool} {path : Path} {method message : String} {v : Value} :
    judged passes path method message v = [] ↔ passes = true := by
  unfold judged
  cases passes <;> simp

theorem Rule.alphanumeric_accepts (spaces : Bool) (ps : List CodePoint) :
    (Rule.alphanumeric spaces).LetsPass (ofPoints ps) (OrFed (IsWord spaces) (ps.map CodePoint.code)) := by
  intro f ctx path r
  rw [Rule.run]
  exact ⟨_, rfl, judged_eq_nil_iff.trans isAlphanumeric_ofPoints⟩

theorem Rule.email_accepts (ps : List CodePoint) :
    Rule.email.LetsPass (ofPoints ps) (OrFed IsAddress (ps.map CodePoint.code)) := by
  intro f ctx path r
  rw [Rule.run]
  exact ⟨_, rfl, judged_eq_nil_iff.trans isEmail_ofPoints⟩

theorem early_ofKind_text (convert : Bool) (path : Path) (σ : Store) (s : String) (x : Rule) :
    ((PropertyChecker.ofKind .string).addRule x).early convert path true σ (.scalar (.text s)) =
      .ok (if s = "" then
        .done [finding path .empty "emptyOk" "must not be empty" (.scalar (.text s))] (.scalar (.text s))
      else .goOn (.scalar (.text s))) := by
  by_cases hs : s = "" <;>
    simp [PropertyChecker.early, PropertyChecker.comparesOn, Store.seeksOn, PropertyChecker.seeksOn, PropertyChecker.ofKind, PropertyChecker.addRule, Kind.convert, readings, Store.isAmong, hs,
      pure, Except.pure, bind, Except.bind]

/-- A property of texts that has one rule accepts what the rule accepts, if that is not the empty text. -/
theorem Rule.LetsPass.property {x : Rule} {s : String} {what : Prop} (h : x.LetsPass s what) (hempty : s = "" → ¬ what) :
    ((PropertyChecker.ofKind .string).addRule x).LetsPass s what := by
  intro f ctx path parent r
  obtain ⟨found, hfound, hiff⟩ := h f ctx path r
  rw [PropertyChecker.collect_eq, Check.ending_bind_ok (Check.ending_store r), early_ofKind_text,
    Check.ending_bind_ok (Check.ending_ofExcept _ r)]
  by_cases hs : s = ""
  · rw [if_pos hs]
    exact ⟨_, _, rfl, nofun, fun hwhat => absurd hwhat (hempty hs)⟩
  · rw [if_neg hs]
    have hpeers : peerFindings ((PropertyChecker.ofKind .string).addRule x) path r.store parent (.scalar (.text s)) = .ok [] := by
      cases parent <;> rfl
    have hrules : Rule.runAll f ctx path [x] (.scalar (.text s)) = x.run f ctx path (.scalar (.text s)) :=
      Rule.runAll_singleton x _
    dsimp only
    rw [Check.ending_bind_ok (Check.ending_store r), hpeers, Check.ending_bind_ok (Check.ending_ofExcept _ r)]
    refine ⟨found, .scalar (.text s), ?_, hiff⟩
    change ((do return ([] ++ (← Rule.runAll f ctx path [x] (.scalar (.text s))), Value.scalar (.text s))) : Check _).ending r = _
    rw [hrules, Check.ending_bind_ok hfound]
    rfl

theorem not_orFed_nil {language : List Nat → Prop} (h : ¬ language []) {ps : List CodePoint} (hps : ofPoints ps = "") :
    ¬ OrFed language (ps.map CodePoint.code) := by
  have hnil : ps = [] := by
    rw [← points_ofPoints ps, hps]
    rfl
  subst hnil
  rintro ⟨t, ht | ht, hw⟩
  · exact h (by rwa [← ht] at hw)
  · simp at ht

/-- Texts are accepted as letters and digits, or as an address, if their code points are a word of these, or such a word with a
line feed behind it. The patterns for these forms match the same texts. -/
theorem textForms_accept (ps : List CodePoint) :
    (∀ flag : Option Bool, ∃ x c,
      Capabilities.standard.compileProperty "String" [⟨"alphanum", flag.toList.map Datum.bool⟩] none = .ok c ∧ c.rules = [x] ∧
      x.LetsPass (ofPoints ps) (OrFed (IsWord (flag.getD false)) (ps.map CodePoint.code)) ∧
      c.LetsPass (ofPoints ps) (OrFed (IsWord (flag.getD false)) (ps.map CodePoint.code))) ∧
    (∃ x c, Capabilities.standard.compileProperty "String" [⟨"email", []⟩] none = .ok c ∧ c.rules = [x] ∧
      x.LetsPass (ofPoints ps) (OrFed IsAddress (ps.map CodePoint.code)) ∧
      c.LetsPass (ofPoints ps) (OrFed IsAddress (ps.map CodePoint.code))) ∧
    (∃ program, Pattern.read "^[a-zA-Z0-9]+$" = .ok program ∧
      (program.search (ofPoints ps) = .found ↔ OrFed (IsWord false) (ps.map CodePoint.code))) ∧
    (∃ program, Pattern.read "^[a-zA-Z0-9 ]+$" = .ok program ∧
      (program.search (ofPoints ps) = .found ↔ OrFed (IsWord true) (ps.map CodePoint.code))) ∧
    (∃ program, Pattern.read "^[^@\\s]+@[^@\\s]+\\.[^@\\s]+$" = .ok program ∧
      (program.search (ofPoints ps) = .found ↔ OrFed IsAddress (ps.map CodePoint.code))) := by
  have hword : ∀ spaces, ¬ IsWord spaces [] := fun _ h => h.1 rfl
  have haddress : ¬ IsAddress [] := fun h => by simpa using h.2.1
  refine ⟨fun flag => ?_, ?_, ?_, ?_, ?_⟩
  · have hrule := Rule.alphanumeric_accepts (flag.getD false) ps
    refine ⟨.alphanumeric (flag.getD false), _, ?_, rfl, hrule, hrule.property (not_orFed_nil (hword _))⟩
    rcases flag with _ | _ | _ <;> rfl
  · have hrule := Rule.email_accepts ps
    exact ⟨.email, _, rfl, rfl, hrule, hrule.property (not_orFed_nil haddress)⟩
  · have hread := Pattern.read_alphanumeric (ofPoints ps)
    rwa [points_ofPoints] at hread
  · have hread := Pattern.read_alphanumericOrSpace (ofPoints ps)
    rwa [points_ofPoints] at hread
  · have hread := Pattern.read_address (ofPoints ps)
    rwa [points_ofPoints] at hread

/-- A line feed at the end is let in, though it is neither a letter nor a digit, and though it is a blank. -/
theorem finalFeed_accepted :
    (Rule.alphanumeric false).LetsPass "a\n" True ∧ ¬ IsWord false ((points "a\n").map CodePoint.code) ∧
      Rule.email.LetsPass "a@b.c\n" True ∧ ¬ IsAddress ((points "a@b.c\n").map CodePoint.code) := by
  refine ⟨fun f ctx path r => ?_, ?_, fun f ctx path r => ?_, ?_⟩
  · rw [Rule.run]
    exact ⟨_, rfl, judged_eq_nil_iff.trans (by decide +kernel)⟩
  · have hcodes : (points "a\n").map CodePoint.code = [97, 10] := by decide +kernel
    rw [hcodes]
    exact fun h => h.no_feed (by decide)
  · rw [Rule.run]
    exact ⟨_, rfl, judged_eq_nil_iff.trans (by decide +kernel)⟩
  · have hcodes : (points "a@b.c\n").map CodePoint.code = [97, 64, 98, 46, 99, 10] := by decide +kernel
    rw [hcodes]
    exact fun h => h.no_feed (by decide)

end ShapeCheck
