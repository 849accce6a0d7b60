import ShapeCheck.Proofs.Scanning

/-!
# Strings of JSON as quoted scalars

A string of JSON is read piece by piece as a quoted scalar (`quotedScalar_run`): spaces in it are kept, since no line ends in it,
and an escape stands for its own code point. A string is a step of the lexer (`Lexer.At.string`); in front of a colon it is a key
if the lexer still knows where it began (`Lexer.At.name`).
-/

namespace ShapeCheck.Yaml

open JsonText Relation Text

/-! ## Pieces -/

/-- The characters of a piece. -/
def pieceChars (p : Piece) : List Char := p.points.flatMap CodePoint.written

/-- The characters of pieces. -/
def piecesChars (ps : List Piece) : List Char := ps.flatMap pieceChars

/-- How many code points pieces have. -/
def piecesSize (ps : List Piece) : Nat := (ps.flatMap Piece.points).length

theorem flatMap_points (ps : List Piece) : (ps.flatMap Piece.points).flatMap CodePoint.written = piecesChars ps :=
  List.flatMap_assoc

namespace Lex

variable {l l' : Lexer} {cs ds : List Char} {fuel : Nat}

/-- A character that stands for itself is taken. -/
theorem quotedChars_raw {c : Char} (hquote : c ≠ '"') (hslash : c ≠ '\\') (hspace : isSpace c = false)
    (hbreak : isBreak c = false)
    (hrest : l.rest = c :: cs) (h : (quotedChars true fuel).run (stepped l) = .ok (ds, l')) :
    (quotedChars true (fuel + 1)).run l = .ok (c :: ds, l') := by
  rw [quotedChars, run_bind_ok (rfl : rest.run l = .ok (l.rest, l)), hrest]
  dsimp only
  rw [decide_eq_false hquote, decide_eq_false hslash, hspace, hbreak, Bool.not_true, Bool.and_false]
  change (skip 1 >>= _).run l = _
  rw [run_bind_ok (skip_run 1 l)]
  change (quotedChars true fuel >>= _).run (stepped l) = _
  rw [run_bind_ok h]
  rfl

theorem quotedSpaces_run {n : Nat} {c : Char} (hspace : isSpace c = false) (hbreak : isBreak c = false)
    (hrest : l.rest = List.replicate n ' ' ++ c :: cs) (hwhole : l.halfway = false) :
    quotedSpaces.run l = .ok (List.replicate n ' ', stepped^[n] l) := by
  have hall : ∀ d ∈ List.replicate n ' ', d = ' ' := fun d hd => List.eq_of_mem_replicate hd
  have htake : l.rest.takeWhile isSpace = List.replicate n ' ' := by
    rw [hrest, List.takeWhile_append_of_pos fun d hd => by rw [hall d hd]; rfl,
      List.takeWhile_cons_of_neg (by rw [hspace]; exact Bool.false_ne_true), List.append_nil]
  obtain ⟨column, hpassed⟩ :=
    passed_chars (fun d hd => by rw [hall d hd]; rfl) (fun h => absurd (hall _ h) (by decide)) hrest hwhole
  rw [List.length_replicate] at hpassed
  let l₁ := l.moved (c :: cs) (l.index + n) l.line column
  have hspaces : (takeWhile isSpace).run l = .ok (List.replicate n ' ', l₁) := by
    rw [takeWhile_run, htake, List.length_replicate, hpassed]
  unfold quotedSpaces
  rw [run_bind_ok hspaces, run_bind_ok (rfl : rest.run l₁ = .ok (l₁.rest, l₁)), hpassed]
  change (lineBreak >>= _).run l₁ = _
  rw [run_bind_ok (@lineBreak_run_none l₁ fun d hd => by cases hd; exact hbreak)]
  rfl

/-- Spaces are taken as they are where a line does not end behind them. -/
theorem quotedChars_spaces {n : Nat} {c : Char} (hspace : isSpace c = false) (hbreak : isBreak c = false)
    (hrest : l.rest = List.replicate (n + 1) ' ' ++ c :: cs) (hwhole : l.halfway = false)
    (h : (quotedChars true fuel).run (stepped^[n + 1] l) = .ok (ds, l')) :
    (quotedChars true (fuel + 1)).run l = .ok (List.replicate (n + 1) ' ' ++ ds, l') := by
  have hspaces := quotedSpaces_run hspace hbreak hrest hwhole
  rw [quotedChars, run_bind_ok (rfl : rest.run l = .ok (l.rest, l)), hrest]
  change (quotedSpaces >>= _).run l = _
  rw [run_bind_ok hspaces, run_bind_ok h]
  rfl

/-- An escape is taken as what it stands for. -/
theorem quotedChars_escape {e : List Char} {l₁ : Lexer} (hrest : l.rest = '\\' :: cs)
    (hescape : escape.run (stepped l) = .ok (e, l₁))
    (h : (quotedChars true fuel).run l₁ = .ok (ds, l')) : (quotedChars true (fuel + 1)).run l = .ok (e ++ ds, l') := by
  rw [quotedChars, run_bind_ok (rfl : rest.run l = .ok (l.rest, l)), hrest]
  change (skip 1 >>= _).run l = _
  rw [run_bind_ok (skip_run 1 l)]
  change (escape >>= _).run (stepped l) = _
  rw [run_bind_ok hescape, run_bind_ok h]
  rfl

/-! ## Escapes -/

theorem escape_short (e : Short) (hrest : l.rest = e.letter :: cs) : escape.run l = .ok ([e.char], stepped l) := by
  unfold escape
  rw [run_bind_ok (rfl : rest.run l = .ok (l.rest, l)), hrest]
  cases e <;> rfl

theorem isHexDigit_char : ∀ (value : Fin 16) (capital : Bool), isHexDigit (HexDigit.char ⟨value, capital⟩) = true := by decide

theorem hexValue_char : ∀ (value : Fin 16) (capital : Bool), hexValue [HexDigit.char ⟨value, capital⟩] = value.val := by decide

/-- Four hexadecimal digits are read as their number. -/
theorem hexValue_unit (a b c d : HexDigit) : hexValue [a.char, b.char, c.char, d.char] = unit a b c d := by
  have hvalue : hexValue [a.char, b.char, c.char, d.char] =
      16 * (16 * (16 * hexValue [a.char] + hexValue [b.char]) + hexValue [c.char]) + hexValue [d.char] := by
    simp only [hexValue, List.foldl_cons, List.foldl_nil, Nat.mul_zero, Nat.zero_add]
  rw [hvalue, hexValue_char a.value a.capital, hexValue_char b.value b.capital, hexValue_char c.value c.capital,
    hexValue_char d.value d.capital]
  unfold unit
  omega

theorem unit_lt (a b c d : HexDigit) : unit a b c d < 0x10000 := by
  unfold unit
  omega

theorem escape_code (a b c d : HexDigit) (hrest : l.rest = 'u' :: a.char :: b.char :: c.char :: d.char :: cs) :
    escape.run l = .ok ((CodePoint.ofCode (unit a b c d)).written, stepped^[5] l) := by
  have hdigits : [a.char, b.char, c.char, d.char].all isHexDigit = true := by
    change (isHexDigit a.char && (isHexDigit b.char && (isHexDigit c.char && (isHexDigit d.char && true)))) = true
    rw [isHexDigit_char a.value a.capital, isHexDigit_char b.value b.capital, isHexDigit_char c.value c.capital,
      isHexDigit_char d.value d.capital]
    rfl
  have hlt := unit_lt a b c d
  unfold escape
  rw [run_bind_ok (rfl : rest.run l = .ok (l.rest, l)), hrest]
  dsimp only [escaped?, escapeLength?]
  change (if (decide ([a.char, b.char, c.char, d.char].length < 4) ||
    !(List.all [a.char, b.char, c.char, d.char] isHexDigit)) = true then fail
    else _ : Lex (List Char)).run l = _
  rw [hdigits]
  have hshort : (decide ([a.char, b.char, c.char, d.char].length < 4) || !true) = false := rfl
  rw [hshort, if_neg Bool.false_ne_true]
  have hcode : hexValue (List.take 4 (a.char :: b.char :: c.char :: d.char :: cs)) = unit a b c d := hexValue_unit a b c d
  rw [hcode, if_neg (by omega), if_neg (by omega), run_bind_ok (skip_run _ l)]
  rfl

/-! ## Pieces of strings -/

theorem letter_ne : ∀ (value : Fin 16) (capital : Bool), HexDigit.char ⟨value, capital⟩ ≠ surrogateMark ∧
    isBreak (HexDigit.char ⟨value, capital⟩) = false := by decide

theorem pieceChars_short (e : Short) : pieceChars (.short e) = ['\\', e.letter] := by
  cases e <;> rfl

theorem pieceChars_code (a b c d : HexDigit) : pieceChars (.code a b c d) = ['\\', 'u', a.char, b.char, c.char, d.char] := by
  refine flatMap_written ?_
  have hall : ∀ x ∈ ['\\', 'u', a.char, b.char, c.char, d.char], surrogateMark ≠ x := by
    simp only [List.forall_mem_cons]
    exact ⟨by decide, by decide, (letter_ne a.value a.capital).1.symm, (letter_ne b.value b.capital).1.symm,
      (letter_ne c.value c.capital).1.symm, (letter_ne d.value d.capital).1.symm, nofun⟩
  exact fun hmem => hall _ hmem rfl

/-- A readable code point that stands for itself: a character that is no end of a line, no quote and no backslash, or the mark. -/
theorem raw_cases {p : CodePoint} {allowed : 0x20 ≤ p.code ∧ p ≠ .char '"' ∧ p ≠ .char '\\'}
    (h : (Piece.raw p allowed).isReadable = true) :
    (∃ c, p.written = [c] ∧ c ≠ surrogateMark ∧ c ≠ '"' ∧ c ≠ '\\' ∧ isBreak c = false ∧ (c = ' ' ∨ isSpace c = false)) ∨
      p.written = [surrogateMark, surrogateMark] := by
  unfold Piece.isReadable at h
  obtain ⟨hprint, hends⟩ := Bool.and_eq_true_iff.1 h
  obtain ⟨hcode, hquote, hslash⟩ := allowed
  cases p with
  | surrogate k =>
    have hk := k.isLt
    unfold isPrintable CodePoint.code at hprint
    simp only [Bool.or_eq_true, Bool.and_eq_true, decide_eq_true_eq] at hprint
    omega
  | char c =>
    by_cases hmark : c = surrogateMark
    · exact .inr (by rw [CodePoint.written, if_pos hmark, hmark])
    · have hlow : ∀ d : Char, d.toNat < 0x20 → c ≠ d := by
        rintro d hd rfl
        exact Nat.not_lt.2 hcode hd
      simp only [Bool.not_eq_true', Bool.or_eq_false_iff, decide_eq_false_iff_not, CodePoint.char.injEq] at hends
      refine .inl ⟨c, if_neg hmark, hmark, fun h => hquote (congrArg _ h), fun h => hslash (congrArg _ h), ?_, ?_⟩
      · unfold isBreak
        rw [decide_eq_false (hlow '\n' (by decide)), decide_eq_false (hlow '\r' (by decide)), decide_eq_false hends.1.1,
          decide_eq_false hends.1.2, decide_eq_false hends.2]
        rfl
      · by_cases hspace : c = ' '
        · exact .inl hspace
        · refine .inr ?_
          unfold isSpace
          rw [decide_eq_false hspace, decide_eq_false (hlow '\t' (by decide))]
          rfl

/-- A piece does not begin with the end of a line. -/
theorem head_piece {p : Piece} (h : p.isReadable = true) (cs : List Char) : ∀ c ∈ (pieceChars p ++ cs).head?,
    c = ' ' ∧ pieceChars p = [' '] ∨ isSpace c = false ∧ isBreak c = false := by
  intro c hc
  cases p with
  | raw p allowed =>
    have hchars : pieceChars (.raw p allowed) = p.written := List.append_nil _
    rw [hchars] at hc ⊢
    rcases raw_cases h with ⟨d, hd, -, -, -, hbreak, hspace⟩ | hd
    · rw [hd] at hc ⊢
      cases hc
      exact hspace.imp (fun heq => ⟨heq, by rw [heq]⟩) fun hspace => ⟨hspace, hbreak⟩
    · rw [hd] at hc
      cases hc
      exact .inr (by decide)
  | short e =>
    rw [pieceChars_short] at hc
    cases hc
    exact .inr (by decide)
  | code a b c d =>
    rw [pieceChars_code] at hc
    cases hc
    exact .inr (by decide)

/-- What pieces stand for, one by one. -/
def piecesText (ps : List Piece) : List Char := (ps.map Piece.point).flatMap CodePoint.written

theorem piecesChars_cons (p : Piece) (ps : List Piece) : piecesChars (p :: ps) = pieceChars p ++ piecesChars ps :=
  List.flatMap_cons

theorem piecesText_cons (p : Piece) (ps : List Piece) : piecesText (p :: ps) = p.point.written ++ piecesText ps :=
  List.flatMap_cons

theorem piecesSize_cons (p : Piece) (ps : List Piece) : piecesSize (p :: ps) = p.points.length + piecesSize ps :=
  List.length_append

/-- Only a space is written as one. -/
theorem space_of_chars {p : Piece} (h : pieceChars p = [' ']) : p.point.written = [' '] ∧ p.points.length = 1 := by
  cases p with
  | raw p allowed => exact ⟨(List.append_nil _).symm.trans h, rfl⟩
  | short e =>
    rw [pieceChars_short] at h
    cases h
  | code a b c d =>
    rw [pieceChars_code] at h
    cases h

/-- A string begins with spaces, and then something else stands there. -/
theorem exists_spaces (cs : List Char) : ∀ {ps : List Piece}, (∀ p ∈ ps, p.isReadable = true) →
    ∃ n ps', (∀ p ∈ ps', p.isReadable = true) ∧
    piecesChars ps = List.replicate n ' ' ++ piecesChars ps' ∧ piecesText ps = List.replicate n ' ' ++ piecesText ps' ∧
      piecesSize ps = n + piecesSize ps' ∧ ∀ c ∈ (piecesChars ps' ++ '"' :: cs).head?, isSpace c = false ∧ isBreak c = false
  | [], h => ⟨0, [], h, rfl, rfl, rfl, fun c hc => by cases hc; decide⟩
  | p :: ps, h => by
    by_cases hspace : pieceChars p = [' ']
    · obtain ⟨n, ps', hreadable, hchars, htext, hsize, hhead⟩ := exists_spaces cs fun q hq => h q (List.mem_cons_of_mem _ hq)
      obtain ⟨hpoint, hlength⟩ := space_of_chars hspace
      refine ⟨n + 1, ps', hreadable, ?_, ?_, ?_, hhead⟩
      · rw [piecesChars_cons, hspace, hchars]
        rfl
      · rw [piecesText_cons, hpoint, htext]
        rfl
      · rw [piecesSize_cons, hlength, hsize]
        omega
    · refine ⟨0, p :: ps, h, rfl, rfl, (Nat.zero_add _).symm, fun c hc => ?_⟩
      rw [piecesChars_cons, List.append_assoc] at hc
      exact (head_piece (h p (List.mem_cons_self ..)) _ c hc).resolve_left fun heq => hspace heq.2

theorem inline_points {p : Piece} (h : p.isReadable = true) : ∀ q ∈ p.points, q.IsInline := by
  have hall : ∀ {cs : List Char}, (∀ c ∈ cs, isBreak c = false) → ∀ q ∈ asPoints cs, q.IsInline := by
    intro cs hcs q hq c hc
    obtain ⟨d, hd, rfl⟩ := List.mem_map.1 hq
    cases hc
    exact hcs c hd
  cases p with
  | raw p allowed =>
    intro q hq c hc
    obtain rfl := List.mem_singleton.1 hq
    subst hc
    rcases raw_cases h with ⟨d, hd, -, -, -, hbreak, -⟩ | hd
    · by_cases hmark : c = surrogateMark
      · rw [hmark]
        decide
      · rw [CodePoint.written, if_neg hmark] at hd
        cases hd
        exact hbreak
    · by_cases hmark : c = surrogateMark
      · rw [hmark]
        decide
      · rw [CodePoint.written, if_neg hmark] at hd
        cases hd
  | short e => exact @hall ['\\', e.letter] (by cases e <;> exact List.all_iff_forall_prop.1 (by decide))
  | code a b c d =>
    refine @hall ['\\', 'u', a.char, b.char, c.char, d.char] ?_
    simp only [List.forall_mem_cons]
    exact ⟨by decide, by decide, (letter_ne a.value a.capital).2, (letter_ne b.value b.capital).2,
      (letter_ne c.value c.capital).2, (letter_ne d.value d.capital).2, List.forall_mem_nil _⟩

/-- The pieces of a string: characters that stand for themselves, the mark, and escapes. -/
inductive Kinds (p : Piece) : Prop
  | raw (c : Char) (chars : pieceChars p = [c]) (text : p.point.written = [c]) (quote : c ≠ '"') (slash : c ≠ '\\')
      (inline : isBreak c = false) (space : c = ' ' ∨ isSpace c = false)
  | mark (chars : pieceChars p = [surrogateMark, surrogateMark]) (text : p.point.written = [surrogateMark, surrogateMark])
  | escape (letters : List Char) (chars : pieceChars p = '\\' :: letters)
      (reads : ∀ l cs, l.rest = letters ++ cs → Lex.escape.run l = .ok (p.point.written, stepped^[letters.length] l))

theorem kinds {p : Piece} (h : p.isReadable = true) : Kinds p := by
  cases p with
  | raw p allowed =>
    have hchars : pieceChars (.raw p allowed) = p.written := List.append_nil _
    rcases raw_cases h with ⟨c, hc, -, hquote, hslash, hbreak, hspace⟩ | hc
    · exact .raw c (hchars.trans hc) hc hquote hslash hbreak hspace
    · exact .mark (hchars.trans hc) hc
  | short e =>
    refine .escape [e.letter] (pieceChars_short e) fun l cs hrest => ?_
    rw [escape_short e hrest]
    cases e <;> rfl
  | code a b c d => exact .escape _ (pieceChars_code a b c d) fun l cs hrest => escape_code a b c d hrest

/-- A piece is passed. -/
theorem passed_piece {p : Piece} (h : p.isReadable = true) (hrest : l.rest = pieceChars p ++ cs) (hwhole : l.halfway = false) :
    ∃ column, stepped^[(pieceChars p).length] l = l.moved cs (l.index + p.points.length) l.line column :=
  passed_points (inline_points h) hrest hwhole

/-- A piece that is no space is read, and then what is behind it. -/
theorem quotedChars_piece {p : Piece} (h : p.isReadable = true) (hspace : pieceChars p ≠ [' '])
    (hrest : l.rest = pieceChars p ++ cs)
    (hwhole : l.halfway = false) (hfuel : (pieceChars p).length ≤ fuel) : ∃ fuel' column, fuel ≤ fuel' + (pieceChars p).length ∧
      ∀ ds l', (quotedChars true fuel').run (l.moved cs (l.index + p.points.length) l.line column) = .ok (ds, l') →
        (quotedChars true fuel).run l = .ok (p.point.written ++ ds, l') := by
  obtain ⟨column, hpassed⟩ := passed_piece h hrest hwhole
  cases kinds h with
  | raw c chars text quote slash inline space =>
    rw [chars] at hspace hrest hfuel hpassed ⊢
    obtain ⟨fuel, rfl⟩ : ∃ n, fuel = n + 1 := ⟨fuel - 1, (Nat.sub_add_cancel hfuel).symm⟩
    refine ⟨fuel, column, Nat.le_refl _, fun ds l' hmore => ?_⟩
    rw [← hpassed] at hmore
    rw [text]
    exact quotedChars_raw quote slash (space.resolve_left fun heq => hspace (heq ▸ rfl)) inline hrest hmore
  | mark chars text =>
    rw [chars] at hrest hfuel hpassed ⊢
    obtain ⟨fuel, rfl⟩ : ∃ n, fuel = n + 2 := ⟨fuel - 2, (Nat.sub_add_cancel hfuel).symm⟩
    obtain ⟨column', hfirst⟩ := stepped_char hrest hwhole (by decide)
    have hsecond : (stepped l).rest = surrogateMark :: cs := by rw [hfirst]; rfl
    refine ⟨fuel, column, Nat.le_refl _, fun ds l' hmore => ?_⟩
    rw [← hpassed] at hmore
    rw [text]
    exact quotedChars_raw (by decide) (by decide) (by decide) (by decide) hrest
      (quotedChars_raw (by decide) (by decide) (by decide) (by decide) hsecond hmore)
  | escape letters chars reads =>
    rw [chars] at hrest hfuel hpassed ⊢
    rw [List.length_cons] at hfuel
    obtain ⟨fuel, rfl⟩ : ∃ n, fuel = n + 1 := ⟨fuel - 1, by omega⟩
    obtain ⟨column', hfirst⟩ := stepped_char hrest hwhole (by decide)
    have hescape := reads (stepped l) cs (by rw [hfirst]; rfl)
    refine ⟨fuel, column, by rw [List.length_cons]; omega, fun ds l' hmore => ?_⟩
    rw [← hpassed] at hmore
    exact quotedChars_escape hrest hescape hmore

/-- The pieces of a string are read up to its quote. The induction is on a bound of their characters. -/
theorem quotedChars_run (bound : Nat) : ∀ {ps : List Piece} {fuel : Nat} {l : Lexer}, (∀ p ∈ ps, p.isReadable = true) →
    l.rest = piecesChars ps ++ '"' :: cs → l.halfway = false → (piecesChars ps).length < fuel → (piecesChars ps).length < bound →
    ∃ column, (quotedChars true fuel).run l =
      .ok (piecesText ps, l.moved ('"' :: cs) (l.index + piecesSize ps) l.line column) := by
  induction bound with
  | zero => exact fun _ _ _ _ hbound => absurd hbound (Nat.not_lt_zero _)
  | succ bound ih =>
    intro ps fuel l h hrest hwhole hfuel hbound
    cases ps with
    | nil =>
      obtain ⟨fuel, rfl⟩ : ∃ n, fuel = n + 1 := ⟨fuel - 1, (Nat.sub_add_cancel hfuel).symm⟩
      obtain ⟨rest, halfway⟩ := l
      cases hrest
      cases hwhole
      exact ⟨_, rfl⟩
    | cons p ps =>
      by_cases hspace : pieceChars p = [' ']
      · obtain ⟨n, ps', hps', hchars, htext, hsize, hhead⟩ := exists_spaces cs h
        obtain ⟨c, tail, htail⟩ : ∃ c tail, piecesChars ps' ++ '"' :: cs = c :: tail :=
          List.exists_cons_of_ne_nil (List.append_ne_nil_of_right_ne_nil _ (List.cons_ne_nil _ _))
        obtain ⟨hcspace, hcbreak⟩ := hhead c (by rw [htail]; rfl)
        have hn : n ≠ 0 := by
          rintro rfl
          have hfirst : (piecesChars (p :: ps) ++ '"' :: cs).head? = some ' ' := by
            rw [piecesChars_cons, hspace]
            rfl
          rw [hchars, List.replicate_zero, List.nil_append] at hfirst
          exact absurd (hhead _ hfirst).1 (by decide)
        obtain ⟨n, rfl⟩ := Nat.exists_eq_succ_of_ne_zero hn
        rw [hchars, List.append_assoc, htail] at hrest
        rw [hchars, List.length_append, List.length_replicate] at hfuel hbound
        have hall : ∀ d ∈ List.replicate (n + 1) ' ', d = ' ' := fun d hd => List.eq_of_mem_replicate hd
        obtain ⟨column, hpassed⟩ :=
          passed_chars (fun d hd => by rw [hall d hd]; rfl) (fun h => absurd (hall _ h) (by decide)) hrest hwhole
        rw [List.length_replicate] at hpassed
        obtain ⟨fuel, rfl⟩ : ∃ n, fuel = n + 1 := ⟨fuel - 1, by omega⟩
        obtain ⟨column', hmore⟩ := @ih ps' fuel (l.moved (c :: tail) (l.index + (n + 1)) l.line column) hps' htail.symm rfl
          (by omega) (by omega)
        refine ⟨column', ?_⟩
        have hindex : l.index + piecesSize (p :: ps) = l.index + (n + 1) + piecesSize ps' := by rw [hsize, Nat.add_assoc]
        rw [← hpassed] at hmore
        rw [quotedChars_spaces hcspace hcbreak hrest hwhole hmore, hpassed, htext, hindex]
        rfl
      · rw [piecesChars_cons, List.append_assoc] at hrest
        rw [piecesChars_cons, List.length_append] at hfuel hbound
        have hpos : 0 < (pieceChars p).length := by
          cases kinds (h p (List.mem_cons_self ..)) with
          | raw c chars => rw [chars]; exact Nat.zero_lt_succ _
          | mark chars => rw [chars]; exact Nat.zero_lt_succ _
          | escape letters chars => rw [chars]; exact Nat.zero_lt_succ _
        obtain ⟨fuel', column, hfuel', hpiece⟩ :=
          @quotedChars_piece l (piecesChars ps ++ '"' :: cs) fuel p (h p (List.mem_cons_self ..)) hspace hrest hwhole (by omega)
        obtain ⟨column', hmore⟩ := @ih ps fuel' (l.moved (piecesChars ps ++ '"' :: cs) (l.index + p.points.length) l.line column)
          (fun q hq => h q (List.mem_cons_of_mem _ hq)) rfl rfl (by omega) (by omega)
        refine ⟨column', ?_⟩
        rw [hpiece _ _ hmore, piecesText_cons, piecesSize_cons, ← Nat.add_assoc]
        rfl

/-- The characters of a string with its quotes. -/
def stringChars (ps : Pieces) : List Char := '"' :: (piecesChars ps ++ ['"'])

theorem flatMap_string (ps : Pieces) : (Pieces.points ps).flatMap CodePoint.written = stringChars ps := by
  unfold Pieces.points stringChars
  rw [List.flatMap_cons, List.flatMap_append, flatMap_points]
  rfl

theorem length_string (ps : Pieces) : (Pieces.points ps).length = 1 + piecesSize ps + 1 := by
  unfold Pieces.points piecesSize
  rw [List.length_cons, List.length_append, List.length_singleton]
  omega

/-- A string is read piece by piece. -/
theorem quotedScalar_run {ps : Pieces} (h : Pieces.isReadable ps = true) (hrest : l.rest = stringChars ps ++ cs)
    (hwhole : l.halfway = false) :
    ∃ column, (quotedScalar true).run l =
      .ok (.scalar (Pieces.read ps) .quoted, l.moved cs (l.index + (Pieces.points ps).length) l.line column) := by
  have hopening : l.rest = '"' :: (piecesChars ps ++ '"' :: cs) := by
    rw [hrest]
    unfold stringChars
    rw [List.cons_append, List.append_assoc]
    rfl
  obtain ⟨column, hfirst⟩ := stepped_char hopening hwhole (by decide)
  let l₁ := l.moved (piecesChars ps ++ '"' :: cs) (l.index + 1) l.line column
  obtain ⟨column₁, hchars⟩ := @quotedChars_run cs (l₁.rest.length + 1) ps (l₁.rest.length + 1) l₁ (List.all_eq_true.1 h) rfl rfl
    (by change _ < (piecesChars ps ++ '"' :: cs).length + 1; rw [List.length_append]; omega)
    (by change _ < (piecesChars ps ++ '"' :: cs).length + 1; rw [List.length_append]; omega)
  let l₂ := l₁.moved ('"' :: cs) (l₁.index + piecesSize ps) l₁.line column₁
  obtain ⟨column₂, hlast⟩ := @stepped_char l₂ cs '"' rfl rfl (by decide)
  have hindex : l.index + (Pieces.points ps).length = l₂.index + 1 := by
    change _ = l.index + 1 + piecesSize ps + 1
    rw [length_string]
    omega
  refine ⟨column₂, ?_⟩
  unfold quotedScalar
  rw [run_bind_ok (skip_run 1 l)]
  change (rest >>= _).run (stepped l) = _
  rw [hfirst, hindex]
  change (rest >>= _).run l₁ = _
  rw [run_bind_ok (rfl : rest.run l₁ = .ok (l₁.rest, l₁)), run_bind_ok hchars, run_bind_ok (skip_run 1 _)]
  change Except.ok (Token.scalar (String.ofList (piecesText ps)) .quoted, stepped l₂) = _
  rw [hlast]
  rfl

end Lex

namespace Lexer

open Yaml.Lex

variable {l : Lexer} {level : Nat} {ts : List Token} {t : Token} {cs : List Char}

/-- A string is a step. -/
theorem At.string {ps : Pieces} (hps : Pieces.isReadable ps = true) (h : l.At level ts (stringChars ps ++ cs)) :
    ∃ l', l.Steps l' ∧ l'.At level (ts ++ [.scalar (Pieces.read ps) .quoted]) cs := by
  refine h.steps (stops_sign (by decide) _) fun l₁ h₁ hrest₁ _ => ?_
  obtain ⟨l', hrun, h', hrest'⟩ := @keyLike_run l₁ _ _ h₁ (quotedScalar true) (.scalar (Pieces.read ps) .quoted) (· = cs)
    fun l₂ hrest₂ hwhole₂ _ => by
      obtain ⟨column, hscalar⟩ := quotedScalar_run hps (hrest₂.trans hrest₁) hwhole₂
      exact ⟨cs, _, _, column, l₂.keyAllowed, hscalar, rfl⟩
  refine ⟨l', ?_, ?_, hrest' ▸ h'.at⟩
  · rw [token_sign (by decide : '"' ∈ signs) nofun hrest₁]
    change (keyLike (quotedScalar true) >>= fun _ => pure true).run l₁ = _
    rw [run_bind_ok hrun]
    rfl
  · rw [hrest', stringChars, List.length_append, List.length_cons]
    omega

/-! ## Names -/

theorem insertIdx_length {α : Type} (xs : List α) (x y : α) : (xs ++ [x]).insertIdx xs.length y = xs ++ [y, x] := by
  induction xs with
  | nil => rfl
  | cons z xs ih =>
    rw [List.cons_append, List.length_cons, List.insertIdx_succ_cons, ih]
    rfl

/-- What is found is still found where it is kept. -/
theorem lookup_filter {κ α : Type} [BEq κ] [LawfulBEq κ] {a : κ} {b : α} {xs : List (κ × α)} {p : κ × α → Bool}
    (h : xs.lookup a = some b) (hp : p (a, b) = true) : (xs.filter p).lookup a = some b := by
  obtain ⟨before, after, rfl, hbefore⟩ := List.lookup_eq_some_iff.1 h
  refine List.lookup_eq_some_iff.2 ⟨before.filter p, after.filter p, ?_, fun e he => hbefore e (List.mem_filter.1 he).1⟩
  rw [List.filter_append, List.filter_cons_of_pos hp]

/-- A colon makes a key of what began on its line, not too far back. -/
theorem valueSign_run (h : l.Ready (level + 1) (ts ++ [t])) {k : KeyStart} (hlookup : l.keyStarts.lookup (level + 1) = some k)
    (htoken : k.token = ts.length) (hrest : l.rest = ':' :: cs) :
    ∃ l', valueSign.run l = .ok ((), l') ∧ l'.Ready (level + 1) (ts ++ [.key, t, .value]) ∧ l'.rest = cs := by
  have hlevel : ¬ l.flowLevel = 0 := by
    rw [h.level]
    exact Nat.succ_ne_zero _
  have hfound : l.keyStarts.lookup l.flowLevel = some k := by
    rw [h.level, hlookup]
  let l₁ : Lexer := { l with
    keyStarts := l.keyStarts.filter fun e => e.1 ≠ l.flowLevel
    tokens := l.tokens.insertIdxIfInBounds k.token .key
    keyAllowed := false }
  have htokens : l₁.tokens.toList = ts ++ [.key, t] := by
    have hsize : l.tokens.size = ts.length + 1 := by
      rw [← Array.length_toList, h.tokens, List.length_append, List.length_singleton]
    change (l.tokens.insertIdxIfInBounds k.token .key).toList = _
    unfold Array.insertIdxIfInBounds
    rw [dif_pos (by omega), Array.toList_insertIdx, h.tokens, htoken, insertIdx_length]
  have h₁ : l₁.Ready (level + 1) (ts ++ [.key, t]) :=
    ⟨htokens, h.level, h.indent, h.indents, fun k hk => h.optional k (List.mem_filter.1 hk).1, h.whole⟩
  obtain ⟨column, htake⟩ := take_run (by decide : ':' ∈ signs) h₁ hrest .value
  refine ⟨{ l₁.moved cs (l₁.index + 1) l₁.line column with tokens := l₁.tokens.push .value }, ?_,
    ⟨?_, h₁.level, h₁.indent, h₁.indents, h₁.optional, rfl⟩, rfl⟩
  · unfold valueSign
    rw [run_bind_ok (rfl : (get : Lex Lexer).run l = .ok (l, l))]
    dsimp only
    rw [hfound]
    dsimp only
    rw [if_neg hlevel]
    change (skip 1 >>= fun _ => push .value).run l₁ = _
    exact htake
  · change (l₁.tokens.push _).toList = _
    rw [Array.toList_push, h₁.tokens, List.append_assoc]
    rfl

/-- A name that is short enough and on one line up to its colon is a key: it is a step, and the colon is one. -/
theorem At.name {name : Pieces} {n : Nat} (hname : Pieces.isReadable name = true)
    (hshort : (Pieces.points name).length + n ≤ nameLimit)
    (hallowed : l.keyAllowed = true) (h : l.At (level + 1) ts (stringChars name ++ (List.replicate n ' ' ++ ':' :: cs))) :
    ∃ l', l.Leads l' ∧ l'.At (level + 1) (ts ++ [.key, .scalar (Pieces.read name) .quoted, .value]) cs := by
  obtain ⟨hready, gap, hgap, hrest⟩ := h
  obtain ⟨l₁, happroach₁, h₁, hrest₁, hallowed₁⟩ := approach_run hready (stops_sign (by decide : '"' ∈ signs) _) hgap hrest
  have hallowed₁ : l₁.keyAllowed = true := (hallowed₁ (Nat.succ_pos _)).trans hallowed
  -- The name: a key may begin at its quote.
  obtain ⟨starts, hnote, hoptional, hlookup⟩ := noteKey_run h₁
  let l₂ : Lexer := { l₁ with keyStarts := starts, keyAllowed := false }
  obtain ⟨column, hscalar⟩ := @quotedScalar_run l₂ (List.replicate n ' ' ++ ':' :: cs) name hname hrest₁ h₁.whole
  let size := (Pieces.points name).length
  let l₃ : Lexer := { l₂.moved (List.replicate n ' ' ++ ':' :: cs) (l₁.index + size) l₁.line column with
    tokens := l₁.tokens.push (.scalar (Pieces.read name) .quoted) }
  have h₃ : l₃.Ready (level + 1) (ts ++ [.scalar (Pieces.read name) .quoted]) :=
    ⟨by rw [← h₁.tokens]; exact Array.toList_push, h₁.level, h₁.indent, h₁.indents, hoptional, rfl⟩
  have hfirst : l.Steps l₃ := by
    refine ⟨?_, ?_⟩
    · unfold next
      rw [run_bind_ok happroach₁, token_sign (by decide : '"' ∈ signs) nofun hrest₁]
      change (keyLike (quotedScalar true) >>= fun _ => pure true).run l₁ = _
      have hkey : (keyLike (quotedScalar true)).run l₁ = .ok ((), l₃) := by
        unfold keyLike
        rw [run_bind_ok hnote]
        change (quotedScalar true >>= push).run l₂ = _
        rw [run_bind_ok hscalar]
        rfl
      rw [run_bind_ok hkey]
      rfl
    · change (List.replicate n ' ' ++ ':' :: cs).length < _
      simp only [hrest, stringChars, List.cons_append, List.length_append, List.length_cons]
      omega
  -- The colon: the key has not gone stale.
  obtain ⟨column', hspaces⟩ := @toNextToken_line l₃ (':' :: cs) (stops_sign (by decide) cs) n l₃.rest.length rfl rfl
  let l₄ := l₃.moved (':' :: cs) (l₃.index + n) l₃.line column'
  have h₄ : l₄.Ready (level + 1) (ts ++ [.scalar (Pieces.read name) .quoted]) :=
    ⟨h₃.tokens, h₃.level, h₃.indent, h₃.indents, h₃.optional, rfl⟩
  let l₅ : Lexer := { l₄ with keyStarts := l₄.keyStarts.filter fun e => !l₄.isStale e.2 }
  have h₅ : l₅.Ready (level + 1) (ts ++ [.scalar (Pieces.read name) .quoted]) :=
    ⟨h₄.tokens, h₄.level, h₄.indent, h₄.indents, fun k hk => h₄.optional k (List.mem_filter.1 hk).1, rfl⟩
  let k : KeyStart := ⟨l₁.tokens.size, false, l₁.index, l₁.line, l₁.column⟩
  have hstale : l₄.isStale k = false := by
    have hnear : ¬ l₁.index + nameLimit < l₁.index + size + n := by omega
    unfold isStale
    rw [decide_eq_false (fun hline => hline rfl : ¬ k.line ≠ l₄.line), Bool.false_or]
    exact decide_eq_false hnear
  have hlookup₅ : l₅.keyStarts.lookup (level + 1) = some k := lookup_filter (hlookup hallowed₁) (by
    change (!l₄.isStale k) = true
    rw [hstale]
    rfl)
  have htoken : k.token = ts.length := by
    change l₁.tokens.size = _
    rw [← h₁.tokens, Array.length_toList]
  obtain ⟨l', hvalue, h', hrest'⟩ := valueSign_run h₅ hlookup₅ htoken rfl
  have hsecond : l₃.Steps l' := by
    refine ⟨?_, ?_⟩
    · have happroach : approach.run l₃ = .ok ((), l₅) := by
        unfold approach
        rw [run_bind_ok (rfl : Lex.rest.run l₃ = .ok (l₃.rest, l₃)), run_bind_ok hspaces, run_bind_ok (dropStale_run h₄),
          run_bind_ok (rfl : (get : Lex Lexer).run l₅ = .ok (l₅, l₅)), unwind_run h₅ (by omega)]
      unfold next
      rw [run_bind_ok happroach, token_sign (by decide : ':' ∈ signs) (fun _ => by rw [h₅.level]; exact Nat.succ_pos _)
        (rfl : l₅.rest = ':' :: cs)]
      change (valueSign >>= fun _ => pure true).run l₅ = _
      rw [run_bind_ok hvalue]
      rfl
    · change _ < (List.replicate n ' ' ++ ':' :: cs).length
      rw [hrest', List.length_append, List.length_cons]
      omega
  exact ⟨l', (ReflTransGen.single hfirst).tail hsecond, hrest' ▸ h'.at⟩

end Lexer

end ShapeCheck.Yaml
