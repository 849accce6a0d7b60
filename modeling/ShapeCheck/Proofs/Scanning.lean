import Mathlib.Data.Bool.AllAny
import Mathlib.Logic.Function.Iterate
import Mathlib.Logic.Relation
import ShapeCheck.Proofs.Flow
import ShapeCheck.Proofs.JsonTexts

/-!
# Scanning texts in flow style

What a lexer does in a text without blocks, where all blanks are spaces and ends of lines. `Lexer.Ready` is the state between two
tokens; `Lexer.At` adds that a text follows, perhaps behind blanks. A step takes one token (`Lexer.Steps`), so that what is said
of single tokens (`At.openFlow`, `At.closeFlow`, `At.comma`, `At.plain`) can be put one after the other, with anything behind it.
A text whose steps lead to its end has the tokens that are there then (`Token.scan_eq`).
-/

namespace ShapeCheck

/-- A code point that does not end a line. -/
def Text.CodePoint.IsInline (p : CodePoint) : Prop := ∀ c, p = .char c → Yaml.isBreak c = false

/-- One character stands for a code point, or a mark and another one do. -/
theorem Text.CodePoint.IsInline.written_cases {p : CodePoint} (h : p.IsInline) :
    (∃ c, p.written = [c] ∧ c ≠ surrogateMark ∧ Yaml.isBreak c = false) ∨ ∃ d, p.written = [surrogateMark, d] := by
  cases p with
  | surrogate k => exact .inr ⟨_, rfl⟩
  | char c =>
    by_cases hc : c = surrogateMark
    · exact .inr ⟨c, by rw [written, if_pos hc, hc]⟩
    · exact .inl ⟨c, if_neg hc, hc, h c rfl⟩

namespace Yaml

open Relation Text

/-! ## Going on in a text -/

namespace Lexer

/-- A lexer that has gone on to another place. -/
def moved (l : Lexer) (rest : List Char) (index line column : Nat) : Lexer :=
  { l with rest, halfway := false, index, line, column }

/-- No block is open, and no key has to begin. -/
structure Ready (l : Lexer) (level : Nat) (ts : List Token) : Prop where
  tokens : l.tokens.toList = ts
  level : l.flowLevel = level
  indent : l.indent = -1
  indents : l.indents = []
  optional : ∀ k ∈ l.keyStarts, k.2.required = false
  whole : l.halfway = false

end Lexer

namespace Lex

variable {l : Lexer} {cs : List Char}

theorem skip_run (n : Nat) (l : Lexer) : (skip n).run l = .ok ((), stepped^[n] l) := by
  induction n generalizing l with
  | zero => rfl
  | succ n ih =>
    rw [skip, run_bind_ok (rfl : (modify stepped : Lex Unit).run l = .ok ((), stepped l)), ih]
    rfl

theorem takeWhile_run (test : Char → Bool) (l : Lexer) :
    (takeWhile test).run l = .ok (l.rest.takeWhile test, stepped^[(l.rest.takeWhile test).length] l) := by
  unfold takeWhile
  rw [run_bind_ok (rfl : rest.run l = .ok (l.rest, l)), run_bind_ok (skip_run _ l)]
  rfl

theorem ne_of_isBreak {c : Char} (h : isBreak c = false) :
    c ≠ '\n' ∧ c ≠ '\x85' ∧ c ≠ '\u2028' ∧ c ≠ '\u2029' ∧ c ≠ '\r' := by
  refine ⟨?_, ?_, ?_, ?_, ?_⟩ <;>
  · rintro rfl
    exact absurd h (by decide)

/-- A character that does not end a line is passed. -/
theorem stepped_char {c : Char} (hrest : l.rest = c :: cs) (hwhole : l.halfway = false) (hbreak : isBreak c = false) :
    ∃ column, stepped l = { l with
      rest := cs, halfway := decide (c = surrogateMark), index := l.index + 1, column := column } := by
  obtain ⟨h₁, h₂, h₃, h₄, h₅⟩ := ne_of_isBreak hbreak
  unfold stepped
  rw [hrest]
  dsimp only
  rw [hwhole, if_neg Bool.false_ne_true, decide_eq_false h₁, decide_eq_false h₂, decide_eq_false h₃, decide_eq_false h₄,
    decide_eq_false h₅]
  exact ⟨_, rfl⟩

/-- A code point that does not end a line is passed, also where two characters stand for it. -/
theorem passed_point {p : CodePoint} (hp : p.IsInline) (hrest : l.rest = p.written ++ cs) (hwhole : l.halfway = false) :
    ∃ column, stepped^[p.written.length] l = l.moved cs (l.index + 1) l.line column := by
  rcases hp.written_cases with ⟨c, hc, hmark, hbreak⟩ | ⟨d, hd⟩
  · rw [hc] at hrest ⊢
    obtain ⟨column, hstep⟩ := stepped_char hrest hwhole hbreak
    rw [decide_eq_false hmark] at hstep
    exact ⟨column, hstep⟩
  · rw [hd] at hrest ⊢
    obtain ⟨column, hstep⟩ := stepped_char hrest hwhole (by decide)
    refine ⟨column, ?_⟩
    change stepped (stepped l) = _
    rw [hstep]
    rfl

theorem passed_points : ∀ {ps : List CodePoint} {l : Lexer}, (∀ p ∈ ps, p.IsInline) →
    l.rest = ps.flatMap CodePoint.written ++ cs →
    l.halfway = false →
    ∃ column, stepped^[(ps.flatMap CodePoint.written).length] l = l.moved cs (l.index + ps.length) l.line column
  | [], l, _, hrest, hwhole => by
    obtain ⟨rest, halfway⟩ := l
    cases hrest
    cases hwhole
    exact ⟨_, rfl⟩
  | p :: ps, l, hinline, hrest, hwhole => by
    rw [List.flatMap_cons, List.append_assoc] at hrest
    obtain ⟨column, hfirst⟩ := passed_point (hinline p (List.mem_cons_self ..)) hrest hwhole
    obtain ⟨column', hmore⟩ := @passed_points ps (l.moved (ps.flatMap CodePoint.written ++ cs) (l.index + 1) l.line column)
      (fun q hq => hinline q (List.mem_cons_of_mem _ hq)) rfl rfl
    refine ⟨column', ?_⟩
    rw [List.flatMap_cons, List.length_append, Nat.add_comm, Function.iterate_add_apply, hfirst, hmore, List.length_cons,
      Nat.add_comm ps.length,
      ← Nat.add_assoc]
    rfl

theorem flatMap_written : ∀ {cs : List Char}, surrogateMark ∉ cs → (JsonText.asPoints cs).flatMap CodePoint.written = cs
  | [], _ => rfl
  | c :: cs, h => by
    have hc : c ≠ surrogateMark := fun heq => h (heq ▸ List.mem_cons_self ..)
    change (CodePoint.char c).written ++ (JsonText.asPoints cs).flatMap CodePoint.written = _
    rw [CodePoint.written, if_neg hc, flatMap_written fun hcs => h (List.mem_cons_of_mem _ hcs)]
    rfl

/-- Characters that do not end a line are passed. -/
theorem passed_chars {xs : List Char} (hbreak : ∀ c ∈ xs, isBreak c = false) (hmark : surrogateMark ∉ xs)
    (hrest : l.rest = xs ++ cs)
    (hwhole : l.halfway = false) : ∃ column, stepped^[xs.length] l = l.moved cs (l.index + xs.length) l.line column := by
  have hinline : ∀ p ∈ JsonText.asPoints xs, p.IsInline := by
    intro p hp c hc
    obtain ⟨d, hd, rfl⟩ := List.mem_map.1 hp
    cases hc
    exact hbreak c hd
  have hpassed := passed_points hinline (by rw [flatMap_written hmark]; exact hrest) hwhole
  rwa [flatMap_written hmark, show (JsonText.asPoints xs).length = xs.length from List.length_map _] at hpassed

/-! ### Blanks -/

/-- Blanks that may stand between tokens inside of a collection. -/
def IsGap (gap : List Char) : Prop := ∀ c ∈ gap, c = ' ' ∨ c = '\n' ∨ c = '\r'

/-- Something stands here that is no blank and no comment, or the text ends. -/
def Stops (cs : List Char) : Prop := ∀ c ∈ cs.head?, c ≠ ' ' ∧ c ≠ '#' ∧ isBreak c = false

theorem IsGap.tail {c : Char} {gap : List Char} (h : IsGap (c :: gap)) : IsGap gap := fun d hd => h d (List.mem_cons_of_mem _ hd)

/-- The end of a line of one character is passed. -/
theorem stepped_break {b : Char} (hb : b = '\n' ∨ b = '\r' ∧ cs.head? ≠ some '\n') (hrest : l.rest = b :: cs)
    (hwhole : l.halfway = false) : stepped l = l.moved cs (l.index + 1) (l.line + 1) 0 := by
  unfold stepped
  rw [hrest]
  dsimp only
  rw [hwhole, if_neg Bool.false_ne_true]
  rcases hb with rfl | ⟨rfl, hcs⟩
  · rfl
  · rw [decide_eq_true hcs]
    rfl

theorem lineBreak_run_none (h : ∀ c ∈ l.rest.head?, isBreak c = false) : lineBreak.run l = .ok ([], l) := by
  unfold lineBreak
  rw [run_bind_ok (rfl : rest.run l = .ok (l.rest, l))]
  split
  · next hrest => exact absurd (h '\r' (by rw [hrest]; rfl)) (by decide)
  · next hrest =>
    have hbreak := h _ (by rw [hrest]; rfl)
    obtain ⟨-, -, hline, hparagraph, -⟩ := ne_of_isBreak hbreak
    rw [decide_eq_false hline, decide_eq_false hparagraph, Bool.or_self, if_neg Bool.false_ne_true, hbreak,
      if_neg Bool.false_ne_true]
    rfl
  · rfl

/-- The end of a line is taken. -/
theorem lineBreak_run {b : Char} {more : List Char} (hb : b = '\n' ∨ b = '\r') (hmore : IsGap more) (hstops : Stops cs)
    (hrest : l.rest = b :: (more ++ cs)) (hwhole : l.halfway = false) :
    ∃ more' index line column, lineBreak.run l = .ok (['\n'], l.moved (more' ++ cs) index line column) ∧ IsGap more' ∧
      more'.length ≤ more.length := by
  unfold lineBreak
  rw [run_bind_ok (rfl : rest.run l = .ok (l.rest, l)), hrest]
  by_cases hpair : b = '\r' ∧ (more ++ cs).head? = some '\n'
  · obtain ⟨rfl, hhead⟩ := hpair
    cases more with
    | nil => exact absurd rfl (ne_of_isBreak (hstops _ hhead).2.2).1
    | cons c more =>
      cases hhead
      refine ⟨more, l.index + 1 + 1, l.line + 1, 0, ?_, hmore.tail, Nat.le_succ _⟩
      change (skip 2 >>= fun _ => pure ['\n']).run l = _
      rw [run_bind_ok (skip_run 2 l)]
      change Except.ok (['\n'], stepped (stepped l)) = _
      let l₁ : Lexer := { l with rest := '\n' :: (more ++ cs), halfway := false, index := l.index + 1, column := l.column + 1 }
      have hfirst : stepped l = l₁ := by
        unfold stepped
        rw [hrest, hwhole]
        rfl
      rw [hfirst, @stepped_break l₁ (more ++ cs) '\n' (.inl rfl) rfl rfl]
      rfl
  · have hone : b = '\n' ∨ b = '\r' ∧ (more ++ cs).head? ≠ some '\n' := hb.imp_right fun hr => ⟨hr, fun hn => hpair ⟨hr, hn⟩⟩
    refine ⟨more, l.index + 1, l.line + 1, 0, ?_, hmore, Nat.le_refl _⟩
    have hskip : (skip 1 >>= fun _ => pure ['\n']).run l = .ok (['\n'], l.moved (more ++ cs) (l.index + 1) (l.line + 1) 0) := by
      rw [run_bind_ok (skip_run 1 l)]
      change Except.ok (['\n'], stepped l) = _
      rw [stepped_break hone hrest hwhole]
    rw [← hskip]
    split
    · next heq =>
      obtain ⟨rfl, htail⟩ := List.cons.inj heq
      exact absurd ⟨rfl, by rw [htail]; rfl⟩ hpair
    · next heq =>
      obtain ⟨rfl, -⟩ := List.cons.inj heq
      rcases hb with rfl | rfl <;> rfl
    · next heq => cases heq

/-- A gap begins with spaces, and then it ends or a line does. -/
theorem IsGap.cut {gap : List Char} (h : IsGap gap) (hstops : Stops cs) : ∃ spaces more, gap = spaces ++ more ∧ IsGap more ∧
    (gap ++ cs).takeWhile (· = ' ') = spaces ∧ (∀ c ∈ spaces, c = ' ') ∧ ∀ c ∈ more.head?, c = '\n' ∨ c = '\r' := by
  induction gap with
  | nil =>
    refine ⟨[], [], rfl, nofun, ?_, nofun, nofun⟩
    cases cs with
    | nil => rfl
    | cons c cs => exact List.takeWhile_cons_of_neg (by simpa using (hstops c rfl).1)
  | cons c gap ih =>
    by_cases hc : c = ' '
    · obtain ⟨spaces, more, rfl, hmore, htake, hspaces, hhead⟩ := ih h.tail
      refine ⟨c :: spaces, more, rfl, hmore, ?_, List.forall_mem_cons.2 ⟨hc, hspaces⟩, hhead⟩
      rw [List.cons_append, List.takeWhile_cons_of_pos (by simpa using hc), htake]
    · refine ⟨[], c :: gap, rfl, h, List.takeWhile_cons_of_neg (by simpa using hc), nofun, ?_⟩
      intro d hd
      cases hd
      exact (h c (List.mem_cons_self ..)).resolve_left hc

/-- Spaces in front of the end of a line or of something else are taken. -/
theorem takeSpaces_run {gap : List Char} (hgap : IsGap gap) (hstops : Stops cs) (hrest : l.rest = gap ++ cs)
    (hwhole : l.halfway = false) :
    ∃ spaces more index line column, gap = spaces ++ more ∧ IsGap more ∧ (∀ c ∈ more.head?, c = '\n' ∨ c = '\r') ∧
      (takeWhile (· = ' ')).run l = .ok (spaces, l.moved (more ++ cs) index line column) := by
  obtain ⟨spaces, more, rfl, hmore, htake, hspaces, hhead⟩ := hgap.cut hstops
  have hbreak : ∀ c ∈ spaces, isBreak c = false := fun c hc => by rw [hspaces c hc]; rfl
  have hmark : surrogateMark ∉ spaces := fun h => absurd (hspaces _ h) (by decide)
  obtain ⟨column, hpassed⟩ := @passed_chars l (more ++ cs) _ hbreak hmark (by rw [hrest, List.append_assoc]) hwhole
  refine ⟨spaces, more, l.index + spaces.length, l.line, column, rfl, hmore, hhead, ?_⟩
  rw [takeWhile_run, hrest, htake, hpassed]

/-- All blanks up to the next token are passed. -/
theorem toNextToken_run (hstops : Stops cs) : ∀ {fuel : Nat} {gap : List Char} {l : Lexer}, IsGap gap → gap.length < fuel →
    l.rest = gap ++ cs → l.halfway = false → ∃ index line column allowed,
      (toNextToken fuel).run l = .ok ((), { l.moved cs index line column with keyAllowed := allowed }) ∧
        (0 < l.flowLevel → allowed = l.keyAllowed) := by
  intro fuel
  induction fuel with
  | zero => exact fun _ hfuel => absurd hfuel (Nat.not_lt_zero _)
  | succ fuel ih =>
    intro gap l hgap hfuel hrest hwhole
    obtain ⟨spaces, more, index, line, column, rfl, hmore, hhead, hspaces⟩ := takeSpaces_run hgap hstops hrest hwhole
    let l₁ := l.moved (more ++ cs) index line column
    have hcomment : l₁.rest.head? ≠ some '#' := by
      change (more ++ cs).head? ≠ _
      intro h
      cases more with
      | nil => exact (hstops _ h).2.1 rfl
      | cons c more =>
        cases h
        rcases hhead _ rfl with h | h <;> exact absurd h (by decide)
    rw [toNextToken, run_bind_ok hspaces, run_bind_ok (rfl : rest.run l₁ = .ok (l₁.rest, l₁)), if_neg hcomment]
    cases more with
    | nil =>
      refine ⟨index, line, column, l.keyAllowed, ?_, fun _ => rfl⟩
      change (lineBreak >>= _).run l₁ = _
      rw [run_bind_ok (@lineBreak_run_none l₁ fun c hc => (hstops c hc).2.2)]
      rfl
    | cons b more =>
      obtain ⟨more', index', line', column', hbreak, hmore', hlength⟩ :=
        @lineBreak_run l₁ cs b more (hhead b rfl) hmore.tail hstops rfl rfl
      let l₂ := l.moved (more' ++ cs) index' line' column'
      have hshort : more'.length < fuel := by
        rw [List.length_append, List.length_cons] at hfuel
        omega
      by_cases hlevel : l.flowLevel = 0
      · obtain ⟨index, line, column, allowed, hrun, -⟩ := @ih more' { l₂ with keyAllowed := true } hmore' hshort rfl rfl
        refine ⟨index, line, column, allowed, ?_, fun hpos => absurd hlevel (Nat.ne_of_gt hpos)⟩
        change (lineBreak >>= _).run l₁ = _
        rw [run_bind_ok hbreak]
        change ((get : Lex Lexer) >>= _).run l₂ = _
        rw [run_bind_ok (rfl : (get : Lex Lexer).run l₂ = .ok (l₂, l₂))]
        dsimp only
        rw [if_pos (show l₂.flowLevel = 0 from hlevel)]
        exact hrun
      · obtain ⟨index, line, column, allowed, hrun, hallowed⟩ := @ih more' l₂ hmore' hshort rfl rfl
        refine ⟨index, line, column, allowed, ?_, hallowed⟩
        change (lineBreak >>= _).run l₁ = _
        rw [run_bind_ok hbreak]
        change ((get : Lex Lexer) >>= _).run l₂ = _
        rw [run_bind_ok (rfl : (get : Lex Lexer).run l₂ = .ok (l₂, l₂))]
        dsimp only
        rw [if_neg (show l₂.flowLevel ≠ 0 from hlevel)]
        exact hrun

/-- Spaces up to the next token are passed on one line. -/
theorem toNextToken_line (hstops : Stops cs) {n : Nat} (fuel : Nat) (hrest : l.rest = List.replicate n ' ' ++ cs)
    (hwhole : l.halfway = false) :
    ∃ column, (toNextToken (fuel + 1)).run l = .ok ((), l.moved cs (l.index + n) l.line column) := by
  have hspace : ∀ c ∈ List.replicate n ' ', c = ' ' := fun c hc => List.eq_of_mem_replicate hc
  have htake : l.rest.takeWhile (· = ' ') = List.replicate n ' ' := by
    rw [hrest, List.takeWhile_append_of_pos fun c hc => decide_eq_true (hspace c hc)]
    cases cs with
    | nil => exact List.append_nil _
    | cons c cs => rw [List.takeWhile_cons_of_neg (by simpa using (hstops c rfl).1), List.append_nil]
  obtain ⟨column, hpassed⟩ :=
    passed_chars (fun c hc => by rw [hspace c hc]; rfl) (fun h => absurd (hspace _ h) (by decide)) hrest hwhole
  rw [List.length_replicate] at hpassed
  let l₁ := l.moved cs (l.index + n) l.line column
  have hspaces : (takeWhile (· = ' ')).run l = .ok (List.replicate n ' ', l₁) := by
    rw [takeWhile_run, htake, List.length_replicate, hpassed]
  have hcomment : l₁.rest.head? ≠ some '#' := fun h => (hstops _ h).2.1 rfl
  refine ⟨column, ?_⟩
  rw [toNextToken, run_bind_ok hspaces, run_bind_ok (rfl : rest.run l₁ = .ok (l₁.rest, l₁)), if_neg hcomment]
  change (lineBreak >>= _).run l₁ = _
  rw [run_bind_ok (@lineBreak_run_none l₁ fun c hc => (hstops c hc).2.2)]
  rfl

/-! ### Blocks and keys -/

variable {level : Nat} {ts : List Token}

theorem unwind_run (h : l.Ready level ts) {column : Int} (hcolumn : -1 ≤ column) : (unwind column).run l = .ok ((), l) := by
  unfold unwind
  rw [run_bind_ok (rfl : (get : Lex Lexer).run l = .ok (l, l))]
  have hclosed : (l.indent :: l.indents).takeWhile (fun i => column < i) = [] := by
    rw [h.indent, h.indents]
    exact List.takeWhile_cons_of_neg (by simpa using hcolumn)
  dsimp only
  split
  · rw [hclosed, List.length_nil, List.drop_zero, Array.map_empty, Array.append_empty]
    rfl
  · rfl

theorem dropStale_run (h : l.Ready level ts) :
    dropStale.run l = .ok ((), { l with keyStarts := l.keyStarts.filter fun (_, k) => !l.isStale k }) := by
  have hnone : (l.keyStarts.any fun (_, k) => l.isStale k && k.required) = false := by
    rw [List.any_eq_false]
    intro k hk
    change ¬(l.isStale k.2 && k.2.required) = true
    rw [h.optional k hk, Bool.and_false]
    exact Bool.false_ne_true
  unfold dropStale
  rw [run_bind_ok (rfl : (get : Lex Lexer).run l = .ok (l, l)), hnone]
  rfl

theorem dropKey_run (h : l.Ready level ts) : ∃ starts, dropKey.run l = .ok ((), { l with keyStarts := starts }) ∧
    ∀ k ∈ starts, k.2.required = false := by
  unfold dropKey
  rw [run_bind_ok (rfl : (get : Lex Lexer).run l = .ok (l, l))]
  cases hlookup : l.keyStarts.lookup l.flowLevel with
  | none => exact ⟨l.keyStarts, rfl, h.optional⟩
  | some k =>
    obtain ⟨before, after, hstarts, -⟩ := List.lookup_eq_some_iff.1 hlookup
    have hk : k.required = false := h.optional (l.flowLevel, k) (by rw [hstarts]; exact List.mem_append_cons_self)
    refine ⟨l.keyStarts.filter fun (level, _) => level ≠ l.flowLevel, ?_, fun k hk => h.optional k (List.mem_filter.1 hk).1⟩
    dsimp only
    rw [hk]
    rfl

theorem noteKey_run (h : l.Ready level ts) : ∃ starts, noteKey.run l = .ok ((), { l with keyStarts := starts }) ∧
    (∀ k ∈ starts, k.2.required = false) ∧
      (l.keyAllowed = true → starts.lookup level = some ⟨l.tokens.size, false, l.index, l.line, l.column⟩) := by
  unfold noteKey
  rw [run_bind_ok (rfl : (get : Lex Lexer).run l = .ok (l, l))]
  dsimp only
  by_cases hallowed : l.keyAllowed = true
  · obtain ⟨starts, hdrop, hoptional⟩ := dropKey_run h
    have hrequired : (decide (l.flowLevel = 0) && decide (l.indent = (l.column : Int))) = false := by
      have hcolumn : ¬ (-1 : Int) = l.column := by omega
      rw [h.indent, decide_eq_false hcolumn, Bool.and_false]
    refine ⟨(l.flowLevel, ⟨l.tokens.size, false, l.index, l.line, l.column⟩) :: starts, ?_,
      List.forall_mem_cons.2 ⟨rfl, hoptional⟩, fun _ => ?_⟩
    · rw [if_pos hallowed, run_bind_ok hdrop, ← hrequired]
      rfl
    · rw [List.lookup_cons, h.level, beq_self_eq_true]
  · rw [if_neg hallowed]
    exact ⟨l.keyStarts, rfl, h.optional, fun h => absurd h hallowed⟩

/-- All that may stand in front of a token is passed. -/
theorem approach_run (h : l.Ready level ts) (hstops : Stops cs) {gap : List Char} (hgap : IsGap gap)
    (hrest : l.rest = gap ++ cs) :
    ∃ l', approach.run l = .ok ((), l') ∧ l'.Ready level ts ∧ l'.rest = cs ∧ (0 < level → l'.keyAllowed = l.keyAllowed) := by
  obtain ⟨index, line, column, allowed, hnext, hallowed⟩ :=
    @toNextToken_run cs hstops (l.rest.length + 1) gap l hgap (by rw [hrest, List.length_append]; omega) hrest h.whole
  let l₁ : Lexer := { l.moved cs index line column with keyAllowed := allowed }
  have h₁ : l₁.Ready level ts := ⟨h.tokens, h.level, h.indent, h.indents, h.optional, rfl⟩
  let l₂ : Lexer := { l₁ with keyStarts := l₁.keyStarts.filter fun (_, k) => !l₁.isStale k }
  have h₂ : l₂.Ready level ts := ⟨h.tokens, h.level, h.indent, h.indents, fun k hk => h.optional k (List.mem_filter.1 hk).1, rfl⟩
  refine ⟨l₂, ?_, h₂, rfl, fun hlevel => hallowed (h.level ▸ hlevel)⟩
  unfold approach
  rw [run_bind_ok (rfl : rest.run l = .ok (l.rest, l)), run_bind_ok hnext, run_bind_ok (dropStale_run h₁),
    run_bind_ok (rfl : (get : Lex Lexer).run l₂ = .ok (l₂, l₂)), unwind_run h₂ (by omega)]

/-! ### Signs -/

theorem atMarker_of_ne {marker c : Char} (h : c ≠ marker) (cs : List Char) : atMarker marker (c :: cs) = false := by
  unfold atMarker
  split
  · next heq =>
    obtain ⟨rfl, -⟩ := List.cons.inj heq
    rw [decide_eq_false h]
    rfl
  · rfl

/-- The signs of collections. -/
def signs : List Char := ['[', ']', '{', '}', ',', ':', '"']

/-- A sign is taken, and a token is there more. -/
theorem take_run {c : Char} (hc : c ∈ signs) (h : l.Ready level ts) (hrest : l.rest = c :: cs) (t : Token) :
    ∃ column, (skip 1 >>= fun _ => push t).run l =
      .ok ((), { l.moved cs (l.index + 1) l.line column with tokens := l.tokens.push t }) := by
  have hbreak : ∀ c ∈ signs, isBreak c = false := List.all_iff_forall_prop.1 (by decide)
  have hmark : ∀ c ∈ signs, c ≠ surrogateMark := List.all_iff_forall_prop.1 (by decide)
  obtain ⟨column, hpassed⟩ := @passed_chars l cs [c] (List.forall_mem_singleton.2 (hbreak c hc))
    (fun h => hmark c hc (List.mem_singleton.1 h).symm) hrest h.whole
  refine ⟨column, ?_⟩
  rw [run_bind_ok (skip_run 1 l)]
  change (push t).run (stepped^[[c].length] l) = _
  rw [hpassed]
  rfl

theorem openFlow_run {c : Char} (hc : c ∈ signs) (h : l.Ready level ts) (hrest : l.rest = c :: cs) (t : Token) :
    ∃ l', (openFlow t).run l = .ok ((), l') ∧ l'.Ready (level + 1) (ts ++ [t]) ∧ l'.rest = cs ∧ l'.keyAllowed = true := by
  obtain ⟨starts, hnote, hoptional, -⟩ := noteKey_run h
  let l₁ : Lexer := { l with keyStarts := starts, flowLevel := l.flowLevel + 1, keyAllowed := true }
  have h₁ : l₁.Ready (level + 1) ts := ⟨h.tokens, congrArg (· + 1) h.level, h.indent, h.indents, hoptional, h.whole⟩
  obtain ⟨column, htake⟩ := take_run hc h₁ hrest t
  refine ⟨{ l₁.moved cs (l₁.index + 1) l₁.line column with tokens := l₁.tokens.push t }, ?_,
    ⟨?_, h₁.level, h₁.indent, h₁.indents, h₁.optional, rfl⟩, rfl, rfl⟩
  · unfold openFlow
    rw [run_bind_ok hnote]
    change (skip 1 >>= fun _ => push t).run l₁ = _
    exact htake
  · change (l₁.tokens.push t).toList = _
    rw [Array.toList_push, h₁.tokens]

theorem closeFlow_run {c : Char} (hc : c ∈ signs) (h : l.Ready (level + 1) ts) (hrest : l.rest = c :: cs) (t : Token) :
    ∃ l', (closeFlow t).run l = .ok ((), l') ∧ l'.Ready level (ts ++ [t]) ∧ l'.rest = cs := by
  obtain ⟨starts, hdrop, hoptional⟩ := dropKey_run h
  let l₁ : Lexer := { l with keyStarts := starts, flowLevel := l.flowLevel - 1, keyAllowed := false }
  have h₁ : l₁.Ready level ts := ⟨h.tokens, congrArg (· - 1) h.level, h.indent, h.indents, hoptional, h.whole⟩
  obtain ⟨column, htake⟩ := take_run hc h₁ hrest t
  refine ⟨{ l₁.moved cs (l₁.index + 1) l₁.line column with tokens := l₁.tokens.push t }, ?_,
    ⟨?_, h₁.level, h₁.indent, h₁.indents, h₁.optional, rfl⟩, rfl⟩
  · unfold closeFlow
    rw [run_bind_ok hdrop]
    change (skip 1 >>= fun _ => push t).run l₁ = _
    exact htake
  · change (l₁.tokens.push t).toList = _
    rw [Array.toList_push, h₁.tokens]

/-- The sign between items. -/
def commaSign : Lex Unit := do
  allowKey true
  dropKey
  skip 1
  push .flowEntry

/-- What a sign does. -/
def onSign (c : Char) : Lex Unit :=
  if c = '[' then openFlow .flowSequenceStart
  else if c = '{' then openFlow .flowMappingStart
  else if c = ']' then closeFlow .flowSequenceEnd
  else if c = '}' then closeFlow .flowMappingEnd
  else if c = ',' then commaSign
  else if c = ':' then valueSign
  else keyLike (quotedScalar true)

/-- A sign is taken for what it is, a colon only inside of a collection. -/
theorem token_sign {c : Char} (hc : c ∈ signs) (hcolon : c = ':' → 0 < l.flowLevel) (hrest : l.rest = c :: cs) :
    token.run l = (onSign c >>= fun _ => pure true).run l := by
  have hdash : ∀ c ∈ signs, c ≠ '-' := List.all_iff_forall_prop.1 (by decide)
  have hpoint : ∀ c ∈ signs, c ≠ '.' := List.all_iff_forall_prop.1 (by decide)
  unfold token
  rw [run_bind_ok (rfl : (get : Lex Lexer).run l = .ok (l, l))]
  dsimp only
  rw [hrest, atMarker_of_ne (hdash c hc), atMarker_of_ne (hpoint c hc), Bool.and_false]
  dsimp only
  simp only [signs, List.mem_cons, List.not_mem_nil, or_false] at hc
  rcases hc with rfl | rfl | rfl | rfl | rfl | rfl | rfl
  · rfl
  · rfl
  · rfl
  · rfl
  · change _ = (commaSign >>= fun _ => pure true).run l
    unfold commaSign
    rw [bind_assoc, bind_congr fun _ => bind_assoc .., bind_congr fun _ => bind_congr fun _ => bind_assoc ..]
    rfl
  · rw [decide_eq_true (hcolon rfl)]
    rfl
  · rfl

/-! ### Plain scalars -/

/-- A character that a plain scalar may have inside of a collection, wherever it stands. -/
def isPlainChar (c : Char) : Bool := !(isSpace c || isBreak c || c = ':' || ",?[]\x7b\x7d".toList.contains c)

/-- What stands behind a plain scalar. -/
def stops : List Char := [',', ']', '}']

theorem endsPlain_plain {c : Char} (h : isPlainChar c = true) (cs : List Char) : endsPlain true (c :: cs) = false := by
  unfold isPlainChar at h
  rw [Bool.not_eq_true', Bool.or_eq_false_iff, Bool.or_eq_false_iff, Bool.or_eq_false_iff] at h
  obtain ⟨⟨⟨hspace, hbreak⟩, hcolon⟩, hsign⟩ := h
  rw [endsPlain, hspace, hbreak, hcolon, hsign]
  rfl

/-- A plain scalar ends at blanks and at a sign. -/
theorem endsPlain_gap {gap : List Char} (hgap : IsGap gap) {c : Char} (hc : c ∈ stops) (cs : List Char) :
    endsPlain true (gap ++ c :: cs) = true := by
  cases gap with
  | nil =>
    have hall : ∀ c ∈ stops, ",?[]\x7b\x7d".toList.contains c = true := List.all_iff_forall_prop.1 (by decide)
    rw [List.nil_append, endsPlain, hall c hc, Bool.and_true, Bool.or_true]
  | cons b gap =>
    rcases hgap b (List.mem_cons_self ..) with rfl | rfl | rfl <;> rfl

theorem plainRun_append {text : List Char} (htext : ∀ c ∈ text, isPlainChar c = true) {rest : List Char}
    (hrest : endsPlain true rest = true) :
    plainRun true (text ++ rest) = text := by
  induction text with
  | nil =>
    cases rest with
    | nil => rfl
    | cons c cs => exact if_pos hrest
  | cons c text ih =>
    rw [List.cons_append, plainRun, endsPlain_plain (htext c (List.mem_cons_self ..)), if_neg Bool.false_ne_true,
      ih fun d hd => htext d (List.mem_cons_of_mem _ hd)]

/-- There is no marker of documents where something else stops. -/
theorem atAnyMarker_gap {gap : List Char} (hgap : IsGap gap) {c : Char} (hc : c ∈ stops) (cs : List Char) :
    atAnyMarker (gap ++ c :: cs) = false := by
  have hdash : ∀ c ∈ stops, c ≠ '-' ∧ c ≠ '.' := List.all_iff_forall_prop.1 (by decide)
  unfold atAnyMarker
  cases gap with
  | nil => rw [List.nil_append, atMarker_of_ne (hdash c hc).1, atMarker_of_ne (hdash c hc).2]; rfl
  | cons b gap =>
    rw [List.cons_append, atMarker_of_ne, atMarker_of_ne]
    · rfl
    all_goals
      rcases hgap b (List.mem_cons_self ..) with rfl | rfl | rfl <;> decide

theorem stops_cons {c : Char} (hc : c ∈ stops) (cs : List Char) : Stops (c :: cs) := by
  have hall : ∀ c ∈ stops, c ≠ ' ' ∧ c ≠ '#' ∧ isBreak c = false := List.all_iff_forall_prop.1 (by decide)
  intro d hd
  cases hd
  exact hall c hc

/-- The empty lines behind a plain scalar. -/
theorem plainBreaks_run {c : Char} (hc : c ∈ stops) : ∀ {fuel : Nat} {gap : List Char} {l : Lexer}, IsGap gap →
    l.rest = gap ++ c :: cs →
    l.halfway = false → ∃ found gap' index line column,
      (plainBreaks fuel).run l = .ok (found, l.moved (gap' ++ c :: cs) index line column) ∧ IsGap gap' ∧
      gap'.length ≤ gap.length := by
  intro fuel
  induction fuel with
  | zero =>
    intro gap l hgap hrest hwhole
    obtain ⟨rest, halfway⟩ := l
    cases hrest
    cases hwhole
    exact ⟨some [], gap, _, _, _, rfl, hgap, Nat.le_refl _⟩
  | succ fuel ih =>
    intro gap l hgap hrest hwhole
    obtain ⟨spaces, more, index, line, column, rfl, hmore, hhead, hspaces⟩ := takeSpaces_run hgap (stops_cons hc cs) hrest hwhole
    let l₁ := l.moved (more ++ c :: cs) index line column
    rw [plainBreaks, run_bind_ok hspaces]
    cases more with
    | nil =>
      rw [run_bind_ok (@lineBreak_run_none l₁ fun d hd => (stops_cons hc cs d hd).2.2)]
      exact ⟨some [], [], index, line, column, rfl, nofun, Nat.zero_le _⟩
    | cons b more =>
      obtain ⟨more', index', line', column', hbreak, hmore', hlength⟩ :=
        @lineBreak_run l₁ (c :: cs) b more (hhead b rfl) hmore.tail (stops_cons hc cs) rfl rfl
      let l₂ := l₁.moved (more' ++ c :: cs) index' line' column'
      obtain ⟨found, gap', index, line, column, hrun, hgap', hlength'⟩ := @ih more' l₂ hmore' rfl rfl
      refine ⟨found.map (['\n'] ++ ·), gap', index, line, column, ?_, hgap', ?_⟩
      case refine_2 =>
        rw [List.length_append, List.length_cons]
        omega
      have hmarker : atAnyMarker l₂.rest = false := atAnyMarker_gap hmore' hc cs
      rw [run_bind_ok hbreak]
      dsimp only
      rw [run_bind_ok (rfl : rest.run l₂ = .ok (l₂.rest, l₂)), hmarker, if_neg Bool.false_ne_true, run_bind_ok hrun]
      rfl

/-- The blanks behind a plain scalar, whatever they stand for. -/
theorem plainSpaces_run {c : Char} (hc : c ∈ stops) {gap : List Char} (hgap : IsGap gap) (hrest : l.rest = gap ++ c :: cs)
    (hwhole : l.halfway = false) : ∃ found gap' index line column allowed,
      plainSpaces.run l = .ok (found, { l.moved (gap' ++ c :: cs) index line column with keyAllowed := allowed }) ∧ IsGap gap' ∧
        gap'.length ≤ gap.length := by
  obtain ⟨spaces, more, index, line, column, rfl, hmore, hhead, hspaces⟩ := takeSpaces_run hgap (stops_cons hc cs) hrest hwhole
  let l₁ := l.moved (more ++ c :: cs) index line column
  unfold plainSpaces
  rw [run_bind_ok hspaces]
  cases more with
  | nil =>
    rw [run_bind_ok (@lineBreak_run_none l₁ fun d hd => (stops_cons hc cs d hd).2.2)]
    exact ⟨spaces, [], index, line, column, l.keyAllowed, rfl, nofun, Nat.zero_le _⟩
  | cons b more =>
    obtain ⟨more', index', line', column', hbreak, hmore', hlength⟩ :=
      @lineBreak_run l₁ (c :: cs) b more (hhead b rfl) hmore.tail (stops_cons hc cs) rfl rfl
    let l₂ := l₁.moved (more' ++ c :: cs) index' line' column'
    let l₃ : Lexer := { l₂ with keyAllowed := true }
    obtain ⟨found, gap', index, line, column, hrun, hgap', hlength'⟩ :=
      @plainBreaks_run cs c hc (l₃.rest.length + 1) more' l₃ hmore' rfl rfl
    have hmarker : atAnyMarker l₃.rest = false := atAnyMarker_gap hmore' hc cs
    have hshort : gap'.length ≤ (spaces ++ b :: more).length := by
      rw [List.length_append, List.length_cons]
      omega
    rw [run_bind_ok hbreak]
    dsimp only
    rw [run_bind_ok (rfl : (allowKey true).run l₂ = .ok ((), l₃)), run_bind_ok (rfl : rest.run l₃ = .ok (l₃.rest, l₃)), hmarker,
      if_neg Bool.false_ne_true, run_bind_ok (rfl : rest.run l₃ = .ok (l₃.rest, l₃)), run_bind_ok hrun]
    cases found with
    | none => exact ⟨_, gap', index, line, column, true, rfl, hgap', hshort⟩
    | some more => exact ⟨_, gap', index, line, column, true, rfl, hgap', hshort⟩

/-- Nothing more of a plain scalar stands where it ends. -/
theorem plainChars_end (indent : Int) (spaces : List Char) (fuel : Nat) (hlevel : 0 < l.flowLevel)
    (h : endsPlain true l.rest = true) :
    (plainChars indent spaces fuel).run l = .ok ([], l) := by
  cases fuel with
  | zero => rfl
  | succ fuel =>
    have hrun : (if l.rest.head? = some '#' then [] else plainRun (decide (0 < l.flowLevel)) l.rest) = [] := by
      have hplain := @plainRun_append [] nofun l.rest h
      rw [decide_eq_true hlevel]
      split
      · rfl
      · exact hplain
    rw [plainChars, run_bind_ok (rfl : (get : Lex Lexer).run l = .ok (l, l)), run_bind_ok (rfl : rest.run l = .ok (l.rest, l))]
    dsimp only
    rw [hrun]
    rfl

/-- A plain scalar inside of a collection is taken with the blanks behind it. -/
theorem plainScalar_run {text : List Char} {c : Char} (htext : ∀ d ∈ text, isPlainChar d = true) (hmark : surrogateMark ∉ text)
    (hne : text ≠ []) (hhead : text.head? ≠ some '#') (hc : c ∈ stops) {gap : List Char} (hgap : IsGap gap)
    (hrest : l.rest = text ++ (gap ++ c :: cs)) (hwhole : l.halfway = false) (hlevel : 0 < l.flowLevel) :
    ∃ gap' index line column allowed, plainScalar.run l =
      .ok (.scalar (String.ofList text) .plain, { l.moved (gap' ++ c :: cs) index line column with keyAllowed := allowed }) ∧
        IsGap gap' ∧
        gap'.length ≤ gap.length := by
  have hbreak : ∀ d ∈ text, isBreak d = false := by
    intro d hd
    have hplain := htext d hd
    unfold isPlainChar at hplain
    rw [Bool.not_eq_true', Bool.or_eq_false_iff, Bool.or_eq_false_iff, Bool.or_eq_false_iff] at hplain
    exact hplain.1.1.2
  obtain ⟨column, hpassed⟩ := @passed_chars { l with keyAllowed := false } _ _ hbreak hmark hrest hwhole
  let l₁ : Lexer := { l.moved (gap ++ c :: cs) (l.index + text.length) l.line column with keyAllowed := false }
  obtain ⟨found, gap', index, line, column, allowed, hspaces, hgap', hlength⟩ := @plainSpaces_run l₁ cs c hc gap hgap rfl rfl
  let l₂ : Lexer := { l₁.moved (gap' ++ c :: cs) index line column with keyAllowed := allowed }
  have hrun : (if l.rest.head? = some '#' then [] else plainRun (decide (0 < l.flowLevel)) l.rest) = text := by
    have hfirst : l.rest.head? ≠ some '#' := by
      rw [hrest]
      cases text with
      | nil => exact absurd rfl hne
      | cons d text => exact hhead
    rw [if_neg hfirst, decide_eq_true hlevel, hrest, plainRun_append htext (endsPlain_gap hgap hc cs)]
  have hempty : text.isEmpty = false := List.isEmpty_eq_false_iff.2 hne
  refine ⟨gap', index, line, column, allowed, ?_, hgap', hlength⟩
  have hchars : ∀ indent fuel, (plainChars indent [] (fuel + 1)).run l = .ok (text, l₂) := by
    intro indent fuel
    rw [plainChars, run_bind_ok (rfl : (get : Lex Lexer).run l = .ok (l, l)), run_bind_ok (rfl : rest.run l = .ok (l.rest, l))]
    dsimp only
    rw [hrun, hempty, if_neg Bool.false_ne_true,
      run_bind_ok (rfl : (allowKey false).run l = .ok ((), { l with keyAllowed := false })),
      run_bind_ok (skip_run _ _), hpassed]
    change (plainSpaces >>= _).run l₁ = _
    rw [run_bind_ok hspaces, run_bind_ok (rfl : (get : Lex Lexer).run l₂ = .ok (l₂, l₂)),
      run_bind_ok (rfl : rest.run l₂ = .ok (l₂.rest, l₂))]
    split
    · rfl
    · rw [run_bind_ok (@plainChars_end l₂ indent found fuel hlevel (endsPlain_gap hgap' hc cs))]
      exact congrArg (fun text => Except.ok (text, l₂)) (List.append_nil text)
  unfold plainScalar
  rw [run_bind_ok (rfl : (get : Lex Lexer).run l = .ok (l, l)), run_bind_ok (rfl : rest.run l = .ok (l.rest, l)),
    run_bind_ok (hchars _ _)]
  rfl

/-- What a plain scalar of a word or a number begins with: a letter or a digit, perhaps with a minus before it. -/
inductive Opens : List Char → Prop
  | plain {c : Char} {cs : List Char} (h : c.isAlphanum = true) : Opens (c :: cs)
  | minus {c : Char} {cs : List Char} (h : c.isAlphanum = true) : Opens ('-' :: c :: cs)

theorem Opens.append {text : List Char} (h : Opens text) (cs : List Char) : Opens (text ++ cs) := by
  cases h with
  | plain h => exact .plain h
  | minus h => exact .minus h

/-- Outside of its words YAML has no letters and digits as signs. -/
theorem ne_of_isAlphanum {c d : Char} (hc : c.isAlphanum = true) (hd : d.isAlphanum = false) : c ≠ d := by
  rintro rfl
  rw [hc] at hd
  cases hd

theorem isSpace_of_isAlphanum {c : Char} (hc : c.isAlphanum = true) : isSpace c = false := by
  unfold isSpace
  rw [decide_eq_false (ne_of_isAlphanum hc (by decide)), decide_eq_false (ne_of_isAlphanum hc (by decide))]
  rfl

theorem isBreak_of_isAlphanum {c : Char} (hc : c.isAlphanum = true) : isBreak c = false := by
  unfold isBreak
  rw [decide_eq_false (ne_of_isAlphanum hc (by decide)), decide_eq_false (ne_of_isAlphanum hc (by decide)),
    decide_eq_false (ne_of_isAlphanum hc (by decide)), decide_eq_false (ne_of_isAlphanum hc (by decide)),
    decide_eq_false (ne_of_isAlphanum hc (by decide))]
  rfl

theorem Opens.stops {cs : List Char} (h : Opens cs) : Stops cs := by
  intro d hd
  cases h with
  | plain hc =>
    cases hd
    exact ⟨ne_of_isAlphanum hc (by decide), ne_of_isAlphanum hc (by decide), isBreak_of_isAlphanum hc⟩
  | minus hc =>
    cases hd
    decide

theorem beginsPlain_plain {c : Char} (hc : c.isAlphanum = true) (cs : List Char) : beginsPlain true (c :: cs) = true := by
  have hsign : "-?:,[]\x7b\x7d#&*!|>'\"%@`".toList.contains c = false := by
    have hall : ∀ d ∈ "-?:,[]\x7b\x7d#&*!|>'\"%@`".toList, d.isAlphanum = false := List.all_iff_forall_prop.1 (by decide)
    rw [List.contains_eq_mem, decide_eq_false_iff_not]
    exact fun hmem => ne_of_isAlphanum hc (hall c hmem) rfl
  rw [beginsPlain, isSpace_of_isAlphanum hc, isBreak_of_isAlphanum hc, hsign]
  rfl

theorem token_plain (hopens : Opens l.rest) (hlevel : 0 < l.flowLevel) :
    token.run l = (keyLike plainScalar >>= fun _ => pure true).run l := by
  unfold token
  rw [run_bind_ok (rfl : (get : Lex Lexer).run l = .ok (l, l))]
  dsimp only
  rw [decide_eq_true hlevel]
  generalize hrest : l.rest = text at hopens
  cases hopens with
  | @plain c cs hc =>
    have hne : ∀ {d : Char}, d.isAlphanum = false → c ≠ d := ne_of_isAlphanum hc
    rw [atMarker_of_ne (hne (by decide)), atMarker_of_ne (hne (by decide)), beginsPlain_plain hc]
    dsimp only
    rw [decide_eq_false (hne (by decide : '%'.isAlphanum = false)), decide_eq_false (hne (by decide : '-'.isAlphanum = false)),
      decide_eq_false (hne (by decide : '?'.isAlphanum = false)), decide_eq_false (hne (by decide : ':'.isAlphanum = false)),
      decide_eq_false (hne (by decide : '|'.isAlphanum = false)), decide_eq_false (hne (by decide : '>'.isAlphanum = false)),
      decide_eq_false (hne (by decide : '\''.isAlphanum = false)), decide_eq_false (hne (by decide : '"'.isAlphanum = false)),
      Bool.and_false, if_neg (hne (by decide : '['.isAlphanum = false)), if_neg (hne (by decide : '{'.isAlphanum = false)),
      if_neg (hne (by decide : ']'.isAlphanum = false)), if_neg (hne (by decide : '}'.isAlphanum = false)),
      if_neg (hne (by decide : ','.isAlphanum = false)), if_neg (hne (by decide : '*'.isAlphanum = false)),
      if_neg (hne (by decide : '&'.isAlphanum = false)), if_neg (hne (by decide : '!'.isAlphanum = false))]
    rfl
  | @minus c cs hc =>
    have hmarker : atMarker '-' ('-' :: c :: cs) = false := by
      unfold atMarker
      split
      · next heq =>
        obtain ⟨-, htail⟩ := List.cons.inj heq
        obtain ⟨rfl, -⟩ := List.cons.inj htail
        rw [decide_eq_false (ne_of_isAlphanum hc (by decide : '-'.isAlphanum = false)), Bool.and_false]
        rfl
      · rfl
    have hgap : atGap (c :: cs) = false := by
      rw [atGap, isSpace_of_isAlphanum hc, isBreak_of_isAlphanum hc]
      rfl
    have hbegins : beginsPlain true ('-' :: c :: cs) = true := by
      rw [beginsPlain, hgap]
      rfl
    rw [hmarker, atMarker_of_ne (by decide), hbegins]
    dsimp only
    rw [hgap, Bool.and_false, Bool.and_false]
    rfl

/-! ### Scalars -/

/-- A scalar is taken, and a key may have begun where it begins. -/
theorem keyLike_run (h : l.Ready level ts) {read : Lex Token} {t : Token} {behind : List Char → Prop}
    (hread : ∀ l₁ : Lexer, l₁.rest = l.rest → l₁.halfway = false → l₁.flowLevel = level → ∃ rest index line column allowed,
      read.run l₁ = .ok (t, { l₁.moved rest index line column with keyAllowed := allowed }) ∧ behind rest) :
    ∃ l', (keyLike read).run l = .ok ((), l') ∧ l'.Ready level (ts ++ [t]) ∧ behind l'.rest := by
  obtain ⟨starts, hnote, hoptional, -⟩ := noteKey_run h
  let l₁ : Lexer := { l with keyStarts := starts, keyAllowed := false }
  obtain ⟨rest, index, line, column, allowed, hrun, hbehind⟩ := hread l₁ rfl h.whole h.level
  refine ⟨{ l₁.moved rest index line column with keyAllowed := allowed, tokens := l₁.tokens.push t }, ?_,
    ⟨?_, h.level, h.indent, h.indents, hoptional, rfl⟩, hbehind⟩
  · unfold keyLike
    rw [run_bind_ok hnote]
    change (read >>= push).run l₁ = _
    rw [run_bind_ok hrun]
    rfl
  · change (l.tokens.push t).toList = _
    rw [Array.toList_push, h.tokens]


theorem comma_run (h : l.Ready level ts) (hrest : l.rest = ',' :: cs) :
    ∃ l', commaSign.run l = .ok ((), l') ∧ l'.Ready level (ts ++ [.flowEntry]) ∧ l'.rest = cs ∧ l'.keyAllowed = true := by
  let l₀ : Lexer := { l with keyAllowed := true }
  have h₀ : l₀.Ready level ts := ⟨h.tokens, h.level, h.indent, h.indents, h.optional, h.whole⟩
  obtain ⟨starts, hdrop, hoptional⟩ := dropKey_run h₀
  let l₁ : Lexer := { l₀ with keyStarts := starts }
  have h₁ : l₁.Ready level ts := ⟨h.tokens, h.level, h.indent, h.indents, hoptional, h.whole⟩
  obtain ⟨column, htake⟩ := take_run (by decide) h₁ hrest .flowEntry
  refine ⟨{ l₁.moved cs (l₁.index + 1) l₁.line column with tokens := l₁.tokens.push .flowEntry }, ?_,
    ⟨?_, h₁.level, h₁.indent, h₁.indents, h₁.optional, rfl⟩, rfl, rfl⟩
  · unfold commaSign
    rw [run_bind_ok (rfl : (allowKey true).run l = .ok ((), l₀)), run_bind_ok hdrop]
    exact htake
  · change (l₁.tokens.push _).toList = _
    rw [Array.toList_push, h₁.tokens]

end Lex

/-! ## Steps -/

namespace Lexer

open Yaml.Lex

/-- The next token is read, and takes at least a character. -/
def Steps (l l' : Lexer) : Prop := next.run l = .ok (true, l') ∧ l'.rest.length < l.rest.length

/-- Some tokens are read. -/
abbrev Leads : Lexer → Lexer → Prop := ReflTransGen Steps

/-- Some tokens are there, and something follows behind blanks. -/
def At (l : Lexer) (level : Nat) (ts : List Token) (cs : List Char) : Prop :=
  l.Ready level ts ∧ ∃ gap, IsGap gap ∧ l.rest = gap ++ cs

variable {l l' : Lexer} {level : Nat} {ts : List Token} {c : Char} {cs gap : List Char}

theorem Ready.at (h : l.Ready level ts) : l.At level ts l.rest := ⟨h, [], nofun, rfl⟩

theorem At.skip (hgap : IsGap gap) (h : l.At level ts (gap ++ cs)) : l.At level ts cs := by
  obtain ⟨hready, before, hbefore, hrest⟩ := h
  refine ⟨hready, before ++ gap, fun c hc => ?_, by rw [hrest, List.append_assoc]⟩
  exact (List.mem_append.1 hc).elim (hbefore c) (hgap c)

/-- A step is made of what may stand in front of a token and the token. -/
theorem At.steps {P : Lexer → Prop} (h : l.At level ts cs) (hstops : Stops cs)
    (htoken : ∀ l₁ : Lexer, l₁.Ready level ts → l₁.rest = cs → (0 < level → l₁.keyAllowed = l.keyAllowed) →
      ∃ l', token.run l₁ = .ok (true, l') ∧ l'.rest.length < cs.length ∧ P l') : ∃ l', l.Steps l' ∧ P l' := by
  obtain ⟨hready, gap, hgap, hrest⟩ := h
  obtain ⟨l₁, happroach, h₁, hrest₁, hallowed⟩ := approach_run hready hstops hgap hrest
  obtain ⟨l', hrun, hlength, hp⟩ := htoken l₁ h₁ hrest₁ hallowed
  refine ⟨l', ⟨?_, ?_⟩, hp⟩
  · unfold next
    rw [run_bind_ok happroach, hrun]
  · rw [hrest, List.length_append]
    omega

theorem stops_sign {c : Char} (hc : c ∈ signs) (cs : List Char) : Stops (c :: cs) := by
  have hall : ∀ c ∈ signs, c ≠ ' ' ∧ c ≠ '#' ∧ isBreak c = false := List.all_iff_forall_prop.1 (by decide)
  intro d hd
  cases hd
  exact hall c hc

/-- A step at a sign. -/
theorem At.sign {P : Lexer → Prop} (hc : c ∈ signs) (hcolon : c = ':' → 0 < level) (h : l.At level ts (c :: cs))
    (hsign : ∀ l₁ : Lexer, l₁.Ready level ts → l₁.rest = c :: cs → (0 < level → l₁.keyAllowed = l.keyAllowed) →
      ∃ l', (onSign c).run l₁ = .ok ((), l') ∧ l'.rest = cs ∧ P l') : ∃ l', l.Steps l' ∧ P l' := by
  refine h.steps (stops_sign hc cs) fun l₁ h₁ hrest₁ hallowed => ?_
  obtain ⟨l', hrun, hrest, hp⟩ := hsign l₁ h₁ hrest₁ hallowed
  refine ⟨l', ?_, by rw [hrest]; exact Nat.lt_succ_self _, hp⟩
  rw [token_sign hc (fun h => h₁.level ▸ hcolon h) hrest₁, run_bind_ok hrun]
  rfl

theorem At.openFlow (hc : c ∈ signs) (hne : c ≠ ':') {t : Token} (hopens : onSign c = Lex.openFlow t)
    (h : l.At level ts (c :: cs)) :
    ∃ l', l.Steps l' ∧ l'.At (level + 1) (ts ++ [t]) cs ∧ l'.keyAllowed = true := by
  refine h.sign hc (fun heq => absurd heq hne) fun l₁ h₁ hrest₁ _ => ?_
  obtain ⟨l', hrun, h', hrest, hallowed⟩ := openFlow_run hc h₁ hrest₁ t
  exact ⟨l', by rw [hopens, hrun], hrest, hrest ▸ h'.at, hallowed⟩

theorem At.closeFlow (hc : c ∈ signs) (hne : c ≠ ':') {t : Token} (hcloses : onSign c = Lex.closeFlow t)
    (h : l.At (level + 1) ts (c :: cs)) : ∃ l', l.Steps l' ∧ l'.At level (ts ++ [t]) cs := by
  refine h.sign hc (fun heq => absurd heq hne) fun l₁ h₁ hrest₁ _ => ?_
  obtain ⟨l', hrun, h', hrest⟩ := closeFlow_run hc h₁ hrest₁ t
  exact ⟨l', by rw [hcloses, hrun], hrest, hrest ▸ h'.at⟩

theorem At.comma (h : l.At level ts (',' :: cs)) :
    ∃ l', l.Steps l' ∧ l'.At level (ts ++ [.flowEntry]) cs ∧ l'.keyAllowed = true := by
  refine h.sign (by decide) (fun heq => absurd heq (by decide)) fun l₁ h₁ hrest₁ _ => ?_
  obtain ⟨l', hrun, h', hrest, hallowed⟩ := comma_run h₁ hrest₁
  exact ⟨l', hrun, hrest, hrest ▸ h'.at, hallowed⟩

/-- A plain scalar with blanks behind it is a step. -/
theorem At.plain {text : List Char} (htext : ∀ d ∈ text, isPlainChar d = true) (hmark : surrogateMark ∉ text)
    (hopens : Opens text)
    (hc : c ∈ stops) (hgap : IsGap gap) (h : l.At (level + 1) ts (text ++ (gap ++ c :: cs))) :
    ∃ l', l.Steps l' ∧ l'.At (level + 1) (ts ++ [.scalar (String.ofList text) .plain]) (c :: cs) := by
  have hne : text ≠ [] := by
    rintro rfl
    cases hopens
  refine h.steps (hopens.append _).stops fun l₁ h₁ hrest₁ _ => ?_
  obtain ⟨l', hrun, h', hlength, hat⟩ := @keyLike_run l₁ _ _ h₁ plainScalar (.scalar (String.ofList text) .plain)
    (fun rest => rest.length < (text ++ (gap ++ c :: cs)).length ∧ ∃ gap', IsGap gap' ∧ rest = gap' ++ c :: cs)
    fun l₂ hrest₂ hwhole₂ hlevel₂ => by
      obtain ⟨gap', index, line, column, allowed, hscalar, hgap', hlength⟩ := plainScalar_run htext hmark hne
        (fun h => (hopens.stops _ h).2.1 rfl) hc hgap (hrest₂.trans hrest₁) hwhole₂ (by omega)
      refine ⟨gap' ++ c :: cs, index, line, column, allowed, hscalar, ?_, gap', hgap', rfl⟩
      have hpos := List.length_pos_iff.2 hne
      rw [List.length_append, List.length_append, List.length_append]
      omega
  refine ⟨l', ?_, hlength, h', hat⟩
  rw [token_plain (by rw [hrest₁]; exact hopens.append _) (by have := h₁.level; omega), run_bind_ok hrun]
  rfl

/-! ## Whole texts -/

/-- What follows some tokens is what follows from there, as long as there is a step for each character. -/
theorem Leads.all_eq (h : l.Leads l') : ∀ {fuel : Nat}, l.rest.length < fuel →
    ∃ fuel', l'.rest.length < fuel' ∧ l.all fuel = l'.all fuel' := by
  induction h with
  | refl => exact fun hfuel => ⟨_, hfuel, rfl⟩
  | tail _ hstep ih =>
    intro fuel hfuel
    obtain ⟨fuel', hfuel', hall⟩ := ih hfuel
    obtain ⟨fuel', rfl⟩ : ∃ n, fuel' = n + 1 := ⟨fuel' - 1, by omega⟩
    obtain ⟨hnext, hlength⟩ := hstep
    refine ⟨fuel', by omega, hall.trans ?_⟩
    rw [all, hnext]

/-- A text ends outside of all collections. -/
theorem At.all_eq (h : l.At 0 ts []) (fuel : Nat) : l.all (fuel + 1) = ⟨ts ++ [.streamEnd], none⟩ := by
  obtain ⟨hready, gap, hgap, hrest⟩ := h
  obtain ⟨l₁, happroach, h₁, hrest₁, -⟩ := approach_run hready (fun c hc => by cases hc) hgap hrest
  obtain ⟨starts, hdrop, -⟩ := dropKey_run h₁
  let l₂ : Lexer := { l₁ with keyStarts := starts }
  have hnext : next.run l = .ok (false, { l₂ with tokens := l₂.tokens.push .streamEnd }) := by
    unfold next
    rw [run_bind_ok happroach]
    unfold token
    rw [run_bind_ok (rfl : (get : Lex Lexer).run l₁ = .ok (l₁, l₁))]
    dsimp only
    split
    · rw [run_bind_ok (unwind_run h₁ (Int.le_refl _)), run_bind_ok hdrop]
      rfl
    · next heq =>
      rw [hrest₁] at heq
      cases heq
  rw [all, hnext]
  change Lexed.mk (l₁.tokens.push Token.streamEnd).toList none = _
  rw [Array.toList_push, h₁.tokens]

end Lexer

/-- A text of printable code points that leads to its end outside of all collections has the tokens that are there then. -/
theorem Token.scan_eq {s : String} {ts : List Token} (hprint : (Text.points s).all isPrintable = true)
    (hmark : s.toList.head? ≠ some '\uFEFF') (h : ∃ l', Lexer.Leads { rest := s.toList } l' ∧ l'.At 0 ts []) :
    Token.scan s = ⟨ts ++ [.streamEnd], none⟩ := by
  obtain ⟨l', hleads, hat⟩ := h
  obtain ⟨fuel, hfuel, hall⟩ := hleads.all_eq (Nat.lt_succ_self _)
  obtain ⟨fuel, rfl⟩ : ∃ n, fuel = n + 1 := ⟨fuel - 1, by omega⟩
  unfold Token.scan
  rw [hprint]
  dsimp only
  rw [if_neg hmark]
  exact hall.trans (hat.all_eq fuel)

end Yaml

end ShapeCheck
