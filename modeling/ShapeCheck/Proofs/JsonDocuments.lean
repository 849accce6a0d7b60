import ShapeCheck.Proofs.FlowValues
import ShapeCheck.Proofs.Numerals
import ShapeCheck.Proofs.Outcomes
import ShapeCheck.Proofs.Quoting
import ShapeCheck.Workspace.Loading

/-!
# Schemas in JSON

A text of JSON is loaded as a document in flow style. `Tree.exists_flow` finds, for each value that YAML can read, a document that
stands for what YAML reads and whose tokens the text leads to. So a schema is made from the text as from the entries that YAML reads
(`Work.makeFromDocument_reads`), which are those that JSON says if each number and each string is read as in JSON.
-/

namespace ShapeCheck

namespace JsonText

open Yaml Yaml.Lex Yaml.Lexer Text Relation

/-! ## Characters -/

/-- The characters that keep code points. -/
def kept (ps : List CodePoint) : List Char := ps.flatMap CodePoint.written

theorem kept_append (ps qs : List CodePoint) : kept (ps ++ qs) = kept ps ++ kept qs := List.flatMap_append

theorem kept_char {c : Char} (h : c ≠ surrogateMark) (ps : List CodePoint) : kept (.char c :: ps) = c :: kept ps := by
  unfold kept
  rw [List.flatMap_cons, CodePoint.written, if_neg h]
  rfl

theorem kept_string (ps : Pieces) : kept (Pieces.points ps) = stringChars ps := flatMap_string ps

theorem kept_gap (g : Gap) : kept (Gap.points g) = g.chars := by
  refine flatMap_written fun h => ?_
  obtain ⟨b, -, hb⟩ := List.mem_map.1 h
  cases b <;> exact absurd hb (by decide)

theorem isGap {g : Gap} (h : g.isReadable = true) : IsGap g.chars := by
  intro c hc
  obtain ⟨b, hb, rfl⟩ := List.mem_map.1 hc
  have hne := List.all_eq_true.1 h b hb
  cases b with
  | space => exact .inl rfl
  | tab => exact absurd hne (by decide)
  | lineFeed => exact .inr (.inl rfl)
  | carriageReturn => exact .inr (.inr rfl)

/-- Blanks on one line are spaces. -/
theorem chars_spaces {g : Gap} (h : g.all (· = .space) = true) : g.chars = List.replicate g.length ' ' := by
  refine List.eq_replicate_iff.2 ⟨List.length_map _, fun c hc => ?_⟩
  obtain ⟨b, hb, rfl⟩ := List.mem_map.1 hc
  rw [of_decide_eq_true (List.all_eq_true.1 h b hb)]
  rfl

/-! ## Values -/

/-- Inside of a collection and in front of its next sign, characters lead to tokens. -/
def Writes (cs : List Char) (new : List Token) : Prop :=
  ∀ (l : Lexer) (level : Nat) (ts : List Token) (gap : List Char) (c : Char) (rest : List Char), IsGap gap → c ∈ stops →
    l.At (level + 1) ts (cs ++ (gap ++ c :: rest)) → ∃ l', l.Leads l' ∧ l'.At (level + 1) (ts ++ new) (c :: rest)

/-- At the start of a collection or behind a value, characters lead to tokens up to the end of the collection. -/
def Closes (first : Bool) (cs : List Char) (new : List Token) : Prop :=
  ∀ (l : Lexer) (level : Nat) (ts : List Token) (rest : List Char), (first = true → l.keyAllowed = true) →
    l.At (level + 1) ts (cs ++ rest) → ∃ l', l.Leads l' ∧ l'.At level (ts ++ new) rest

theorem writes_plain {text : List Char} (htext : ∀ d ∈ text, isPlainChar d = true) (hmark : surrogateMark ∉ text)
    (hopens : Opens text) :
    Writes text [.scalar (String.ofList text) .plain] := by
  intro l level ts gap c rest hgap hc h
  obtain ⟨l', hstep, h'⟩ := h.plain htext hmark hopens hc hgap
  exact ⟨l', .single hstep, h'⟩

theorem writes_string {ps : Pieces} (hps : Pieces.isReadable ps = true) :
    Writes (stringChars ps) [.scalar (Pieces.read ps) .quoted] := by
  intro l level ts gap c rest hgap hc h
  obtain ⟨l', hstep, h'⟩ := h.string hps
  exact ⟨l', .single hstep, h'.skip hgap⟩

theorem writes_word (w : Word) : Writes (kept (asPoints w.chars)) [.scalar (String.ofList w.chars) .plain] := by
  have hmark : surrogateMark ∉ w.chars := by cases w <;> decide
  unfold kept
  rw [flatMap_written hmark]
  cases w <;> exact writes_plain (List.all_eq_true.1 (by decide)) hmark (.plain (by decide))

theorem writes_number (n : Decimal) : Writes (kept (asPoints n.chars)) [.scalar (String.ofList n.chars) .plain] := by
  have hplain : ∀ c ∈ numeralChars, isPlainChar c = true := List.all_eq_true.1 (by decide)
  have hmark : surrogateMark ∉ n.chars := fun h => absurd (mem_chars n _ h) (by decide)
  have halnum : ∀ d : Fin 10, d.val.digitChar.isAlphanum = true := by decide
  have hopens : Opens n.chars := by
    obtain ⟨rest, hrest⟩ := exists_unsignedChars n
    unfold Decimal.chars
    rw [hrest]
    cases n.negative with
    | true => exact .minus (halnum _)
    | false => exact .plain (halnum _)
  unfold kept
  rw [flatMap_written hmark]
  exact writes_plain (fun c hc => hplain c (mem_chars n c hc)) hmark hopens

section Collections

variable {l : Lexer} {level : Nat} {ts new : List Token} {gap : Gap} {rest : List Char}

/-- A collection is written from its first sign to its last one. -/
theorem collection_leads {c : Char} (hc : c ∈ signs) (hne : c ≠ ':') {t : Token} (hopens : onSign c = Lex.openFlow t)
    (hgap : gap.isReadable = true) {cs : List Char} (hcloses : Closes true cs new)
    (h : l.At level ts (c :: (gap.chars ++ (cs ++ rest)))) :
    ∃ l', l.Leads l' ∧ l'.At level (ts ++ t :: new) rest := by
  obtain ⟨l₁, hfirst, h₁, hallowed⟩ := h.openFlow hc hne hopens
  obtain ⟨l', hleads, h'⟩ := hcloses l₁ level (ts ++ [t]) rest (fun _ => hallowed) (h₁.skip (isGap hgap))
  refine ⟨l', .head hfirst hleads, ?_⟩
  rwa [List.append_assoc] at h'

theorem array_leads {items : Items} (hgap : gap.isReadable = true) (hcloses : Closes true (kept (items.points true) ++ [']']) new)
    (h : l.At level ts (kept (Tree.array gap items).points ++ rest)) :
    ∃ l', l.Leads l' ∧ l'.At level (ts ++ .flowSequenceStart :: new) rest := by
  refine collection_leads (by decide : '[' ∈ signs) (by decide) rfl hgap hcloses ?_
  rwa [Tree.points, kept_char (by decide), kept_append, kept_append, kept_gap, List.cons_append, List.append_assoc] at h

theorem object_leads {members : Members} (hgap : gap.isReadable = true)
    (hcloses : Closes true (kept (members.points true) ++ ['\x7d']) new)
    (h : l.At level ts (kept (Tree.object gap members).points ++ rest)) :
    ∃ l', l.Leads l' ∧ l'.At level (ts ++ .flowMappingStart :: new) rest := by
  refine collection_leads (by decide : '\x7b' ∈ signs) (by decide) rfl hgap hcloses ?_
  rwa [Tree.points, kept_char (by decide), kept_append, kept_append, kept_gap, List.cons_append, List.append_assoc] at h

/-- The comma in front of an item is passed. -/
theorem comma_leads {first : Bool} {cs : List Char} {l : Lexer} {level : Nat} {ts : List Token}
    (hallowed : first = true → l.keyAllowed = true)
    (h : l.At level ts (kept (comma first) ++ cs)) :
    ∃ l', l.Leads l' ∧ l'.At level (ts ++ Flow.comma first) cs ∧ l'.keyAllowed = true := by
  cases first with
  | true =>
    refine ⟨l, .refl, ?_, hallowed rfl⟩
    change l.At level (ts ++ []) cs
    rwa [List.append_nil]
  | false =>
    obtain ⟨l', hstep, h', hallowed'⟩ := At.comma h
    exact ⟨l', .single hstep, h', hallowed'⟩

/-- A value is written, and then what follows it up to the end of the collection. -/
theorem value_closes {value more rest after : List Char} {new news : List Token} (hvalue : Writes value new)
    (hafter : IsGap after)
    (hmore : Closes false more news) (hhead : ∃ c cs, more = c :: cs ∧ c ∈ stops) {l : Lexer} {level : Nat} {ts : List Token}
    (h : l.At (level + 1) ts (value ++ (after ++ (more ++ rest)))) :
    ∃ l', l.Leads l' ∧ l'.At level (ts ++ (new ++ news)) rest := by
  obtain ⟨c, cs, rfl, hc⟩ := hhead
  obtain ⟨l₁, hfirst, h₁⟩ := hvalue l level ts after c (cs ++ rest) hafter hc h
  obtain ⟨l', hleads, h'⟩ := hmore l₁ level (ts ++ new) rest nofun h₁
  refine ⟨l', hfirst.trans hleads, ?_⟩
  rwa [List.append_assoc] at h'

theorem closes_end {c : Char} (hc : c ∈ signs) (hne : c ≠ ':') {t : Token} (hcloses : onSign c = Lex.closeFlow t) (first : Bool) :
    Closes first [c] [t] := by
  intro l level ts rest _ h
  obtain ⟨l', hstep, h'⟩ := h.closeFlow hc hne hcloses
  exact ⟨l', .single hstep, h'⟩

theorem head_items (xs : Items) : ∃ c cs, kept (xs.points false) ++ [']'] = c :: cs ∧ c ∈ stops := by
  cases xs with
  | nil => exact ⟨_, _, rfl, by decide⟩
  | cons => exact ⟨',', _, rfl, by decide⟩

theorem head_members (ms : Members) : ∃ c cs, kept (ms.points false) ++ ['\x7d'] = c :: cs ∧ c ∈ stops := by
  cases ms with
  | nil => exact ⟨_, _, rfl, by decide⟩
  | cons => exact ⟨',', _, rfl, by decide⟩

end Collections

mutual
/-- A value is written as a document in flow style that stands for what YAML reads. -/
theorem Tree.exists_flow : ∀ x : Tree, x.isReadable = true → ∃ f : Flow, f.datum = x.read ∧ Writes (kept x.points) f.tokens
  | .word w, _ => ⟨.plain ⟨_, w.value, w.reads⟩, rfl, writes_word w⟩
  | .number n, h => ⟨.plain ⟨_, n.read, n.reads h⟩, rfl, writes_number n⟩
  | .string ps, h => ⟨.quoted (Pieces.read ps), rfl, kept_string ps ▸ writes_string h⟩
  | .array gap items, h => by
    obtain ⟨hgap, hitems⟩ := Bool.and_eq_true_iff.1 h
    obtain ⟨fs, hdata, hcloses⟩ := items.exists_flows hitems
    refine ⟨.sequence fs, by rw [Flow.datum, hdata]; rfl, fun l level ts gap' c rest hgap' hc hat => ?_⟩
    obtain ⟨l', hleads, h'⟩ := array_leads hgap (hcloses true) hat
    exact ⟨l', hleads, h'.skip hgap'⟩
  | .object gap members, h => by
    obtain ⟨hgap, hmembers⟩ := Bool.and_eq_true_iff.1 h
    obtain ⟨es, hentries, hcloses⟩ := members.exists_flows hmembers
    refine ⟨.mapping es, by rw [Flow.datum, hentries]; rfl, fun l level ts gap' c rest hgap' hc hat => ?_⟩
    obtain ⟨l', hleads, h'⟩ := object_leads hgap (hcloses true) hat
    exact ⟨l', hleads, h'.skip hgap'⟩
theorem Items.exists_flows : ∀ xs : Items, xs.isReadable = true → ∃ fs : List Flow, Flow.itemData fs = xs.read ∧
    ∀ first, Closes first (kept (xs.points first) ++ [']']) (Flow.itemTokens first fs)
  | .nil, _ => ⟨[], rfl, closes_end (by decide) (by decide) rfl⟩
  | .cons before value after more, h => by
    simp only [Items.isReadable, Bool.and_eq_true] at h
    obtain ⟨⟨⟨hbefore, hvalue⟩, hafter⟩, hmore⟩ := h
    obtain ⟨f, hdatum, hwrites⟩ := value.exists_flow hvalue
    obtain ⟨fs, hdata, hcloses⟩ := more.exists_flows hmore
    refine ⟨f :: fs, by rw [Flow.itemData, hdatum, hdata]; rfl, fun first l level ts rest hallowed hat => ?_⟩
    simp only [Items.points, kept_append, kept_gap, List.append_assoc] at hat
    obtain ⟨l₁, hcomma, h₁, -⟩ := comma_leads hallowed hat
    obtain ⟨l', hleads, h'⟩ := value_closes hwrites (isGap hafter) (hcloses false) (head_items more)
      (by rw [List.append_assoc]; exact h₁.skip (isGap hbefore))
    refine ⟨l', hcomma.trans hleads, ?_⟩
    rwa [List.append_assoc] at h'
theorem Members.exists_flows : ∀ ms : Members, ms.isReadable = true → ∃ es : List (String × Flow), Flow.entryData es = ms.read ∧
    ∀ first, Closes first (kept (ms.points first) ++ ['\x7d']) (Flow.entryTokens first es)
  | .nil, _ => ⟨[], rfl, closes_end (by decide) (by decide) rfl⟩
  | .cons before name between inner value after more, h => by
    simp only [Members.isReadable, Bool.and_eq_true] at h
    obtain ⟨⟨⟨⟨⟨⟨hbefore, hname⟩, hshort⟩, hinner⟩, hvalue⟩, hafter⟩, hmore⟩ := h
    obtain ⟨hspaces, hsize⟩ := Bool.and_eq_true_iff.1 hshort
    obtain ⟨f, hdatum, hwrites⟩ := value.exists_flow hvalue
    obtain ⟨es, hentries, hcloses⟩ := more.exists_flows hmore
    refine ⟨(Pieces.read name, f) :: es, by rw [Flow.entryData, hdatum, hentries]; rfl,
      fun first l level ts rest hallowed hat => ?_⟩
    simp only [Members.points, kept_append, kept_gap, kept_string, kept_char (by decide : ':' ≠ surrogateMark),
      chars_spaces hspaces,
      List.append_assoc, List.cons_append] at hat
    obtain ⟨l₁, hcomma, h₁, hallowed₁⟩ := comma_leads hallowed hat
    obtain ⟨l₂, hkey, h₂⟩ := At.name hname (of_decide_eq_true hsize) hallowed₁ (h₁.skip (isGap hbefore))
    obtain ⟨l', hleads, h'⟩ := value_closes hwrites (isGap hafter) (hcloses false) (head_members more)
      (by rw [List.append_assoc]; exact h₂.skip (isGap hinner))
    refine ⟨l', hcomma.trans (hkey.trans hleads), ?_⟩
    simpa only [Flow.entryTokens, List.append_assoc, List.cons_append, List.nil_append] using h'
end

/-! ## Printable texts -/

/-- Code points that a document may hold. -/
def ArePrintable (ps : List CodePoint) : Prop := ∀ p ∈ ps, isPrintable p = true

theorem ArePrintable.append {ps qs : List CodePoint} (hps : ArePrintable ps) (hqs : ArePrintable qs) : ArePrintable (ps ++ qs) :=
  List.forall_mem_append.2 ⟨hps, hqs⟩

theorem ArePrintable.cons {p : CodePoint} {ps : List CodePoint} (hp : isPrintable p = true) (hps : ArePrintable ps) :
    ArePrintable (p :: ps) :=
  List.forall_mem_cons.2 ⟨hp, hps⟩

theorem printable_chars {cs : List Char} (h : ∀ c ∈ cs, isPrintable (.char c) = true) : ArePrintable (asPoints cs) :=
  List.forall_mem_map.2 h

theorem printable_gap (g : Gap) : ArePrintable (Gap.points g) :=
  printable_chars (List.forall_mem_map.2 fun b _ => by cases b <;> decide)

theorem printable_comma (first : Bool) : ArePrintable (comma first) := by
  cases first <;> unfold ArePrintable <;> decide

theorem printable_piece {p : Piece} (h : p.isReadable = true) : ArePrintable p.points := by
  have hhex : ∀ (value : Fin 16) (capital : Bool), isPrintable (.char (HexDigit.char ⟨value, capital⟩)) = true := by decide
  cases p with
  | raw p allowed => exact ArePrintable.cons (Bool.and_eq_true_iff.1 h).1 nofun
  | short e =>
    unfold ArePrintable
    cases e <;> decide
  | code a b c d =>
    exact .cons (by decide) (.cons (by decide) (.cons (hhex ..) (.cons (hhex ..) (.cons (hhex ..) (.cons (hhex ..) nofun)))))

theorem printable_string {ps : Pieces} (h : Pieces.isReadable ps = true) : ArePrintable (Pieces.points ps) := by
  have hpieces := List.all_eq_true.1 h
  have hinside : ArePrintable (ps.flatMap Piece.points) := by
    intro q hq
    obtain ⟨p, hp, hq⟩ := List.mem_flatMap.1 hq
    exact printable_piece (hpieces p hp) q hq
  exact .cons (by decide) (hinside.append (.cons (by decide) nofun))

mutual
theorem Tree.printable : ∀ x : Tree, x.isReadable = true → ArePrintable x.points
  | .word w, _ => printable_chars (by cases w <;> exact List.all_iff_forall_prop.1 (by decide))
  | .number n, _ => by
    have hall : ∀ c ∈ numeralChars, isPrintable (.char c) = true := List.all_iff_forall_prop.1 (by decide)
    exact printable_chars fun c hc => hall c (mem_chars n c hc)
  | .string _, h => printable_string h
  | .array gap items, h => by
    have hitems := items.printable (Bool.and_eq_true_iff.1 h).2 true
    exact .cons (by decide) ((printable_gap gap).append (hitems.append (.cons (by decide) nofun)))
  | .object gap members, h => by
    have hmembers := members.printable (Bool.and_eq_true_iff.1 h).2 true
    exact .cons (by decide) ((printable_gap gap).append (hmembers.append (.cons (by decide) nofun)))
theorem Items.printable : ∀ xs : Items, xs.isReadable = true → ∀ first, ArePrintable (xs.points first)
  | .nil, _, _ => nofun
  | .cons before value after more, h, first => by
    simp only [Items.isReadable, Bool.and_eq_true] at h
    obtain ⟨⟨⟨-, hvalue⟩, -⟩, hmore⟩ := h
    exact (printable_comma first).append ((printable_gap before).append ((value.printable hvalue).append
      ((printable_gap after).append (more.printable hmore false))))
theorem Members.printable : ∀ ms : Members, ms.isReadable = true → ∀ first, ArePrintable (ms.points first)
  | .nil, _, _ => nofun
  | .cons before name between inner value after more, h, first => by
    simp only [Members.isReadable, Bool.and_eq_true] at h
    obtain ⟨⟨⟨⟨⟨⟨-, hname⟩, -⟩, -⟩, hvalue⟩, -⟩, hmore⟩ := h
    exact (printable_comma first).append ((printable_gap before).append ((printable_string hname).append
      ((printable_gap between).append (.cons (by decide) ((printable_gap inner).append ((value.printable hvalue).append
        ((printable_gap after).append (more.printable hmore false))))))))
end

/-! ## Documents -/

namespace Document

variable {d : Document}

theorem toList_text (d : Document) : d.text.toList = d.before.chars ++ (kept d.root.points ++ d.after.chars) := by
  unfold text Text.ofPoints points
  rw [String.toList_ofList]
  change kept (_ ++ (_ ++ _)) = _
  rw [kept_append, kept_append, kept_gap, kept_gap]

/-- A text of JSON does not begin with a mark of the order of bytes. -/
theorem head?_text (d : Document) : d.text.toList.head? ≠ some '\uFEFF' := by
  rw [toList_text]
  cases d.before with
  | nil => exact fun h => absurd (Option.some.inj h) (by decide : '\x7b' ≠ '\uFEFF')
  | cons b g =>
    have hne : ∀ b : Blank, b.char ≠ '\uFEFF' := by rintro (_ | _ | _ | _) <;> decide
    exact fun h => hne b (Option.some.inj h)

theorem printable (h : d.isReadable = true) : (Text.points d.text).all isPrintable = true := by
  have hroot : d.root.isReadable = true := (Bool.and_eq_true_iff.1 (Bool.and_eq_true_iff.1 h).1).2
  unfold text
  rw [points_ofPoints]
  exact List.all_eq_true.2 ((printable_gap d.before).append ((d.root.printable hroot).append (printable_gap d.after)))

/-- A readable document has the tokens of a mapping in flow style. -/
theorem scan_eq (h : d.isReadable = true) :
    ∃ es, Flow.entryData es = d.members.read ∧ Token.scan d.text = ⟨(Flow.mapping es).tokens ++ [.streamEnd], none⟩ := by
  obtain ⟨hboth, hafter⟩ := Bool.and_eq_true_iff.1 h
  obtain ⟨hbefore, hroot⟩ := Bool.and_eq_true_iff.1 hboth
  obtain ⟨hgap, hmembers⟩ := Bool.and_eq_true_iff.1 hroot
  obtain ⟨es, hentries, hcloses⟩ := d.members.exists_flows hmembers
  let l : Lexer := { rest := d.text.toList }
  have hstart : l.At 0 [] (kept d.root.points ++ d.after.chars) :=
    ⟨⟨rfl, rfl, rfl, rfl, nofun, rfl⟩, d.before.chars, isGap hbefore, d.toList_text⟩
  obtain ⟨l', hleads, h'⟩ := object_leads hgap (hcloses true) hstart
  refine ⟨es, hentries, Token.scan_eq (printable h) d.head?_text ⟨l', hleads, ?_⟩⟩
  exact At.skip (isGap hafter) (by rw [List.append_nil]; exact h')

/-- A readable document is loaded as the entries that YAML reads. -/
theorem load_eq (h : d.isReadable = true) (σ : Store) :
    ∃ v τ, Yaml.load d.text σ = .ok (v, τ) ∧ τ.IsTree v ∧ τ.datum v = .mapping d.readEntries := by
  obtain ⟨es, hentries, hscan⟩ := scan_eq h
  obtain ⟨v, τ, hload, htree, hdatum⟩ := Flow.load_eq hscan σ
  refine ⟨v, τ, hload, htree, hdatum.trans ?_⟩
  rw [Flow.datum, hentries]
  rfl

end Document

end JsonText

namespace Work

/-- From each text of JSON that can be read a schema is made as from the entries that YAML reads. -/
theorem makeFromDocument_reads {d : JsonText.Document} (h : d.isReadable = true) (capabilities : CapabilitiesHandle)
    (path : Option String) : makeFromDocument capabilities path d.text = makeSchema capabilities none d.readEntries := by
  obtain ⟨v, σ, hload, htree, hdatum⟩ := JsonText.Document.load_eq h {}
  have hmapping : ¬ (σ.entries? v).isNone = true := by
    intro hnone
    have hentries := htree.entries?_eq
    rw [hdatum, Option.isNone_iff_eq_none.1 hnone] at hentries
    cases hentries
  unfold makeFromDocument readDocument
  rw [hload]
  dsimp only
  rw [pure_bind]
  dsimp only
  rw [if_neg hmapping, htree.definition_eq, hdatum]
  rfl

/-- **A document means what JSON says.** From each text of JSON that keeps to what YAML reads in the same way, a schema is made as
from the entries that the text stands for, in every workspace: the same schema or the same error. -/
theorem makeFromDocument_eq (d : JsonText.Document) (h : d.isCommon = true) (capabilities : CapabilitiesHandle)
    (path : Option String) : makeFromDocument capabilities path d.text = makeSchema capabilities none d.entries := by
  obtain ⟨hreadable, hfaithful⟩ := Bool.and_eq_true_iff.1 h
  rw [makeFromDocument_reads hreadable, JsonText.Document.readEntries_eq hfaithful]

end Work

namespace JsonText

/-- A text in pieces that stand for themselves. -/
def plainPieces (s : String) : Pieces :=
  (Text.points s).filterMap fun p => if h : 0x20 ≤ p.code ∧ p ≠ .char '"' ∧ p ≠ .char '\\' then some (.raw p h) else none

def plain (s : String) : Tree := .string (plainPieces s)

/-- An object whose entries have spaces behind their colons. -/
def record (entries : List (String × Tree)) : Tree :=
  .object [] (entries.foldr (fun (name, value) more => .cons [] (plainPieces name) [] [.space] value [] more) .nil)

def array (items : List Tree) : Tree := .array [] (items.foldr (fun value more => .cons [] value [] more) .nil)

/-- A type with a number that has a least value. -/
def boundType (least : Decimal) : Tree :=
  record [("properties", record [("size", record [("type", plain "Number"),
    ("constraints", array [record [("method", plain "min"), ("args", array [.number least])]])])])]

/-- A schema with a type that has a number with a least value. -/
def boundDocument (least : Decimal) : Document where
  before := []
  gap := [.lineFeed]
  members :=
    .cons [] (plainPieces "namespace") [] [.space] (plain "ns://a") [] <|
    .cons [.lineFeed] (plainPieces "version") [] [.space] (plain "1.0.0") [] <|
    .cons [.lineFeed] (plainPieces "description") [] [.space] (plain "A schema") [] <|
    .cons [.lineFeed] (plainPieces "types") [] [.space] (record [("T", boundType least)]) [.lineFeed] .nil
  after := [.lineFeed]

/-- A hundred with a fraction and an exponent with a sign. -/
def fullHundred : Decimal := ⟨false, ⟨1, []⟩, some ⟨0, []⟩, some ⟨false, some false, ⟨2, []⟩⟩, by decide⟩

/-- A hundred with only an exponent. -/
def bareHundred : Decimal := ⟨false, ⟨1, []⟩, none, some ⟨false, none, ⟨2, []⟩⟩, by decide⟩

def boundWorkspace : Workspace := { clock := ⟨default, "id"⟩, files := ⟨"/", []⟩ }

end JsonText

theorem Work.makeFromDocument_eq_fullHundred :
    let d := JsonText.boundDocument JsonText.fullHundred
    d.isCommon = true ∧
      Work.makeFromDocument standardCapabilities none d.text = Work.makeSchema standardCapabilities none d.entries ∧
      ((Work.makeFromDocument standardCapabilities none d.text).ending JsonText.boundWorkspace).1.toOption = some 0 := by
  intro d
  have hcommon : d.isCommon = true := by decide +kernel
  have heq := Work.makeFromDocument_eq d hcommon standardCapabilities none
  refine ⟨hcommon, heq, ?_⟩
  rw [heq]
  decide +kernel

/-- A number without a fraction is a text if it has an exponent: no schema is made from the text, and one is made from what the
text says in JSON. -/
theorem Work.makeFromDocument_ne_bareHundred :
    let d := JsonText.boundDocument JsonText.bareHundred
    d.text = "\x7b\n\"namespace\": \"ns://a\",\n\"version\": \"1.0.0\",\n\"description\": \"A schema\",\n\"types\": " ++
      "\x7b\"T\": \x7b\"properties\": \x7b\"size\": \x7b\"type\": \"Number\",\"constraints\": [" ++
      "\x7b\"method\": \"min\",\"args\": [1e2]\x7d]\x7d\x7d\x7d\x7d\n\x7d\n" ∧
      ((Work.makeFromDocument standardCapabilities none d.text).ending JsonText.boundWorkspace).1.toOption = none ∧
      ((Work.makeSchema standardCapabilities none d.entries).ending JsonText.boundWorkspace).1.toOption = some 0 ∧
      Work.makeFromDocument standardCapabilities none d.text ≠ Work.makeSchema standardCapabilities none d.entries := by
  intro d
  have htext : ((Work.makeFromDocument standardCapabilities none d.text).ending JsonText.boundWorkspace).1.toOption = none := by
    decide +kernel
  have hentries : ((Work.makeSchema standardCapabilities none d.entries).ending JsonText.boundWorkspace).1.toOption = some 0 := by
    decide +kernel
  refine ⟨by decide +kernel, htext, hentries, fun heq => ?_⟩
  rw [heq, hentries] at htext
  cases htext

end ShapeCheck
