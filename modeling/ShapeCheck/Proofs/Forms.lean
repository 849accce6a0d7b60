import Mathlib.Data.List.TakeWhile
import ShapeCheck.Proofs.Denoting

/-!
# Texts that data spell

A field that asks for a text takes bytes, too: `Datum.Spells` says which text a datum gives. `ValidNamespace` and `ValidVersion`
are the grammar of namespaces and versions, and `isNamespace_iff` and `isVersion_iff` say that it is what is tested.

`Reading.issues` are the issues of a reading, which has some if it fails (`Reading.Tells`). A text of characters is read exactly if
it passes its test (`Reading.textWhere_iff`).
-/

namespace ShapeCheck

open Shape

/-! ## Namespaces and versions -/

/-- `ns://` and one or more characters, none of them a line feed. -/
def ValidNamespace (s : String) : Prop := ∃ rest : String, s = "ns://" ++ rest ∧ rest ≠ "" ∧ '\n' ∉ rest.toList

/-- One or more decimal digits of any script. -/
def IsDigits (s : String) : Prop := s ≠ "" ∧ ∀ c ∈ s.toList, Text.isVersionDigit c = true

/-- Three runs of digits, joined by points. -/
def ValidVersion (s : String) : Prop :=
  ∃ a b c : String, s = a ++ "." ++ b ++ "." ++ c ∧ IsDigits a ∧ IsDigits b ∧ IsDigits c

theorem isNamespace_iff {s : String} : isNamespace s = true ↔ ValidNamespace s := by
  unfold isNamespace
  constructor
  · intro h
    split at h
    · next rest hs =>
      rw [Bool.and_eq_true, Bool.not_eq_true', Bool.not_eq_true'] at h
      refine ⟨String.ofList rest, String.toList_inj.1 ?_, fun hempty => ?_, ?_⟩
      · rw [hs, String.toList_append, String.toList_ofList (l := rest)]
        rfl
      · have hnil : rest = [] := by rw [← String.toList_ofList (l := rest), hempty, String.toList_empty]
        rw [hnil] at h
        cases h.1
      · rw [String.toList_ofList]
        intro hmem
        rw [List.contains_iff_mem.2 hmem] at h
        cases h.2
    · cases h
  · rintro ⟨rest, rfl, hne, hline⟩
    have hlist : ("ns://" ++ rest).toList = 'n' :: 's' :: ':' :: '/' :: '/' :: rest.toList := String.toList_append
    rw [hlist]
    simp [hne, hline]

/-- A list is one piece, or its first piece ends at a separator. -/
theorem splitAtChar_cases (sep : Char) (cs : List Char) :
    (sep ∉ cs ∧ splitAtChar sep cs = [cs]) ∨
      ∃ piece rest, sep ∉ piece ∧ cs = piece ++ sep :: rest ∧ splitAtChar sep cs = piece :: splitAtChar sep rest := by
  by_cases hmem : sep ∈ cs
  · obtain ⟨piece, rest, rfl, hpiece⟩ := List.eq_append_cons_of_mem hmem
    exact .inr ⟨piece, rest, hpiece, rfl, splitAtChar_append rest hpiece⟩
  · exact .inl ⟨hmem, splitAtChar_of_not_mem hmem⟩

/-- A list with three pieces has two separators. -/
theorem eq_of_splitAtChar_three {sep : Char} {cs a b c : List Char} (h : splitAtChar sep cs = [a, b, c]) :
    cs = a ++ sep :: (b ++ sep :: c) := by
  rcases splitAtChar_cases sep cs with ⟨-, hone⟩ | ⟨a', rest, -, rfl, hmore⟩
  · cases hone.symm.trans h
  · obtain ⟨rfl, hrest⟩ := List.cons.inj (hmore.symm.trans h)
    rcases splitAtChar_cases sep rest with ⟨-, hone⟩ | ⟨b', last, -, rfl, hmore⟩
    · cases hone.symm.trans hrest
    · obtain ⟨rfl, hlast⟩ := List.cons.inj (hmore.symm.trans hrest)
      rcases splitAtChar_cases sep last with ⟨-, hone⟩ | ⟨c', end', -, rfl, hmore⟩
      · cases hone.symm.trans hlast
        rfl
      · obtain ⟨-, hnone⟩ := List.cons.inj (hmore.symm.trans hlast)
        rcases splitAtChar_cases sep end' with ⟨-, hone⟩ | ⟨_, _, -, -, hmore⟩
        · cases hone.symm.trans hnone
        · cases hmore.symm.trans hnone

theorem IsDigits.not_mem {s : String} (h : IsDigits s) : '.' ∉ s.toList := fun hmem => absurd (h.2 '.' hmem) (by decide)

/-- A run of digits, as it is tested. -/
theorem isDigits_iff {s : String} : (!s.toList.isEmpty && s.toList.all Text.isVersionDigit) = true ↔ IsDigits s := by
  simp [IsDigits]

theorem isVersion_iff {s : String} : isVersion s = true ↔ ValidVersion s := by
  unfold isVersion
  constructor
  · intro h
    split at h
    · next a b c hpieces =>
      simp only [List.all_cons, List.all_nil, Bool.and_true, Bool.and_eq_true (_ && _)] at h
      have hrun : ∀ run : List Char, (!run.isEmpty && run.all Text.isVersionDigit) = true → IsDigits (String.ofList run) := by
        intro run hdigits
        apply isDigits_iff.1
        rw [String.toList_ofList]
        exact hdigits
      refine ⟨_, _, _, String.toList_inj.1 ?_, hrun a h.1, hrun b h.2.1, hrun c h.2.2⟩
      rw [eq_of_splitAtChar_three hpieces]
      simp
    · cases h
  · rintro ⟨a, b, c, rfl, ha, hb, hc⟩
    have hlist : (a ++ "." ++ b ++ "." ++ c).toList = a.toList ++ '.' :: (b.toList ++ '.' :: c.toList) := by simp
    rw [hlist, splitAtChar_append _ ha.not_mem, splitAtChar_append _ hb.not_mem, splitAtChar_of_not_mem hc.not_mem]
    simp only [List.all_cons, List.all_nil, Bool.and_true, Bool.and_eq_true (_ && _)]
    exact ⟨isDigits_iff.2 ha, isDigits_iff.2 hb, isDigits_iff.2 hc⟩

/-! ## Texts in data -/

/-- The text that a datum gives where a text is asked for: a text gives itself, and bytes the text that they encode. -/
inductive Datum.Spells : Datum → String → Prop
  | text (s : String) : Spells (.text s) s
  | bytes {bs : List UInt8} {s : String} (encoded : Text.ofUtf8? bs = some s) : Spells (.scalar (.bytes bs)) s

namespace Reading

variable {α β : Type}

theorem text_iff {d : Datum} {s : String} : text d = .ok s ↔ d.Spells s := by
  constructor
  · intro h
    unfold text at h
    split at h
    · cases h
      exact .text s
    · split at h
      · next hbytes =>
        cases h
        exact .bytes hbytes
      · cases h
    · cases h
  · rintro (_ | hbytes)
    · rfl
    · unfold text
      dsimp only
      rw [hbytes]

theorem textWhere_iff {test : String → Bool} {defect : Defect} {d : Datum} {s : String} :
    textWhere test defect d = .ok s ↔ d.Spells s ∧ Text.hasSurrogate s = false ∧ test s = true := by
  rw [← text_iff]
  unfold textWhere
  cases htext : text d with
  | bad issues => simp
  | ok t =>
    dsimp only
    by_cases hhalf : Text.hasSurrogate t = true
    · rw [if_pos hhalf]
      refine iff_of_false nofun ?_
      rintro ⟨heq, hwhole, -⟩
      cases heq
      rw [hhalf] at hwhole
      cases hwhole
    · rw [if_neg hhalf]
      by_cases htest : test t = true
      · rw [if_pos htest]
        refine ⟨fun heq => ?_, fun h => h.1⟩
        cases heq
        exact ⟨rfl, Bool.eq_false_iff.2 hhalf, htest⟩
      · rw [if_neg htest]
        refine iff_of_false nofun ?_
        rintro ⟨heq, -, hpass⟩
        cases heq
        exact htest hpass

/-! ## Issues -/

/-- What a reading fails with is told: there is at least one issue. -/
def Tells (a : Reading α) : Prop := a ≠ .bad []

section Tells

variable {a : Reading α} {b : Reading β}

theorem tells_ok (x : α) : Tells (.ok x) := nofun

theorem tells_fail (defect : Defect) (d : Datum) : (fail defect d : Reading α).Tells := nofun

theorem Tells.both (ha : a.Tells) (hb : b.Tells) : (a.both b).Tells := by
  cases a with
  | ok x =>
    cases b with
    | ok y => exact tells_ok (x, y)
    | bad issues => exact fun h => hb (congrArg bad (Reading.bad.inj h))
  | bad issues =>
    cases b with
    | ok y => exact fun h => ha (congrArg bad (Reading.bad.inj h))
    | bad others => exact fun h => ha (congrArg bad (List.append_eq_nil_iff.1 (Reading.bad.inj h)).1)

theorem Tells.map (ha : a.Tells) (f : α → β) : (Reading.map f a).Tells := by
  cases a with
  | ok x => exact tells_ok (f x)
  | bad issues => exact fun h => ha (congrArg bad (Reading.bad.inj h))

theorem Tells.under (ha : a.Tells) (s : Step) : (a.under s).Tells := by
  cases a with
  | ok x => exact tells_ok x
  | bad issues => exact fun h => ha (congrArg bad (List.map_eq_nil_iff.1 (Reading.bad.inj h)))

theorem tells_text (d : Datum) : (text d).Tells := by
  unfold text
  split
  · exact tells_ok _
  · split
    · exact tells_ok _
    · exact tells_fail _ _
  · exact tells_fail _ _

theorem tells_textWhere (test : String → Bool) (defect : Defect) (d : Datum) : (textWhere test defect d).Tells := by
  have htext := tells_text d
  unfold textWhere
  split
  · next issues hbad =>
    rw [hbad] at htext
    exact fun h => htext (congrArg bad (Reading.bad.inj h))
  · split
    · exact tells_fail _ _
    · split
      · exact tells_ok _
      · exact tells_fail _ _

end Tells

/-- The issues of a reading. -/
def issues : Reading α → List Issue
  | .ok _ => []
  | .bad issues => issues

section Issues

variable {a : Reading α} {b : Reading β}

/-- A reading that tells what it fails with has no issues exactly if it goes well. -/
theorem Tells.issues_eq_nil (h : a.Tells) : a.issues = [] ↔ ∃ x, a = .ok x := by
  cases a with
  | ok x => exact iff_of_true rfl ⟨x, rfl⟩
  | bad issues => exact iff_of_false (fun hnil => h (congrArg bad hnil)) nofun

end Issues

end Reading

/-! ## Fields of records -/

/-- The issues of a field of a record: what is wrong with what stands there, or that it is missing. -/
def Field.issues (f : Field) (needed : Bool) (check : Datum → List Issue) (r : Record) : List Issue :=
  match f.find? r.entries with
  | some (s, d) => (check d).map (Issue.under (.key s))
  | none => if needed then [⟨[.key f.name], .missing, r.whole⟩] else []

namespace Record

variable {α : Type} {r : Record} {f : Field} {read : Datum → Reading α} {x : α}

theorem tells_required (r : Record) (f : Field) (hread : ∀ d, (read d).Tells) : (r.required f read).Tells := by
  unfold required
  split
  · exact (hread _).under _
  · nofun

theorem tells_optional (r : Record) (f : Field) (absent : α) (hread : ∀ d, (read d).Tells) : (r.optional f absent read).Tells := by
  unfold optional
  split
  · exact (hread _).under _
  · exact Reading.tells_ok absent

theorem tells_close (r : Record) (fields : List Field) : (r.close fields).Tells := by
  unfold close
  dsimp only
  split
  · exact Reading.tells_ok _
  · next issues hne => exact fun h => hne (Reading.bad.inj h)

theorem tells_closing (r : Record) (fields : List Field) {parts : Reading α} (h : parts.Tells) : (r.closing fields parts).Tells := by
  unfold closing
  split
  · exact Reading.tells_fail _ _
  · exact h.both (r.tells_close fields)

theorem required_iff : r.required f read = .ok x ↔ ∃ s d, f.find? r.entries = some (s, d) ∧ read d = .ok x := by
  constructor
  · intro h
    unfold required at h
    split at h
    · next s d hfound => exact ⟨s, d, hfound, Reading.under_eq_ok.1 h⟩
    · cases h
  · rintro ⟨s, d, hfound, hread⟩
    exact required_of_find? hfound hread

end Record

end ShapeCheck
