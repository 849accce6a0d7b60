import Mathlib.Data.List.TakeWhile
import ShapeCheck.Proofs.Lookups
import ShapeCheck.Proofs.Rendering

/-!
# What the text of a reference denotes

The text of a reference is cut at its first `#`, and before that at the last slash. Names may have a `#` and namespaces a slash
without harm, since a version has neither: `TypeRef.parse_eq_ok` says that a text is read as a reference exactly if it is the
text of that reference and the namespace has no `#`. Namespaces may have one, and the text of such a reference is read as no
reference or as another one. `TypeRef.text_denotes` gives the condition under which the forms of a reference all denote it, and
says which references share their texts.
-/

namespace ShapeCheck

open Shape

/-! ## Texts around a separator -/

section Separator

variable {sep : Char} {before after cs : List Char}

/-- A list is cut at the first separator in it. -/
theorem cut_first (after : List Char) (h : sep ∉ before) :
    (before ++ sep :: after).takeWhile (· ≠ sep) = before ∧
      (before ++ sep :: after).dropWhile (· ≠ sep) = sep :: after := by
  have hall : ∀ c ∈ before, decide (c ≠ sep) = true := fun c hc => decide_eq_true fun heq => h (heq ▸ hc)
  constructor
  · rw [List.takeWhile_append_of_pos hall, List.takeWhile_cons_of_neg (by simp), List.append_nil]
  · rw [List.dropWhile_append_of_pos hall, List.dropWhile_cons_of_neg (by simp)]

theorem not_mem_takeWhile_ne (cs : List Char) : sep ∉ cs.takeWhile (· ≠ sep) := by
  intro h
  have hne := List.mem_takeWhile_imp h
  simp at hne

/-- What is left from the first separator on begins with it. -/
theorem eq_of_dropWhile_ne {d : Char} (h : cs.dropWhile (· ≠ sep) = d :: after) :
    cs = cs.takeWhile (· ≠ sep) ++ sep :: after := by
  have hd : d = sep := by
    have hne : cs.dropWhile (· ≠ sep) ≠ [] := by
      rw [h]
      exact List.cons_ne_nil _ _
    have hhead := List.head_dropWhile_not (· ≠ sep) hne
    simp only [h, List.head_cons] at hhead
    simpa using hhead
  rw [← hd, ← h, hd, List.takeWhile_append_dropWhile]

namespace TypeRef

/-- A list is cut in two exactly at the last separator in it. -/
theorem cutLast?_eq_some : cutLast? sep cs = some (before, after) ↔ cs = before ++ sep :: after ∧ sep ∉ after := by
  unfold cutLast?
  constructor
  · intro h
    split at h
    · cases h
    · next head hdrop =>
      obtain ⟨rfl, rfl⟩ := Prod.ext_iff.1 (Option.some.inj h)
      have hcs := congrArg List.reverse (eq_of_dropWhile_ne hdrop)
      rw [List.reverse_reverse, List.reverse_append, List.reverse_cons, List.append_assoc, List.singleton_append] at hcs
      exact ⟨hcs, mt List.mem_reverse.1 (not_mem_takeWhile_ne _)⟩
  · rintro ⟨rfl, hafter⟩
    have hreverse : (before ++ sep :: after).reverse = after.reverse ++ sep :: before.reverse := by simp
    obtain ⟨htake, hdrop⟩ := cut_first before.reverse (mt List.mem_reverse.1 hafter)
    rw [hreverse, htake, hdrop]
    simp

end TypeRef

end Separator

/-- A version consists of digits and points. -/
theorem mem_of_isVersion {s : String} (h : isVersion s = true) {c : Char} (hc : c ∈ s.toList) :
    c = '.' ∨ Text.isVersionDigit c = true := by
  by_cases hpoint : c = '.'
  · exact .inl hpoint
  · obtain ⟨piece, hpiece, hmem⟩ := mem_splitAtChar hpoint hc
    unfold isVersion at h
    split at h
    · next a b c hpieces =>
      rw [hpieces] at hpiece
      have hall := List.all_eq_true.1 h piece hpiece
      rw [Bool.and_eq_true, List.all_eq_true] at hall
      exact .inr (hall.2 _ hmem)
    · cases h

namespace TypeRef

/-! ## Taking texts apart -/

/-- A text is taken apart as it is put together: at the first `#`, and before it at the last slash. -/
theorem split?_eq_ok {s ns version name : String} :
    split? s = .ok (ns, version, name) ↔
      s = ns ++ "/" ++ version ++ "#" ++ name ∧ '#' ∉ (ns ++ "/" ++ version).toList ∧ '/' ∉ version.toList := by
  have hlists : s = ns ++ "/" ++ version ++ "#" ++ name ↔ s.toList = (ns ++ "/" ++ version).toList ++ '#' :: name.toList := by
    rw [← String.toList_inj]
    simp
  have hkey : (ns ++ "/" ++ version).toList = ns.toList ++ '/' :: version.toList := by simp
  rw [hlists]
  unfold split?
  constructor
  · intro h
    dsimp only at h
    split at h
    · cases h
    · next d rest hdrop =>
      split at h
      · cases h
      · next head tail hcut =>
        simp only [Except.ok.injEq, Prod.mk.injEq] at h
        obtain ⟨rfl, rfl, rfl⟩ := h
        obtain ⟨hkeyed, hslash⟩ := cutLast?_eq_some.1 hcut
        have htake : s.toList.takeWhile (· ≠ '#') = (String.ofList head ++ "/" ++ String.ofList tail).toList := by
          rw [hkeyed]
          simp
        refine ⟨?_, htake ▸ not_mem_takeWhile_ne _, by simpa using hslash⟩
        rw [← htake, String.toList_ofList]
        exact eq_of_dropWhile_ne hdrop
  · rintro ⟨hs, hhash, hslash⟩
    obtain ⟨htake, hdrop⟩ := cut_first name.toList hhash
    have hcut : cutLast? '/' (ns ++ "/" ++ version).toList = some (ns.toList, version.toList) :=
      cutLast?_eq_some.2 ⟨hkey, hslash⟩
    dsimp only
    rw [hs, hdrop, htake, hcut]
    simp

theorem text_eq (r : TypeRef) : r.text = r.namespaceName ++ "/" ++ r.version ++ "#" ++ r.name := rfl

theorem hash_not_mem_version (r : TypeRef) : '#' ∉ r.version.toList := fun h => by
  rcases mem_of_isVersion r.version_ok h with heq | hdigit
  · exact absurd heq (by decide)
  · exact absurd hdigit (by decide)

/-- The key of a schema has a `#` only where the namespace has one. -/
theorem hash_mem_schemaKey (r : TypeRef) : '#' ∈ r.schemaKey.toList ↔ '#' ∈ r.namespaceName.toList := by
  simp [schemaKey, r.hash_not_mem_version]

theorem areParts_iff {r : TypeRef} : areParts r.namespaceName r.version r.name = true ↔ r.IsUnicode := by
  simp [areParts, IsUnicode, r.namespace_ok, r.version_ok, r.name_ok]

/-- **Reading undoes writing.** A text is read as a reference exactly if it is the text of that reference, no part of which has
half of a surrogate pair, and the namespace has no `#`. -/
theorem parse_eq_ok {s : String} {r : TypeRef} :
    parse s = .ok r ↔ s = r.text ∧ '#' ∉ r.namespaceName.toList ∧ r.IsUnicode := by
  have hparse : parse s = .ok r ↔ split? s = .ok (r.namespaceName, r.version, r.name) ∧ r.IsUnicode := by
    unfold parse
    split
    · next e he => simp [he]
    · next ns version name hsplit =>
      have hread : read (triple ns version name) = .ok r ↔ _ := read_triple
      rw [triple] at hread
      rw [hsplit]
      split
      · next q hq =>
        rw [hq] at hread
        constructor
        · intro h
          cases h
          obtain ⟨hare, rfl, rfl, rfl⟩ := hread.1 rfl
          exact ⟨rfl, areParts_iff.1 hare⟩
        · rintro ⟨heq, hunicode⟩
          cases heq
          cases hread.2 ⟨areParts_iff.2 hunicode, rfl, rfl, rfl⟩
          rfl
      · next issues hbad =>
        constructor
        · intro h
          cases h
        · rintro ⟨heq, hunicode⟩
          cases heq
          rw [hbad] at hread
          cases hread.2 ⟨areParts_iff.2 hunicode, rfl, rfl, rfl⟩
  have hslash := not_mem_of_isVersion r.version_ok
  rw [hparse, split?_eq_ok, ← text_eq, ← hash_mem_schemaKey, schemaKey]
  constructor
  · rintro ⟨⟨hs, hhash, -⟩, hunicode⟩
    exact ⟨hs, hhash, hunicode⟩
  · rintro ⟨hs, hhash, hunicode⟩
    exact ⟨⟨hs, hhash, hslash⟩, hunicode⟩

/-- A text as a lookup key stands for what it is read as. -/
theorem ofKey_text {s : String} {r : TypeRef} : ofKey (.text s) = .ok r ↔ parse s = .ok r := by
  unfold ofKey Datum.text
  dsimp only
  split <;> simp_all

theorem ofKey_mapping {es : List (Key × Datum)} {r : TypeRef} :
    ofKey (.mapping es) = .ok r ↔ read (.mapping es) = .ok r := by
  unfold ofKey
  dsimp only
  split <;> simp_all

instance (r : TypeRef) : Decidable r.IsUnicode := inferInstanceAs (Decidable (_ ∧ _ ∧ _))

/-- What is read as a reference has no half of a surrogate pair. -/
theorem isUnicode_of_ofRecord {whole : Record} {r : TypeRef} (h : ofRecord whole = .ok r) : r.IsUnicode := by
  unfold ofRecord at h
  split at h
  · cases h
  · next ns version name _ hread =>
    obtain ⟨hparts, -⟩ := Record.closing_eq_ok.1 hread
    obtain ⟨hns, hrest⟩ := Reading.both_eq_ok.1 hparts
    obtain ⟨hversion, hname⟩ := Reading.both_eq_ok.1 hrest
    obtain ⟨_, _, _, hns⟩ := Record.required_eq_ok hns
    obtain ⟨_, _, _, hversion⟩ := Record.required_eq_ok hversion
    obtain ⟨_, _, _, hname⟩ := Record.required_eq_ok hname
    unfold make? at h
    split at h
    · next hmake =>
      split at hmake
      · cases hmake
        cases h
        exact ⟨(Reading.textWhere_eq_ok hns).1, (Reading.textWhere_eq_ok hversion).1, (Reading.textWhere_eq_ok hname).1⟩
      · cases hmake
    · cases h

/-- A record of a reference is read as that reference exactly if no part of it has half of a surrogate pair. -/
theorem read_datum_iff {r : TypeRef} : read r.datum = .ok r ↔ r.IsUnicode :=
  ⟨isUnicode_of_ofRecord, read_datum⟩

/-! ## References with one text -/

/-- The namespace of one reference is the key of another one, continued behind a `#` with what the name of the other one begins
with. -/
def Prolongs (q r : TypeRef) : Prop :=
  ∃ rest, q.namespaceName = r.schemaKey ++ "#" ++ rest ∧ r.name = rest ++ "/" ++ q.version ++ "#" ++ q.name

theorem Prolongs.hash_mem {q r : TypeRef} (h : q.Prolongs r) : '#' ∈ q.namespaceName.toList := by
  obtain ⟨rest, hns, -⟩ := h
  rw [hns]
  simp

theorem Prolongs.text_eq {q r : TypeRef} (h : q.Prolongs r) : q.text = r.text := by
  obtain ⟨rest, hns, hname⟩ := h
  rw [text, text, schemaKey, hns, hname]
  simp only [String.append_assoc]

theorem eq_of_schemaKey {q r : TypeRef} (hkey : q.schemaKey = r.schemaKey) (hname : q.name = r.name) : q = r := by
  obtain ⟨hns, hversion⟩ := key_inj q.version_ok r.version_ok hkey
  cases q
  cases r
  dsimp only at hns hversion hname
  subst hns hversion hname
  rfl

/-- Of two references with one text, the one whose key goes on is the other one or prolongs it: the `#` behind the key of the
other one is no part of a version. -/
theorem eq_or_prolongs {q r : TypeRef} {between : List Char} (hkey : q.schemaKey.toList = r.schemaKey.toList ++ between)
    (hname : '#' :: r.name.toList = between ++ '#' :: q.name.toList) : q = r ∨ q.Prolongs r := by
  cases between with
  | nil =>
    rw [List.append_nil] at hkey
    exact .inl (eq_of_schemaKey (String.toList_inj.1 hkey) (String.toList_inj.1 (List.cons.inj hname).2.symm))
  | cons c gap =>
    obtain ⟨rfl, hrest⟩ := List.cons.inj hname
    have hparts : q.namespaceName.toList ++ '/' :: q.version.toList = r.schemaKey.toList ++ '#' :: gap := by
      rw [← hkey, schemaKey]
      simp
    rcases List.append_eq_append_iff.1 hparts with ⟨within, -, hversion⟩ | ⟨beyond, hns, hgap⟩
    · have hmem : '#' ∈ '/' :: q.version.toList := by
        rw [hversion]
        exact List.mem_append_right _ (List.mem_cons_self ..)
      exact absurd (List.mem_of_ne_of_mem (by decide) hmem) q.hash_not_mem_version
    · cases beyond with
      | nil => cases hgap
      | cons c rest =>
        obtain ⟨rfl, rfl⟩ := List.cons.inj hgap
        refine .inr ⟨String.ofList rest, String.toList_inj.1 ?_, String.toList_inj.1 ?_⟩
        · rw [hns]
          simp
        · rw [hrest]
          simp

/-- Two references have one text exactly if they are the same or one of them prolongs the other one. -/
theorem text_eq_iff {q r : TypeRef} : q.text = r.text ↔ q = r ∨ q.Prolongs r ∨ r.Prolongs q := by
  constructor
  · intro h
    have hlists : q.schemaKey.toList ++ '#' :: q.name.toList = r.schemaKey.toList ++ '#' :: r.name.toList := by
      simpa [text] using congrArg String.toList h
    rcases List.append_eq_append_iff.1 hlists with ⟨between, hkey, hname⟩ | ⟨between, hkey, hname⟩
    · exact (eq_or_prolongs hkey hname).elim (fun heq => .inl heq.symm) (fun hlong => .inr (.inr hlong))
    · exact (eq_or_prolongs hkey hname).imp id .inl
  · rintro (rfl | h | h)
    · rfl
    · exact h.text_eq
    · exact h.text_eq.symm

/-! ## What denotes a reference -/

/-- The forms in which a registry takes a reference denote it, as far as they do. -/
structure IsDenoted (r : TypeRef) : Prop where
  /-- The reference itself denotes it. -/
  self : ofKey (.scalar (.reference r)) = .ok r
  /-- So does its record, where no part has half of a surrogate pair. -/
  record : ofKey r.datum = .ok r ↔ r.IsUnicode
  /-- So does its text, where moreover the namespace has no `#`. -/
  text : ofKey (.text r.text) = .ok r ↔ r.IsUnicode ∧ '#' ∉ r.namespaceName.toList
  parse : parse r.text = .ok r ↔ r.IsUnicode ∧ '#' ∉ r.namespaceName.toList
  /-- Whatever else the text is read as is another reference with that text. -/
  other : ∀ q, TypeRef.parse r.text = .ok q → q = r ∨ r.Prolongs q
  /-- Another reference has the same text exactly if one of the two prolongs the other one. -/
  shared : ∀ q : TypeRef, q.text = r.text ↔ q = r ∨ q.Prolongs r ∨ r.Prolongs q
  /-- So none has it if neither namespace has a `#`. -/
  alone : '#' ∉ r.namespaceName.toList → ∀ q : TypeRef, '#' ∉ q.namespaceName.toList → q.text = r.text → q = r

/-- **The text of a reference denotes it, and it alone, where the namespace has no `#`.** A reference is found under itself, its
record and its text, the last of these exactly if there is no `#` in its namespace; and two references share a text exactly if
the namespace of one of them is the key of the other one, continued behind a `#`. -/
theorem text_denotes (r : TypeRef) : r.IsDenoted where
  self := rfl
  record := by
    rw [← read_datum_iff]
    exact ofKey_mapping
  text := by
    rw [ofKey_text, parse_eq_ok]
    tauto
  parse := by
    rw [parse_eq_ok]
    tauto
  other q hq := by
    obtain ⟨htext, hhash, -⟩ := parse_eq_ok.1 hq
    rcases text_eq_iff.1 htext.symm with heq | hlong | hlong
    · exact .inl heq
    · exact absurd hlong.hash_mem hhash
    · exact .inr hlong
  shared _ := text_eq_iff
  alone hr q hq htext := by
    rcases text_eq_iff.1 htext with heq | hlong | hlong
    · exact heq
    · exact absurd hlong.hash_mem hq
    · exact absurd hlong.hash_mem hr

end TypeRef

/-- A reference into a namespace with a `#`. -/
def hashedRef : TypeRef := (TypeRef.make? "ns://a/1.0.0#b" "1.0.0" "T").get rfl

/-- A reference to a type with the rest of that text as its name. -/
def hashedName : TypeRef := (TypeRef.make? "ns://a" "1.0.0" "b/1.0.0#T").get rfl

/-- A namespace with a `#` takes the denotation from the text: it is read as another reference, which has the same text. -/
theorem hashedRef_not_denoted :
    hashedRef.IsUnicode ∧ hashedName.IsUnicode ∧ hashedRef ≠ hashedName ∧ hashedRef.text = hashedName.text ∧
      TypeRef.parse hashedRef.text ≠ .ok hashedRef ∧ TypeRef.ofKey (.text hashedRef.text) = .ok hashedName := by
  have hname : hashedName.IsUnicode := by decide +kernel
  have htext : hashedRef.text = hashedName.text := rfl
  refine ⟨by decide +kernel, hname, by decide, htext, ?_, ?_⟩
  · rw [ne_eq, TypeRef.parse_eq_ok]
    exact fun h => h.2.1 (by decide)
  · exact TypeRef.ofKey_text.2 (TypeRef.parse_eq_ok.2 ⟨htext, by decide, hname⟩)

end ShapeCheck
