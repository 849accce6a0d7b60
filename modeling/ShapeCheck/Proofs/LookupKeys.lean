import ShapeCheck.Proofs.Forms

/-!
# Which lookup keys name a type

`Work.reference` reads a lookup key. `IsCut` says where a text is cut, `Entries.Denote` which keys and values a mapping has, and
`ValidParts` what the three parts have to be: `KeyReading` says of each key which reference it stands for, or that it is refused.
-/

namespace ShapeCheck

open Shape

/-! ## Parts of a reference -/

/-- A text cut in three: at its first `#`, and what stands before that at its last slash. -/
structure IsCut (s ns version name : String) : Prop where
  whole : s = ns ++ "/" ++ version ++ "#" ++ name
  first : '#' ∉ (ns ++ "/" ++ version).toList
  last : '/' ∉ version.toList

/-- Three texts that make a reference. -/
structure ValidParts (ns version name : String) : Prop where
  namespace_ok : ValidNamespace ns
  version_ok : ValidVersion version
  name_ok : name ≠ ""
  /-- No part has half of a surrogate pair. -/
  unicode : ∀ part ∈ [ns, version, name], Text.hasSurrogate part = false

/-- Something stands under a name, and spells a text. -/
def Entries.SpellsAt (es : List (Key × Datum)) (name s : String) : Prop := ∃ d, Entries.get? name es = some d ∧ d.Spells s

/-- The keys are the three fields of a reference, the last one in either spelling, and what stands there spells the parts. -/
def Entries.Denote (es : List (Key × Datum)) (ns version name : String) : Prop :=
  ∃ third ∈ ["type", "type_name"], (∀ k, k ∈ es.map Prod.fst ↔ k ∈ ["namespace", "version", third].map Key.text) ∧
    SpellsAt es "namespace" ns ∧ SpellsAt es "version" version ∧ SpellsAt es third name

/-- The parts of a reference are given texts. -/
def TypeRef.HasParts (r : TypeRef) (ns version name : String) : Prop :=
  r.namespaceName = ns ∧ r.version = version ∧ r.name = name

theorem validParts_iff {ns version name : String} : ValidParts ns version name ↔ TypeRef.areParts ns version name = true := by
  simp only [TypeRef.areParts, Bool.and_eq_true, List.all_eq_true, Bool.not_eq_true', bne_iff_ne, isNamespace_iff, isVersion_iff]
  exact ⟨fun h => ⟨⟨⟨h.unicode, h.namespace_ok⟩, h.version_ok⟩, h.name_ok⟩, fun h => ⟨h.1.1.2, h.1.2, h.2, h.1.1.1⟩⟩

theorem TypeRef.validParts {r : TypeRef} : ValidParts r.namespaceName r.version r.name ↔ r.IsUnicode := by
  rw [validParts_iff]
  exact areParts_iff

/-- Valid parts make a reference, so what holds of every reference with these parts holds of some. -/
theorem TypeRef.exists_hasParts {p : TypeRef → Prop} {ns version name : String} (hparts : ValidParts ns version name)
    (hp : ∀ r : TypeRef, r.HasParts ns version name → p r) : ∃ r, p r ∧ r.HasParts ns version name := by
  let r : TypeRef := ⟨ns, version, name, isNamespace_iff.2 hparts.namespace_ok, isVersion_iff.2 hparts.version_ok, hparts.name_ok⟩
  have hr : r.HasParts ns version name := ⟨rfl, rfl, rfl⟩
  exact ⟨r, hp r hr, hr⟩

/-! ## Texts -/

/-- A text is read as the reference with the parts that it is cut into. -/
theorem TypeRef.ofKey_text_parts {s ns version name : String} :
    (∃ r, ofKey (.text s) = .ok r ∧ r.HasParts ns version name) ↔ IsCut s ns version name ∧ ValidParts ns version name := by
  constructor
  · rintro ⟨r, hr, rfl, rfl, rfl⟩
    obtain ⟨htext, hhash, hunicode⟩ := parse_eq_ok.1 (ofKey_text.1 hr)
    exact ⟨⟨htext, mt r.hash_mem_schemaKey.1 hhash, not_mem_of_isVersion r.version_ok⟩, validParts.2 hunicode⟩
  · rintro ⟨hcut, hparts⟩
    refine exists_hasParts hparts ?_
    rintro r ⟨rfl, rfl, rfl⟩
    exact ofKey_text.2 (parse_eq_ok.2 ⟨hcut.whole, mt r.hash_mem_schemaKey.2 hcut.first, validParts.1 hparts⟩)

/-! ## Mappings -/

section Fields

variable {es : List (Key × Datum)} {s : String} {d : Datum}

theorem Key.eq_text_of_text? {k : Key} (h : k.text? = some s) : k = .text s := by
  unfold Key.text? at h
  split at h
  · cases h
    rfl
  · cases h

/-- What is found as a field stands under its spelling. -/
theorem Field.get?_of_find? {f : Field} (h : f.find? es = some (s, d)) : Entries.get? s es = some d := by
  unfold find? at h
  split at h
  · next x hx =>
    cases h
    exact hx
  · obtain ⟨t, -, ht⟩ := Option.bind_eq_some_iff.1 h
    obtain ⟨x, hx, heq⟩ := Option.map_eq_some_iff.1 ht
    cases heq
    exact hx

/-- A field with one spelling is found under it. -/
theorem Field.find?_single {f : Field} (hf : f.second = none) :
    f.find? es = some (s, d) ↔ s = f.name ∧ Entries.get? f.name es = some d := by
  unfold find?
  cases Entries.get? f.name es with
  | none => simp [hf]
  | some x => simp [eq_comm]

/-- Where the keys have a field with two spellings in one of them, it is found under that one. -/
theorem Field.find?_either {f : Field} {third : String} (hthird : third = f.name ∨ f.second = some third)
    (honly : .text f.name ∈ es.map Prod.fst → third = f.name) (h : Entries.get? third es = some d) :
    f.find? es = some (third, d) := by
  unfold find?
  cases hfirst : Entries.get? f.name es with
  | some x =>
    obtain rfl := honly (List.mem_map_of_mem (Entries.mem_of_get? hfirst))
    rw [hfirst] at h
    cases h
    rfl
  | none =>
    rcases hthird with rfl | hsecond
    · rw [hfirst] at h
      cases h
    · simp [hsecond, h]

end Fields

namespace TypeRef

variable {r : Record} {ns version name : String}

/-- The fields of a reference are found, and no other key, exactly if the keys are these fields. -/
theorem closed_iff {third : String} {d₁ d₂ d₃ : Datum} (h₁ : Field.ofNamespace.find? r.entries = some ("namespace", d₁))
    (h₂ : Field.ofVersion.find? r.entries = some ("version", d₂)) (h₃ : Field.ofTypeName.find? r.entries = some (third, d₃)) :
    r.close fields = .ok () ↔
      ∀ k, k ∈ r.entries.map Prod.fst ↔ k ∈ ["namespace", "version", third].map Key.text := by
  have hused : fields.filterMap (fun f => (f.find? r.entries).map Prod.fst) = ["namespace", "version", third] := by
    simp [fields, h₁, h₂, h₃]
  rw [Record.close_eq_ok_iff, hused]
  constructor
  · intro h k
    constructor
    · intro hk
      obtain ⟨e, he, rfl⟩ := List.mem_map.1 hk
      obtain ⟨s, hs, htext⟩ := h e he
      exact List.mem_map.2 ⟨s, hs, (Key.eq_text_of_text? htext).symm⟩
    · intro hk
      obtain ⟨s, hs, rfl⟩ := List.mem_map.1 hk
      have hfound : ∀ {f : Field} {d : Datum}, f.find? r.entries = some (s, d) → Key.text s ∈ r.entries.map Prod.fst :=
        fun hf => List.mem_map_of_mem (Field.find?_spelling hf).2
      simp only [List.mem_cons, List.not_mem_nil, or_false] at hs
      rcases hs with rfl | rfl | rfl
      · exact hfound h₁
      · exact hfound h₂
      · exact hfound h₃
  · intro h e he
    obtain ⟨s, hs, heq⟩ := List.mem_map.1 ((h e.1).1 (List.mem_map_of_mem he))
    exact ⟨s, hs, heq ▸ rfl⟩

/-- The fields of a reference are read exactly if the entries denote valid parts. -/
theorem readParts_iff :
    r.closing fields ((r.required .ofNamespace Reading.namespaceName).both ((r.required .ofVersion Reading.version).both
      (r.required .ofTypeName Reading.someText))) = .ok ((ns, version, name), ()) ↔
      Entries.Denote r.entries ns version name ∧ ValidParts ns version name := by
  simp only [Record.closing_eq_ok, Reading.both_eq_ok, Record.required_iff, Reading.namespaceName, Reading.version, Reading.someText,
    Reading.textWhere_iff, isNamespace_iff, isVersion_iff, decide_eq_true_eq]
  constructor
  · rintro ⟨⟨⟨s₁, d₁, h₁, hspell₁, huni₁, hns⟩, ⟨s₂, d₂, h₂, hspell₂, huni₂, hversion⟩, s₃, d₃, h₃, hspell₃, huni₃, hname⟩, hclose⟩
    obtain ⟨rfl, hget₁⟩ := (Field.find?_single rfl).1 h₁
    obtain ⟨rfl, hget₂⟩ := (Field.find?_single rfl).1 h₂
    have hthird : s₃ ∈ ["type", "type_name"] := by
      rcases (Field.find?_spelling h₃).1 with rfl | hsecond
      · exact List.mem_cons_self ..
      · cases hsecond
        exact List.mem_cons_of_mem _ (List.mem_cons_self ..)
    have hget₃ : Entries.get? s₃ r.entries = some d₃ := Field.get?_of_find? h₃
    refine ⟨⟨s₃, hthird, (closed_iff h₁ h₂ h₃).1 hclose, ⟨d₁, hget₁, hspell₁⟩, ⟨d₂, hget₂, hspell₂⟩, d₃, hget₃, hspell₃⟩,
      hns, hversion, hname, ?_⟩
    simp [huni₁, huni₂, huni₃]
  · rintro ⟨⟨third, hthird, hkeys, ⟨d₁, hget₁, hspell₁⟩, ⟨d₂, hget₂, hspell₂⟩, d₃, hget₃, hspell₃⟩, hparts⟩
    have h₁ : Field.ofNamespace.find? r.entries = some ("namespace", d₁) := (Field.find?_single rfl).2 ⟨rfl, hget₁⟩
    have h₂ : Field.ofVersion.find? r.entries = some ("version", d₂) := (Field.find?_single rfl).2 ⟨rfl, hget₂⟩
    have h₃ : Field.ofTypeName.find? r.entries = some (third, d₃) := by
      refine Field.find?_either (f := .ofTypeName) ?_ ?_ hget₃
      · simpa [Field.ofTypeName, eq_comm] using hthird
      · intro hfirst
        have hmem := (hkeys _).1 hfirst
        simpa [Key.text, Field.ofTypeName, eq_comm] using hmem
    have hunicode := hparts.unicode
    simp only [List.mem_cons, List.not_mem_nil, or_false, forall_eq_or_imp, forall_eq] at hunicode
    exact ⟨⟨⟨_, d₁, h₁, hspell₁, hunicode.1, hparts.namespace_ok⟩, ⟨_, d₂, h₂, hspell₂, hunicode.2.1, hparts.version_ok⟩,
      _, d₃, h₃, hspell₃, hunicode.2.2, hparts.name_ok⟩, (closed_iff h₁ h₂ h₃).2 hkeys⟩

/-- A record is read as the reference with the parts that its entries denote. -/
theorem ofRecord_parts :
    (∃ q, ofRecord r = .ok q ∧ q.HasParts ns version name) ↔
      Entries.Denote r.entries ns version name ∧ ValidParts ns version name := by
  rw [← readParts_iff]
  unfold ofRecord
  split
  · next issues hbad =>
    rw [hbad]
    exact iff_of_false nofun nofun
  · next ns' version' name' hread =>
    have hvalid := (readParts_iff.1 hread).2
    rw [hread, make?_of (isNamespace_iff.2 hvalid.namespace_ok) (isVersion_iff.2 hvalid.version_ok) hvalid.name_ok]
    simp [HasParts]

theorem tells_read (d : Datum) : (read d).Tells := by
  unfold read
  split
  · exact Reading.tells_ok _
  · unfold Record.ofDatum
    split
    · next issues h =>
      split at h
      · cases h
      · cases h
        exact nofun
    · next r _ =>
      have hparts : (r.closing fields ((r.required .ofNamespace Reading.namespaceName).both
          ((r.required .ofVersion Reading.version).both (r.required .ofTypeName Reading.someText)))).Tells :=
        r.tells_closing fields ((r.tells_required _ (Reading.tells_textWhere _ _)).both
          ((r.tells_required _ (Reading.tells_textWhere _ _)).both (r.tells_required _ (Reading.tells_textWhere _ _))))
      unfold ofRecord
      split
      · next issues hbad => exact fun h => hparts (hbad.trans (congrArg Reading.bad (Reading.bad.inj h)))
      · split
        · exact Reading.tells_ok _
        · exact Reading.tells_fail _ _

/-- There is an issue with parts that make no reference. -/
theorem parse_issues_ne {s : String} {issues : List Issue} (h : parse s = .error (.parts issues)) : issues ≠ [] := by
  unfold parse at h
  split at h
  · cases h
  · split at h
    · cases h
    · next others hread =>
      cases h
      exact fun hnil => tells_read _ (hread.trans (congrArg Reading.bad hnil))

theorem ofKey_entries {key : Datum} {es : List (Key × Datum)} (hkey : key = .mapping es ∨ key = .readOnly es) {q : TypeRef} :
    ofKey key = .ok q ↔ ofRecord ⟨.mapping es, es⟩ = .ok q := by
  have hread : read (.mapping es) = ofRecord ⟨.mapping es, es⟩ := rfl
  have hsame : ofKey (.readOnly es) = .ok q ↔ read (.mapping es) = .ok q := by
    unfold ofKey
    dsimp only
    cases read (.mapping es) <;> simp
  rw [← hread]
  rcases hkey with rfl | rfl
  · exact ofKey_mapping
  · exact hsame

/-- What a lookup key is refused for holds the key, and is at least one violation. -/
theorem ofKey_error {key : Datum} {e : LookupError} (h : ofKey key = .error e) : e.key = key ∧ e.violations ≠ [] := by
  refine ⟨Work.key_of_ofKey h, ?_⟩
  unfold ofKey at h
  split at h
  · cases h
  · split at h
    · cases h
    · cases h
      exact List.cons_ne_nil _ _
    · next issues hparse =>
      cases h
      exact fun hnil => parse_issues_ne hparse (List.map_eq_nil_iff.1 hnil)
  · split at h
    · cases h
    · next issues hread =>
      cases h
      exact fun hnil => tells_read _ (hread.trans (congrArg Reading.bad (List.map_eq_nil_iff.1 hnil)))
  · split at h
    · cases h
    · next issues hread =>
      cases h
      exact fun hnil => tells_read _ (hread.trans (congrArg Reading.bad (List.map_eq_nil_iff.1 hnil)))
  · cases h
    exact List.cons_ne_nil _ _

end TypeRef

/-! ## Keys -/

/-- What a lookup key is read as. -/
structure KeyReading (key : Datum) (result : Except Failure TypeRef) : Prop where
  /-- A key that can be written gives a reference, or an error with the key and at least one violation. -/
  outcome : key.isTooLong = false →
    (∃ r, result = .ok r) ∨ ∃ violations, violations ≠ [] ∧ result = .error (.lookup ⟨key, violations⟩)
  /-- A reference stands for itself. -/
  reference : ∀ r, key = .scalar (.reference r) → result = .ok r
  /-- A text is read exactly if it is cut into valid parts, and these are the parts of the reference. -/
  text : ∀ s, key = .text s → ∀ ns version name,
    (∃ r, result = .ok r ∧ r.HasParts ns version name) ↔ IsCut s ns version name ∧ ValidParts ns version name
  /-- The text of the reference is the text that was read. -/
  written : ∀ s r, key = .text s → result = .ok r → r.text = s
  /-- A mapping is read exactly if its keys are the fields of a reference, with valid values, which are the parts of it. -/
  mapping : ∀ es, key = .mapping es ∨ key = .readOnly es → ∀ ns version name,
    (∃ r, result = .ok r ∧ r.HasParts ns version name) ↔ Entries.Denote es ns version name ∧ ValidParts ns version name
  /-- Nothing else is read. -/
  other : ∀ r, result = .ok r → key = .scalar (.reference r) ∨ (∃ s, key = .text s) ∨ ∃ es, key = .mapping es ∨ key = .readOnly es

theorem Work.reference_ending (key : Datum) (w : Workspace) :
    (reference key).ending w = ((TypeRef.ofKey key).mapError Failure.ofLookup, w) := by
  unfold reference
  cases TypeRef.ofKey key <;> rfl

theorem Work.reference_eq_ok {key : Datum} {w : Workspace} {r : TypeRef} :
    ((reference key).ending w).1 = .ok r ↔ TypeRef.ofKey key = .ok r := by
  rw [reference_ending]
  cases TypeRef.ofKey key <;> simp [Except.mapError]

theorem TypeRef.ofKey_other {key : Datum} {r : TypeRef} (h : ofKey key = .ok r) :
    key = .scalar (.reference r) ∨ (∃ s, key = .text s) ∨ ∃ es, key = .mapping es ∨ key = .readOnly es := by
  unfold ofKey at h
  split at h
  · cases h
    exact .inl rfl
  · next s => exact .inr (.inl ⟨s, rfl⟩)
  · next es => exact .inr (.inr ⟨es, .inl rfl⟩)
  · next es => exact .inr (.inr ⟨es, .inr rfl⟩)
  · cases h

theorem Work.keyReading (key : Datum) (w : Workspace) : KeyReading key ((reference key).ending w).1 where
  outcome hshort := by
    rw [reference_ending]
    cases hkey : TypeRef.ofKey key with
    | ok r => exact .inl ⟨r, rfl⟩
    | error e =>
      obtain ⟨rfl, hviolations⟩ := TypeRef.ofKey_error hkey
      refine .inr ⟨e.violations, hviolations, ?_⟩
      change Except.error (Failure.ofLookup e) = _
      rw [Failure.ofLookup, hshort, if_neg Bool.false_ne_true]
  reference r hkey := by
    subst hkey
    exact reference_eq_ok.2 rfl
  text s hkey ns version name := by
    subst hkey
    simp only [reference_eq_ok]
    exact TypeRef.ofKey_text_parts
  written s r hkey hr := by
    subst hkey
    exact (TypeRef.parse_eq_ok.1 (TypeRef.ofKey_text.1 (reference_eq_ok.1 hr))).1.symm
  mapping es hkey ns version name := by
    simp only [reference_eq_ok, TypeRef.ofKey_entries hkey]
    exact TypeRef.ofRecord_parts
  other r hr := TypeRef.ofKey_other (reference_eq_ok.1 hr)

/-- **Lookup keys are read exactly.** A key is a reference, the text of one or a mapping with its parts, and nothing is told or
changed when it is read: a text has to be cut into valid parts, and is then the text of the reference; a mapping has to have the
fields of a reference with valid values. Other keys are refused, with the key and what is wrong with it where the key can be
written. Valid namespaces and versions are those that pass the tests of the parts. -/
theorem Work.reference_exact (w : Workspace) :
    (∀ key, ((reference key).ending w).2 = w ∧ KeyReading key ((reference key).ending w).1) ∧
      (∀ s t r, ((reference (.text s)).ending w).1 = .ok r → ((reference (.text t)).ending w).1 = .ok r → s = t) ∧
      (∀ s, isNamespace s = true ↔ ValidNamespace s) ∧ ∀ s, isVersion s = true ↔ ValidVersion s := by
  refine ⟨fun key => ⟨?_, keyReading key w⟩, fun s t r hs ht => ?_, fun s => isNamespace_iff, fun s => isVersion_iff⟩
  · rw [reference_ending]
  · rw [← (keyReading _ w).written s r rfl hs, ← (keyReading _ w).written t r rfl ht]

/-- A text with nothing but half of a surrogate pair. -/
def halfPair : String := Text.ofPoints [.ofCode 0xD800]

/-- A text that is cut into a namespace, a version and a name is refused where the name is no text of characters, and bytes are
taken for a name. -/
theorem Work.reference_half :
    (IsCut ("ns://a/1.0.0#" ++ halfPair) "ns://a" "1.0.0" halfPair ∧ ValidNamespace "ns://a" ∧ ValidVersion "1.0.0" ∧
      halfPair ≠ "" ∧ ∀ w r, ((reference (.text ("ns://a/1.0.0#" ++ halfPair))).ending w).1 ≠ .ok r) ∧
    ∀ w, ∃ r, ((reference (.mapping [(.text "namespace", .text "ns://a"), (.text "version", .text "1.0.0"),
      (.text "type", .scalar (.bytes [84]))])).ending w).1 = .ok r := by
  have hrefused : ∃ e, TypeRef.ofKey (.text ("ns://a/1.0.0#" ++ halfPair)) = .error e := ⟨_, rfl⟩
  refine ⟨⟨⟨by decide, by decide, by decide⟩, isNamespace_iff.1 (by decide), isVersion_iff.1 (by decide), by decide, ?_⟩,
    fun w => ⟨_, reference_eq_ok.2 rfl⟩⟩
  intro w r hr
  obtain ⟨e, he⟩ := hrefused
  cases he.symm.trans (reference_eq_ok.1 hr)

end ShapeCheck
