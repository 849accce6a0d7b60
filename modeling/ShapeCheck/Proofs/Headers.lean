import ShapeCheck.Proofs.LookupKeys
import ShapeCheck.Proofs.Telling

/-!
# What is wrong with a header

A `Header.Clause` is a field of a header with the rule for what may stand there. `Header.faults` are the issues of all clauses, in
the order of the fields, and then those of the keys that are no fields, in the order of the mapping; each clause has its issues for
itself. Only a key that is no text of characters, `Header.halfKey?`, is told alone.

`Work.makeSchemaOf_header` says that a mapping is refused for its header exactly if a clause is not met or a key is astray, that
all of it is told at once, and that nothing else is done then.
-/

namespace ShapeCheck

open Shape

/-! ## Rules for single values -/

/-- A datum spells a text of characters with a property. -/
def Datum.SpellsWhere (P : String → Prop) (d : Datum) : Prop := ∃ s, d.Spells s ∧ Text.hasSurrogate s = false ∧ P s

/-- A datum is null, or has a property. -/
def Datum.NullOr (P : Datum → Prop) (d : Datum) : Prop := d = .scalar .null ∨ P d

/-- A datum is a mapping whose keys are texts. -/
def Datum.HasTextKeys (d : Datum) : Prop := ∃ es, d.entries? = some es ∧ ∀ e ∈ es, ∃ s, e.1.datum.Spells s

namespace Reading

variable {α : Type} {d : Datum}

theorem textWhere_ok_iff {test : String → Bool} {defect : Defect} {P : String → Prop} (hP : ∀ s, test s = true ↔ P s) :
    (∃ s, textWhere test defect d = .ok s) ↔ d.SpellsWhere P := by
  simp only [textWhere_iff, hP]
  rfl

theorem orNull_ok_iff {read : Datum → Reading α} : (∃ x, orNull read d = .ok x) ↔ d.NullOr fun d => ∃ x, read d = .ok x := by
  have hnull : d.isNull = true ↔ d = .scalar .null := by
    unfold Datum.isNull
    split <;> simp_all
  unfold orNull Datum.NullOr
  by_cases h : d.isNull = true
  · rw [if_pos h]
    exact iff_of_true ⟨none, rfl⟩ (.inl (hnull.1 h))
  · rw [if_neg h]
    simp [map_eq_ok, mt hnull.2 h]

theorem tells_orNull {read : Datum → Reading α} (hread : ∀ d, (read d).Tells) (d : Datum) : (orNull read d).Tells := by
  unfold orNull
  split
  · exact tells_ok none
  · exact (hread d).map some

theorem tells_timeStamp (d : Datum) : (timeStamp d).Tells := by
  unfold timeStamp
  split
  · exact tells_ok _
  · exact tells_fail _ _

theorem timeStamp_ok_iff : (∃ t, timeStamp d = .ok t) ↔ ∃ t, TimeStamp.ofDatum d = .ok t := by
  unfold timeStamp
  split
  · next t h => exact iff_of_true ⟨t, rfl⟩ ⟨t, h⟩
  · next defect h => simp [fail, h]

end Reading

namespace Header

theorem tells_typeEntries : ∀ es : List (Key × Datum), (typeEntries es).Tells
  | [] => Reading.tells_ok []
  | (k, _) :: rest => ((((Reading.tells_text k.datum).under _).under _).both (tells_typeEntries rest)).map _

theorem typeEntries_ok_iff : ∀ {es : List (Key × Datum)},
    (∃ types, typeEntries es = .ok types) ↔ ∀ e ∈ es, ∃ s, e.1.datum.Spells s
  | [] => iff_of_true ⟨[], rfl⟩ nofun
  | (k, d) :: rest => by
    rw [List.forall_mem_cons, ← typeEntries_ok_iff]
    simp only [typeEntries, Reading.map_eq_ok, Reading.both_eq_ok, Reading.keyText, Reading.under_eq_ok, ← Reading.text_iff]
    constructor
    · rintro ⟨types, ⟨s, others⟩, ⟨hs, hothers⟩, rfl⟩
      exact ⟨⟨s, hs⟩, others, hothers⟩
    · rintro ⟨⟨s, hs⟩, others, hothers⟩
      exact ⟨_, (s, others), ⟨hs, hothers⟩, rfl⟩

theorem tells_readTypes (d : Datum) : (readTypes d).Tells := by
  unfold readTypes
  split
  · exact (tells_typeEntries _).map _
  · exact Reading.tells_fail _ _

theorem readTypes_ok_iff {d : Datum} : (∃ types, readTypes d = .ok types) ↔ d.HasTextKeys := by
  unfold readTypes Datum.HasTextKeys
  cases d.entries? with
  | none => simp [Reading.fail]
  | some es =>
    have hmap : (∃ types, Reading.map Assoc.ofList (typeEntries es) = .ok types) ↔ ∃ types, typeEntries es = .ok types := by
      simp [Reading.map_eq_ok]
    simp [hmap, typeEntries_ok_iff]

/-- A field of a header: whether it has to be there, what is wrong with what stands there, and what may stand there. -/
structure Clause where
  field : Field
  needed : Bool
  check : Datum → List Issue
  allows : Datum → Prop
  check_eq_nil : ∀ d, check d = [] ↔ allows d

namespace Clause

/-- The clause of a field that is read. -/
def ofReading {α : Type} (field : Field) (needed : Bool) (allows : Datum → Prop) (read : Datum → Reading α)
    (htells : ∀ d, (read d).Tells) (hallows : ∀ d, (∃ x, read d = .ok x) ↔ allows d) : Clause where
  field := field
  needed := needed
  check d := (read d).issues
  allows := allows
  check_eq_nil d := (htells d).issues_eq_nil.trans (hallows d)

variable (c : Clause) (es : List (Key × Datum))

/-- What a clause finds wrong with a mapping. -/
def faults : List Issue := c.field.issues c.needed c.check ⟨.mapping es, es⟩

/-- The spelling that a field has in a mapping, or the first one. -/
def spelling : String := ((c.field.find? es).map Prod.fst).getD c.field.name

/-- What has to be there is there, and what is there may stand there. -/
structure Met : Prop where
  present : c.needed = true → (c.field.find? es).isSome = true
  allowed : ∀ s d, c.field.find? es = some (s, d) → c.allows d

variable {c es}

end Clause

/-- The rule for an id: null, or a text of characters that is not empty. -/
theorem id_ok_iff {d : Datum} : (∃ x, Reading.orNull Reading.someText d = .ok x) ↔ d.NullOr (·.SpellsWhere (· ≠ "")) := by
  rw [Reading.orNull_ok_iff]
  exact or_congr Iff.rfl (Reading.textWhere_ok_iff fun s => decide_eq_true_iff)

/-- The rule for an entity type: null, or a text. -/
theorem note_ok_iff {d : Datum} : (∃ x, Reading.note d = .ok x) ↔ d.NullOr fun d => ∃ s, d.Spells s := by
  unfold Reading.note
  simp only [Reading.orNull_ok_iff, Reading.text_iff]

/-- The rule for a moment: null, or what stands for one. -/
theorem moment_ok_iff {d : Datum} :
    (∃ x, Reading.orNull Reading.timeStamp d = .ok x) ↔ d.NullOr fun d => ∃ t, TimeStamp.ofDatum d = .ok t := by
  simp only [Reading.orNull_ok_iff, Reading.timeStamp_ok_iff]

/-- The types of a schema: a mapping whose keys are texts. -/
def typesClause : Clause := .ofReading .types false Datum.HasTextKeys readTypes tells_readTypes fun _ => readTypes_ok_iff

/-- A field that may be null or hold a moment. -/
def momentClause (field : Field) : Clause :=
  .ofReading field false (·.NullOr fun d => ∃ t, TimeStamp.ofDatum d = .ok t) (Reading.orNull Reading.timeStamp)
    (Reading.tells_orNull Reading.tells_timeStamp) fun _ => moment_ok_iff

/-- The clauses of a header, in the order of its fields. -/
def clauses : List Clause :=
  [.ofReading .ofNamespace true (·.SpellsWhere ValidNamespace) Reading.namespaceName (Reading.tells_textWhere _ _) fun _ =>
      Reading.textWhere_ok_iff fun _ => isNamespace_iff,
    .ofReading .ofVersion true (·.SpellsWhere ValidVersion) Reading.version (Reading.tells_textWhere _ _) fun _ =>
      Reading.textWhere_ok_iff fun _ => isVersion_iff,
    .ofReading .description true (·.SpellsWhere (· ≠ "")) Reading.someText (Reading.tells_textWhere _ _) fun _ =>
      Reading.textWhere_ok_iff fun _ => decide_eq_true_iff,
    typesClause,
    .ofReading .id false (·.NullOr (·.SpellsWhere (· ≠ ""))) (Reading.orNull Reading.someText)
      (Reading.tells_orNull (Reading.tells_textWhere _ _)) fun _ => id_ok_iff,
    .ofReading .entityType false (·.NullOr fun d => ∃ s, d.Spells s) Reading.note (Reading.tells_orNull Reading.tells_text) fun _ =>
      note_ok_iff,
    momentClause .createdOn, momentClause .updatedOn]

/-! ## Keys that are no fields -/

/-- A key is a spelling of a field. -/
def Spelled (f : Field) (k : Key) : Prop := k = .text f.name ∨ ∃ s, f.second = some s ∧ k = .text s

/-- A key is the spelling in which some field is read. -/
def isRead (es : List (Key × Datum)) (k : Key) : Bool :=
  fields.any fun f => (f.find? es).any fun found => k.text? == some found.1

/-- What is said of an entry that is no field: the value is told of a text, and the key of anything else. -/
def strayIssue (e : Key × Datum) : Issue :=
  match e.1.text? with
  | some s => ⟨[.key s], .unknownField, e.2⟩
  | none => ⟨[Step.ofKey e.1], .keyNotText, e.1.datum⟩

/-- The first key that is a text, but not one of characters. -/
def halfKey? (es : List (Key × Datum)) : Option String := (es.filterMap fun e => e.1.text?).find? Text.hasSurrogate

/-- All that is wrong with the fields of a header, and with keys that are no fields. -/
def faults (es : List (Key × Datum)) : List Issue :=
  clauses.flatMap (Clause.faults · es) ++ (es.filter fun e => !isRead es e.1).map strayIssue

/-- Each clause is met, and each key is read. -/
structure Clean (es : List (Key × Datum)) : Prop where
  met : ∀ c ∈ clauses, c.Met es
  closed : ∀ e ∈ es, isRead es e.1 = true

section Strays

variable {es : List (Key × Datum)}

theorem Spelled.mem {f : Field} {s : String} (h : Spelled f (.text s)) : s ∈ f.name :: f.second.toList := by
  rcases h with heq | ⟨t, hsecond, heq⟩
  · cases heq
    exact List.mem_cons_self ..
  · cases heq
    rw [hsecond]
    exact List.mem_cons_of_mem _ (List.mem_singleton_self _)

end Strays

theorem tells_read (es : List (Key × Datum)) : (read es).Tells := by
  let r : Record := ⟨.mapping es, es⟩
  unfold read
  exact (r.tells_closing fields ((r.tells_required _ (Reading.tells_textWhere _ _)).both
    ((r.tells_required _ (Reading.tells_textWhere _ _)).both
    ((r.tells_required _ (Reading.tells_textWhere _ _)).both ((r.tells_optional _ _ tells_readTypes).both
    ((r.tells_optional _ _ (Reading.tells_orNull (Reading.tells_textWhere _ _))).both
    ((r.tells_optional _ _ (Reading.tells_orNull Reading.tells_text)).both
    ((r.tells_optional _ _ (Reading.tells_orNull Reading.tells_timeStamp)).both
      (r.tells_optional _ _ (Reading.tells_orNull Reading.tells_timeStamp)))))))))).map _

/-- What is told of a header that is not clean. -/
def told (es : List (Key × Datum)) : List Issue := (halfKey? es).elim (faults es) fun s => [⟨[], .notUnicode, .text s⟩]

end Header

/-! ## Making a schema -/

namespace Making

variable {α β : Type}

/-- A making does not fail with an error about the form of something. -/
def Spares (subject : String) (m : Making α) : Prop :=
  ∀ notices violations, (m.run.run notices).1 ≠ .error (.structural subject violations)

variable {subject : String} {m : Making α} {k : α → Making β}

end Making

namespace Schema

variable {around : Surroundings} {clock : Clock} {factory : Option IdentityFactory} {options : List (Key × Datum)}

end Schema

/-- What happens to a mapping that is given for a schema, as far as its header decides. -/
structure Header.Decides (es : List (Key × Datum)) (w : Workspace) (result : Except Failure SchemaHandle × Workspace) : Prop where
  /-- The form of the schema is blamed exactly if a field is not as it should be, or a key is no field. -/
  refused : (∃ violations, result.1 = .error (.schema (.structural "ObjectSchema" violations))) ↔ ¬ Clean es
  /-- All of it is told at once, and then nothing is built, told or changed. -/
  told : ¬ Clean es → halfKey? es = none →
    result = (.error (.schema (.structural "ObjectSchema" ((faults es).map (Issue.violation "")))), w)
  /-- Of a key that is no text of characters nothing is told but the key, at the place of the whole. -/
  alone : ∀ s, halfKey? es = some s →
    result = (.error (.schema (.structural "ObjectSchema" [Issue.violation "" ⟨[], .notUnicode, .text s⟩])), w)
  /-- There is something wrong with a field exactly if it is not as it should be. -/
  blamed : ∀ c ∈ clauses, c.faults es = [] ↔ c.Met es
  /-- What is told of a field is told under its name. -/
  placed : ∀ c ∈ clauses, ∀ i ∈ c.faults es, ∃ rest, i.steps = .key (c.spelling es) :: rest
  /-- It depends on what stands under the field, and not on other fields. -/
  apart : ∀ c ∈ clauses, ∀ es', c.field.find? es' = c.field.find? es →
    (c.faults es').map (fun i => (i.steps, i.defect)) = (c.faults es).map fun i => (i.steps, i.defect)
  /-- A key is astray that is no spelling of a field, or the second spelling of one that is there in its first one. -/
  astray : ∀ e ∈ es, isRead es e.1 = false ↔ (∀ f ∈ fields, ¬ Spelled f e.1) ∨
    ∃ f ∈ fields, ∃ s, f.second = some s ∧ e.1 = .text s ∧ .text f.name ∈ es.map Prod.fst
  /-- Of the types only the names count. -/
  unread : ∀ (ts : List (Key × Datum)) (g : Datum → Datum),
    typesClause.check (.mapping (ts.map fun e => (e.1, g e.2))) = typesClause.check (.mapping ts)

/-- A header with a version that is no text, and with a key that is no field. -/
def numbered : List (Key × Datum) := [(.text "version", .scalar (.number (.int 1))), (.text "colour", .text "red")]

end ShapeCheck
