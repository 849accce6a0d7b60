import ShapeCheck.Shape.Reading

/-!
# Readings of texts, lists and records

A record is a mapping with fixed fields. A `Field` may have a second spelling; of two spellings in one record the first
counts, and the other is an unknown field. `Record.close` reports whatever is no field, in the order of the record, and
`Record.closing` puts this behind the issues of the fields. A key that is no text of characters ends it all: it is the one issue
of the record.
-/

namespace ShapeCheck

open Shape

namespace Reading

variable {α : Type}

/-- A text; bytes count as the text that they encode. -/
def text : Datum → Reading String
  | .scalar (.text s) => .ok s
  | d@(.scalar (.bytes bs)) =>
    match Text.ofUtf8? bs with
    | some s => .ok s
    | none => fail .notUnicode d
  | d => fail .notText d

/-- A text of characters that passes a test. -/
def textWhere (test : String → Bool) (defect : Defect) (d : Datum) : Reading String :=
  match text d with
  | .bad e => .bad e
  | .ok s => if Text.hasSurrogate s then fail .notUnicode d else if test s then .ok s else fail defect d

section TextWhere

variable {test : String → Bool} {defect : Defect} {s : String}

/-- A text of characters that passes a test is read as it is. -/
theorem textWhere_text (hunicode : Text.hasSurrogate s = false) (htest : test s = true) :
    textWhere test defect (.text s) = .ok s := by
  change (if Text.hasSurrogate s then fail .notUnicode (.text s)
    else if test s then .ok s else fail defect (.text s) : Reading String) = .ok s
  rw [hunicode, htest]
  rfl

theorem textWhere_eq_ok {d : Datum} (h : textWhere test defect d = .ok s) : Text.hasSurrogate s = false ∧ test s = true := by
  unfold textWhere at h
  split at h
  · cases h
  · split at h
    · cases h
    · next hunicode =>
      split at h
      · next htest =>
        cases h
        exact ⟨Bool.eq_false_iff.2 hunicode, htest⟩
      · cases h

/-- What is read as a text of characters that passes a test is read again from the text. -/
theorem textWhere_again {d : Datum} (h : textWhere test defect d = .ok s) : textWhere test defect (.text s) = .ok s :=
  textWhere_text (textWhere_eq_ok h).1 (textWhere_eq_ok h).2

end TextWhere

/-- A text with at least one character. -/
def someText (d : Datum) : Reading String := textWhere (fun s => s ≠ "") .tooShort d

def bool : Datum → Reading Bool
  | .scalar (.bool b) => .ok b
  | d => fail .notBool d

/-- What stands in a place that may be null. -/
def orNull (read : Datum → Reading α) (d : Datum) : Reading (Option α) :=
  if d.isNull then .ok none else map some (read d)

/-- Items from an index on, each read in its place. -/
def itemsFrom (read : Datum → Reading α) : Nat → List Datum → Reading (List α)
  | _, [] => .ok []
  | i, d :: rest => map (fun p => p.1 :: p.2) (both ((read d).under (.index i)) (itemsFrom read (i + 1) rest))

/-- A list, a tuple or a set. -/
def listOf (read : Datum → Reading α) (d : Datum) : Reading (List α) :=
  match d.members? with
  | some xs => itemsFrom read 0 xs
  | none => fail .notList d

/-- The items of a list, a tuple or a set as they are. -/
def items (d : Datum) : Reading (List Datum) :=
  match d.members? with
  | some xs => .ok xs
  | none => fail .notList d

end Reading

/-- The step to what stands under a key: integers that fit into 64 bits are indices. -/
def Step.ofKey : Key → Step
  | .scalar (.text s) => .key s
  | .scalar (.bool b) => .index (if b then 1 else 0)
  | k@(.scalar (.number (.int n))) =>
    if -Nat.pow 2 63 ≤ n && n < Nat.pow 2 63 then .index n
    else .key (if k.isTooLong then "<unprintable int object>" else k.literal)
  | k => .key (if k.isTooLong then "<unprintable tuple object>" else k.literal)

/-- The text of the key of a mapping that should have only texts as keys. -/
def Reading.keyText (k : Key) : Reading String :=
  ((Reading.text k.datum).under (.key "[key]")).under (Step.ofKey k)

/-- A field of a record, by its first spelling and perhaps a second one. -/
structure Field where
  name : String
  second : Option String := none

namespace Field

/-- What stands under a field, and the spelling that it stands under. -/
def find? (f : Field) (es : List (Key × Datum)) : Option (String × Datum) :=
  match Entries.get? f.name es with
  | some d => some (f.name, d)
  | none => f.second.bind fun s => (Entries.get? s es).map fun d => (s, d)

end Field

/-- A mapping whose entries are read as fields. -/
structure Record where
  whole : Datum
  entries : List (Key × Datum)

namespace Record

variable {α : Type}

/-- A mapping of either sort as a record, unless it stands around itself. -/
def ofDatum (name : String) (d : Datum) : Reading Record :=
  match d.entries? with
  | some es => .ok ⟨d, es⟩
  | none => .fail (if d.target.entries?.isSome then .repeated else .notRecord name) d

/-- A field that has to be there. -/
def required (r : Record) (f : Field) (read : Datum → Reading α) : Reading α :=
  match f.find? r.entries with
  | some (s, d) => (read d).under (.key s)
  | none => .bad [⟨[.key f.name], .missing, r.whole⟩]

/-- A field that may be left out. -/
def optional (r : Record) (f : Field) (absent : α) (read : Datum → Reading α) : Reading α :=
  match f.find? r.entries with
  | some (s, d) => (read d).under (.key s)
  | none => .ok absent

theorem required_of_find? {r : Record} {f : Field} {read : Datum → Reading α} {x : α} {s : String} {d : Datum}
    (hf : f.find? r.entries = some (s, d)) (hread : read d = .ok x) : r.required f read = .ok x := by
  unfold required
  rw [hf]
  exact Reading.under_eq_ok.2 hread

theorem optional_of_find? {r : Record} {f : Field} {read : Datum → Reading α} {absent x : α} {s : String} {d : Datum}
    (hf : f.find? r.entries = some (s, d)) (hread : read d = .ok x) : r.optional f absent read = .ok x := by
  unfold optional
  rw [hf]
  exact Reading.under_eq_ok.2 hread

/-- What is wrong with an entry, if it is none of the spellings in use. -/
def strayIssue? (used : List String) (k : Key) (d : Datum) : Option Issue :=
  match k.text? with
  | some s => if used.contains s then none else some ⟨[.key s], .unknownField, d⟩
  | none => some ⟨[Step.ofKey k], .keyNotText, k.datum⟩

/-- The entries that are no fields. -/
def close (r : Record) (fields : List Field) : Reading Unit :=
  let used := fields.filterMap fun f => (f.find? r.entries).map Prod.fst
  match r.entries.filterMap fun (k, d) => strayIssue? used k d with
  | [] => .ok ()
  | issues => .bad issues

/-- The first key that is no field and no text of characters either. -/
def halfKey? (r : Record) (fields : List Field) : Option String :=
  let used := fields.filterMap fun f => (f.find? r.entries).map Prod.fst
  (r.entries.filterMap fun e => e.1.text?).find? fun s => Text.hasSurrogate s && !used.contains s

/-- What is read of the fields of a record that has no others. -/
def closing (r : Record) (fields : List Field) (parts : Reading α) : Reading (α × Unit) :=
  match r.halfKey? fields with
  | some s => .fail .notUnicode (.text s)
  | none => parts.both (r.close fields)

/-- A record is closed if none of its keys is astray. -/
theorem close_eq_ok_iff {r : Record} {fields : List Field} :
    r.close fields = .ok () ↔
      ∀ e ∈ r.entries, ∃ s ∈ fields.filterMap fun f => (f.find? r.entries).map Prod.fst, e.1.text? = some s := by
  have hstray : ∀ (used : List String) (k : Key) (d : Datum),
      strayIssue? used k d = none ↔ ∃ s ∈ used, k.text? = some s := by
    intro used k d
    unfold strayIssue?
    cases k.text? with
    | none => simp
    | some s => simp
  have hclose : r.close fields = .ok () ↔ (r.entries.filterMap fun e =>
      strayIssue? (fields.filterMap fun f => (f.find? r.entries).map Prod.fst) e.1 e.2) = [] := by
    unfold close
    dsimp only
    split
    · next h => exact iff_of_true rfl h
    · next h => exact iff_of_false nofun h
  rw [hclose, List.filterMap_eq_nil_iff]
  exact forall₂_congr fun e _ => hstray _ _ _

/-- A closed record has texts of characters for keys. -/
theorem halfKey?_of_close {r : Record} {fields : List Field} (h : r.close fields = .ok ()) : r.halfKey? fields = none := by
  unfold halfKey?
  dsimp only
  rw [List.find?_eq_none]
  intro s hs
  obtain ⟨e, he, hkey⟩ := List.mem_filterMap.1 hs
  obtain ⟨t, ht, htext⟩ := close_eq_ok_iff.1 h e he
  cases hkey.symm.trans htext
  rw [List.contains_iff_mem.2 ht, Bool.not_true, Bool.and_false]
  exact Bool.false_ne_true

theorem closing_of_close {r : Record} {fields : List Field} {parts : Reading α} (h : r.close fields = .ok ()) :
    r.closing fields parts = parts.both (.ok ()) := by
  unfold closing
  rw [halfKey?_of_close h, h]

theorem closing_eq_ok {r : Record} {fields : List Field} {parts : Reading α} {p : α × Unit} :
    r.closing fields parts = .ok p ↔ parts = .ok p.1 ∧ r.close fields = .ok p.2 := by
  constructor
  · intro h
    unfold closing at h
    split at h
    · cases h
    · exact Reading.both_eq_ok.1 h
  · rintro ⟨hparts, hclose⟩
    rw [closing_of_close hclose]
    exact Reading.both_eq_ok.2 ⟨hparts, rfl⟩

end Record

end ShapeCheck
