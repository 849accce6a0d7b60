import ShapeCheck.Proofs.Refusals
import ShapeCheck.Proofs.Rereading

/-!
# What compiles as it is written

Under any capabilities, a property whose constraints compile also compiles from its constraints as they are written
(`Capabilities.compileProperty_written`), though not always to the same checker: arguments of other methods may hold references
and types, and these are written as records. All that is asked of the arguments is that their references can be read back, and
that what contains itself does not come to be compared without an end (`Datum.Settled`).
-/

namespace ShapeCheck

open Relation Shape

/-! ## Data as they are written -/

/-- The references in a datum, at any depth, are such as can be read back. -/
def Datum.RefersInUnicode (d : Datum) : Prop := ∀ r, ReflTransGen Datum.Holds d (.scalar (.reference r)) → r.IsUnicode

theorem Datum.RefersInUnicode.of_held {d e : Datum} (h : d.RefersInUnicode) (hd : ReflTransGen Datum.Holds d e) :
    e.RefersInUnicode := fun r hr => h r (hd.trans hr)

theorem Key.isTooLong_text (s : String) : (Key.text s).isTooLong = false := by
  simp [Key.text, Key.isTooLong, Scalar.isTooLong]

theorem Datum.isTooLong_of_isNull {d : Datum} (h : d.isNull = true) : d.isTooLong = false := by
  unfold isNull at h
  split at h
  · rfl
  · cases h

mutual
/-- What is written of a datum has the integers of the datum. -/
theorem Datum.isTooLong_plainData : ∀ d : Datum, d.plainData.isTooLong = d.isTooLong
  | .scalar a => by
    by_cases ha : ∃ r, a = .reference r
    · obtain ⟨r, rfl⟩ := ha
      rw [plainData]
      rfl
    · rw [plainData_scalar (not_exists.1 ha)]
  | .list xs => by rw [plainData, isTooLong, isTooLong, Datum.anyTooLong_plainItems xs]
  | .tuple xs => by rw [plainData, isTooLong, isTooLong, Datum.anyTooLong_plainItems xs]
  | .set xs => by rw [plainData, isTooLong, isTooLong, Datum.anyTooLong_plainItems xs]
  | .mapping es => by rw [plainData, isTooLong, isTooLong, Datum.anyEntryTooLong_plainEntries es]
  | .structured sort handle parts => by rw [plainData, isTooLong, isTooLong, Datum.anyEntryTooLong_plainParts parts]
  | .readOnly es => by simp [plainData]
  | @back names trees level => by
    rw [plainData]
    rfl
theorem Datum.anyTooLong_plainItems : ∀ xs : List Datum, Datum.anyTooLong (Datum.plainItems xs) = Datum.anyTooLong xs
  | [] => by rw [Datum.plainItems]
  | x :: rest => by
    rw [Datum.plainItems, Datum.anyTooLong, Datum.anyTooLong, Datum.isTooLong_plainData x, Datum.anyTooLong_plainItems rest]
theorem Datum.anyEntryTooLong_plainEntries :
    ∀ es : List (Key × Datum), Datum.anyEntryTooLong (Datum.plainEntries es) = Datum.anyEntryTooLong es
  | [] => by rw [Datum.plainEntries]
  | (k, d) :: rest => by
    rw [Datum.plainEntries, Datum.anyEntryTooLong, Datum.anyEntryTooLong, Datum.isTooLong_plainData d,
      Datum.anyEntryTooLong_plainEntries rest]
/-- Parts that are null are left out; there is no integer in them. -/
theorem Datum.anyEntryTooLong_plainParts :
    ∀ parts : List (String × Datum), Datum.anyEntryTooLong (Datum.plainParts parts) = Datum.anyPartTooLong parts
  | [] => by
    rw [Datum.plainParts]
    rfl
  | (name, d) :: rest => by
    rw [Datum.plainParts, Datum.anyPartTooLong]
    split
    · next hnull => rw [Datum.anyEntryTooLong_plainParts rest, Datum.isTooLong_of_isNull hnull, Bool.false_or]
    · rw [Datum.anyEntryTooLong, Key.isTooLong_text, Datum.isTooLong_plainData d, Datum.anyEntryTooLong_plainParts rest,
        Bool.false_or]
end

mutual
/-- Something that contains itself is still found in what is written of a datum. -/
theorem Datum.isKnotted_plainData : ∀ {d : Datum}, d.isKnotted = true → d.plainData.isKnotted = true
  | .scalar _, h => by cases h
  | .list xs, h => by
    rw [plainData]
    exact Datum.anyKnotted_plainItems h
  | .tuple xs, h => by
    rw [plainData]
    exact Datum.anyKnotted_plainItems h
  | .set xs, h => by
    rw [plainData]
    exact Datum.anyKnotted_plainItems h
  | .mapping es, h => by
    rw [plainData]
    exact Datum.anyEntryKnotted_plainEntries h
  | .readOnly es, h => by
    rwa [show (Datum.readOnly es).plainData = .readOnly es by simp [plainData]]
  | .structured .., h => by cases h
  | .back _, _ => by
    rw [plainData]
    rfl
theorem Datum.anyKnotted_plainItems : ∀ {xs : List Datum}, Datum.anyKnotted xs = true → Datum.anyKnotted (Datum.plainItems xs) = true
  | [], h => by cases h
  | x :: rest, h => by
    rw [Datum.plainItems, Datum.anyKnotted, Bool.or_eq_true]
    rw [Datum.anyKnotted, Bool.or_eq_true] at h
    exact h.imp Datum.isKnotted_plainData Datum.anyKnotted_plainItems
theorem Datum.anyEntryKnotted_plainEntries : ∀ {es : List (Key × Datum)},
    Datum.anyEntryKnotted es = true → Datum.anyEntryKnotted (Datum.plainEntries es) = true
  | [], h => by cases h
  | (k, d) :: rest, h => by
    rw [Datum.plainEntries, Datum.anyEntryKnotted, Bool.or_eq_true]
    rw [Datum.anyEntryKnotted, Bool.or_eq_true] at h
    exact h.imp Datum.isKnotted_plainData Datum.anyEntryKnotted_plainEntries
end

/-- Constraints that stand side by side are written so that what they mention is still compared to an end: nothing that is written
of their arguments contains itself, or they are all written as they are. -/
def Constraint.Settled (cs : List Constraint) : Prop :=
  (∀ c ∈ cs, ∀ a ∈ c.args, a.plainData.isKnotted = false) ∨ ∀ c ∈ cs, c.plain = c

/-- All constraints in a datum, at any depth, are written so. -/
def Datum.Settled (d : Datum) : Prop :=
  ∀ x cs, ReflTransGen Datum.Holds d x → Reading.constraints x = .ok cs → Constraint.Settled cs

theorem Datum.Settled.of_held {d e : Datum} (h : d.Settled) (hd : ReflTransGen Datum.Holds d e) : e.Settled :=
  fun x cs hx => h x cs (hd.trans hx)

theorem Datum.Settled.constraints {d : Datum} (h : d.Settled) {r : Record} {cs : List Constraint} (hr : d.entries? = some r.entries)
    (hcs : r.optional .constraints [] Reading.constraints = .ok cs) : Constraint.Settled cs := by
  rcases Record.optional_eq_ok hcs with rfl | ⟨k, v, hmem, hv⟩
  · exact .inl (List.forall_mem_nil _)
  · exact h v cs (.single (.entry hr hmem)) hv

/-- A mapping is written entry by entry, unless it cannot be changed and is left as it is. -/
theorem Datum.written_cases (d : Datum) :
    d.plainData = d ∨ ∀ es, d.entries? = some es → d.plainData.entries? = some (Datum.plainEntries es) := by
  cases d with
  | readOnly es => exact .inl (by simp [plainData])
  | mapping es =>
    right
    rintro _ ⟨⟩
    rw [plainData]
    rfl
  | _ => exact .inr nofun

theorem Datum.target_written_cases (d : Datum) : d.plainData.target = d.target ∨
    ∀ es, d.target.entries? = some es → d.target.plainData.entries? = some (Datum.plainEntries es) :=
  d.target.written_cases.imp d.target_plainData.trans id

theorem ArgumentForm.isMapping_plainData {d : Datum} (h : isMapping d = true) : isMapping d.plainData = true := by
  unfold isMapping Datum.isTurn at h ⊢
  rw [Bool.or_eq_true] at h ⊢
  rcases d.target_written_cases with hsame | hwritten
  · rwa [hsame]
  · rw [d.target_plainData]
    refine h.imp (fun hturn => ?_) fun hentries => ?_
    · split at hturn
      · next htarget =>
        rw [htarget, Datum.plainData]
      · cases hturn
    · obtain ⟨es, hes⟩ := Option.isSome_iff_exists.1 hentries
      exact Option.isSome_iff_exists.2 ⟨_, hwritten es hes⟩

/-! ## References and descriptions as they are written -/

theorem Reading.plainData_of_textWhere {test : String → Bool} {defect : Defect} {d : Datum} {s : String}
    (h : Reading.textWhere test defect d = .ok s) : d.plainData = d := by
  unfold Reading.textWhere at h
  split at h
  · cases h
  · next htext => exact plainData_of_text htext

theorem TypeRef.ofRecord_plain {r : Record} {ref : TypeRef} (h : ofRecord r = .ok ref) : ofRecord r.plain = .ok ref := by
  unfold ofRecord at h ⊢
  split at h
  · cases h
  · next hparts =>
    obtain ⟨hparts, hclose⟩ := Record.closing_eq_ok.1 hparts
    obtain ⟨hnamespace, hparts⟩ := Reading.both_eq_ok.1 hparts
    obtain ⟨hversion, hname⟩ := Reading.both_eq_ok.1 hparts
    rw [Record.required_plain hnamespace fun v _ hv => (Reading.plainData_of_textWhere hv).symm ▸ hv,
      Record.required_plain hversion fun v _ hv => (Reading.plainData_of_textWhere hv).symm ▸ hv,
      Record.required_plain hname fun v _ hv => (Reading.plainData_of_textWhere hv).symm ▸ hv,
      Record.closing_of_close (Record.close_plain hclose)]
    split at h
    · next hmake =>
      dsimp only [Reading.both]
      rw [hmake]
      exact h
    · cases h

theorem TypeRef.read_eq_ofRecord {d : Datum} (h : ∀ r, d ≠ .scalar (.reference r)) :
    TypeRef.read d = match Record.ofDatum "SchemaTypeRef" d.target with
      | .bad issues => .bad issues
      | .ok r => ofRecord r := by
  unfold TypeRef.read
  split
  · next r => exact absurd rfl (h r)
  · rfl

/-- A reference is read from what is written of it. -/
theorem TypeRef.read_plainData {d : Datum} {ref : TypeRef} (hd : d.RefersInUnicode) (h : TypeRef.read d = .ok ref) :
    TypeRef.read d.plainData = .ok ref := by
  by_cases hreference : ∃ r, d = .scalar (.reference r)
  · obtain ⟨r, rfl⟩ := hreference
    cases h
    rw [Datum.plainData]
    exact read_datum (hd ref .refl)
  rw [read_eq_ofRecord (not_exists.1 hreference)] at h
  split at h
  · cases h
  next r hr =>
  have hplain : ∀ r, d.plainData ≠ .scalar (.reference r) := by
    intro r' hr'
    have hentries := Record.ofDatum_eq_ok hr
    rcases d.target_written_cases with hsame | hwritten
    · rw [hr'] at hsame
      rw [← hsame] at hentries
      cases hentries
    · have hwritten := hwritten _ hentries
      rw [← d.target_plainData, hr'] at hwritten
      cases hwritten
  rw [read_eq_ofRecord hplain]
  rcases d.target_written_cases with hsame | hwritten
  · rw [hsame, hr]
    exact h
  · rw [d.target_plainData, Record.ofDatum_plainData hwritten hr]
    exact ofRecord_plain h

/-- A constraint is another one, or is it as it is written. -/
def Constraint.WrittenAs (c c' : Constraint) : Prop := c' = c ∨ c' = c.plain

/-- What a constraint is depends on the entries of a record only. -/
theorem Constraint.ofRecord_entries {d e : Datum} {es : List (Key × Datum)} {c : Constraint} (h : ofRecord ⟨d, es⟩ = .ok c) :
    ofRecord ⟨e, es⟩ = .ok c := by
  obtain ⟨⟨⟨method, args⟩, _⟩, hp, rfl⟩ := Reading.map_eq_ok.1 h
  obtain ⟨hfields, hclose⟩ := Record.closing_eq_ok.1 hp
  obtain ⟨hmethod, hargs⟩ := Reading.both_eq_ok.1 hfields
  have hmethod' : Record.required ⟨e, es⟩ .method Reading.someText = .ok method := by
    unfold Record.required at hmethod
    split at hmethod
    · next hfound => exact Record.required_of_find? hfound (Reading.under_eq_ok.1 hmethod)
    · cases hmethod
  exact Reading.map_eq_ok.2 ⟨((method, args), ()), Record.closing_eq_ok.2 ⟨Reading.both_eq_ok.2 ⟨hmethod', hargs⟩, hclose⟩, rfl⟩

theorem Constraint.read_written {d : Datum} {c : Constraint} (h : Constraint.read d = .ok c) :
    ∃ c', Constraint.read d.plainData = .ok c' ∧ c.WrittenAs c' := by
  rcases d.target_written_cases with hsame | hplain
  · obtain ⟨es, hes, h⟩ := read_eq_ok h
    have hes' : entries? d.plainData = some es := by
      unfold entries? at hes ⊢
      rwa [hsame]
    refine ⟨c, ?_, .inl rfl⟩
    unfold read
    rw [hes']
    exact ofRecord_entries h
  · exact ⟨c.plain, read_plainData hplain h, .inr rfl⟩

section Relations

variable {α : Type} {R : α → α → Prop} {read : Datum → Reading α}

theorem Reading.listOf_written {d : Datum} {ys : List α} (h : Reading.listOf read d = .ok ys)
    (hread : ∀ x y, read x = .ok y → ∃ y', read x.plainData = .ok y' ∧ R y y') :
    ∃ ys', Reading.listOf read d.plainData = .ok ys' ∧ List.Forall₂ R ys ys' := by
  have hitems : ∀ {xs : List Datum} {i : Nat} {ys : List α}, Reading.itemsFrom read i xs = .ok ys →
      ∃ ys', Reading.itemsFrom read i (xs.map Datum.plainData) = .ok ys' ∧ List.Forall₂ R ys ys' := by
    intro xs
    induction xs with
    | nil =>
      intro i ys h
      cases h
      exact ⟨[], rfl, .nil⟩
    | cons x rest ih =>
      intro i ys h
      obtain ⟨⟨y, zs⟩, hboth, rfl⟩ := Reading.map_eq_ok.1 h
      obtain ⟨hy, hzs⟩ := Reading.both_eq_ok.1 hboth
      obtain ⟨y', hy', hyy'⟩ := hread x y (Reading.under_eq_ok.1 hy)
      obtain ⟨zs', hzs', hrest⟩ := ih hzs
      exact ⟨y' :: zs', Reading.map_eq_ok.2 ⟨(y', zs'), Reading.both_eq_ok.2 ⟨Reading.under_eq_ok.2 hy', hzs'⟩, rfl⟩,
        .cons hyy' hrest⟩
  unfold Reading.listOf at h ⊢
  split at h
  · next xs hxs =>
    rw [Datum.members?_plainData hxs]
    exact hitems h
  · cases h

theorem Record.optional_written {r : Record} {f : Field} {absent x : α} (h : r.optional f absent read = .ok x)
    (habsent : R absent absent) (hread : ∀ d y, read d = .ok y → ∃ y', read d.plainData = .ok y' ∧ R y y') :
    ∃ x', r.plain.optional f absent read = .ok x' ∧ R x x' := by
  unfold optional at h
  split at h
  · next s d hd =>
    obtain ⟨y', hy', hR⟩ := hread d x (Reading.under_eq_ok.1 h)
    have hfound : f.find? r.plain.entries = some (s, d.plainData) := (Field.find?_plainEntries f _).trans (by rw [hd]; rfl)
    exact ⟨y', optional_of_find? hfound hy', hR⟩
  · next hnone =>
    cases h
    have hfound : f.find? r.plain.entries = none := (Field.find?_plainEntries f _).trans (by rw [hnone]; rfl)
    unfold optional
    rw [hfound]
    exact ⟨_, rfl, habsent⟩

end Relations

/-- The description of an element is read from what is written of it, of the same kind and with the constraints as they are or as
they are written. -/
theorem ElementDef.read_written {d : Datum} {e : ElementDef} (h : ElementDef.read d = .ok e) :
    ∃ e', ElementDef.read d.plainData = .ok e' ∧ e'.kind = e.kind ∧
      List.Forall₂ Constraint.WrittenAs e.constraints e'.constraints := by
  rcases d.target_written_cases with hsame | hplain
  · refine ⟨e, ?_, rfl, List.forall₂_same.2 fun _ _ => .inl rfl⟩
    unfold ElementDef.read at h ⊢
    rwa [hsame]
  · unfold ElementDef.read at h ⊢
    split at h
    · cases h
    next r hr =>
    rw [d.target_plainData, Record.ofDatum_plainData hplain hr]
    obtain ⟨⟨⟨kind, constraints, description⟩, _⟩, hp, rfl⟩ := Reading.map_eq_ok.1 h
    obtain ⟨hfields, hclose⟩ := Record.closing_eq_ok.1 hp
    obtain ⟨hkind, hrest⟩ := Reading.both_eq_ok.1 hfields
    obtain ⟨hconstraints, hnote⟩ := Reading.both_eq_ok.1 hrest
    have hkind' := Record.required_plain hkind fun v _ hv => (Reading.plainData_of_someText hv).symm ▸ hv
    obtain ⟨constraints', hconstraints', hwritten⟩ := Record.optional_written (R := List.Forall₂ Constraint.WrittenAs) hconstraints
      .nil fun v cs hcs => by
        unfold Reading.constraints at hcs ⊢
        rw [v.target_plainData]
        exact Reading.listOf_written hcs fun x c hc => Constraint.read_written hc
    have hnote' := Record.optional_plain (g := id) hnote rfl fun v _ hv => (Reading.plainData_of_note hv).symm ▸ hv
    exact ⟨⟨kind, constraints', description⟩, Reading.map_eq_ok.2 ⟨((kind, constraints', description), ()),
      Record.closing_eq_ok.2 ⟨Reading.both_eq_ok.2 ⟨hkind', Reading.both_eq_ok.2 ⟨hconstraints', hnote'⟩⟩,
        Record.close_plain hclose⟩, rfl⟩, rfl, hwritten⟩

theorem Datum.Settled.element {d : Datum} {e : ElementDef} (h : d.Settled) (he : ElementDef.read d = .ok e) :
    Constraint.Settled e.constraints := by
  unfold ElementDef.read at he
  split at he
  · cases he
  · next r hr =>
    obtain ⟨⟨⟨kind, constraints, description⟩, _⟩, hparts, rfl⟩ := Reading.map_eq_ok.1 he
    have hconstraints := (Reading.both_eq_ok.1 (Reading.both_eq_ok.1 (Record.closing_eq_ok.1 hparts).1).2).1
    exact (h.of_held d.holds_target).constraints (Record.ofDatum_eq_ok hr) hconstraints

/-! ## Arguments as they are written -/

/-- Arguments that fit fit as they are written. -/
theorem ArgumentForm.fit_plainItems {form : ArgumentForm} {args : List Datum} (hargs : ∀ a ∈ args, a.RefersInUnicode)
    (h : form.fit args = .fits) : form.fit (Datum.plainItems args) = .fits := by
  by_cases hform : form = .elements
  · subst hform
    have hmappings : args ≠ [] ∧ ∀ a ∈ args, isMapping a = true := by simpa [fit] using h
    have hplain : ∀ a ∈ args, isMapping a.plainData = true := fun a ha => isMapping_plainData (hmappings.2 a ha)
    simpa [fit, Datum.plainItems_eq, hmappings.1] using hplain
  · have hnumber : ∀ n, (Datum.scalar (.number n)).plainData = .scalar (.number n) := by
      simp [Datum.plainData]
    have htext : ∀ s, (Datum.scalar (.text s)).plainData = .scalar (.text s) := by simp [Datum.plainData]
    have hbool : ∀ b, (Datum.scalar (.bool b)).plainData = .scalar (.bool b) := by simp [Datum.plainData]
    refine (takes_iff.1 ?_).1
    rw [Datum.plainItems_eq]
    cases takes_iff.2 ⟨h, fun heq => absurd heq hform⟩ with
    | nothing => exact .nothing
    | unflagged => exact .unflagged
    | values present => exact .values (by simpa using present)
    | elements => exact absurd rfl hform
    | keys present named =>
      refine .keys (by simpa using present) (List.forall_mem_map.2 fun a ha => ?_)
      obtain ⟨s, hs, rfl⟩ := named a ha
      exact ⟨s, hs, htext s⟩
    | reference readable => exact .reference (TypeRef.read_plainData (hargs _ (List.mem_singleton_self _)) readable)
    | count natural =>
      rw [List.map_singleton, hnumber]
      exact .count natural
    | number =>
      rw [List.map_singleton, hnumber]
      exact .number
    | pattern readable =>
      rw [List.map_singleton, htext]
      exact .pattern readable
    | flag =>
      rw [List.map_singleton, hbool]
      exact .flag

section Accepts

variable {element : Datum → Except CompileError PropertyChecker} {m : Method} {args : List Datum}

/-- Whether a method can work with its arguments, whatever it adds them to. -/
def Method.Accepts (element : Datum → Except CompileError PropertyChecker) (args : List Datum) : Method → Prop
  | .length _ _ | .atLeast | .atMost => ∃ a, args.head? = some a ∧ a.isTooLong = false
  | .pattern => ∃ s program, args.head? = some (.scalar (.text s)) ∧ Pattern.read s = .ok program
  | .includes | .excludes => ∀ a ∈ args, ∃ c, element a = .ok c
  | .reference => ∃ a ref, args.head? = some a ∧ TypeRef.read a = .ok ref
  | _ => True

theorem limitArgument_ok_iff : (∃ d, limitArgument args = .ok d) ↔ ∃ a, args.head? = some a ∧ a.isTooLong = false := by
  refine ⟨fun ⟨d, h⟩ => ⟨d, limitArgument_eq_ok h⟩, ?_⟩
  rintro ⟨a, hfirst, hlong⟩
  obtain ⟨rest, rfl⟩ := List.head?_eq_some_iff.1 hfirst
  refine ⟨a, ?_⟩
  change (if a.isTooLong then Except.error (CompileError.fault .integerTooLong) else .ok a) = .ok a
  rw [hlong]
  rfl

theorem patternRule_ok_iff : (∃ r, patternRule args = .ok r) ↔
    ∃ s program, args.head? = some (.scalar (.text s)) ∧ Pattern.read s = .ok program := by
  constructor
  · rintro ⟨r, h⟩
    obtain ⟨s, program, hfirst, hread, _⟩ := patternRule_eq_ok h
    exact ⟨s, program, hfirst, hread⟩
  · rintro ⟨s, program, hfirst, hread⟩
    obtain ⟨rest, rfl⟩ := List.head?_eq_some_iff.1 hfirst
    have hrule : firstArgument (.scalar (.text s) :: rest) = .ok (.scalar (.text s)) := rfl
    refine ⟨.pattern s program, ?_⟩
    unfold patternRule
    rw [hrule]
    dsimp only [bind, Except.bind]
    rw [hread]

theorem referenceRule_ok_iff : (∃ r, referenceRule args = .ok r) ↔
    ∃ a ref, args.head? = some a ∧ TypeRef.read a = .ok ref := by
  constructor
  · rintro ⟨r, h⟩
    obtain ⟨a, ref, hfirst, hread, _⟩ := referenceRule_eq_ok h
    exact ⟨a, ref, hfirst, hread⟩
  · rintro ⟨a, ref, hfirst, hread⟩
    obtain ⟨rest, rfl⟩ := List.head?_eq_some_iff.1 hfirst
    have hrule : firstArgument (a :: rest) = .ok a := rfl
    refine ⟨.reference ref, ?_⟩
    unfold referenceRule
    rw [hrule]
    dsimp only [bind, Except.bind]
    rw [hread]

theorem Except.bind_pure_ok_iff {ε α β : Type} {x : Except ε α} {f : α → β} :
    (∃ b, (x >>= fun a => pure (f a)) = .ok b) ↔ ∃ a, x = .ok a := by
  cases x with
  | error e => simp [bind, Except.bind]
  | ok a => simp [bind, Except.bind, pure, Except.pure]

theorem takeAll_ok {take : PropertyChecker → Datum → PropertyChecker} {takesOn : PropertyChecker → Datum → Bool}
    (hon : ∀ c d, takesOn c d = true → d.isKnotted = true) (hargs : ∀ a ∈ args, a.isKnotted = false) (c : PropertyChecker) :
    ∃ c', takeAll take takesOn args c = .ok c' := by
  rcases takeAll_cases take takesOn args c with ⟨hall, _⟩ | ⟨_, before, d, after, rfl, hd⟩
  · exact ⟨_, hall⟩
  · have hknotted := hargs d (List.mem_append_right _ (List.mem_cons_self ..))
    rw [hon _ _ hd] at hknotted
    cases hknotted

theorem Method.accepts_of_apply {c c' : PropertyChecker} (h : m.apply args (fun a _ => element a) c = .ok c') :
    m.Accepts element args := by
  cases m with
  | length | atLeast | atMost => exact limitArgument_ok_iff.1 (Except.bind_pure_ok_iff.1 ⟨c', h⟩)
  | pattern => exact patternRule_ok_iff.1 (Except.bind_pure_ok_iff.1 ⟨c', h⟩)
  | includes | excludes => exact elements_ok_iff.1 (Except.bind_pure_ok_iff.1 ⟨c', h⟩)
  | reference => exact referenceRule_ok_iff.1 (Except.bind_pure_ok_iff.1 ⟨c', h⟩)
  | _ => trivial

/-- A method that can work with its arguments applies to every checker, if none of them contains itself. -/
theorem Method.Accepts.apply (h : m.Accepts element args) (hargs : ∀ a ∈ args, a.isKnotted = false) (c : PropertyChecker) :
    ∃ c', m.apply args (fun a _ => element a) c = .ok c' := by
  have hallow := @takeAll_ok args .allow PropertyChecker.allowsOn (fun _ _ => PropertyChecker.isKnotted_of_allowsOn) hargs c
  cases m with
  | length | atLeast | atMost => exact Except.bind_pure_ok_iff.2 (limitArgument_ok_iff.2 h)
  | pattern => exact Except.bind_pure_ok_iff.2 (patternRule_ok_iff.2 h)
  | includes | excludes => exact Except.bind_pure_ok_iff.2 (elements_ok_iff.2 h)
  | reference => exact Except.bind_pure_ok_iff.2 (referenceRule_ok_iff.2 h)
  | allow => exact hallow
  | valid => exact Except.bind_pure_ok_iff.2 hallow
  | deny => exact takeAll_ok (fun _ _ => PropertyChecker.isKnotted_of_deniesOn) hargs c
  | _ => exact ⟨_, rfl⟩

/-- A method works with its arguments as they are written. -/
theorem Method.Accepts.plainItems (h : m.Accepts element args) (hargs : ∀ a ∈ args, a.RefersInUnicode)
    (helement : ∀ a ∈ args, (∃ c, element a = .ok c) → ∃ c, element a.plainData = .ok c) :
    m.Accepts element (Datum.plainItems args) := by
  have hfirst : ∀ {a : Datum}, args.head? = some a → (Datum.plainItems args).head? = some a.plainData := by
    intro a ha
    rw [Datum.plainItems_eq, List.head?_map, ha]
    rfl
  cases m with
  | length | atLeast | atMost =>
    obtain ⟨a, ha, hlong⟩ := h
    exact ⟨a.plainData, hfirst ha, a.isTooLong_plainData.trans hlong⟩
  | pattern =>
    obtain ⟨s, program, ha, hread⟩ := h
    exact ⟨s, program, (hfirst ha).trans (by simp [Datum.plainData]), hread⟩
  | includes | excludes =>
    unfold Accepts at h ⊢
    rw [Datum.plainItems_eq]
    exact List.forall_mem_map.2 fun a ha => helement a ha (h a ha)
  | reference =>
    obtain ⟨a, ref, ha, hread⟩ := h
    exact ⟨a.plainData, ref, hfirst ha, TypeRef.read_plainData (hargs a (List.mem_of_mem_head? ha)) hread⟩
  | _ => trivial

end Accepts

/-! ## Constraints as they are written -/

namespace Capabilities

variable {caps : Capabilities} {kind : Kind}

theorem check_ok_iff {method : String} {args : List Datum} :
    (∃ form, caps.check (.text kind.name) method args = .ok form) ↔
      ∃ form, caps.lookup (.text kind.name) method = .ok form ∧ form.fit args = .fits := by
  constructor
  · rintro ⟨form, h⟩
    unfold check at h
    split at h
    · cases h
    · next form' hlookup =>
      split at h
      · next hfits => exact ⟨form', hlookup, hfits⟩
      · cases h
      · cases h
  · rintro ⟨form, hlookup, hfits⟩
    unfold check
    rw [hlookup]
    dsimp only
    rw [hfits]
    exact ⟨form, rfl⟩

/-- A constraint is legal for a kind, and its method can work with the arguments. -/
structure Works (caps : Capabilities) (kind : Kind) (element : Datum → Except CompileError PropertyChecker) (x : Constraint)
    (form : ArgumentForm) (m : Method) : Prop where
  lookup : caps.lookup (.text kind.name) x.method = .ok form
  fits : form.fit x.args = .fits
  named : Method.ofName? kind x.method = some m
  accepts : m.Accepts element x.args

theorem works_of_compileConstraint {x : Constraint} {c c' : PropertyChecker}
    {element : Datum → Except CompileError PropertyChecker}
    (h : caps.compileConstraint kind x (fun a _ => element a) c = .ok c') : ∃ form m, Works caps kind element x form m := by
  obtain ⟨form, m, hcheck, hm, happly⟩ := compileConstraint_eq_ok h
  obtain ⟨form', hlookup, hfits⟩ := check_ok_iff.1 ⟨form, hcheck⟩
  exact ⟨form', m, hlookup, hfits, hm, Method.accepts_of_apply happly⟩

theorem Works.compileConstraint {x : Constraint} {element : Datum → Except CompileError PropertyChecker} {form : ArgumentForm}
    {m : Method} (h : Works caps kind element x form m) (hargs : ∀ a ∈ x.args, a.isKnotted = false) (c : PropertyChecker) :
    ∃ c', caps.compileConstraint kind x (fun a _ => element a) c = .ok c' := by
  obtain ⟨form', hcheck⟩ := check_ok_iff.2 ⟨form, h.lookup, h.fits⟩
  obtain ⟨c', happly⟩ := h.accepts.apply hargs c
  refine ⟨c', ?_⟩
  unfold Capabilities.compileConstraint
  rw [hcheck, h.named]
  exact happly

/-- What an argument compiles to as the description of an element, it also does as it is written. -/
def Redescribes (caps : Capabilities) (a : Datum) : Prop :=
  ∀ m, (∃ c, caps.compileElement m a = .ok c) → ∃ c, caps.compileElement m a.plainData = .ok c

/-- What is asked of an argument for its constraint to compile as it is written. -/
structure Rewrites (caps : Capabilities) (a : Datum) : Prop where
  references : a.RefersInUnicode
  describes : caps.Redescribes a
  unknotted : a.plainData.isKnotted = false

theorem compileConstraint_written {x y : Constraint} {c c' : PropertyChecker} (hxy : x.WrittenAs y)
    (hargs : ∀ a ∈ x.args, caps.Rewrites a)
    (h : caps.compileConstraint kind x (fun a _ => caps.compileElement x.method a) c = .ok c') (d : PropertyChecker) :
    ∃ d', caps.compileConstraint kind y (fun a _ => caps.compileElement y.method a) d = .ok d' := by
  obtain ⟨form, m, hworks⟩ := works_of_compileConstraint h
  rcases hxy with rfl | rfl
  · refine hworks.compileConstraint (fun a ha => Bool.eq_false_iff.2 fun hknotted => ?_) d
    exact Bool.eq_false_iff.1 (hargs a ha).unknotted (Datum.isKnotted_plainData hknotted)
  · have hwritten : Works caps kind (caps.compileElement x.method) x.plain form m :=
      ⟨hworks.lookup, ArgumentForm.fit_plainItems (fun a ha => (hargs a ha).references) hworks.fits, hworks.named,
        hworks.accepts.plainItems (fun a ha => (hargs a ha).references) fun a ha => (hargs a ha).describes x.method⟩
    refine hwritten.compileConstraint ?_ d
    change ∀ a ∈ Datum.plainItems x.args, a.isKnotted = false
    rw [Datum.plainItems_eq]
    exact List.forall_mem_map.2 fun a ha => (hargs a ha).unknotted

/-- Constraints compile as they are written, onto any checker. -/
theorem compileConstraints_written {xs ys : List Constraint} (hxy : List.Forall₂ Constraint.WrittenAs xs ys) :
    ∀ {c c' d : PropertyChecker}, (∀ x ∈ xs, ∀ a ∈ x.args, caps.Rewrites a) →
      caps.compileConstraints kind xs (fun m a _ => caps.compileElement m a) c = .ok c' →
      ∃ d', caps.compileConstraints kind ys (fun m a _ => caps.compileElement m a) d = .ok d' := by
  induction hxy with
  | nil => exact fun _ _ => ⟨_, rfl⟩
  | @cons x y xs ys hfirst _ ih =>
    intro c c' d hargs h
    rw [List.forall_mem_cons] at hargs
    unfold compileConstraints at h
    obtain ⟨next, hnext, h⟩ := Except.bind_eq_ok.1 h
    obtain ⟨after, hafter⟩ := compileConstraint_written hfirst hargs.1 hnext d
    obtain ⟨d', hd'⟩ := ih (d := after) hargs.2 h
    refine ⟨d', ?_⟩
    unfold compileConstraints
    exact Except.bind_eq_ok.2 ⟨after, hafter, hd'⟩

/-- Constraints compile as they are written also where they are written as they are, onto the same checker. -/
theorem compileConstraints_settled {xs ys : List Constraint} (hxy : List.Forall₂ Constraint.WrittenAs xs ys) {c c' : PropertyChecker}
    (hsettled : Constraint.Settled xs) (hargs : ∀ x ∈ xs, ∀ a ∈ x.args, a.RefersInUnicode ∧ caps.Redescribes a)
    (h : caps.compileConstraints kind xs (fun m a _ => caps.compileElement m a) c = .ok c') :
    ∃ d', caps.compileConstraints kind ys (fun m a _ => caps.compileElement m a) c = .ok d' := by
  rcases hsettled with hunknotted | hsame
  · exact compileConstraints_written hxy (fun x hx a ha => ⟨(hargs x hx a ha).1, (hargs x hx a ha).2, hunknotted x hx a ha⟩) h
  · have heq : List.Forall₂ (fun x y => x = y) xs ys := ((List.forall₂_and_left xs ys).2 ⟨hsame, hxy⟩).imp
      fun x y ⟨hplain, hwritten⟩ => hwritten.elim Eq.symm fun hy => (hy.trans hplain).symm
    rw [List.forall₂_eq_eq_eq] at heq
    rw [← heq]
    exact ⟨c', h⟩

/-- The induction is on the size of the description, which is larger than those among the arguments inside of it. -/
theorem redescribes (d : Datum) (hd : d.RefersInUnicode) (hsettled : d.Settled) : caps.Redescribes d := by
  rintro m ⟨c, h⟩
  obtain ⟨e, kind, he, hkind, hcs⟩ := compileElement_eq_ok h
  obtain ⟨e', he', hsame, hwritten⟩ := ElementDef.read_written he
  have hargs : ∀ x ∈ e.constraints, ∀ a ∈ x.args, a.RefersInUnicode ∧ caps.Redescribes a := by
    intro x hx a ha
    obtain ⟨y, hy, hread⟩ := ElementDef.constraints_held he x hx
    have hheld := (hy.trans (Constraint.args_held hread ha)).to_reflTransGen
    have hsmaller : sizeOf a < sizeOf d := ElementDef.args_smaller he hx ha
    exact ⟨hd.of_held hheld, redescribes a (hd.of_held hheld) (hsettled.of_held hheld)⟩
  obtain ⟨c', hc'⟩ := compileConstraints_settled hwritten (hsettled.element he) hargs hcs
  refine ⟨c', ?_⟩
  rw [compileElement_of_read he', hsame]
  exact Except.bind_eq_ok.2 ⟨kind, hkind, hc'⟩
termination_by sizeOf d

theorem compileProperty_of_constraints {kindName : String} {constraints : List Constraint} {types : Option (List TypeChecker)}
    {checker : PropertyChecker} (hkind : caps.kindNamed kindName = .ok kind)
    (hcs : caps.compileConstraints kind constraints (fun m a _ => caps.compileElement m a) (.ofKind kind) = .ok checker)
    (htypes : ∀ ts, types = some ts → ts.length = 1 ∧ kind = .object ∧ checker.rules.any Rule.isReference = false) :
    ∃ c, caps.compileProperty kindName constraints types = .ok c := by
  unfold compileProperty
  rw [hkind]
  dsimp only [bind, Except.bind]
  rw [hcs]
  cases types with
  | none => exact ⟨checker, rfl⟩
  | some ts =>
    obtain ⟨hlength, rfl, hreference⟩ := htypes ts rfl
    obtain ⟨t, rfl⟩ := List.length_eq_one_iff.1 hlength
    dsimp only
    rw [if_neg (not_not.2 rfl), hreference]
    exact ⟨_, rfl⟩

/-- Of the types in place of a property only the number counts. -/
theorem compileProperty_retyped {kindName : String} {constraints : List Constraint} {types types' : Option (List TypeChecker)}
    {c : PropertyChecker} (hlength : types'.map List.length = types.map List.length)
    (h : caps.compileProperty kindName constraints types = .ok c) :
    ∃ c', caps.compileProperty kindName constraints types' = .ok c' := by
  obtain ⟨kind, checker, hkind, hcs, hinline⟩ := compileProperty_eq_ok h
  refine compileProperty_of_constraints hkind hcs fun ts hts => ?_
  subst hts
  rcases hinline with ⟨rfl, _⟩ | ⟨t, rfl, hobject, hnone, _⟩
  · cases hlength
  · exact ⟨Option.some.inj hlength, hobject, hnone⟩

/-- **A property compiles as it is written.** -/
theorem compileProperty_written {kindName : String} {xs : List Constraint} {types : Option (List TypeChecker)}
    {c : PropertyChecker} (hargs : ∀ x ∈ xs, ∀ a ∈ x.args, a.RefersInUnicode ∧ a.Settled) (hsettled : Constraint.Settled xs)
    (h : caps.compileProperty kindName xs types = .ok c) :
    ∃ c', caps.compileProperty kindName (xs.map Constraint.plain) types = .ok c' := by
  have hwritten : List.Forall₂ Constraint.WrittenAs xs (xs.map Constraint.plain) := by
    rw [List.forall₂_map_right_iff]
    exact List.forall₂_same.2 fun _ _ => .inr rfl
  obtain ⟨kind, checker, hkind, hcs, hinline⟩ := compileProperty_eq_ok h
  obtain ⟨checker', hcs'⟩ := compileConstraints_settled hwritten hsettled
    (fun x hx a ha => ⟨(hargs x hx a ha).1, redescribes a (hargs x hx a ha).1 (hargs x hx a ha).2⟩) hcs
  refine compileProperty_of_constraints hkind hcs' fun ts hts => ?_
  subst hts
  rcases hinline with ⟨hnone, _⟩ | ⟨t, hone, hobject, hnone, _⟩
  · cases hnone
  · cases hone
    refine ⟨rfl, hobject, Bool.eq_false_iff.2 fun hsome => ?_⟩
    rcases (compileConstraints_isReference hcs').1 hsome with h0 | ⟨y, hy, hname⟩
    · cases h0
    · obtain ⟨x, hx, rfl⟩ := List.mem_map.1 hy
      rw [(compileConstraints_isReference hcs).2 (.inr ⟨x, hx, hname⟩)] at hnone
      cases hnone

end Capabilities

end ShapeCheck
