import ShapeCheck.Definition.Printing
import ShapeCheck.Proofs.Legality
import ShapeCheck.Proofs.Names
import ShapeCheck.Proofs.Probes

/-!
# Definitions that are written and read again

What is written of a definition has records in place of references, and is otherwise the definition itself. Where references
stand only as arguments that ask for one (`Constraint.Simple`), a constraint that is written is read back as `Constraint.plain`,
and compiles to the same: `Capabilities.compileConstraint_plain`, since descriptions of elements are read as deep as references
may stand in them.
-/

namespace ShapeCheck

open Shape

/-! ## Arguments as they are written -/

/-- The parts of a reference have no halves of surrogate pairs, as those of each reference that was read. -/
def TypeRef.IsUnicode (r : TypeRef) : Prop :=
  Text.hasSurrogate r.namespaceName = false ∧ Text.hasSurrogate r.version = false ∧ Text.hasSurrogate r.name = false

namespace Datum

/-- Data made of scalars, lists and mappings, with certain references among the scalars. -/
inductive Simple (allowed : TypeRef → Prop) : Datum → Prop
  | scalar {a : Scalar} (reference : ∀ r, a = .reference r → allowed r) : Simple allowed (.scalar a)
  | list {xs : List Datum} (items : ∀ x ∈ xs, Simple allowed x) : Simple allowed (.list xs)
  | mapping {es : List (Key × Datum)} (values : ∀ e ∈ es, Simple allowed e.2) : Simple allowed (.mapping es)

/-- Data made of scalars, lists and mappings without any references. -/
def IsPlain (d : Datum) : Prop := d.Simple fun _ => False

theorem plainItems_eq (xs : List Datum) : plainItems xs = xs.map plainData := by
  induction xs with
  | nil => rw [plainItems, List.map_nil]
  | cons x rest ih => rw [plainItems, ih, List.map_cons]

theorem plainEntries_eq (es : List (Key × Datum)) : plainEntries es = es.map fun e => (e.1, e.2.plainData) := by
  induction es with
  | nil => rw [plainEntries, List.map_nil]
  | cons e rest ih =>
    obtain ⟨k, d⟩ := e
    rw [plainEntries, ih, List.map_cons]

theorem plainData_scalar {a : Scalar} (h : ∀ r, a ≠ .reference r) : (Datum.scalar a).plainData = .scalar a := by
  cases a with
  | reference r => exact absurd rfl (h r)
  | _ => simp [plainData]

/-- Data without references are written as they are. -/
theorem IsPlain.plainData_eq {d : Datum} (h : d.IsPlain) : d.plainData = d := by
  unfold IsPlain at h
  induction h with
  | scalar reference => exact plainData_scalar reference
  | list _ ih => rw [plainData, plainItems_eq, List.map_congr_left ih, List.map_id']
  | @mapping es _ ih =>
    have hes : es.map (fun e => (e.1, e.2.plainData)) = es.map id :=
      List.map_congr_left fun e he => Prod.ext rfl (ih e he)
    rw [plainData, plainEntries_eq, hes, List.map_id]

theorem isPlain_reference (r : TypeRef) : r.datum.IsPlain := by
  refine .mapping fun e he => ?_
  obtain ⟨f, hf, rfl⟩ := List.mem_map.1 he
  have htexts : ∀ f ∈ [("namespace", Datum.text r.namespaceName), ("version", .text r.version), ("type", .text r.name)],
      ∃ s, f.2 = .text s := by simp
  obtain ⟨s, hs⟩ := htexts f hf
  dsimp only
  rw [hs]
  exact .scalar nofun

/-- What is written is without references. -/
theorem Simple.isPlain_plainData {allowed : TypeRef → Prop} {d : Datum} (h : d.Simple allowed) : d.plainData.IsPlain := by
  induction h with
  | @scalar a _ =>
    by_cases ha : ∃ r, a = .reference r
    · obtain ⟨r, rfl⟩ := ha
      rw [plainData]
      exact isPlain_reference r
    · rw [plainData_scalar (not_exists.1 ha)]
      exact .scalar (not_exists.1 ha)
  | list _ ih =>
    rw [plainData, plainItems_eq]
    exact .list (List.forall_mem_map.2 ih)
  | mapping _ ih =>
    rw [plainData, plainEntries_eq]
    exact .mapping (List.forall_mem_map.2 ih)

/-- What stands in a mapping of simple data is simple. -/
theorem Simple.entry {allowed : TypeRef → Prop} {d v : Datum} {es : List (Key × Datum)} (h : d.Simple allowed)
    (hes : d.entries? = some es) (hv : ∃ k, (k, v) ∈ es) : v.Simple allowed := by
  obtain ⟨k, hk⟩ := hv
  cases h <;> cases hes
  next values => exact values _ hk

theorem Simple.member {allowed : TypeRef → Prop} {d x : Datum} {xs : List Datum} (h : d.Simple allowed)
    (hxs : d.members? = some xs) (hx : x ∈ xs) : x.Simple allowed := by
  cases h <;> cases hxs
  next items => exact items x hx

theorem Simple.entries?_plainData {allowed : TypeRef → Prop} {d : Datum} {es : List (Key × Datum)} (h : d.Simple allowed)
    (hes : d.entries? = some es) : d.plainData.entries? = some (plainEntries es) := by
  cases h <;> cases hes
  rw [plainData]
  rfl

/-- What is written of a mark stands for what is written of the container. -/
theorem target_plainData (d : Datum) : d.plainData.target = d.target.plainData := by
  cases d with
  | @back names trees level =>
    rw [plainData]
    change (plainItems trees)[level]?.getD (@back names (plainItems trees) level) =
      (trees[level]?.getD (@back names trees level)).plainData
    rw [plainItems_eq, List.getElem?_map]
    cases trees[level]? with
    | none => rw [Option.map_none, Option.getD_none, Option.getD_none, plainData, plainItems_eq]
    | some t => rfl
  | scalar a =>
    by_cases ha : ∃ r, a = .reference r
    · obtain ⟨r, rfl⟩ := ha
      change _ = (Datum.scalar (.reference r)).plainData
      rw [plainData]
      rfl
    · rw [plainData_scalar (not_exists.1 ha)]
      exact (plainData_scalar (not_exists.1 ha)).symm
  | readOnly es =>
    have hsame : (readOnly es).plainData = readOnly es := by simp [plainData]
    rw [hsame]
    exact hsame.symm
  | _ =>
    rw [plainData]
    rfl

theorem Simple.target_eq {allowed : TypeRef → Prop} {d : Datum} (h : d.Simple allowed) : d.target = d := by
  cases h <;> rfl

theorem Simple.isMapping_eq {allowed : TypeRef → Prop} {d : Datum} (h : d.Simple allowed) :
    ArgumentForm.isMapping d = d.entries?.isSome := by
  cases h <;> rfl

theorem members?_plainData {d : Datum} {xs : List Datum} (h : d.members? = some xs) :
    d.plainData.members? = some (xs.map plainData) := by
  unfold members? at h
  split at h <;> cases h <;> rw [plainData, plainItems_eq] <;> rfl

end Datum

/-! ## Records as they are written -/

theorem Entries.find?_plainEntries (k : Key) (es : List (Key × Datum)) :
    Entries.find? k (Datum.plainEntries es) = (Entries.find? k es).map Datum.plainData := by
  induction es with
  | nil =>
    rw [Datum.plainEntries]
    rfl
  | cons e rest ih =>
    obtain ⟨k', d⟩ := e
    rw [Datum.plainEntries, find?, find?, ih]
    split <;> rfl

theorem Field.find?_plainEntries (f : Field) (es : List (Key × Datum)) :
    f.find? (Datum.plainEntries es) = (f.find? es).map fun p => (p.1, p.2.plainData) := by
  unfold find? Entries.get?
  rw [Entries.find?_plainEntries]
  cases Entries.find? (.text f.name) es with
  | some d => rfl
  | none =>
    dsimp only [Option.map_none]
    cases f.second with
    | none => rfl
    | some s =>
      dsimp only [Option.bind_some]
      rw [Entries.find?_plainEntries]
      cases Entries.find? (.text s) es <;> rfl

namespace Record

variable {α : Type} {r : Record} {f : Field}

/-- A record as it is written. -/
def plain (r : Record) : Record := ⟨r.whole.plainData, Datum.plainEntries r.entries⟩

theorem required_plain {read : Datum → Reading α} {x : α} (h : r.required f read = .ok x)
    (hread : ∀ d, (∃ k, (k, d) ∈ r.entries) → read d = .ok x → read d.plainData = .ok x) : r.plain.required f read = .ok x := by
  unfold required at h
  split at h
  · next s d hd =>
    have hfound : f.find? r.plain.entries = some (s, d.plainData) := (Field.find?_plainEntries f _).trans (by rw [hd]; rfl)
    exact required_of_find? hfound (hread d (Field.find?_mem hd) (Reading.under_eq_ok.1 h))
  · cases h

theorem optional_plain {read : Datum → Reading α} {absent x : α} {g : α → α} (h : r.optional f absent read = .ok x)
    (habsent : g absent = absent)
    (hread : ∀ d, (∃ k, (k, d) ∈ r.entries) → read d = .ok x → read d.plainData = .ok (g x)) :
    r.plain.optional f absent read = .ok (g x) := by
  unfold optional at h
  split at h
  · next s d hd =>
    have hfound : f.find? r.plain.entries = some (s, d.plainData) := (Field.find?_plainEntries f _).trans (by rw [hd]; rfl)
    exact optional_of_find? hfound (hread d (Field.find?_mem hd) (Reading.under_eq_ok.1 h))
  · next hnone =>
    cases h
    unfold optional
    rw [show f.find? r.plain.entries = none from (Field.find?_plainEntries f _).trans (by rw [hnone]; rfl), habsent]

theorem close_plain {fields : List Field} (h : r.close fields = .ok ()) : r.plain.close fields = .ok () := by
  have hused : (fields.filterMap fun f => (f.find? r.plain.entries).map Prod.fst) =
      fields.filterMap fun f => (f.find? r.entries).map Prod.fst := by
    refine List.filterMap_congr fun f _ => ?_
    rw [plain, Field.find?_plainEntries, Option.map_map]
    rfl
  rw [close_eq_ok_iff] at h ⊢
  rw [hused]
  intro e he
  rw [plain, Datum.plainEntries_eq] at he
  obtain ⟨e', he', rfl⟩ := List.mem_map.1 he
  exact h e' he'

end Record

namespace Reading

/-- Texts are written as they are. -/
theorem plainData_of_text {d : Datum} {s : String} (h : Reading.text d = .ok s) : d.plainData = d := by
  unfold Reading.text at h
  split at h
  · exact Datum.plainData_scalar nofun
  · exact Datum.plainData_scalar nofun
  · cases h

theorem plainData_of_someText {d : Datum} {s : String} (h : Reading.someText d = .ok s) : d.plainData = d := by
  unfold Reading.someText Reading.textWhere at h
  split at h
  · cases h
  · next htext => exact plainData_of_text htext

theorem plainData_of_note {d : Datum} {n : Option String} (h : Reading.note d = .ok n) : d.plainData = d := by
  unfold Reading.note Reading.orNull at h
  split at h
  · next hnull =>
    unfold Datum.isNull at hnull
    split at hnull
    · exact Datum.plainData_scalar nofun
    · cases hnull
  · obtain ⟨s, hs, _⟩ := Reading.map_eq_ok.1 h
    exact plainData_of_text hs

theorem items_plainData {d : Datum} {xs : List Datum} (h : Reading.items d = .ok xs) :
    Reading.items d.plainData = .ok (Datum.plainItems xs) := by
  unfold Reading.items at h
  split at h
  · next ys hys =>
    cases h
    unfold Reading.items
    rw [Datum.members?_plainData hys, Datum.plainItems_eq]
  · cases h

theorem listOf_plainData {α : Type} {read : Datum → Reading α} {g : α → α} {d : Datum} {ys : List α}
    (h : Reading.listOf read d = .ok ys)
    (hread : ∀ xs, d.members? = some xs → ∀ x ∈ xs, ∀ y, read x = .ok y → read x.plainData = .ok (g y)) :
    Reading.listOf read d.plainData = .ok (ys.map g) := by
  have hitems : ∀ {xs : List Datum} {i : Nat} {ys : List α}, (∀ x ∈ xs, ∀ y, read x = .ok y → read x.plainData = .ok (g y)) →
      Reading.itemsFrom read i xs = .ok ys → Reading.itemsFrom read i (xs.map Datum.plainData) = .ok (ys.map g) := by
    intro xs
    induction xs with
    | nil =>
      intro i ys _ h
      cases h
      rfl
    | cons x rest ih =>
      intro i ys hread h
      obtain ⟨⟨y, zs⟩, hboth, rfl⟩ := Reading.map_eq_ok.1 h
      obtain ⟨hy, hzs⟩ := Reading.both_eq_ok.1 hboth
      have hfirst := hread x (List.mem_cons_self ..) y (Reading.under_eq_ok.1 hy)
      have hrest := ih (fun x' hx' => hread x' (List.mem_cons_of_mem _ hx')) hzs
      exact Reading.map_eq_ok.2 ⟨(g y, zs.map g), Reading.both_eq_ok.2 ⟨Reading.under_eq_ok.2 hfirst, hrest⟩, rfl⟩
  unfold Reading.listOf at h
  split at h
  · next xs hxs =>
    unfold Reading.listOf
    rw [Datum.members?_plainData hxs]
    exact hitems (hread xs hxs) h
  · cases h

end Reading

/-! ## Constraints and descriptions as they are written -/

/-- A constraint with its arguments as they are written. -/
def Constraint.plain (c : Constraint) : Constraint := ⟨c.method, Datum.plainItems c.args⟩

def ElementDef.plain (e : ElementDef) : ElementDef := ⟨e.kind, e.constraints.map Constraint.plain, e.description⟩

section Read

variable {allowed : TypeRef → Prop} {d : Datum}

theorem Record.ofDatum_plainData {name : String} {r : Record}
    (hd : ∀ es, d.entries? = some es → d.plainData.entries? = some (Datum.plainEntries es)) (h : Record.ofDatum name d = .ok r) :
    Record.ofDatum name d.plainData = .ok r.plain := by
  unfold Record.ofDatum at h
  split at h
  · next es hes =>
    cases h
    unfold Record.ofDatum
    rw [hd es hes]
    rfl
  · cases h

namespace Constraint

variable {c : Constraint}

theorem ofRecord_plain {r : Record} (h : ofRecord r = .ok c) : ofRecord r.plain = .ok c.plain := by
  obtain ⟨⟨⟨method, args⟩, _⟩, hp, rfl⟩ := Reading.map_eq_ok.1 h
  obtain ⟨hfields, hclose⟩ := Record.closing_eq_ok.1 hp
  obtain ⟨hmethod, hargs⟩ := Reading.both_eq_ok.1 hfields
  have hmethod' := Record.required_plain hmethod fun v _ hv => (Reading.plainData_of_someText hv).symm ▸ hv
  have hargs' := Record.optional_plain (g := Datum.plainItems) hargs (by rw [Datum.plainItems]) fun v _ hv => by
    unfold arguments
    rw [Datum.target_plainData]
    exact Reading.items_plainData hv
  exact Reading.map_eq_ok.2 ⟨((method, Datum.plainItems args), ()),
    Record.closing_eq_ok.2 ⟨Reading.both_eq_ok.2 ⟨hmethod', hargs'⟩, Record.close_plain hclose⟩, rfl⟩

/-- The parts of a constraint that was made before are written one by one, since none of them is null. -/
theorem plainData_structured {handle : Option TypeHandle} {method args : Datum}
    (h : ofRecord ⟨d, [(.text "method", method), (.text "args", args)]⟩ = .ok c) :
    (Datum.structured "Constraint" handle [("method", method), ("args", args)]).plainData =
      .mapping (Datum.plainEntries [(.text "method", method), (.text "args", args)]) := by
  obtain ⟨⟨⟨_, xs⟩, _⟩, hp, -⟩ := Reading.map_eq_ok.1 h
  obtain ⟨hmethod, hargs⟩ := Reading.both_eq_ok.1 (Record.closing_eq_ok.1 hp).1
  have hmethod : method.isNull = false := by
    have hread := Reading.under_eq_ok.1 hmethod
    cases hnull : method.isNull with
    | false => rfl
    | true =>
      unfold Datum.isNull at hnull
      split at hnull
      · cases hread
      · cases hnull
  have hargs : args.isNull = false := by
    have hread := Reading.items_eq_ok (Reading.under_eq_ok.1 hargs)
    cases hnull : args.isNull with
    | false => rfl
    | true =>
      unfold Datum.isNull at hnull
      split at hnull
      · cases hread
      · cases hnull
  simp only [Datum.plainData, Datum.plainParts, Datum.plainEntries, hmethod, hargs]
  rfl

/-- A constraint is read back from what is written of it, as it is written. -/
theorem read_plainData (hd : ∀ es, d.target.entries? = some es → d.target.plainData.entries? = some (Datum.plainEntries es))
    (h : read d = .ok c) : read d.plainData = .ok c.plain := by
  obtain ⟨es, hes, h⟩ := read_eq_ok h
  have hplain : entries? d.plainData = some (Datum.plainEntries es) := by
    unfold entries? at hes
    split at hes
    · next method args hparts =>
      cases hes
      refine entries?_of_mapping ?_
      rw [Datum.target_plainData, hparts, plainData_structured h]
      rfl
    · refine entries?_of_mapping ?_
      rw [Datum.target_plainData]
      exact hd es hes
  unfold read
  rw [hplain]
  exact ofRecord_plain h

end Constraint

/-- So is the description of an element. -/
theorem ElementDef.read_plainData {e : ElementDef} (hd : d.Simple allowed) (h : ElementDef.read d = .ok e) :
    ElementDef.read d.plainData = .ok e.plain := by
  unfold ElementDef.read at h ⊢
  split at h
  · cases h
  · next r hr =>
    have htarget := hd.target_eq
    rw [htarget] at hr
    rw [Datum.target_plainData, htarget, Record.ofDatum_plainData (fun _ => hd.entries?_plainData) hr]
    obtain ⟨⟨⟨kind, constraints, description⟩, _⟩, hp, rfl⟩ := Reading.map_eq_ok.1 h
    obtain ⟨hfields, hclose⟩ := Record.closing_eq_ok.1 hp
    obtain ⟨hkind, hrest⟩ := Reading.both_eq_ok.1 hfields
    obtain ⟨hconstraints, hnote⟩ := Reading.both_eq_ok.1 hrest
    have hkind' := Record.required_plain hkind fun v _ hv => (Reading.plainData_of_someText hv).symm ▸ hv
    have hconstraints' := Record.optional_plain (g := List.map Constraint.plain) hconstraints rfl fun v hv hcs =>
      (congrArg _ (Datum.target_plainData v)).trans <| Reading.listOf_plainData hcs fun xs hxs x hx c hc => by
        have hvalue := hd.entry (Record.ofDatum_eq_ok hr) hv
        rw [hvalue.target_eq] at hxs
        have hmember := hvalue.member hxs hx
        exact Constraint.read_plainData (hmember.target_eq.symm ▸ fun _ => hmember.entries?_plainData) hc
    have hnote' := Record.optional_plain (g := id) hnote rfl fun v _ hv => (Reading.plainData_of_note hv).symm ▸ hv
    exact Reading.map_eq_ok.2 ⟨((kind, constraints.map Constraint.plain, description), ()),
      Record.closing_eq_ok.2 ⟨Reading.both_eq_ok.2 ⟨hkind', Reading.both_eq_ok.2 ⟨hconstraints', hnote'⟩⟩,
        Record.close_plain hclose⟩, rfl⟩

end Read

/-! ## What is written compiles to the same -/

/-- A relation of two lists changes to what it implies for the members of the first. -/
theorem List.Forall₂.imp_of_mem_left {α β : Type} {R S : α → β → Prop} {xs : List α} {ys : List β} (h : List.Forall₂ R xs ys)
    (hRS : ∀ x ∈ xs, ∀ y, R x y → S x y) : List.Forall₂ S xs ys := by
  induction h with
  | nil => exact .nil
  | cons hxy _ ih =>
    rw [List.forall_mem_cons] at hRS
    exact .cons (hRS.1 _ hxy) (ih hRS.2)

theorem Except.mapM_of_forall₂ {ε α β : Type} {f : α → Except ε β} {xs : List α} {ys : List β}
    (h : List.Forall₂ (fun x y => f x = .ok y) xs ys) : xs.mapM f = .ok ys := by
  induction h with
  | nil => rfl
  | cons hxy _ ih =>
    rw [List.mapM_cons, hxy, ih]
    rfl

/-- Descriptions that compile one by one compile together. -/
theorem elements_of_forall₂ {element : Datum → Except CompileError PropertyChecker} {args : List Datum}
    {elements : List PropertyChecker} (h : List.Forall₂ (fun a c => element a = .ok c) args elements) :
    (args.attach.mapM fun ⟨a, _⟩ => element a) = .ok elements := by
  refine Except.mapM_of_forall₂ ?_
  rw [← List.forall₂_map_left_iff (f := Subtype.val) (R := fun a c => element a = .ok c), List.attach_map_subtype_val]
  exact h

/-- A reference is read back from its record. -/
theorem TypeRef.read_datum {r : TypeRef} (h : r.IsUnicode) : TypeRef.read r.datum = .ok r := by
  obtain ⟨namespaceName, version, name, namespace_ok, version_ok, name_ok⟩ := r
  obtain ⟨hnamespaceUnicode, hversionUnicode, hnameUnicode⟩ := h
  have hread : ∀ {whole : Datum} {r : Record}, ⟨whole, [(.text "namespace", .text namespaceName),
      (.text "version", .text version), (.text "type", .text name)]⟩ = r →
        TypeRef.ofRecord r = .ok ⟨namespaceName, version, name, namespace_ok, version_ok, name_ok⟩ := by
    intro whole r hr
    have hnamespace : r.required .ofNamespace Reading.namespaceName = .ok namespaceName :=
      Record.required_of_find? (by rw [← hr]; rfl) (Reading.textWhere_text hnamespaceUnicode namespace_ok)
    have hversion : r.required .ofVersion Reading.version = .ok version :=
      Record.required_of_find? (by rw [← hr]; rfl) (Reading.textWhere_text hversionUnicode version_ok)
    have hname : r.required .ofTypeName Reading.someText = .ok name :=
      Record.required_of_find? (by rw [← hr]; rfl) (Reading.textWhere_text hnameUnicode (decide_eq_true name_ok))
    have hclose : r.close TypeRef.fields = .ok () := by
      rw [← hr]
      rfl
    unfold TypeRef.ofRecord
    rw [hnamespace, hversion, hname, Record.closing_of_close hclose]
    dsimp only [Reading.both]
    unfold make?
    rw [dif_pos ⟨namespace_ok, version_ok, name_ok⟩]
  exact hread rfl

theorem referenceRule_of_read {d : Datum} {r : TypeRef} (h : TypeRef.read d = .ok r) : referenceRule [d] = .ok (.reference r) := by
  have hfirst : firstArgument [d] = .ok d := rfl
  unfold referenceRule
  rw [hfirst]
  dsimp only [bind, Except.bind]
  rw [h]

/-- References stand in a constraint only where one is asked for: as the argument for a reference, or so in the constraints of
the descriptions that are its arguments, at any depth. All else in its arguments are scalars, lists and mappings. -/
inductive Constraint.Simple : Constraint → Prop
  | values {c : Constraint} (args : ∀ a ∈ c.args, a.IsPlain) : Constraint.Simple c
  | reference {c : Constraint} (method : c.method = "objectSchemaType")
      (args : ∀ a ∈ c.args, ∃ r : TypeRef, a = .scalar (.reference r) ∧ r.IsUnicode) : Constraint.Simple c
  | elements {c : Constraint} (method : c.method = "includes" ∨ c.method = "excludes")
      (args : ∀ a ∈ c.args, a.Simple TypeRef.IsUnicode)
      (inside : ∀ a ∈ c.args, ∀ e, ElementDef.read a = .ok e → ∀ x ∈ e.constraints, Constraint.Simple x) : Constraint.Simple c

theorem Constraint.plain_of_values {c : Constraint} (h : ∀ a ∈ c.args, a.IsPlain) : c.plain = c := by
  unfold plain
  rw [Datum.plainItems_eq, List.map_congr_left fun a ha => (h a ha).plainData_eq, List.map_id']

/-- The methods of which descriptions of elements are the arguments. -/
theorem Kind.form?_elements {kind : Kind} {method : String} {form : ArgumentForm} {m : Method}
    (hmethod : method = "includes" ∨ method = "excludes") (hform : kind.form? method = some form)
    (hm : Method.ofName? kind method = some m) : form = .elements ∧ (m = .includes ∨ m = .excludes) := by
  rcases hmethod with rfl | rfl <;> cases kind <;> cases hform <;> cases hm
  · exact ⟨rfl, .inl rfl⟩
  · exact ⟨rfl, .inr rfl⟩

theorem Kind.form?_reference {kind : Kind} {form : ArgumentForm} {m : Method} (hform : kind.form? "objectSchemaType" = some form)
    (hm : Method.ofName? kind "objectSchemaType" = some m) : form = .reference ∧ m = .reference := by
  cases kind <;> cases hform
  cases hm
  exact ⟨rfl, rfl⟩

namespace Capabilities

theorem standard_compileConstraint {kind : Kind} {c : Constraint} {form : ArgumentForm} {m : Method}
    {element : Datum → Except CompileError PropertyChecker} (hform : kind.form? c.method = some form)
    (hfits : form.fit c.args = .fits) (hm : Method.ofName? kind c.method = some m) (checker : PropertyChecker) :
    standard.compileConstraint kind c (fun a _ => element a) checker = m.apply c.args (fun a _ => element a) checker := by
  unfold compileConstraint
  rw [standard_check_ok.2 ⟨hform, hfits⟩, hm]
  rfl

/-- Constraints that compile compile to the same as they are written, if each of them does. -/
theorem compileConstraints_plain {kind : Kind} {element : String → Datum → Except CompileError PropertyChecker} :
    ∀ {cs : List Constraint} {checker checker' : PropertyChecker},
      (∀ c ∈ cs, ∀ before after, standard.compileConstraint kind c (fun a _ => element c.method a) before = .ok after →
        standard.compileConstraint kind c.plain (fun a _ => element c.method a) before = .ok after) →
      standard.compileConstraints kind cs (fun m a _ => element m a) checker = .ok checker' →
      standard.compileConstraints kind (cs.map Constraint.plain) (fun m a _ => element m a) checker = .ok checker'
  | [], checker, checker', _, h => by
    unfold compileConstraints at h
    cases h
    rfl
  | c :: rest, checker, checker', hplain, h => by
    unfold compileConstraints at h
    obtain ⟨next, hnext, h⟩ := Except.bind_eq_ok.1 h
    rw [List.map_cons]
    unfold compileConstraints
    exact Except.bind_eq_ok.2 ⟨next, hplain c (List.mem_cons_self ..) _ _ hnext,
      compileConstraints_plain (fun c' hc' => hplain c' (List.mem_cons_of_mem _ hc')) h⟩

/-- A constraint compiles to the same as it is written. The induction is on the places where references may stand. -/
theorem compileConstraint_plain {c : Constraint} (h : c.Simple) : ∀ {kind : Kind} {before after : PropertyChecker},
    standard.compileConstraint kind c (fun a _ => standard.compileElement c.method a) before = .ok after →
    standard.compileConstraint kind c.plain (fun a _ => standard.compileElement c.method a) before = .ok after := by
  induction h with
  | values args =>
    intro kind before after hcompile
    rw [Constraint.plain_of_values args]
    exact hcompile
  | @reference c method args =>
    intro kind before after hcompile
    obtain ⟨form, m, hcheck, hm, happly⟩ := compileConstraint_eq_ok hcompile
    obtain ⟨hform, hfits⟩ := standard_check_ok.1 hcheck
    rw [method] at hform hm
    obtain ⟨rfl, rfl⟩ := Kind.form?_reference hform hm
    obtain ⟨name, xs⟩ := c
    cases ArgumentForm.takes_iff.2 ⟨hfits, nofun⟩ with
    | @reference a ref _ =>
      obtain ⟨r, rfl, hr⟩ := args a (List.mem_singleton_self a)
      obtain rfl : name = "objectSchemaType" := method
      have hread := TypeRef.read_datum hr
      have hplain : Constraint.plain ⟨"objectSchemaType", [.scalar (.reference r)]⟩ = ⟨"objectSchemaType", [r.datum]⟩ := by
        unfold Constraint.plain
        rw [Datum.plainItems, Datum.plainItems, Datum.plainData]
      have hfits' : ArgumentForm.fit .reference [r.datum] = .fits := (ArgumentForm.takes_iff.1 (.reference hread)).1
      have hsame : referenceRule [r.datum] = referenceRule [.scalar (.reference r)] :=
        (referenceRule_of_read hread).trans (referenceRule_of_read rfl).symm
      rw [hplain, standard_compileConstraint hform hfits' hm, ← happly]
      change (referenceRule [r.datum] >>= fun x => pure (before.addRule x)) = (referenceRule [.scalar (.reference r)] >>= _)
      rw [hsame]
  | @elements c method args inside ih =>
    intro kind before after hcompile
    obtain ⟨form, m, hcheck, hm, happly⟩ := compileConstraint_eq_ok hcompile
    obtain ⟨hform, hfits⟩ := standard_check_ok.1 hcheck
    obtain ⟨rfl, hmethod⟩ := Kind.form?_elements method hform hm
    have hfits' : ArgumentForm.fit .elements c.plain.args = .fits := by
      have hmappings : c.args ≠ [] ∧ ∀ a ∈ c.args, ArgumentForm.isMapping a = true := by simpa [ArgumentForm.fit] using hfits
      have hplain : ∀ a ∈ c.args, ArgumentForm.isMapping a.plainData = true := by
        intro a ha
        have hmapping := hmappings.2 a ha
        rw [(args a ha).isMapping_eq] at hmapping
        obtain ⟨es, hes⟩ := Option.isSome_iff_exists.1 hmapping
        rw [(args a ha).isPlain_plainData.isMapping_eq]
        exact Option.isSome_iff_exists.2 ⟨_, (args a ha).entries?_plainData hes⟩
      simpa [ArgumentForm.fit, Constraint.plain, Datum.plainItems_eq, hmappings.1] using hplain
    have helement : ∀ a ∈ c.args, ∀ x, standard.compileElement c.method a = .ok x →
        standard.compileElement c.method a.plainData = .ok x := by
      intro a ha x hx
      obtain ⟨e, k, he, hk, hcs⟩ := compileElement_eq_ok hx
      have hread := ElementDef.read_plainData (args a ha) he
      rw [compileElement_of_read hread]
      exact Except.bind_eq_ok.2 ⟨k, hk, compileConstraints_plain (fun y hy before after h => ih a ha e he y hy h) hcs⟩
    have hall : ∀ {xs : List PropertyChecker},
        List.Forall₂ (fun a x => standard.compileElement c.method a = .ok x) c.args xs →
        List.Forall₂ (fun a x => standard.compileElement c.method a = .ok x) c.plain.args xs := by
      intro xs hxs
      unfold Constraint.plain
      rw [Datum.plainItems_eq, List.forall₂_map_left_iff]
      exact List.Forall₂.imp_of_mem_left hxs helement
    rw [standard_compileConstraint (c := c.plain) hform hfits' hm]
    rcases hmethod with rfl | rfl
    · obtain ⟨elements, helements, happly⟩ := Except.bind_eq_ok.1 happly
      exact Except.bind_eq_ok.2 ⟨elements, elements_of_forall₂ (hall (elements_eq_ok helements)), happly⟩
    · obtain ⟨elements, helements, happly⟩ := Except.bind_eq_ok.1 happly
      exact Except.bind_eq_ok.2 ⟨elements, elements_of_forall₂ (hall (elements_eq_ok helements)), happly⟩

end Capabilities

end ShapeCheck
