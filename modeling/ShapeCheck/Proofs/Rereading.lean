import ShapeCheck.Definition.Printing
import ShapeCheck.Proofs.Names
import ShapeCheck.Proofs.Rendering

/-!
# Definitions that are built again

`TypeDef.plain` is a definition as it is written. What is written of a definition that compiles is built again, after any
notices, to the definition as it is written and to the same checker: `TypeDef.Compiles.rebuilt`. A definition as it is written
is written as before: `TypeDef.datum_plain`.
-/

namespace ShapeCheck

open Shape

/-! ## Definitions as they are written -/

mutual
/-- A property with its arguments as they are written. -/
def PropertyDef.plain : PropertyDef → PropertyDef
  | ⟨description, kind, constraints, inlineTypes⟩ =>
    ⟨description, kind, constraints.map Constraint.plain,
      match inlineTypes with
      | none => none
      | some ts => some (TypeDef.plainAll ts)⟩
/-- A type with its arguments as they are written. -/
def TypeDef.plain : TypeDef → TypeDef
  | ⟨name, description, leniency, properties⟩ => ⟨name, description, leniency, PropertyDef.plainFields properties⟩
def TypeDef.plainAll : List TypeDef → List TypeDef
  | [] => []
  | t :: rest => t.plain :: TypeDef.plainAll rest
def PropertyDef.plainFields : List (String × PropertyDef) → List (String × PropertyDef)
  | [] => []
  | (name, p) :: rest => (name, p.plain) :: PropertyDef.plainFields rest
end

/-- References stand in the constraints of a property only where they are asked for. -/
def PropertyDef.Simple (p : PropertyDef) : Prop := ∀ c ∈ p.constraints, c.Simple

/-- References stand in a type, at every level, only where they are asked for. -/
def TypeDef.Simple (t : TypeDef) : Prop := ∀ p ∈ t.within, p.Simple

theorem Constraint.Simple.args {c : Constraint} (h : c.Simple) : ∀ a ∈ c.args, a.Simple TypeRef.IsUnicode := by
  intro a ha
  cases h with
  | values args =>
    have hmono : ∀ {d : Datum}, d.IsPlain → d.Simple TypeRef.IsUnicode := by
      intro d hd
      unfold Datum.IsPlain at hd
      induction hd with
      | scalar reference => exact .scalar fun r hr => (reference r hr).elim
      | list _ ih => exact .list ih
      | mapping _ ih => exact .mapping ih
    exact hmono (args a ha)
  | reference _ args =>
    obtain ⟨r, rfl, hr⟩ := args a ha
    exact .scalar fun r' heq => by
      cases heq
      exact hr
  | elements _ args => exact args a ha

/-- A constraint as it is written is written as before. -/
theorem Constraint.datum_plain {c : Constraint} (h : c.Simple) : c.plain.datum = c.datum := by
  have hargs : Datum.plainItems (Datum.plainItems c.args) = Datum.plainItems c.args := by
    rw [Datum.plainItems_eq, Datum.plainItems_eq, List.map_map]
    exact List.map_congr_left fun a ha => (h.args a ha).isPlain_plainData.plainData_eq
  unfold datum plain
  rw [hargs]

mutual
theorem PropertyDef.datum_plain : ∀ {p : PropertyDef}, (∀ q ∈ p.within, q.Simple) → p.plain.datum = p.datum
  | ⟨description, kind, constraints, none⟩, h => by
    rw [PropertyDef.within, List.forall_mem_singleton] at h
    have hconstraints : (constraints.map Constraint.plain).map Constraint.datum = constraints.map Constraint.datum := by
      rw [List.map_map]
      exact List.map_congr_left fun c hc => Constraint.datum_plain (h c hc)
    rw [PropertyDef.plain, PropertyDef.datum, PropertyDef.datum, hconstraints]
  | ⟨description, kind, constraints, some types⟩, h => by
    rw [PropertyDef.within, List.forall_mem_cons] at h
    have hconstraints : (constraints.map Constraint.plain).map Constraint.datum = constraints.map Constraint.datum := by
      rw [List.map_map]
      exact List.map_congr_left fun c hc => Constraint.datum_plain (h.1 c hc)
    rw [PropertyDef.plain, PropertyDef.datum, PropertyDef.datum, hconstraints, TypeDef.namedData_plain h.2]
theorem TypeDef.namedData_plain : ∀ {ts : List TypeDef}, (∀ q ∈ TypeDef.withinAll ts, q.Simple) →
    TypeDef.namedData (TypeDef.plainAll ts) = TypeDef.namedData ts
  | [], _ => by rw [TypeDef.plainAll]
  | ⟨name, description, leniency, properties⟩ :: rest, h => by
    rw [TypeDef.withinAll, TypeDef.within, List.forall_mem_append] at h
    rw [TypeDef.plainAll, TypeDef.plain, TypeDef.namedData, TypeDef.namedData, PropertyDef.entries_plain h.1,
      TypeDef.namedData_plain h.2]
/-- A definition as it is written is written as before. -/
theorem TypeDef.datum_plain : ∀ {t : TypeDef}, t.Simple → t.plain.datum = t.datum
  | ⟨name, description, leniency, properties⟩, h => by
    unfold TypeDef.Simple at h
    rw [TypeDef.within] at h
    rw [TypeDef.plain, TypeDef.datum, TypeDef.datum, PropertyDef.entries_plain h]
theorem PropertyDef.entries_plain : ∀ {ps : List (String × PropertyDef)}, (∀ q ∈ PropertyDef.withinFields ps, q.Simple) →
    PropertyDef.entries (PropertyDef.plainFields ps) = PropertyDef.entries ps
  | [], _ => by rw [PropertyDef.plainFields]
  | (name, p) :: rest, h => by
    rw [PropertyDef.withinFields, List.forall_mem_append] at h
    rw [PropertyDef.plainFields, PropertyDef.entries, PropertyDef.entries, PropertyDef.datum_plain h.1,
      PropertyDef.entries_plain h.2]
end

/-! ## Names that have a meaning -/

theorem Kind.someText_name {name : String} {kind : Kind} (h : Kind.ofName? name = some kind) :
    Reading.someText (.text name) = .ok name := by
  obtain rfl := Kind.name_of_ofName? h
  cases kind <;> exact Reading.textWhere_text (by decide) (by decide)

theorem Method.someText_name {kind : Kind} {name : String} {m : Method} (h : Method.ofName? kind name = some m) :
    Reading.someText (.text name) = .ok name := by
  have hall : ∀ p ∈ Method.own kind ++ Method.base, p.1 ≠ "" ∧ Text.hasSurrogate p.1 = false := by
    cases kind <;> decide
  obtain ⟨hsome, hunicode⟩ := hall _ (ofName?_mem h)
  exact Reading.textWhere_text hunicode (decide_eq_true hsome)

/-- A constraint is read back from what is written of it, as it is written. -/
theorem Constraint.read_datum {c : Constraint} (hmethod : Reading.someText (.text c.method) = .ok c.method) :
    Constraint.read c.datum = .ok c.plain := by
  have hread : ∀ {r : Record}, ⟨c.datum, [(Key.text "method", Datum.text c.method),
      (Key.text "args", .list (Datum.plainItems c.args))]⟩ = r → Constraint.ofRecord r = .ok c.plain := by
    intro r hr
    have hname : r.required .method Reading.someText = .ok c.method := Record.required_of_find? (by rw [← hr]; rfl) hmethod
    have hargs : r.optional .args [] arguments = .ok (Datum.plainItems c.args) :=
      Record.optional_of_find? (by rw [← hr]; rfl) rfl
    have hclose : r.close [.method, .args] = .ok () := by
      rw [← hr]
      rfl
    exact Reading.map_eq_ok.2 ⟨((c.method, Datum.plainItems c.args), ()),
      Record.closing_eq_ok.2 ⟨Reading.both_eq_ok.2 ⟨hname, hargs⟩, hclose⟩, rfl⟩
  exact hread rfl

namespace Capabilities

/-- Methods of constraints that compile have a meaning. -/
theorem compileConstraints_methods {caps : Capabilities} {kind : Kind} {element : String → Datum → Except CompileError PropertyChecker} :
    ∀ {cs : List Constraint} {c c' : PropertyChecker}, caps.compileConstraints kind cs (fun m a _ => element m a) c = .ok c' →
      ∀ x ∈ cs, ∃ m, Method.ofName? kind x.method = some m
  | [], _, _, _, x, hx => nomatch hx
  | y :: rest, c, c', h, x, hx => by
    unfold compileConstraints at h
    obtain ⟨next, hnext, h⟩ := Except.bind_eq_ok.1 h
    obtain ⟨_, m, _, hm, _⟩ := compileConstraint_eq_ok hnext
    rcases List.mem_cons.1 hx with rfl | hx
    · exact ⟨m, hm⟩
    · exact compileConstraints_methods h x hx

/-- The constraints of a property that compiles are read back from what is written of them. -/
theorem read_datum {caps : Capabilities} {kindName : String} {constraints : List Constraint} {types : Option (List TypeChecker)}
    {c : PropertyChecker} (h : caps.compileProperty kindName constraints types = .ok c) :
    Reading.someText (.text kindName) = .ok kindName ∧ ∀ x ∈ constraints, Constraint.read x.datum = .ok x.plain := by
  obtain ⟨kind, checker, hkind, hcs, _⟩ := compileProperty_eq_ok h
  refine ⟨Kind.someText_name (kindNamed_eq_ok hkind), fun x hx => ?_⟩
  obtain ⟨m, hm⟩ := compileConstraints_methods hcs x hx
  exact Constraint.read_datum (Method.someText_name hm)

/-- A property compiles to the same as it is written. -/
theorem compileProperty_plain {kindName : String} {constraints : List Constraint} {types : Option (List TypeChecker)}
    {c : PropertyChecker} (hsimple : ∀ x ∈ constraints, x.Simple)
    (h : standard.compileProperty kindName constraints types = .ok c) :
    standard.compileProperty kindName (constraints.map Constraint.plain) types = .ok c := by
  unfold compileProperty at h ⊢
  obtain ⟨kind, hkind, h⟩ := Except.bind_eq_ok.1 h
  obtain ⟨checker, hchecker, h⟩ := Except.bind_eq_ok.1 h
  exact Except.bind_eq_ok.2 ⟨kind, hkind, Except.bind_eq_ok.2 ⟨checker,
    compileConstraints_plain (fun x hx _ _ hx' => compileConstraint_plain (hsimple x hx) hx') hchecker, h⟩⟩

end Capabilities

/-! ## Builds of what is written -/

namespace Building

variable {α : Type} {around : Surroundings}

theorem yields_items {xs : List Datum} {ys : List α} : ∀ {i : Nat} {read : (d : Datum) → d ∈ xs → Building (Reading α)},
    List.Forall₂ (fun d y => ∀ hd, Yields (read d hd) (.ok y)) xs ys → Yields (items i xs read) (.ok ys) := by
  induction xs generalizing ys with
  | nil =>
    intro i read h
    cases h
    unfold items
    exact yields_pure _
  | cons d rest ih =>
    intro i read h
    cases h with
    | cons hfirst hrest =>
      unfold items
      refine yields_bind (hfirst _) (yields_bind (ih (hrest.imp fun e y h he => h _)) ?_)
      exact yields_pure _

theorem yields_entries {es : List (Key × Datum)} {ps : List (String × α)} :
    ∀ {read : (d : Datum) → (∃ k, (k, d) ∈ es) → Building (Reading α)},
      List.Forall₂ (fun e p => Reading.keyText e.1 = .ok p.1 ∧ ∀ hd, Yields (read e.2 hd) (.ok p.2)) es ps →
      Yields (entries es read) (.ok ps) := by
  induction es generalizing ps with
  | nil =>
    intro read h
    cases h
    unfold entries
    exact yields_pure _
  | cons e rest ih =>
    intro read h
    obtain ⟨k, d⟩ := e
    cases h with
    | @cons _ p _ ps hfirst hrest =>
      unfold entries
      refine yields_bind (hfirst.2 _) (yields_bind (ih (hrest.imp fun e p h => ⟨h.1, fun hd => h.2 _⟩)) ?_)
      rw [hfirst.1]
      exact yields_pure _

/-- A property is built from a record of what it compiles from, given the types in place. -/
theorem yields_property (objects : Option (List ObjectType)) {d : Datum} {r : Record}
    {description : Option String} {kind : String} {constraints : List Constraint} {c : PropertyChecker}
    (hr : Record.ofDatum "Property" d = .ok r) (hnote : r.optional .description none Reading.note = .ok description)
    (hkind : r.required .kind Reading.someText = .ok kind)
    (hconstraints : r.optional .constraints [] Reading.constraints = .ok constraints)
    (hclose : r.close PropertyDef.fields = .ok ())
    (hcompile : around.capabilities.compileProperty kind constraints (objects.map (·.map ObjectType.checker)) = .ok c)
    (htypes : match objects with
      | none => Field.inlineTypes.find? r.entries = none
      | some us => ∃ s xs, Field.inlineTypes.find? r.entries = some (s, .list xs) ∧
        List.Forall₂ (fun x u => Yields (Building.type around x) (.ok u)) xs us) :
    Yields (Building.property around d)
      (.ok (⟨description, kind, constraints, objects.map (·.map ObjectType.definition)⟩, c)) := by
  unfold Building.property
  split
  · cases hr
  split
  · next hbad => cases hr.symm.trans hbad
  next r' hr' =>
  cases hr.symm.trans hr'
  refine yields_bind (x := .ok objects) ?_ ?_
  · cases objects with
    | none => exact yields_optional_none htypes
    | some us =>
      obtain ⟨s, xs, hfound, hxs⟩ := htypes
      refine yields_optional_some hfound fun hd => ?_
      rw [if_neg (by exact Bool.false_ne_true)]
      split
      · next hnone => cases hnone
      next ys hys =>
      cases hys
      have hitems : List.Forall₂ (fun x u => ∀ _ : x ∈ xs, Yields (Building.type around x) (.ok u)) xs us := by
        refine hxs.imp ?_
        exact fun _ _ h _ => h
      exact yields_bind (yields_items hitems) (yields_pure _)
  · rw [hnote, hkind, hconstraints, Record.closing_of_close hclose]
    dsimp only [Reading.both]
    unfold Capabilities.finishProperty
    dsimp only
    rw [hcompile]
    exact yields_pure _

/-- A type is built from a record of what is read of it, given its properties. Of two properties under one name the later one
stays. -/
theorem yields_type {es : List (Key × Datum)} {name description : Option String} {leniency : Leniency} {s : String}
    {fields : List (String × Datum)} {ps : List (String × (PropertyDef × PropertyChecker))}
    (hname : Record.optional ⟨.mapping es, es⟩ .typeName none Reading.note = .ok name)
    (hnote : Record.optional ⟨.mapping es, es⟩ .description none Reading.note = .ok description)
    (hflags : Leniency.ofRecord ⟨.mapping es, es⟩ = .ok leniency) (hclose : Record.close ⟨.mapping es, es⟩ TypeDef.fields = .ok ())
    (hfound : Field.properties.find? es = some (s, .record fields))
    (hps : List.Forall₂ (fun e p => e.1 = p.1 ∧ Yields (Building.property around e.2) (.ok p.2)) fields ps) :
    Yields (Building.type around (.mapping es)) (.ok ⟨⟨name, description, leniency, (Assoc.ofList ps).map fun (n, p) => (n, p.1)⟩,
      ⟨(Assoc.ofList ps).map fun (n, p) => (n, p.2), leniency⟩⟩) := by
  unfold Building.type
  split
  · next hbad => cases hbad
  next r hr =>
  cases hr
  refine yields_bind (x := .ok (Assoc.ofList ps)) (yields_optional_some hfound fun hd => ?_) ?_
  · split
    · next hnone => cases hnone
    next fs hfs =>
    cases hfs
    have hentries : List.Forall₂ (fun e p => Reading.keyText e.1 = .ok p.1 ∧
        ∀ _ : ∃ k, (k, e.2) ∈ fields.map fun f => (Key.text f.1, f.2), Yields (Building.property around e.2) (.ok p.2))
        (fields.map fun f => (Key.text f.1, f.2)) ps := by
      rw [List.forall₂_map_left_iff]
      exact hps.imp fun e p h => ⟨h.1 ▸ rfl, fun _ => h.2⟩
    exact yields_bind (yields_entries hentries) (yields_pure _)
  · rw [hname, hnote, hflags, Record.closing_of_close hclose]
    refine yields_bind (x := ⟨⟨name, description, leniency, (Assoc.ofList ps).map fun (n, p) => (n, p.1)⟩,
        ⟨(Assoc.ofList ps).map fun (n, p) => (n, p.2), leniency⟩⟩) ?_ (yields_pure _)
    exact yields_bind (x := ()) (fun _ => rfl) (yields_pure _)

end Building

/-! ## Definitions that compile -/

theorem Reading.constraints_datum {constraints : List Constraint} (h : ∀ x ∈ constraints, Constraint.read x.datum = .ok x.plain) :
    Reading.constraints (.list (constraints.map Constraint.datum)) = .ok (constraints.map Constraint.plain) := by
  have hitems : ∀ {cs : List Constraint} {i : Nat}, (∀ x ∈ cs, Constraint.read x.datum = .ok x.plain) →
      Reading.itemsFrom Constraint.read i (cs.map Constraint.datum) = .ok (cs.map Constraint.plain) := by
    intro cs
    induction cs with
    | nil => exact fun _ => rfl
    | cons x rest ih =>
      intro i h
      rw [List.forall_mem_cons] at h
      exact Reading.map_eq_ok.2 ⟨(x.plain, rest.map Constraint.plain),
        Reading.both_eq_ok.2 ⟨Reading.under_eq_ok.2 h.1, ih h.2⟩, rfl⟩
  exact hitems h

/-- The entries that are written of a property, with those of its types in place. -/
def PropertyDef.writtenEntries (description : Option String) (kind : String) (constraints : List Constraint)
    (types : List (String × Datum)) : List (Key × Datum) :=
  (noteField "description" description ++
    [("type", Datum.text kind), ("constraints", .list (constraints.map Constraint.datum))] ++ types).map
      fun (k, d) => (Key.text k, d)

/-- What is read of a property that is written, with its types in place or without any. -/
theorem PropertyDef.read_writtenEntries (whole : Datum) (description : Option String) {kind : String}
    {constraints : List Constraint} {types : List (String × Datum)} (htypes : types = [] ∨ ∃ v, types = [("typeArgs", v)])
    (hkind : Reading.someText (.text kind) = .ok kind) (hread : ∀ x ∈ constraints, Constraint.read x.datum = .ok x.plain) :
    let r : Record := ⟨whole, PropertyDef.writtenEntries description kind constraints types⟩
    r.optional .description none Reading.note = .ok description ∧ r.required .kind Reading.someText = .ok kind ∧
      r.optional .constraints [] Reading.constraints = .ok (constraints.map Constraint.plain) ∧
      r.close PropertyDef.fields = .ok () ∧ Field.inlineTypes.find? r.entries = types.head? := by
  intro r
  have hconstraints := Reading.constraints_datum hread
  have hfound : Field.constraints.find? r.entries = some ("constraints", .list (constraints.map Constraint.datum)) := by
    rcases htypes with rfl | ⟨v, rfl⟩ <;> cases description <;> rfl
  have hnamed : Field.kind.find? r.entries = some ("type", .text kind) := by
    rcases htypes with rfl | ⟨v, rfl⟩ <;> cases description <;> rfl
  refine ⟨?_, ?_, ?_, ?_, ?_⟩
  · rcases htypes with rfl | ⟨v, rfl⟩ <;> cases description <;> rfl
  · exact Record.required_of_find? hnamed hkind
  · exact Record.optional_of_find? hfound hconstraints
  · rcases htypes with rfl | ⟨v, rfl⟩ <;> cases description <;> rfl
  · rcases htypes with rfl | ⟨v, rfl⟩ <;> cases description <;> rfl

/-- The entries that are written of a type, with more in front of them and behind them. -/
def TypeDef.writtenEntries (before : List (String × Datum)) (description : Option String) (leniency : Leniency)
    (fields after : List (String × Datum)) : List (Key × Datum) :=
  (before ++ noteField "description" description ++ leniency.entries ++ [("properties", Datum.record fields)] ++ after).map
    fun (k, d) => (Key.text k, d)

/-- A type is built from what is written of it with its name in front or behind, given its properties. -/
theorem Building.yields_writtenEntries {around : Surroundings} {before after : List (String × Datum)}
    (name description : Option String) (leniency : Leniency) {fields : List (String × Datum)}
    {ps : List (String × (PropertyDef × PropertyChecker))}
    (hname : (before = noteField "name" name ∧ after = []) ∨ ∃ n, before = [] ∧ after = [("name", .text n)] ∧ name = some n)
    (hps : List.Forall₂ (fun e p => e.1 = p.1 ∧ Yields (Building.property around e.2) (.ok p.2)) fields ps) :
    Yields (Building.type around (.mapping (TypeDef.writtenEntries before description leniency fields after)))
      (.ok ⟨⟨name, description, leniency, (Assoc.ofList ps).map fun (n, p) => (n, p.1)⟩,
        ⟨(Assoc.ofList ps).map fun (n, p) => (n, p.2), leniency⟩⟩) := by
  obtain ⟨allowExtraKeys, skipFunctions, saveConversions, skipConversions, stripExtraKeys⟩ := leniency
  refine yields_type (s := "properties") ?_ ?_ ?_ ?_ ?_ hps <;>
    rcases hname with ⟨rfl, rfl⟩ | ⟨n, rfl, rfl, rfl⟩ <;> try cases name
  all_goals cases description <;> rfl

/-- No property is lost where no two have one name. -/
theorem Building.yields_distinctEntries {around : Surroundings} {before after : List (String × Datum)}
    (name description : Option String) (leniency : Leniency) {fields : List (String × Datum)}
    {ps : List (String × (PropertyDef × PropertyChecker))} {properties : List (String × PropertyDef)}
    {checkers : List (String × PropertyChecker)}
    (hname : (before = noteField "name" name ∧ after = []) ∨ ∃ n, before = [] ∧ after = [("name", .text n)] ∧ name = some n)
    (hps : List.Forall₂ (fun e p => e.1 = p.1 ∧ Yields (Building.property around e.2) (.ok p.2)) fields ps)
    (hproperties : ps.map (fun (n, p) => (n, p.1)) = properties) (hcheckers : ps.map (fun (n, p) => (n, p.2)) = checkers)
    (hdistinct : (checkers.map Prod.fst).Nodup) :
    Yields (Building.type around (.mapping (TypeDef.writtenEntries before description leniency fields after)))
      (.ok ⟨⟨name, description, leniency, properties⟩, ⟨checkers, leniency⟩⟩) := by
  subst hproperties hcheckers
  rw [List.map_map] at hdistinct
  have hyields := yields_writtenEntries name description leniency hname hps
  rw [Assoc.ofList_of_nodup hdistinct] at hyields
  exact hyields

section Rebuilt

variable {around : Surroundings}

mutual
theorem PropertyDef.Compiles.rebuilt (hstandard : around.capabilities = .standard) :
    ∀ {p : PropertyDef} {c : PropertyChecker}, p.Compiles (· = .standard) c →
    c.Every PropertyChecker.NamesInside → (∀ q ∈ p.within, q.Simple) →
    Building.Yields (Building.property around p.datum) (.ok (p.plain, c))
  | ⟨description, kind, constraints, none⟩, c, h, hnames, hsimple => by
    rw [PropertyDef.Compiles] at h
    obtain ⟨_, rfl, hcompile⟩ := h
    rw [PropertyDef.within, List.forall_mem_singleton] at hsimple
    obtain ⟨hkind, hread⟩ := Capabilities.read_datum hcompile
    have hdatum : PropertyDef.datum ⟨description, kind, constraints, none⟩ =
        .mapping (PropertyDef.writtenEntries description kind constraints []) := by
      rw [PropertyDef.datum]
      rfl
    obtain ⟨hnote, hkind, hconstraints, hclose, hfound⟩ := PropertyDef.read_writtenEntries
      (.mapping (PropertyDef.writtenEntries description kind constraints [])) description (.inl rfl) hkind hread
    rw [PropertyDef.plain, hdatum]
    exact Building.yields_property none rfl hnote hkind hconstraints hclose
      (hstandard ▸ Capabilities.compileProperty_plain hsimple hcompile) hfound
  | ⟨description, kind, constraints, some types⟩, c, h, hnames, hsimple => by
    rw [PropertyDef.Compiles] at h
    obtain ⟨_, checkers, rfl, htypes, hcompile⟩ := h
    rw [PropertyDef.within, List.forall_mem_cons] at hsimple
    obtain ⟨hkind, hread⟩ := Capabilities.read_datum hcompile
    have hdatum : PropertyDef.datum ⟨description, kind, constraints, some types⟩ = .mapping
        (PropertyDef.writtenEntries description kind constraints [("typeArgs", .list (TypeDef.namedData types))]) := by
      rw [PropertyDef.datum]
      rfl
    obtain ⟨hnote, hkind, hconstraints, hclose, hfound⟩ := PropertyDef.read_writtenEntries
      (.mapping (PropertyDef.writtenEntries description kind constraints [("typeArgs", .list (TypeDef.namedData types))]))
      description (.inr ⟨_, rfl⟩) hkind hread
    have hnamed : ∀ t ∈ checkers, t.Named := by
      obtain ⟨_, checker, _, _, ⟨hnone, _⟩ | ⟨t, hone, _, _, rfl⟩⟩ := Capabilities.compileProperty_eq_ok hcompile
      · cases hnone
      · cases hone
        rw [List.forall_mem_singleton]
        obtain ⟨hown, hrules⟩ := PropertyChecker.every_iff.1 hnames
        have hmem : Rule.inlineType t ∈ (checker.addRule (.inlineType t)).rules := by simp
        exact ⟨hown t hmem, Rule.every_inlineType.1 (hrules _ hmem)⟩
    obtain ⟨us, hus, hdefs, hcheckers⟩ := TypeDef.compilesAll_rebuilt hstandard htypes hnamed hsimple.2
    rw [PropertyDef.plain, hdatum, ← hdefs]
    refine Building.yields_property (some us) rfl hnote hkind hconstraints hclose ?_ ⟨_, _, hfound, hus⟩
    rw [hstandard, Option.map_some, hcheckers]
    exact Capabilities.compileProperty_plain hsimple.1 hcompile
theorem TypeDef.compilesAll_rebuilt (hstandard : around.capabilities = .standard) :
    ∀ {ds : List TypeDef} {ts : List TypeChecker}, TypeDef.CompilesAll (· = .standard) ds ts →
    (∀ t ∈ ts, t.Named) → (∀ q ∈ TypeDef.withinAll ds, q.Simple) →
    ∃ us : List ObjectType,
      List.Forall₂ (fun x u => Building.Yields (Building.type around x) (.ok u)) (TypeDef.namedData ds) us ∧
        us.map ObjectType.definition = TypeDef.plainAll ds ∧ us.map ObjectType.checker = ts
  | [], [], _, _, _ => by
    rw [TypeDef.namedData, TypeDef.plainAll]
    exact ⟨[], .nil, rfl, rfl⟩
  | [], _ :: _, h, _, _ => by
    unfold TypeDef.CompilesAll at h
    exact h.elim
  | _ :: _, [], h, _, _ => by
    unfold TypeDef.CompilesAll at h
    exact h.elim
  | ⟨name, description, leniency, properties⟩ :: ds, ⟨checkers, leniency'⟩ :: ts, h, hnamed, hsimple => by
    rw [TypeDef.CompilesAll, TypeDef.Compiles] at h
    obtain ⟨⟨rfl, hfields⟩, hrest⟩ := h
    rw [TypeDef.withinAll, TypeDef.within, List.forall_mem_append] at hsimple
    rw [List.forall_mem_cons] at hnamed
    obtain ⟨ps, hps, hdefs, hcheckers⟩ := PropertyDef.compilesFields_rebuilt hstandard hfields
      (PropertyChecker.everyOfFields_iff.1 hnamed.1.inside) hsimple.1
    obtain ⟨us, hus, hdefs', hcheckers'⟩ := TypeDef.compilesAll_rebuilt hstandard hrest hnamed.2 hsimple.2
    refine ⟨⟨⟨name, description, leniency, PropertyDef.plainFields properties⟩, ⟨checkers, leniency⟩⟩ :: us, ?_, ?_, ?_⟩
    · rw [TypeDef.namedData]
      refine .cons ?_ hus
      have hlist := Building.yields_distinctEntries name description leniency (.inl ⟨rfl, rfl⟩) hps hdefs hcheckers hnamed.1.own
      unfold TypeDef.writtenEntries at hlist
      rw [List.append_nil] at hlist
      exact hlist
    · rw [List.map_cons, hdefs', TypeDef.plainAll, TypeDef.plain]
    · rw [List.map_cons, hcheckers']
theorem PropertyDef.compilesFields_rebuilt (hstandard : around.capabilities = .standard) :
    ∀ {ds : List (String × PropertyDef)} {cs : List (String × PropertyChecker)}, PropertyDef.CompilesFields (· = .standard) ds cs →
    (∀ p ∈ cs, p.2.Every PropertyChecker.NamesInside) → (∀ q ∈ PropertyDef.withinFields ds, q.Simple) →
    ∃ ps : List (String × (PropertyDef × PropertyChecker)),
      List.Forall₂ (fun e p => e.1 = p.1 ∧ Building.Yields (Building.property around e.2) (.ok p.2)) (PropertyDef.entries ds) ps ∧
        ps.map (fun (n, p) => (n, p.1)) = PropertyDef.plainFields ds ∧ ps.map (fun (n, p) => (n, p.2)) = cs
  | [], [], _, _, _ => by
    rw [PropertyDef.entries, PropertyDef.plainFields]
    exact ⟨[], .nil, rfl, rfl⟩
  | [], _ :: _, h, _, _ => by
    unfold PropertyDef.CompilesFields at h
    exact h.elim
  | _ :: _, [], h, _, _ => by
    unfold PropertyDef.CompilesFields at h
    exact h.elim
  | (name, d) :: ds, (name', c) :: cs, h, hnames, hsimple => by
    rw [PropertyDef.CompilesFields] at h
    obtain ⟨heq, hd, hrest⟩ := h
    subst heq
    rw [PropertyDef.withinFields, List.forall_mem_append] at hsimple
    rw [List.forall_mem_cons] at hnames
    obtain ⟨ps, hps, hdefs, hcheckers⟩ := PropertyDef.compilesFields_rebuilt hstandard hrest hnames.2 hsimple.2
    refine ⟨(name, d.plain, c) :: ps, ?_, ?_, ?_⟩
    · rw [PropertyDef.entries]
      exact .cons ⟨rfl, PropertyDef.Compiles.rebuilt hstandard hd hnames.1 hsimple.1⟩ hps
    · rw [List.map_cons, hdefs, PropertyDef.plainFields]
    · rw [List.map_cons, hcheckers]
end

/-- **What is written of a definition is built again**, under any name, to the definition as it is written and to the same
checker. -/
theorem TypeDef.Compiles.rebuilt (hstandard : around.capabilities = .standard) {t : TypeDef} {checker : TypeChecker}
    (h : t.Compiles (· = .standard) checker) (hnamed : checker.Named) (hsimple : t.Simple) (name : String) :
    ∃ es, t.datum = .mapping es ∧
      Building.Yields (Building.type around (.mapping (Entries.put (.text "name") (.text name) es)))
        (.ok ⟨{ t.plain with name := some name }, checker⟩) := by
  obtain ⟨tname, description, leniency, properties⟩ := t
  obtain ⟨checkers, leniency'⟩ := checker
  rw [TypeDef.Compiles] at h
  obtain ⟨rfl, hfields⟩ := h
  unfold TypeDef.Simple at hsimple
  rw [TypeDef.within] at hsimple
  obtain ⟨ps, hps, hdefs, hcheckers⟩ := PropertyDef.compilesFields_rebuilt hstandard hfields
    (PropertyChecker.everyOfFields_iff.1 hnamed.inside) hsimple
  refine ⟨TypeDef.writtenEntries [] description leniency (PropertyDef.entries properties) [], ?_, ?_⟩
  · rw [TypeDef.datum]
    unfold TypeDef.writtenEntries
    rw [List.append_nil]
    rfl
  · have hput : Entries.put (.text "name") (.text name)
        (TypeDef.writtenEntries [] description leniency (PropertyDef.entries properties) []) =
        TypeDef.writtenEntries [] description leniency (PropertyDef.entries properties) [("name", .text name)] := by
      cases description <;> rfl
    rw [hput, TypeDef.plain]
    exact Building.yields_distinctEntries (some name) description leniency (.inr ⟨name, rfl, rfl, rfl⟩) hps hdefs hcheckers
      hnamed.own

end Rebuilt

end ShapeCheck
