import ShapeCheck.Proofs.Naming
import ShapeCheck.Proofs.Endings

/-!
# Legal definitions

`TypeDef.Legal` says which definitions the standard capabilities are for: at every level of types in place each property has
a known kind, and at every depth of descriptions of elements each constraint is in the table for its kind and has arguments
of the form that stands there. Two things keep legal definitions from being used: a limit of so many digits that no message can
name it, `TypeDef.Overlong`, and allowed or denied values that contain themselves and are compared without an end,
`TypeDef.Endless`. `Capabilities.compileProperty_ok_iff` says that the properties that compile are those that are legal and
neither of these, and `TypeDef.Compiles.passes` that nothing else is inside of a type that compiles.
-/

namespace ShapeCheck

open Shape

/-! ## What is legal -/

/-- The form of arguments that a method takes for a kind: a kind's own entry of the table, or the one for every kind. -/
def Kind.form? (kind : Kind) (method : String) : Option ArgumentForm :=
  ((Capabilities.standardOwn kind).get? method).or (Capabilities.standardBase.get? method)

/-- A mapping has a field for types in place. -/
def Datum.asksForTypes (d : Datum) : Bool := (d.target.entries?.bind Field.inlineTypes.find?).isSome

/-- A mapping describes an element: it is well formed, of a known kind, and without types in place. -/
def Datum.DescribesElement (d : Datum) : Prop :=
  ∃ e kind, ElementDef.read d = .ok e ∧ Kind.ofName? e.kind = some kind ∧ d.asksForTypes = false

/-- The arguments that have a form. A reference is well formed by what it is, however it is written. -/
inductive ArgumentForm.Takes : ArgumentForm → List Datum → Prop
  | nothing : Takes .nothing []
  | count {n : Int} (natural : 0 ≤ n) : Takes .count [.scalar (.number (.int n))]
  | number {n : Number} : Takes .number [.scalar (.number n)]
  | pattern {s : String} {program : Pattern.Program} (readable : Pattern.read s = .ok program) :
      Takes .pattern [.scalar (.text s)]
  | unflagged : Takes .optionalFlag []
  | flag {b : Bool} : Takes .optionalFlag [.scalar (.bool b)]
  | values {args : List Datum} (present : args ≠ []) : Takes .values args
  | keys {args : List Datum} (present : args ≠ []) (named : ∀ a ∈ args, ∃ s, s ≠ "" ∧ a = .scalar (.text s)) : Takes .keys args
  | elements {args : List Datum} (present : args ≠ []) (described : ∀ a ∈ args, a.DescribesElement) : Takes .elements args
  | reference {a : Datum} {ref : TypeRef} (readable : TypeRef.read a = .ok ref) : Takes .reference [a]

namespace Constraint

/-- A constraint is legal for a kind: its method is in the table, and its arguments have the form that stands there. -/
def Legal (kind : Kind) (c : Constraint) : Prop := ∃ form, kind.form? c.method = some form ∧ form.Takes c.args

/-- A constraint has a limit that cannot be written. -/
def Overlong (kind : Kind) (c : Constraint) : Prop :=
  (kind.form? c.method = some .count ∨ kind.form? c.method = some .number) ∧ ∃ a ∈ c.args, a.isTooLong = true

/-- A constraint for a kind that is a given one, or stands in descriptions of elements in it, at any depth. -/
inductive Inside : Kind → Constraint → Kind → Constraint → Prop
  | self {kind : Kind} {c : Constraint} : Inside kind c kind c
  | element {kind k k' : Kind} {c x y : Constraint} {a : Datum} {e : ElementDef} (form : kind.form? c.method = some .elements)
      (mem : a ∈ c.args) (formed : ElementDef.read a = .ok e) (known : Kind.ofName? e.kind = some k) (there : x ∈ e.constraints)
      (inner : Inside k x k' y) : Inside kind c k' y

/-- The description of an element in a constraint for a kind, at any depth. -/
inductive Describes : Kind → Constraint → ElementDef → Prop
  | here {kind : Kind} {c : Constraint} {a : Datum} {e : ElementDef} (form : kind.form? c.method = some .elements)
      (mem : a ∈ c.args) (formed : ElementDef.read a = .ok e) : Describes kind c e
  | element {kind k : Kind} {c x : Constraint} {a : Datum} {e f : ElementDef} (form : kind.form? c.method = some .elements)
      (mem : a ∈ c.args) (formed : ElementDef.read a = .ok e) (known : Kind.ofName? e.kind = some k) (there : x ∈ e.constraints)
      (inner : Describes k x f) : Describes kind c f

/-- A constraint is legal and can be written, with all that stands in it, and no description in it compares without an end. -/
structure Passes (kind : Kind) (c : Constraint) : Prop where
  inside : ∀ k x, Inside kind c k x → x.Legal k ∧ ¬ x.Overlong k
  ends : ∀ e, Describes kind c e → e.demand.Ends

theorem passes_iff {kind : Kind} {c : Constraint} : c.Passes kind ↔ (c.Legal kind ∧ ¬ c.Overlong kind) ∧
    (kind.form? c.method = some .elements → ∀ a ∈ c.args, ∀ e, ElementDef.read a = .ok e → e.demand.Ends ∧
      ∀ k, Kind.ofName? e.kind = some k → ∀ x ∈ e.constraints, x.Passes k) := by
  constructor
  · rintro ⟨h, hends⟩
    exact ⟨h _ _ .self, fun form a ha e he => ⟨hends e (.here form ha he), fun k hk x hx =>
      ⟨fun k' y hy => h k' y (.element form ha he hk hx hy), fun f hf => hends f (.element form ha he hk hx hf)⟩⟩⟩
  · rintro ⟨hself, hinner⟩
    constructor
    · intro k' y hy
      cases hy with
      | self => exact hself
      | element form ha he hk hx hy => exact ((hinner form _ ha _ he).2 _ hk _ hx).inside _ _ hy
    · intro f hf
      cases hf with
      | here form ha he => exact (hinner form _ ha _ he).1
      | element form ha he hk hx hf => exact ((hinner form _ ha _ he).2 _ hk _ hx).ends f hf

end Constraint

/-- A property is legal, apart from what is in its types in place: of these it has one at most, as an object without a
reference. -/
def PropertyDef.Legal (p : PropertyDef) : Prop :=
  ∃ kind, Kind.ofName? p.kind = some kind ∧ (∀ c ∈ p.constraints, ∀ k x, Constraint.Inside kind c k x → x.Legal k) ∧
    ∀ types ∈ p.inlineTypes, kind = .object ∧ types.length = 1 ∧ ∀ c ∈ p.constraints, c.method ≠ "objectSchemaType"

/-- A limit in a property cannot be written. -/
def PropertyDef.Overlong (p : PropertyDef) : Prop :=
  ∃ kind, Kind.ofName? p.kind = some kind ∧ ∃ c ∈ p.constraints, ∃ k x, Constraint.Inside kind c k x ∧ x.Overlong k

/-- Values that a property, or an element in it, allows or denies are compared without an end. -/
def PropertyDef.Endless (p : PropertyDef) : Prop :=
  ¬ p.demand.Ends ∨
    ∃ kind, Kind.ofName? p.kind = some kind ∧ ∃ c ∈ p.constraints, ∃ e, c.Describes kind e ∧ ¬ e.demand.Ends

mutual
/-- A property and those of its types in place, at every level. -/
def PropertyDef.within : PropertyDef → List PropertyDef
  | ⟨description, kind, constraints, none⟩ => [⟨description, kind, constraints, none⟩]
  | ⟨description, kind, constraints, some types⟩ => ⟨description, kind, constraints, some types⟩ :: TypeDef.withinAll types
def TypeDef.withinAll : List TypeDef → List PropertyDef
  | [] => []
  | t :: rest => t.within ++ TypeDef.withinAll rest
/-- The properties of a type, at every level of types in place. -/
def TypeDef.within : TypeDef → List PropertyDef
  | ⟨_, _, _, properties⟩ => PropertyDef.withinFields properties
def PropertyDef.withinFields : List (String × PropertyDef) → List PropertyDef
  | [] => []
  | (_, p) :: rest => p.within ++ PropertyDef.withinFields rest
end

/-- All properties are legal, at every level. -/
def TypeDef.Legal (t : TypeDef) : Prop := ∀ p ∈ t.within, p.Legal

/-- Some property has a limit that cannot be written, at some level. -/
def TypeDef.Overlong (t : TypeDef) : Prop := ∃ p ∈ t.within, p.Overlong

/-- Some property has values that are compared without an end, at some level. -/
def TypeDef.Endless (t : TypeDef) : Prop := ∃ p ∈ t.within, p.Endless

/-- A property is legal, and nothing keeps it from being used. -/
structure PropertyDef.Passes (p : PropertyDef) : Prop where
  legal : p.Legal
  writable : ¬ p.Overlong
  ends : ¬ p.Endless

theorem PropertyDef.passes_iff {p : PropertyDef} : p.Passes ↔
    ∃ kind, Kind.ofName? p.kind = some kind ∧ ((∀ c ∈ p.constraints, c.Passes kind) ∧ p.demand.Ends) ∧
      ∀ types ∈ p.inlineTypes, kind = .object ∧ types.length = 1 ∧ ∀ c ∈ p.constraints, c.method ≠ "objectSchemaType" := by
  constructor
  · rintro ⟨⟨kind, hkind, hlegal, htypes⟩, hwritable, hcompares⟩
    refine ⟨kind, hkind, ⟨fun c hc => ⟨fun k x hx => ⟨hlegal c hc k x hx, ?_⟩, fun e he => ?_⟩, ?_⟩, htypes⟩
    · exact fun hlong => hwritable ⟨kind, hkind, c, hc, k, x, hx, hlong⟩
    · exact by_contra fun hon => hcompares (.inr ⟨kind, hkind, c, hc, e, he, hon⟩)
    · exact by_contra fun hon => hcompares (.inl hon)
  · rintro ⟨kind, hkind, ⟨hpasses, hends⟩, htypes⟩
    refine ⟨⟨kind, hkind, fun c hc k x hx => ((hpasses c hc).inside k x hx).1, htypes⟩, ?_, ?_⟩
    · rintro ⟨kind', hkind', c, hc, k, x, hx, hlong⟩
      cases hkind.symm.trans hkind'
      exact ((hpasses c hc).inside k x hx).2 hlong
    · rintro (hon | ⟨kind', hkind', c, hc, e, he, hon⟩)
      · exact hon hends
      · cases hkind.symm.trans hkind'
        exact hon ((hpasses c hc).ends e he)

/-! ## The table -/

theorem Kind.name_of_ofName? {name : String} {kind : Kind} (h : Kind.ofName? name = some kind) : kind.name = name := by
  unfold ofName? at h
  simpa using List.find?_some h

/-- The form that a method takes stands in the table. -/
theorem Kind.form?_mem {kind : Kind} {name : String} {form : ArgumentForm} (h : kind.form? name = some form) :
    (name, form) ∈ Capabilities.standardOwn kind ++ Capabilities.standardBase := by
  rcases Option.or_eq_some_iff.1 h with h | ⟨_, h⟩
  · exact List.mem_append_left _ (Assoc.mem_of_get? h)
  · exact List.mem_append_right _ (Assoc.mem_of_get? h)

namespace Capabilities

theorem standard_kindNamed {name : String} {kind : Kind} : standard.kindNamed name = .ok kind ↔ Kind.ofName? name = some kind := by
  refine ⟨kindNamed_eq_ok, fun h => ?_⟩
  obtain rfl := Kind.name_of_ofName? h
  cases kind <;> rfl

theorem standard_own? (kind : Kind) : standard.own? (.text kind.name) = some (kind.name, standardOwn kind) := by
  cases kind <;> rfl

theorem standard_lookup_ok {kind : Kind} {name : String} {form : ArgumentForm} :
    standard.lookup (.text kind.name) name = .ok form ↔ kind.form? name = some form := by
  have hrequired : standard.requireKind (.text kind.name) = .ok (kind.name, standardOwn kind) := by
    unfold requireKind
    rw [standard_own?]
  have hform : ((standardOwn kind).get? name).or (standard.base.get? name) = kind.form? name := rfl
  unfold lookup
  rw [hrequired]
  dsimp only [bind, Except.bind]
  rw [hform]
  cases kind.form? name <;> simp

/-- What the standard capabilities let pass is what the table has, with arguments that fit. -/
theorem standard_check_ok {kind : Kind} {name : String} {args : List Datum} {form : ArgumentForm} :
    standard.check (.text kind.name) name args = .ok form ↔ kind.form? name = some form ∧ form.fit args = .fits := by
  rw [check_eq_ok, standard_lookup_ok]

end Capabilities

theorem Kind.form?_method {kind : Kind} {name : String} {form : ArgumentForm} (h : kind.form? name = some form) :
    ∃ m, Method.ofName? kind name = some m ∧ m.form = form := by
  have hall : ∀ p ∈ Capabilities.standardOwn kind ++ Capabilities.standardBase,
      (Method.ofName? kind p.1).map Method.form = some p.2 := by
    cases kind <;> decide
  exact Option.map_eq_some_iff.1 (hall _ (form?_mem h))

/-! ## Arguments that fit -/

theorem TypeRef.read_shape {d : Datum} {ref : TypeRef} (h : TypeRef.read d = .ok ref) :
    (∃ r, d = .scalar (.reference r)) ∨ ArgumentForm.isMapping d = true := by
  unfold TypeRef.read at h
  split at h
  · exact .inl ⟨_, rfl⟩
  · split at h
    · cases h
    · next r hr =>
      refine .inr ?_
      unfold ArgumentForm.isMapping
      rw [Record.ofDatum_eq_ok hr]
      exact Bool.or_true _

theorem ElementDef.read_isMapping {d : Datum} {e : ElementDef} (h : ElementDef.read d = .ok e) : ArgumentForm.isMapping d = true := by
  unfold ElementDef.read at h
  split at h
  · cases h
  · next r hr =>
    unfold ArgumentForm.isMapping
    rw [Record.ofDatum_eq_ok hr]
    exact Bool.or_true _

/-- Arguments have a form if they fit, and describe elements where these are asked for. -/
theorem ArgumentForm.takes_iff {form : ArgumentForm} {args : List Datum} :
    form.Takes args ↔ form.fit args = .fits ∧ (form = .elements → ∀ a ∈ args, a.DescribesElement) := by
  constructor
  · intro h
    cases h with
    | count natural => exact ⟨if_pos natural, nofun⟩
    | pattern readable =>
      refine ⟨?_, nofun⟩
      unfold fit
      dsimp only
      rw [readable]
    | values present =>
      refine ⟨?_, nofun⟩
      unfold fit
      split <;> simp_all
    | keys present named =>
      refine ⟨?_, nofun⟩
      have hkeys : args.all isKeyName = true := by
        rw [List.all_eq_true]
        intro a ha
        obtain ⟨s, hs, rfl⟩ := named a ha
        exact decide_eq_true hs
      simp [fit, hkeys, present]
    | elements present described =>
      refine ⟨?_, fun _ => described⟩
      have hmappings : args.all isMapping = true := by
        rw [List.all_eq_true]
        intro a ha
        obtain ⟨e, _, he, _⟩ := described a ha
        exact ElementDef.read_isMapping he
      simp [fit, hmappings, present]
    | reference readable =>
      refine ⟨?_, nofun⟩
      rcases TypeRef.read_shape readable with ⟨r, rfl⟩ | hmapping
      · rfl
      · unfold fit
        split <;> simp_all
    | _ => exact ⟨rfl, nofun⟩
  · rintro ⟨h, helements⟩
    cases form with
    | nothing =>
      match args, h with
      | [], _ => exact .nothing
    | count =>
      obtain ⟨n, rfl, hn⟩ := fit_count h
      exact .count hn
    | number =>
      obtain ⟨n, rfl⟩ := fit_number h
      exact .number
    | pattern =>
      match args, h with
      | [.scalar (.text s)], h =>
        unfold fit at h
        dsimp only at h
        split at h
        · next program hread => exact .pattern hread
        · cases h
        · cases h
    | optionalFlag =>
      match args, h with
      | [], _ => exact .unflagged
      | [.scalar (.bool b)], _ => exact .flag
    | values =>
      match args, h with
      | _ :: _, _ => exact .values nofun
    | keys =>
      have hkeys : args ≠ [] ∧ ∀ a ∈ args, isKeyName a = true := by simpa [fit] using h
      refine .keys hkeys.1 fun a ha => ?_
      match a, hkeys.2 a ha with
      | .scalar (.text s), hs => exact ⟨s, of_decide_eq_true hs, rfl⟩
    | elements =>
      have hmappings : args ≠ [] ∧ ∀ a ∈ args, isMapping a = true := by simpa [fit] using h
      exact .elements hmappings.1 (helements rfl)
    | reference =>
      unfold fit at h
      split at h <;> try contradiction
      · exact .reference rfl
      · split at h
        · split at h
          · next hread => exact .reference hread
          · cases h
        · cases h

/-! ## What compiles -/

/-- The limits among arguments that fit can be written. -/
def ArgumentForm.Writable (form : ArgumentForm) (args : List Datum) : Prop :=
  form = .count ∨ form = .number → ∀ a ∈ args, a.isTooLong = false

theorem Except.mapM_ok_iff {ε α β : Type} {f : α → Except ε β} : ∀ {xs : List α},
    (∃ ys, xs.mapM f = .ok ys) ↔ ∀ x ∈ xs, ∃ y, f x = .ok y
  | [] => iff_of_true ⟨[], rfl⟩ nofun
  | x :: rest => by
    rw [List.forall_mem_cons, ← Except.mapM_ok_iff]
    constructor
    · rintro ⟨ys, h⟩
      rw [List.mapM_cons] at h
      obtain ⟨y, hy, h⟩ := Except.bind_eq_ok.1 h
      obtain ⟨zs, hzs, _⟩ := Except.bind_eq_ok.1 h
      exact ⟨⟨y, hy⟩, zs, hzs⟩
    · rintro ⟨⟨y, hy⟩, zs, hzs⟩
      refine ⟨y :: zs, ?_⟩
      rw [List.mapM_cons, hy, Except.bind_eq_ok]
      exact ⟨y, rfl, Except.bind_eq_ok.2 ⟨zs, hzs, rfl⟩⟩

section Elements

variable {element : Datum → Except CompileError PropertyChecker} {args : List Datum}

theorem elements_ok_iff : (∃ es, (args.attach.mapM fun ⟨a, _⟩ => element a) = .ok es) ↔ ∀ a ∈ args, ∃ e, element a = .ok e :=
  Except.mapM_ok_iff.trans
    ⟨fun h a ha => h ⟨a, ha⟩ (List.mem_attach ..), fun h a _ => h a.1 a.2⟩

theorem limitArgument_single (a : Datum) : (∃ d, limitArgument [a] = .ok d) ↔ a.isTooLong = false := by
  unfold limitArgument
  cases h : a.isTooLong <;> simp [firstArgument, bind, Except.bind, h]

/-- A method that mentions nothing works on arguments that fit, if the limits among them can be written and the descriptions
among them compile. -/
theorem Method.apply_rule_iff {m : Method} {c : PropertyChecker} (hfits : m.form.fit args = .fits) (hsense : m.sense? = none) :
    (∃ c', m.apply args (fun a _ => element a) c = .ok c') ↔
      m.form.Writable args ∧ (m.form = .elements → ∀ a ∈ args, ∃ e, element a = .ok e) := by
  have hmap : ∀ {α : Type} {x : Except CompileError α} {f : α → PropertyChecker},
      (∃ c', (x >>= fun a => pure (f a)) = .ok c') ↔ ∃ a, x = .ok a := by
    intro α x f
    cases x <;> simp [bind, Except.bind, pure, Except.pure]
  cases m with
  | length bound unit =>
    obtain ⟨n, rfl, _⟩ := ArgumentForm.fit_count hfits
    refine hmap.trans ((limitArgument_single _).trans ?_)
    simp [ArgumentForm.Writable, form]
  | atLeast =>
    obtain ⟨n, rfl⟩ := ArgumentForm.fit_number hfits
    refine hmap.trans ((limitArgument_single _).trans ?_)
    simp [ArgumentForm.Writable, form]
  | atMost =>
    obtain ⟨n, rfl⟩ := ArgumentForm.fit_number hfits
    refine hmap.trans ((limitArgument_single _).trans ?_)
    simp [ArgumentForm.Writable, form]
  | pattern =>
    cases ArgumentForm.takes_iff.2 ⟨hfits, nofun⟩ with
    | @pattern s program hread =>
      refine hmap.trans (iff_of_true ⟨.pattern s program, ?_⟩ ⟨nofun, nofun⟩)
      simp [patternRule, firstArgument, bind, Except.bind, hread]
  | reference =>
    cases ArgumentForm.takes_iff.2 ⟨hfits, nofun⟩ with
    | @reference a ref hread =>
      refine hmap.trans (iff_of_true ⟨.reference ref, ?_⟩ ⟨nofun, nofun⟩)
      simp [referenceRule, firstArgument, bind, Except.bind, hread]
  | includes =>
    refine hmap.trans (elements_ok_iff.trans ?_)
    simp [ArgumentForm.Writable, form]
  | excludes =>
    refine hmap.trans (elements_ok_iff.trans ?_)
    simp [ArgumentForm.Writable, form]
  | allow | valid | deny => cases hsense
  | _ => exact iff_of_true ⟨_, rfl⟩ ⟨nofun, nofun⟩

/-- A method works on arguments that fit, if the limits among them can be written, the descriptions among them compile, and
all comparisons of what it mentions end. -/
theorem Method.apply_ok_iff {m : Method} {done : List (Datum × Bool)} {c : PropertyChecker} (hfits : m.form.fit args = .fits)
    (hc : c.Stands done) :
    (∃ c', m.apply args (fun a _ => element a) c = .ok c') ↔
      (m.form.Writable args ∧ (m.form = .elements → ∀ a ∈ args, ∃ e, element a = .ok e)) ∧
        Demand.AllEndAfter done (m.mentions args) := by
  cases hsense : m.sense? with
  | none =>
    have hmentions : m.mentions args = [] := by
      unfold mentions
      rw [hsense]
      rfl
    rw [apply_rule_iff hfits hsense, hmentions]
    exact (and_iff_left Demand.allEndAfter_nil).symm
  | some sense =>
    have hform : m.form = .values := by
      cases m with
      | allow | valid | deny => rfl
      | _ => cases hsense
    rw [apply_mentions_iff (Option.isSome_of_eq_some hsense) hc, hform]
    exact (and_iff_right ⟨nofun, nofun⟩).symm

end Elements

/-- In a closed record each entry is found as a field. -/
theorem Record.close_eq_ok {r : Record} {fields : List Field} (h : r.close fields = .ok ()) {k : Key} {d : Datum}
    (hmem : (k, d) ∈ r.entries) : ∃ f ∈ fields, ∃ s v, f.find? r.entries = some (s, v) ∧ k = .text s := by
  obtain ⟨s, hs, hk⟩ := Record.close_eq_ok_iff.1 h _ hmem
  obtain ⟨f, hf, hfound⟩ := List.mem_filterMap.1 hs
  obtain ⟨⟨s, v⟩, hv, rfl⟩ := Option.map_eq_some_iff.1 hfound
  refine ⟨f, hf, s, v, hv, ?_⟩
  match k, hk with
  | .scalar (.text _), hk =>
    cases hk
    rfl

theorem Field.find?_spelling {f : Field} {es : List (Key × Datum)} {s : String} {d : Datum} (h : f.find? es = some (s, d)) :
    (s = f.name ∨ f.second = some s) ∧ (.text s, d) ∈ es := by
  unfold find? at h
  split at h
  · next d' hd =>
    cases h
    exact ⟨.inl rfl, Entries.mem_of_get? hd⟩
  · obtain ⟨s', hsecond, h⟩ := Option.bind_eq_some_iff.1 h
    obtain ⟨d', hd, heq⟩ := Option.map_eq_some_iff.1 h
    cases heq
    exact ⟨.inr hsecond, Entries.mem_of_get? hd⟩

/-- A description of an element has no types in place, since these are none of its fields. -/
theorem ElementDef.read_untyped {d : Datum} {e : ElementDef} (h : ElementDef.read d = .ok e) : d.asksForTypes = false := by
  unfold ElementDef.read at h
  split at h
  · cases h
  · next r hr =>
    obtain ⟨⟨_, _⟩, hp, _⟩ := Reading.map_eq_ok.1 h
    have hclose := (Record.closing_eq_ok.1 hp).2
    unfold Datum.asksForTypes
    rw [Record.ofDatum_eq_ok hr]
    cases hfound : Field.inlineTypes.find? r.entries with
    | none => exact congrArg Option.isSome hfound
    | some found =>
      obtain ⟨s, v⟩ := found
      obtain ⟨hs, hmem⟩ := Field.find?_spelling hfound
      obtain ⟨f, hf, s', v', hv, hk⟩ := Record.close_eq_ok hclose hmem
      cases hk
      have hother : ∀ f ∈ [Field.kind, .constraints, .description], ∀ t ∈ ["typeArgs", "type_args"],
          ¬ (t = f.name ∨ f.second = some t) := by decide
      refine absurd (Field.find?_spelling hv).1 (hother f hf s ?_)
      rcases hs with rfl | hs
      · decide
      · cases hs
        decide

/-- The description of an element is well formed, of a known kind, its constraints pass, and all its comparisons end. -/
def Datum.ElementPasses (d : Datum) : Prop :=
  ∃ e kind, ElementDef.read d = .ok e ∧ Kind.ofName? e.kind = some kind ∧ (∀ x ∈ e.constraints, x.Passes kind) ∧ e.demand.Ends

/-- A constraint passes if its arguments fit, its limits can be written and the descriptions in it pass. -/
theorem Constraint.passes_iff_fits {kind : Kind} {x : Constraint} :
    x.Passes kind ↔ ∃ form, kind.form? x.method = some form ∧ form.fit x.args = .fits ∧ form.Writable x.args ∧
      (form = .elements → ∀ a ∈ x.args, a.ElementPasses) := by
  rw [passes_iff]
  constructor
  · rintro ⟨⟨⟨form, hform, htakes⟩, hlong⟩, hinner⟩
    obtain ⟨hfits, hdescribed⟩ := ArgumentForm.takes_iff.1 htakes
    refine ⟨form, hform, hfits, fun hlimit a ha => ?_, ?_⟩
    · refine Bool.eq_false_iff.2 fun ha' => hlong ⟨?_, a, ha, ha'⟩
      rcases hlimit with rfl | rfl
      · exact .inl hform
      · exact .inr hform
    · rintro rfl a ha
      obtain ⟨e, k, he, hk, _⟩ := hdescribed rfl a ha
      obtain ⟨hends, hpasses⟩ := hinner hform a ha e he
      exact ⟨e, k, he, hk, hpasses k hk, hends⟩
  · rintro ⟨form, hform, hfits, hwritable, hinner⟩
    refine ⟨⟨⟨form, hform, ArgumentForm.takes_iff.2 ⟨hfits, fun h a ha => ?_⟩⟩, ?_⟩, fun h a ha e he => ?_⟩
    · obtain ⟨e, k, he, hk, _⟩ := hinner h a ha
      exact ⟨e, k, he, hk, ElementDef.read_untyped he⟩
    · rintro ⟨hlimit, a, ha, hlong⟩
      rw [hform, Option.some_inj, Option.some_inj] at hlimit
      rw [hwritable hlimit a ha] at hlong
      cases hlong
    · cases hform.symm.trans h
      obtain ⟨e', k', he', hk', hall, hends⟩ := hinner rfl a ha
      cases he.symm.trans he'
      refine ⟨hends, fun k hk => ?_⟩
      cases hk.symm.trans hk'
      exact hall

namespace Capabilities

section Constraints

variable {kind : Kind} {element : Datum → Except CompileError PropertyChecker}

/-- What it takes to compile one constraint depends on those before it by what they mention. -/
theorem compileConstraint_ok_iff {x : Constraint} {done : List (Datum × Bool)} {c : PropertyChecker} (hc : c.Stands done) :
    (∃ c', standard.compileConstraint kind x (fun a _ => element a) c = .ok c') ↔
      (∃ form, kind.form? x.method = some form ∧ form.fit x.args = .fits ∧ form.Writable x.args ∧
        (form = .elements → ∀ a ∈ x.args, ∃ e, element a = .ok e)) ∧ Demand.AllEndAfter done (x.mentions kind) := by
  constructor
  · rintro ⟨c', h⟩
    obtain ⟨form, m, hcheck, hm, happly⟩ := compileConstraint_eq_ok h
    obtain ⟨hform, hfits⟩ := standard_check_ok.1 hcheck
    obtain ⟨m', hm', rfl⟩ := Kind.form?_method hform
    cases hm.symm.trans hm'
    rw [Constraint.mentions_eq hm]
    obtain ⟨hrest, hends⟩ := (Method.apply_ok_iff hfits hc).1 ⟨c', happly⟩
    exact ⟨⟨m.form, hform, hfits, hrest⟩, hends⟩
  · rintro ⟨⟨form, hform, hfits, hrest⟩, hends⟩
    obtain ⟨m, hm, rfl⟩ := Kind.form?_method hform
    rw [Constraint.mentions_eq hm] at hends
    have hworks : ∃ c', m.apply x.args (fun a _ => element a) c = .ok c' := (Method.apply_ok_iff hfits hc).2 ⟨hrest, hends⟩
    obtain ⟨c', happly⟩ := hworks
    refine ⟨c', ?_⟩
    unfold compileConstraint
    rw [standard_check_ok.2 ⟨hform, hfits⟩, hm]
    exact happly

/-- What a constraint mentions stands after it as well. -/
theorem compileConstraint_stands {x : Constraint} {done : List (Datum × Bool)} {c c' : PropertyChecker}
    (h : standard.compileConstraint kind x (fun a _ => element a) c = .ok c') (hc : c.Stands done) :
    c'.Stands (done ++ x.mentions kind) := by
  obtain ⟨form, m, -, hm, happly⟩ := compileConstraint_eq_ok h
  rw [Constraint.mentions_eq hm]
  exact Method.apply_stands happly hc

/-- Constraints compile if each one passes and all comparisons of what they mention end, where descriptions compile if they
pass. The induction carries what was mentioned before. -/
theorem compileConstraints_ok_iff {element : String → Datum → Except CompileError PropertyChecker} :
    ∀ {cs : List Constraint} {done : List (Datum × Bool)} {c : PropertyChecker}, c.Stands done →
      (∀ x ∈ cs, ∀ a ∈ x.args, ∀ m, (∃ e, element m a = .ok e) ↔ a.ElementPasses) →
      ((∃ c', standard.compileConstraints kind cs (fun m a _ => element m a) c = .ok c') ↔
        (∀ x ∈ cs, x.Passes kind) ∧ Demand.AllEndAfter done (cs.flatMap (Constraint.mentions kind)))
  | [], _, c, _, _ => iff_of_true ⟨c, rfl⟩ ⟨nofun, Demand.allEndAfter_nil⟩
  | x :: rest, done, c, hc, helement => by
    have hx : (∃ c', standard.compileConstraint kind x (fun a _ => element x.method a) c = .ok c') ↔
        x.Passes kind ∧ Demand.AllEndAfter done (x.mentions kind) := by
      rw [compileConstraint_ok_iff hc, Constraint.passes_iff_fits]
      have hsame := fun a ha => helement x (List.mem_cons_self ..) a ha x.method
      exact and_congr_left fun _ => exists_congr fun form => and_congr_right fun _ => and_congr_right fun _ =>
        and_congr_right fun _ => imp_congr_right fun _ => forall₂_congr hsame
    have hrest : ∀ {next}, standard.compileConstraint kind x (fun a _ => element x.method a) c = .ok next → _ := fun hnext =>
      compileConstraints_ok_iff (compileConstraint_stands hnext hc) fun y hy => helement y (List.mem_cons_of_mem _ hy)
    rw [List.forall_mem_cons, List.flatMap_cons, Demand.allEndAfter_append]
    constructor
    · rintro ⟨c', h⟩
      unfold compileConstraints at h
      obtain ⟨next, hnext, h⟩ := Except.bind_eq_ok.1 h
      obtain ⟨hpasses, hends⟩ := hx.1 ⟨next, hnext⟩
      obtain ⟨hall, hafter⟩ := (hrest hnext).1 ⟨c', h⟩
      exact ⟨⟨hpasses, hall⟩, hends, hafter⟩
    · rintro ⟨⟨hpasses, hall⟩, hends, hafter⟩
      obtain ⟨next, hnext⟩ := hx.2 ⟨hpasses, hends⟩
      obtain ⟨c', h⟩ := (hrest hnext).2 ⟨hall, hafter⟩
      exact ⟨c', by unfold compileConstraints; exact Except.bind_eq_ok.2 ⟨next, hnext, h⟩⟩

/-- The constraints of a demand compile if each one passes and all comparisons end. -/
theorem compileDemand_ok_iff {element : String → Datum → Except CompileError PropertyChecker} {q : Demand}
    (hkind : q.kind? = some kind) (helement : ∀ x ∈ q.constraints, ∀ a ∈ x.args, ∀ m, (∃ e, element m a = .ok e) ↔ a.ElementPasses) :
    (∃ c, standard.compileConstraints kind q.constraints (fun m a _ => element m a) (.ofKind kind) = .ok c) ↔
      (∀ x ∈ q.constraints, x.Passes kind) ∧ q.Ends := by
  rw [compileConstraints_ok_iff (PropertyChecker.stands_ofKind kind) helement]
  unfold Demand.Ends
  rw [Demand.mentions_eq hkind]

end Constraints

/-- The induction is on the size of the description. -/
theorem compileElement_ok_iff (d : Datum) (m : String) : (∃ c, standard.compileElement m d = .ok c) ↔ d.ElementPasses := by
  have hconstraints : ∀ {e : ElementDef} {kind : Kind}, ElementDef.read d = .ok e → Kind.ofName? e.kind = some kind →
      ((∃ c, standard.compileConstraints kind e.constraints (fun m a _ => standard.compileElement m a) (.ofKind kind) = .ok c) ↔
        (∀ x ∈ e.constraints, x.Passes kind) ∧ e.demand.Ends) := fun {e} _ he hkind =>
    compileDemand_ok_iff (q := e.demand) hkind fun x hx a ha m' => by
      have hsmaller : sizeOf a < sizeOf d := ElementDef.args_smaller he hx ha
      exact compileElement_ok_iff a m'
  constructor
  · rintro ⟨c, h⟩
    obtain ⟨e, kind, he, hkind, hcs⟩ := compileElement_eq_ok h
    have hknown := kindNamed_eq_ok hkind
    exact ⟨e, kind, he, hknown, (hconstraints he hknown).1 ⟨c, hcs⟩⟩
  · rintro ⟨e, kind, he, hkind, hpasses⟩
    obtain ⟨c, hcs⟩ := (hconstraints he hkind).2 hpasses
    exact ⟨c, (compileElement_of_read he).trans (Except.bind_eq_ok.2 ⟨kind, standard_kindNamed.2 hkind, hcs⟩)⟩
termination_by sizeOf d

end Capabilities

/-! ## Properties -/

/-- A constraint adds a rule that follows a reference if and only if it is the one for references. -/
theorem Method.apply_isReference {kind : Kind} {x : Constraint} {m : Method} (hm : Method.ofName? kind x.method = some m)
    {element : Datum → Except CompileError PropertyChecker} {c c' : PropertyChecker}
    (h : m.apply x.args (fun a _ => element a) c = .ok c') :
    c'.rules.any Rule.isReference = true ↔ c.rules.any Rule.isReference = true ∨ x.method = "objectSchemaType" := by
  have hname : x.method = "objectSchemaType" ↔ m = .reference :=
    ⟨fun h => reference_of_name (h ▸ hm), fun h => (name_of_reference (h ▸ hm)).2⟩
  rw [hname]
  rcases apply_cases h with ⟨hrule, rfl⟩ | ⟨r, hr, rfl⟩
  · rw [adjust_rules]
    exact (or_iff_left (by rintro rfl; cases hrule)).symm
  · rw [PropertyChecker.addRule_rules, List.any_append, Bool.or_eq_true]
    refine or_congr_right ?_
    cases hr <;> simp [Rule.isReference]

namespace Capabilities

theorem compileConstraints_isReference {caps : Capabilities} {kind : Kind}
    {element : String → Datum → Except CompileError PropertyChecker} :
    ∀ {cs : List Constraint} {c c' : PropertyChecker},
      caps.compileConstraints kind cs (fun m a _ => element m a) c = .ok c' →
      (c'.rules.any Rule.isReference = true ↔ c.rules.any Rule.isReference = true ∨ ∃ x ∈ cs, x.method = "objectSchemaType")
  | [], c, c', h => by
    unfold compileConstraints at h
    cases h
    simp
  | x :: rest, c, c', h => by
    unfold compileConstraints at h
    obtain ⟨next, hnext, h⟩ := Except.bind_eq_ok.1 h
    obtain ⟨form, m, -, hm, happly⟩ := compileConstraint_eq_ok hnext
    rw [compileConstraints_isReference h, Method.apply_isReference hm happly, or_assoc, List.exists_mem_cons_iff]

/-- **A property compiles exactly if it is legal and nothing keeps it from being used**, whatever is in its types in place. -/
theorem compileProperty_ok_iff {p : PropertyDef} {checkers : Option (List TypeChecker)}
    (hlength : checkers.map List.length = p.inlineTypes.map List.length) :
    (∃ c, standard.compileProperty p.kind p.constraints checkers = .ok c) ↔ p.Passes := by
  have hconstraints : ∀ {kind : Kind}, Kind.ofName? p.kind = some kind →
      ((∃ c, standard.compileConstraints kind p.constraints (fun m a _ => standard.compileElement m a) (.ofKind kind) = .ok c) ↔
        (∀ x ∈ p.constraints, x.Passes kind) ∧ p.demand.Ends) := fun hkind =>
    compileDemand_ok_iff (q := p.demand) hkind fun _ _ a _ m => compileElement_ok_iff a m
  have hreference : ∀ {kind : Kind} {c : PropertyChecker},
      standard.compileConstraints kind p.constraints (fun m a _ => standard.compileElement m a) (.ofKind kind) = .ok c →
      (c.rules.any Rule.isReference = true ↔ ∃ x ∈ p.constraints, x.method = "objectSchemaType") :=
    fun h => (compileConstraints_isReference h).trans (or_iff_right nofun)
  rw [PropertyDef.passes_iff]
  constructor
  · rintro ⟨c, h⟩
    obtain ⟨kind, checker, hkind, hcs, hinline⟩ := compileProperty_eq_ok h
    have hknown := kindNamed_eq_ok hkind
    refine ⟨kind, hknown, (hconstraints hknown).1 ⟨checker, hcs⟩, fun types htypes => ?_⟩
    rcases hinline with ⟨rfl, _⟩ | ⟨t, rfl, hobject, hnone, _⟩ <;> rw [htypes] at hlength
    · cases hlength
    · refine ⟨hobject, (Option.some.inj hlength).symm, fun x hx hname => ?_⟩
      rw [(hreference hcs).2 ⟨x, hx, hname⟩] at hnone
      cases hnone
  · rintro ⟨kind, hkind, hpasses, hinline⟩
    obtain ⟨checker, hcs⟩ := (hconstraints hkind).2 hpasses
    unfold compileProperty
    rw [standard_kindNamed.2 hkind]
    dsimp only [bind, Except.bind]
    rw [hcs]
    cases checkers with
    | none => exact ⟨checker, rfl⟩
    | some ts =>
      obtain ⟨types, htypes, hsame⟩ := Option.map_eq_some_iff.1 hlength.symm
      obtain ⟨rfl, hone, hno⟩ := hinline types htypes
      obtain ⟨t, rfl⟩ := List.length_eq_one_iff.1 (hsame.symm.trans hone)
      refine ⟨checker.addRule (.inlineType t), ?_⟩
      dsimp only
      rw [if_neg (by simp), if_neg fun h => ?_]
      obtain ⟨x, hx, hname⟩ := (hreference hcs).1 h
      exact hno x hx hname

end Capabilities

/-! ## Types -/

theorem TypeDef.withinAll_eq (ts : List TypeDef) : TypeDef.withinAll ts = ts.flatMap TypeDef.within := by
  induction ts with
  | nil => rw [TypeDef.withinAll, List.flatMap_nil]
  | cons t rest ih => rw [TypeDef.withinAll, List.flatMap_cons, ih]

theorem PropertyDef.withinFields_eq (ps : List (String × PropertyDef)) :
    PropertyDef.withinFields ps = ps.flatMap fun p => p.2.within := by
  induction ps with
  | nil => rw [PropertyDef.withinFields, List.flatMap_nil]
  | cons p rest ih =>
    obtain ⟨name, d⟩ := p
    rw [PropertyDef.withinFields, List.flatMap_cons, ih]

/-- A property with what is in its types in place. -/
theorem PropertyDef.within_eq (p : PropertyDef) :
    p.within = p :: (p.inlineTypes.getD []).flatMap TypeDef.within := by
  obtain ⟨description, kind, constraints, _ | types⟩ := p
  · rw [PropertyDef.within]
    rfl
  · rw [PropertyDef.within, TypeDef.withinAll_eq]
    rfl

theorem PropertyDef.mem_within (p : PropertyDef) : p ∈ p.within := by
  rw [PropertyDef.within_eq]
  exact List.mem_cons_self ..

theorem TypeDef.within_eq (t : TypeDef) : t.within = t.properties.flatMap fun p => p.2.within := by
  obtain ⟨_, _, _, properties⟩ := t
  rw [TypeDef.within, PropertyDef.withinFields_eq]

theorem TypeDef.passes_iff {t : TypeDef} : (t.Legal ∧ ¬ t.Overlong ∧ ¬ t.Endless) ↔ ∀ p ∈ t.within, p.Passes := by
  constructor
  · exact fun ⟨hlegal, hwritable, hends⟩ p hp =>
      ⟨hlegal p hp, fun hlong => hwritable ⟨p, hp, hlong⟩, fun hon => hends ⟨p, hp, hon⟩⟩
  · exact fun h => ⟨fun p hp => (h p hp).legal, fun ⟨p, hp, hlong⟩ => (h p hp).writable hlong,
      fun ⟨p, hp, hon⟩ => (h p hp).ends hon⟩

mutual
theorem PropertyDef.Compiles.passes : ∀ {d : PropertyDef} {c : PropertyChecker}, d.Compiles (· = .standard) c →
    ∀ p ∈ d.within, p.Passes
  | ⟨description, kind, constraints, none⟩, c, h => by
    rw [PropertyDef.Compiles] at h
    obtain ⟨_, rfl, hcompile⟩ := h
    rw [PropertyDef.within]
    rintro p hp
    obtain rfl := List.mem_singleton.1 hp
    exact (Capabilities.compileProperty_ok_iff rfl).1 ⟨c, hcompile⟩
  | ⟨description, kind, constraints, some types⟩, c, h => by
    rw [PropertyDef.Compiles] at h
    obtain ⟨_, checkers, rfl, htypes, hcompile⟩ := h
    obtain ⟨hlength, hpasses⟩ := TypeDef.compilesAll_passes htypes
    rw [PropertyDef.within]
    rintro p hp
    rcases List.mem_cons.1 hp with rfl | hp
    · have hcount : (some checkers).map List.length = (some types).map List.length := congrArg some hlength
      exact (Capabilities.compileProperty_ok_iff hcount).1 ⟨c, hcompile⟩
    · exact hpasses p hp
theorem TypeDef.compilesAll_passes : ∀ {ds : List TypeDef} {ts : List TypeChecker}, TypeDef.CompilesAll (· = .standard) ds ts →
    ts.length = ds.length ∧ ∀ p ∈ TypeDef.withinAll ds, p.Passes
  | [], [], _ => by
    rw [TypeDef.withinAll]
    exact ⟨rfl, nofun⟩
  | [], _ :: _, h => by
    unfold TypeDef.CompilesAll at h
    exact h.elim
  | _ :: _, [], h => by
    unfold TypeDef.CompilesAll at h
    exact h.elim
  | d :: ds, t :: ts, h => by
    rw [TypeDef.CompilesAll] at h
    obtain ⟨hlength, hrest⟩ := TypeDef.compilesAll_passes h.2
    rw [TypeDef.withinAll]
    exact ⟨congrArg (· + 1) hlength, List.forall_mem_append.2 ⟨TypeDef.Compiles.passes h.1, hrest⟩⟩
/-- What compiles is legal at every level, and its limits can be written. -/
theorem TypeDef.Compiles.passes : ∀ {d : TypeDef} {t : TypeChecker}, d.Compiles (· = .standard) t →
    ∀ p ∈ d.within, p.Passes
  | ⟨_, _, _, properties⟩, t, h => by
    rw [TypeDef.Compiles] at h
    rw [TypeDef.within]
    exact PropertyDef.compilesFields_passes h.2
theorem PropertyDef.compilesFields_passes : ∀ {ds : List (String × PropertyDef)} {cs : List (String × PropertyChecker)},
    PropertyDef.CompilesFields (· = .standard) ds cs → ∀ p ∈ PropertyDef.withinFields ds, p.Passes
  | [], [], _ => by
    rw [PropertyDef.withinFields]
    exact nofun
  | [], _ :: _, h => by
    unfold PropertyDef.CompilesFields at h
    exact h.elim
  | _ :: _, [], h => by
    unfold PropertyDef.CompilesFields at h
    exact h.elim
  | (_, d) :: ds, (_, c) :: cs, h => by
    rw [PropertyDef.CompilesFields] at h
    rw [PropertyDef.withinFields]
    exact List.forall_mem_append.2 ⟨PropertyDef.Compiles.passes h.2.1, PropertyDef.compilesFields_passes h.2.2⟩
end

end ShapeCheck
