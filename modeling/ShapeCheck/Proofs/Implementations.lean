import ShapeCheck.Proofs.Names
import ShapeCheck.Proofs.Refusals

/-!
# Kinds and methods without a meaning

Capabilities may let kinds and methods pass that have no meaning, and `Capabilities.missing` lists these without looking at a
definition. `Capabilities.Decides` is what the list tells of definitions: it names nothing that a definition can spell exactly
if no description that the capabilities admit is ever rejected for lack of a meaning, and for a kind that has one it names the
methods whose constraints are rejected so. That holds of all capabilities whose tables say no name twice
(`Capabilities.missing_decides`).

A definition spells a kind or a method with a text of characters that is not empty. A table may have other names, which are
listed as well though no definition comes to them: `Capabilities.emptyKind_missing`.
-/

namespace ShapeCheck

open Shape

/-! ## Tables -/

namespace Assoc

variable {α κ : Type} [DecidableEq κ]

theorem get?_of_mem {name : κ} {v : α} : ∀ {a : Assoc α κ}, a.names.Nodup → (name, v) ∈ a → a.get? name = some v
  | (n, w) :: rest, h, hmem => by
    obtain ⟨hn, hrest⟩ := List.nodup_cons.1 h
    unfold get?
    rcases List.mem_cons.1 hmem with heq | hmem
    · cases heq
      exact if_pos rfl
    · have hname : name ∈ names rest := List.mem_map_of_mem (f := Prod.fst) hmem
      rw [if_neg fun (heq : n = name) => hn (heq ▸ hname)]
      exact get?_of_mem hrest hmem

/-- What is put into a list stands there, and the rest of the list stays. -/
theorem get?_update {name : κ} : ∀ {b a : Assoc α κ}, b.names.Nodup → (a.update b).get? name = (b.get? name).or (a.get? name)
  | [], _, _ => rfl
  | (n, v) :: rest, a, h => by
    obtain ⟨hn, hrest⟩ := List.nodup_cons.1 h
    change ((a.put n v).update rest).get? name = _
    rw [get?_update hrest, get?]
    split
    · next heq =>
      subst heq
      rw [get?_eq_none_iff.2 hn, get?_put_self]
      rfl
    · next hne => rw [get?_put_other v a hne]

theorem mem_names_iff {name : κ} {a : Assoc α κ} : name ∈ a.names ↔ ∃ v, a.get? name = some v := by
  rw [← Option.isSome_iff_exists, ← Option.ne_none_iff_isSome, Ne, get?_eq_none_iff, not_not]

end Assoc

namespace Capabilities

variable {caps : Capabilities}

/-- No table says a name twice. -/
structure Keyed (caps : Capabilities) : Prop where
  kinds : caps.kinds.names.Nodup
  own : ∀ p ∈ caps.kinds, p.2.names.Nodup

theorem hasKind_iff {name : String} : caps.hasKind (.text name) = true ↔ ∃ own, caps.kinds.get? name = some own := by
  change ((caps.kinds.get? name).map fun methods => (name, methods)).isSome = true ↔ _
  rw [Option.isSome_map, Option.isSome_iff_exists]

theorem requireKind_eq_ok {kind : Datum} {found : String × Assoc ArgumentForm} :
    caps.requireKind kind = .ok found ↔ kind = .text found.1 ∧ caps.kinds.get? found.1 = some found.2 := by
  unfold requireKind own?
  split
  · next h =>
    split at h
    · next s =>
      obtain ⟨own, hown, rfl⟩ := Option.map_eq_some_iff.1 h
      constructor
      · rintro ⟨⟩
        exact ⟨rfl, hown⟩
      · rintro ⟨hkind, hget⟩
        obtain ⟨name, methods⟩ := found
        cases hkind
        cases hown.symm.trans hget
        rfl
    · cases h
  · next h =>
    constructor
    · rintro ⟨⟩
    · rintro ⟨rfl, hget⟩
      change (caps.kinds.get? found.1).map _ = none at h
      rw [hget] at h
      cases h

/-- A kind's own entry wins over a base entry. -/
theorem lookup_eq_ok {kind : Datum} {method : String} {form : ArgumentForm} :
    caps.lookup kind method = .ok form ↔
      ∃ name own, kind = .text name ∧ caps.kinds.get? name = some own ∧
        (own.get? method).or (caps.base.get? method) = some form := by
  unfold lookup
  rw [Except.bind_eq_ok]
  constructor
  · rintro ⟨⟨name, own⟩, hfound, h⟩
    obtain ⟨hkind, hget⟩ := requireKind_eq_ok.1 hfound
    refine ⟨name, own, hkind, hget, ?_⟩
    dsimp only at h
    split at h
    · next form' hform =>
      cases h
      exact hform
    · cases h
  · rintro ⟨name, own, hkind, hget, hform⟩
    refine ⟨(name, own), requireKind_eq_ok.2 ⟨hkind, hget⟩, ?_⟩
    dsimp only
    rw [hform]

theorem methodsFor_eq_ok {kind : Datum} {methods : Assoc ArgumentForm} :
    caps.methodsFor kind = .ok methods ↔
      ∃ name own, kind = .text name ∧ caps.kinds.get? name = some own ∧ methods = caps.base.update own := by
  unfold methodsFor
  rw [Except.bind_eq_ok]
  constructor
  · rintro ⟨⟨name, own⟩, hfound, h⟩
    cases h
    obtain ⟨hkind, hget⟩ := requireKind_eq_ok.1 hfound
    exact ⟨name, own, hkind, hget, rfl⟩
  · rintro ⟨name, own, hkind, hget, rfl⟩
    exact ⟨(name, own), requireKind_eq_ok.2 ⟨hkind, hget⟩, rfl⟩

/-- So it is for a kind that stands in the table. -/
theorem lookup_of_mem (h : caps.Keyed) {name : String} {own : Assoc ArgumentForm} (hmem : (name, own) ∈ caps.kinds)
    {method : String} {form : ArgumentForm} :
    caps.lookup (.text name) method = .ok form ↔ (own.get? method).or (caps.base.get? method) = some form := by
  have hget := Assoc.get?_of_mem h.kinds hmem
  rw [lookup_eq_ok]
  constructor
  · rintro ⟨name', own', heq, hget', hform⟩
    cases heq
    cases hget.symm.trans hget'
    exact hform
  · exact fun hform => ⟨name, own, rfl, hget, hform⟩

/-- The form that is looked up is the one among all methods of the kind. -/
theorem lookup_iff_methodsFor (h : caps.Keyed) {kind : Datum} {method : String} {form : ArgumentForm} :
    caps.lookup kind method = .ok form ↔ ∃ methods, caps.methodsFor kind = .ok methods ∧ methods.get? method = some form := by
  rw [lookup_eq_ok]
  constructor
  · rintro ⟨name, own, hkind, hget, hform⟩
    refine ⟨_, methodsFor_eq_ok.2 ⟨name, own, hkind, hget, rfl⟩, ?_⟩
    rw [Assoc.get?_update (h.own _ (Assoc.mem_of_get? hget)), hform]
  · rintro ⟨methods, hmethods, hform⟩
    obtain ⟨name, own, hkind, hget, rfl⟩ := methodsFor_eq_ok.1 hmethods
    rw [Assoc.get?_update (h.own _ (Assoc.mem_of_get? hget))] at hform
    exact ⟨name, own, hkind, hget, hform⟩

/-- A legal kind has no meaning. -/
def LacksKind (caps : Capabilities) (name : String) : Prop := caps.hasKind (.text name) = true ∧ Kind.ofName? name = none

/-- A legal method has no meaning. -/
def LacksMethod (caps : Capabilities) (kind : Kind) (method : String) : Prop :=
  (∃ form, caps.lookup (.text kind.name) method = .ok form) ∧ Method.ofName? kind method = none

/-- What is missing, by what is looked up. -/
theorem mem_missing (h : caps.Keyed) {p : String × String} : p ∈ caps.missing ↔
    (∃ name, p = (name, "<base>") ∧ caps.LacksKind name) ∨
      ∃ kind : Kind, ∃ method, p = (kind.name, method) ∧ caps.LacksMethod kind method := by
  unfold missing
  rw [List.mem_flatMap]
  constructor
  · rintro ⟨⟨name, own⟩, hmem, hp⟩
    have hget := Assoc.get?_of_mem h.kinds hmem
    dsimp only at hp
    split at hp
    · next hname => exact .inl ⟨name, List.mem_singleton.1 hp, hasKind_iff.2 ⟨own, hget⟩, hname⟩
    · next kind hname =>
      obtain ⟨method, hmethod, rfl⟩ := List.mem_map.1 hp
      obtain ⟨hlisted, hnone⟩ := List.mem_filter.1 hmethod
      obtain ⟨form, hform⟩ := Assoc.mem_names_iff.1 hlisted
      rw [Assoc.get?_update (h.own _ hmem)] at hform
      obtain rfl := Kind.name_of_ofName? hname
      exact .inr ⟨kind, method, rfl, ⟨form, lookup_eq_ok.2 ⟨_, own, rfl, hget, hform⟩⟩, Option.isNone_iff_eq_none.1 hnone⟩
  · rintro (⟨name, rfl, hkind, hname⟩ | ⟨kind, method, rfl, ⟨form, hlookup⟩, hnone⟩)
    · obtain ⟨own, hget⟩ := hasKind_iff.1 hkind
      refine ⟨(name, own), Assoc.mem_of_get? hget, ?_⟩
      dsimp only
      rw [hname]
      exact List.mem_singleton_self _
    · obtain ⟨name, own, heq, hget, hform⟩ := lookup_eq_ok.1 hlookup
      cases heq
      have hmem := Assoc.mem_of_get? hget
      refine ⟨(kind.name, own), hmem, ?_⟩
      dsimp only
      rw [Kind.ofName?_name]
      refine List.mem_map.2 ⟨method, List.mem_filter.2 ⟨Assoc.mem_names_iff.2 ⟨form, ?_⟩, Option.isNone_iff_eq_none.2 hnone⟩, rfl⟩
      rw [Assoc.get?_update (h.own _ hmem), hform]

end Capabilities

/-! ## Descriptions that the capabilities admit -/

/-- A definition can spell a kind or a method so. -/
def Spelled (name : String) : Prop := Text.hasSurrogate name = false ∧ name ≠ ""

theorem Reading.someText_spelled {d : Datum} {s : String} (h : someText d = .ok s) : Spelled s :=
  ⟨(textWhere_eq_ok h).1, of_decide_eq_true (textWhere_eq_ok h).2⟩

theorem Reading.someText_of_spelled {s : String} (h : Spelled s) : someText (.text s) = .ok s :=
  textWhere_text h.1 (decide_eq_true h.2)

theorem Record.required_spelled {r : Record} {f : Field} {s : String} (h : r.required f Reading.someText = .ok s) : Spelled s := by
  obtain ⟨_, v, -, hv⟩ := required_eq_ok h
  exact Reading.someText_spelled hv

theorem Constraint.read_spelled {d : Datum} {c : Constraint} (h : read d = .ok c) : Spelled c.method := by
  obtain ⟨es, -, h⟩ := read_eq_ok h
  obtain ⟨⟨⟨method, args⟩, _⟩, hparts, rfl⟩ := Reading.map_eq_ok.1 h
  exact Record.required_spelled (Reading.both_eq_ok.1 (Record.closing_eq_ok.1 hparts).1).1

theorem Record.constraints_spelled {r : Record} {cs : List Constraint}
    (h : r.optional .constraints [] Reading.constraints = .ok cs) : ∀ c ∈ cs, Spelled c.method := by
  intro c hc
  rcases optional_eq_ok h with rfl | ⟨_, v, -, hv⟩
  · cases hc
  · obtain ⟨x, -, hx⟩ := Reading.listOf_mem hv hc
    exact Constraint.read_spelled hx

/-- The kind and the methods of a property can be spelled. -/
def PropertyDef.Spells (p : PropertyDef) : Prop := Spelled p.kind ∧ ∀ c ∈ p.constraints, Spelled c.method

/-- The properties of a type that is built can be spelled, since they were read. -/
theorem Building.type_spells {around : Surroundings} {d : Datum} {t : ObjectType}
    (hbefore : ∀ handle u, around.built handle = some u → ∀ p ∈ u.definition.properties, p.2.Spells)
    (h : Gives (Building.type around d) (.ok t)) : ∀ p ∈ t.definition.properties, p.2.Spells := by
  rcases gives_type h with ⟨handle, _, _, hbuilt⟩ | ⟨r, _, _, _, ps, hr, hfields, rfl⟩
  · exact hbefore handle t hbuilt
  · intro e he
    obtain ⟨p, hp, rfl⟩ := List.mem_map.1 he
    obtain ⟨x, -, hx⟩ := hfields.held (Record.ofDatum_eq_ok hr) p hp
    rcases gives_property hx with ⟨handle, _, q, _, hq, heq, _⟩ | ⟨r', _, kind, constraints, _, _, hkind, hconstraints, _, heq, _⟩
    · obtain ⟨u, name, hu, hmem, -⟩ := TypeHandle.property?_mem hq
      dsimp only
      rw [heq]
      exact hbefore handle u hu _ hmem
    · dsimp only
      rw [heq]
      exact ⟨Record.required_spelled hkind, Record.constraints_spelled hconstraints⟩

theorem ObjectType.Built.spells {legal : Capabilities → Prop} {t : ObjectType} (h : t.Built legal) :
    ∀ p ∈ t.definition.properties, p.2.Spells := by
  induction h with
  | build _ _ hresult ih => exact Building.type_spells ih ⟨_, hresult⟩
  | rename _ _ ih => exact ih

/-- What can be looked up was built, under whatever capabilities. -/
def AllBuilt (built : TypeHandle → Option ObjectType) : Prop := ∀ handle t, built handle = some t → t.Built fun _ => True

theorem allBuilt_none : AllBuilt fun _ => none := fun _ _ h => nomatch h

theorem ElementDef.read_spelled {d : Datum} {e : ElementDef} (h : read d = .ok e) :
    Spelled e.kind ∧ ∀ c ∈ e.constraints, Spelled c.method := by
  unfold read at h
  split at h
  · cases h
  · obtain ⟨⟨⟨kind, constraints, description⟩, _⟩, hparts, rfl⟩ := Reading.map_eq_ok.1 h
    obtain ⟨hkind, hrest⟩ := Reading.both_eq_ok.1 (Record.closing_eq_ok.1 hparts).1
    exact ⟨Record.required_spelled hkind, Record.constraints_spelled (Reading.both_eq_ok.1 hrest).1⟩

/-- The description of a property stands in one of the types in place of another property. -/
inductive Datum.StandsInside (d x : Datum) : Prop
  | intro {es fs ps : List (Key × Datum)} {s s' : String} {v t w : Datum} {ts : List Datum} {k : Key}
      (record : d.entries? = some es) (types : Field.inlineTypes.find? es = some (s, v)) (members : v.members? = some ts)
      (mem : t ∈ ts) (type : t.entries? = some fs) (properties : Field.properties.find? fs = some (s', w))
      (entries : w.entries? = some ps) (property : (k, x) ∈ ps)

namespace Capabilities

variable (caps : Capabilities)

mutual
/-- A constraint passes the checks for its kind, with the descriptions of elements among its arguments. -/
inductive Admits : String → Constraint → Prop
  | intro {kind : String} {c : Constraint} {form : ArgumentForm} (legal : caps.check (.text kind) c.method c.args = .ok form)
      (elements : form = .elements → ∀ a ∈ c.args, AdmitsElement a) : Admits kind c
/-- The description of an element is well formed, and its kind and constraints pass the checks. -/
inductive AdmitsElement : Datum → Prop
  | intro {d : Datum} {e : ElementDef} (formed : ElementDef.read d = .ok e) (known : caps.hasKind (.text e.kind) = true)
      (constraints : ∀ c ∈ e.constraints, Admits e.kind c) : AdmitsElement d
end

/-- The description of a property is well formed and passes the checks, and so do those in its types in place, at every level. -/
inductive AdmitsProperty : Datum → Prop
  | intro {d : Datum} {r : Record} {kind : String} {cs : List Constraint} (record : Record.ofDatum "Property" d = .ok r)
      (kindFormed : r.required .kind Reading.someText = .ok kind)
      (constraintsFormed : r.optional .constraints [] Reading.constraints = .ok cs) (known : caps.hasKind (.text kind) = true)
      (constraints : ∀ c ∈ cs, caps.Admits kind c) (inside : ∀ x, d.StandsInside x → AdmitsProperty x) : AdmitsProperty d

/-- Whether an error is for lack of a meaning: of a kind that is legal, or of a method that is. -/
def lacks : CompileError → Bool
  | .authoring (.unsupportedKind kind _) => caps.hasKind kind
  | .authoring (.unsupportedConstraint _ _ .notImplemented _) => true
  | _ => false

end Capabilities

/-- The kind and the method that an error names. -/
def CompileError.pair? : CompileError → Option (String × String)
  | .authoring (.unsupportedKind (.scalar (.text kind)) _) => some (kind, "<base>")
  | .authoring (.unsupportedConstraint kind (.scalar (.text method)) _ _) => some (kind, method)
  | _ => none

/-- If an error is for lack of a meaning, then it names what is listed as missing and can be spelled. -/
def CompileError.Listed (caps : Capabilities) (e : CompileError) : Prop :=
  caps.lacks e = true → ∃ p ∈ caps.missing, e.pair? = some p ∧ Spelled p.1 ∧ Spelled p.2

/-! ## Errors for lack of a meaning -/

section Compiling

variable {caps : Capabilities}

theorem CompileError.Listed.vacuous {e : CompileError} (h : caps.lacks e = false) : e.Listed caps := fun hlacks => by
  rw [h] at hlacks
  cases hlacks

theorem Kind.name_spelled (kind : Kind) : Spelled kind.name := by
  cases kind <;> exact ⟨by decide, by decide⟩

theorem firstArgument_listed (args : List Datum) : FailsWith (CompileError.Listed caps) (firstArgument args) := by
  cases args with
  | nil => exact failsWith_error (.vacuous rfl)
  | cons a rest => exact failsWith_ok a

theorem limitArgument_listed (args : List Datum) : FailsWith (CompileError.Listed caps) (limitArgument args) := by
  unfold limitArgument
  refine failsWith_bind (firstArgument_listed args) fun limit _ => ?_
  split
  · exact failsWith_error (.vacuous rfl)
  · exact failsWith_ok _

theorem patternRule_listed (args : List Datum) : FailsWith (CompileError.Listed caps) (patternRule args) := by
  unfold patternRule
  refine failsWith_bind (firstArgument_listed args) fun a _ => ?_
  split
  · split
    · exact failsWith_ok _
    · exact failsWith_error (.vacuous rfl)
  · split <;> exact failsWith_error (.vacuous rfl)

theorem referenceRule_listed (args : List Datum) : FailsWith (CompileError.Listed caps) (referenceRule args) := by
  unfold referenceRule
  refine failsWith_bind (firstArgument_listed args) fun a _ => ?_
  split
  · exact failsWith_ok _
  · exact failsWith_error (.vacuous rfl)

theorem takeAll_listed (take : PropertyChecker → Datum → PropertyChecker) (takesOn : PropertyChecker → Datum → Bool)
    (args : List Datum) (c : PropertyChecker) : FailsWith (CompileError.Listed caps) (takeAll take takesOn args c) := by
  rcases takeAll_cases take takesOn args c with ⟨hall, _⟩ | ⟨hstops, _⟩
  · rw [hall]
    exact failsWith_ok _
  · rw [hstops]
    exact failsWith_error (.vacuous rfl)

/-- A method with a meaning fails for lack of another only where one of its descriptions does. -/
theorem Method.apply_listed {m : Method} {args : List Datum} {element : Datum → Except CompileError PropertyChecker}
    {c : PropertyChecker} (helement : ∀ a ∈ args, FailsWith (CompileError.Listed caps) (element a)) :
    FailsWith (CompileError.Listed caps) (m.apply args (fun a _ => element a) c) := by
  cases m with
  | length | atLeast | atMost => exact failsWith_bind (limitArgument_listed args) fun _ _ => failsWith_ok _
  | pattern => exact failsWith_bind (patternRule_listed args) fun _ _ => failsWith_ok _
  | includes | excludes => exact failsWith_bind (failsWith_mapM fun x _ => helement x.1 x.2) fun _ _ => failsWith_ok _
  | reference => exact failsWith_bind (referenceRule_listed args) fun _ _ => failsWith_ok _
  | allow | deny => exact takeAll_listed _ _ args c
  | valid => exact failsWith_bind (takeAll_listed _ _ args c) fun _ _ => failsWith_ok _
  | _ => exact failsWith_ok _

namespace Capabilities

theorem requireKind_lacks {kind : Datum} {e : AuthoringError} (h : caps.requireKind kind = .error e) :
    caps.lacks (.authoring e) = false := by
  unfold requireKind at h
  split at h
  · cases h
  · next hnone =>
    cases h
    change (caps.own? kind).isSome = false
    rw [hnone]
    rfl

theorem lookup_lacks {kind : Datum} {method : String} {e : AuthoringError} (h : caps.lookup kind method = .error e) :
    caps.lacks (.authoring e) = false := by
  unfold lookup at h
  cases hkind : caps.requireKind kind with
  | error e' =>
    rw [hkind] at h
    cases h
    exact requireKind_lacks hkind
  | ok found =>
    rw [hkind] at h
    dsimp only [bind, Except.bind] at h
    split at h
    · cases h
    · cases h
      rfl

theorem check_listed (kind : Datum) (method : String) (args : List Datum) :
    FailsWith (CompileError.Listed caps) (caps.check kind method args) := by
  unfold check
  split
  · next e he => exact failsWith_error (.vacuous (lookup_lacks he))
  · split
    · exact failsWith_ok _
    · exact failsWith_error (.vacuous rfl)
    · exact failsWith_error (.vacuous rfl)

theorem kindNamed_listed (h : caps.Keyed) {name : String} (hname : Spelled name) :
    FailsWith (CompileError.Listed caps) (caps.kindNamed name) := by
  unfold kindNamed
  split
  · next e he => exact failsWith_error (.vacuous (requireKind_lacks he))
  · split
    · exact failsWith_ok _
    · next hnone =>
      refine failsWith_error fun hlacks => ?_
      have hmissing : (name, "<base>") ∈ caps.missing := (mem_missing h).2 (.inl ⟨name, rfl, hlacks, hnone⟩)
      exact ⟨_, hmissing, rfl, hname, (⟨by decide, by decide⟩ : Spelled "<base>")⟩

variable {element : String → Datum → Except CompileError PropertyChecker} {kind : Kind}

theorem compileConstraint_listed (h : caps.Keyed) {x : Constraint} (hmethod : Spelled x.method) {c : PropertyChecker}
    (helement : ∀ a ∈ x.args, FailsWith (CompileError.Listed caps) (element x.method a)) :
    FailsWith (CompileError.Listed caps) (caps.compileConstraint kind x (fun a _ => element x.method a) c) := by
  unfold compileConstraint
  refine failsWith_bind (check_listed _ _ _) fun form hform => ?_
  split
  · exact Method.apply_listed helement
  · next hnone =>
    refine failsWith_error fun _ => ?_
    have hlacks : caps.LacksMethod kind x.method := ⟨⟨form, (check_eq_ok.1 hform).1⟩, hnone⟩
    exact ⟨_, (mem_missing h).2 (.inr ⟨kind, x.method, rfl, hlacks⟩), rfl, kind.name_spelled, hmethod⟩

theorem compileConstraints_listed (h : caps.Keyed) : ∀ {cs : List Constraint} {c : PropertyChecker},
    (∀ x ∈ cs, Spelled x.method) → (∀ x ∈ cs, ∀ a ∈ x.args, ∀ m, FailsWith (CompileError.Listed caps) (element m a)) →
    FailsWith (CompileError.Listed caps) (caps.compileConstraints kind cs (fun m a _ => element m a) c)
  | [], _, _, _ => failsWith_ok _
  | x :: rest, _, hspelled, helement => by
    unfold compileConstraints
    refine failsWith_bind ?_ fun _ _ => ?_
    · exact compileConstraint_listed h (hspelled x (List.mem_cons_self ..)) fun a ha => helement x (List.mem_cons_self ..) a ha _
    · exact compileConstraints_listed h (fun y hy => hspelled y (List.mem_cons_of_mem _ hy))
        fun y hy => helement y (List.mem_cons_of_mem _ hy)

/-- The induction is on the size of the description: what its constraints describe is smaller. -/
theorem compileElement_listed (h : caps.Keyed) (d : Datum) (m : String) :
    FailsWith (CompileError.Listed caps) (caps.compileElement m d) := by
  rw [compileElement]
  split
  · exact failsWith_error (.vacuous rfl)
  split
  · split <;> exact failsWith_error (.vacuous rfl)
  · next e he =>
    obtain ⟨hkind, hmethods⟩ := ElementDef.read_spelled he
    refine failsWith_bind (kindNamed_listed h hkind) fun kind _ => ?_
    refine compileConstraints_listed h hmethods fun x hx a ha m' => ?_
    have hsmaller : sizeOf a < sizeOf d := ElementDef.args_smaller he hx ha
    exact compileElement_listed h a m'
termination_by sizeOf d

theorem compileProperty_listed (h : caps.Keyed) {kindName : String} {cs : List Constraint}
    (inlineTypes : Option (List TypeChecker)) (hkind : Spelled kindName) (hmethods : ∀ c ∈ cs, Spelled c.method) :
    FailsWith (CompileError.Listed caps) (caps.compileProperty kindName cs inlineTypes) := by
  unfold compileProperty
  refine failsWith_bind (kindNamed_listed h hkind) fun kind _ => ?_
  refine failsWith_bind (compileConstraints_listed h hmethods fun _ _ a _ m => compileElement_listed h a m) fun checker _ => ?_
  dsimp only
  split
  · exact failsWith_ok _
  · split
    · exact failsWith_error (.vacuous rfl)
    · split
      · split
        · exact failsWith_error (.vacuous rfl)
        · exact failsWith_ok _
      · exact failsWith_error (.vacuous rfl)

theorem finishProperty_listed (h : caps.Keyed) {d : Datum} {p : PropertyDef} (inlineTypes : Option (List TypeChecker))
    (hp : p.Spells) : Concludes (CompileError.Listed caps) (caps.finishProperty d p inlineTypes) := by
  unfold finishProperty
  split
  · exact concludes_pure _
  · exact concludes_pure _
  · next e _ he =>
    split
    · exact concludes_pure _
    · exact concludes_throw (compileProperty_listed h _ hp.1 hp.2 e he)

end Capabilities

end Compiling

section Types

variable {around : Surroundings}

mutual
theorem Building.property_listed (h : around.capabilities.Keyed)
    (hbuilt : AllBuilt around.built) (d : Datum) :
    Concludes (CompileError.Listed around.capabilities) (Building.property around d) := by
  unfold Building.property
  split
  · split
    · exact concludes_pure _
    · next hq =>
      obtain ⟨t, name, ht, hmem, -⟩ := TypeHandle.property?_mem hq
      exact Capabilities.finishProperty_listed h _ ((hbuilt _ t ht).spells _ hmem)
  split
  · exact concludes_pure _
  · next r hr =>
    refine concludes_bind (concludes_optional fun v hv => ?_) fun inlineTypes => ?_
    · split
      · exact concludes_pure _
      split
      · exact concludes_pure _
      · next xs hi =>
        refine concludes_bind (concludes_items fun x hx => ?_) fun _ => concludes_pure _
        have hsmaller : sizeOf x < sizeOf d := Nat.lt_trans (Datum.sizeOf_member hi hx)
          (hv.elim fun _ hm => Datum.sizeOf_entry (Record.ofDatum_eq_ok hr) hm)
        exact Building.type_listed h hbuilt x
    · split
      · exact concludes_pure _
      · next hread =>
        obtain ⟨hfirst, -⟩ := Reading.both_eq_ok.1 (Record.closing_eq_ok.1 hread).1
        obtain ⟨hkind, hconstraints⟩ := Reading.both_eq_ok.1 (Reading.both_eq_ok.1 hfirst).2
        exact Capabilities.finishProperty_listed h _ ⟨Record.required_spelled hkind, Record.constraints_spelled hconstraints⟩
termination_by sizeOf d
/-- What ends the building of a type for lack of a meaning is listed, however deep it stands. -/
theorem Building.type_listed (h : around.capabilities.Keyed)
    (hbuilt : AllBuilt around.built) (d : Datum) :
    Concludes (CompileError.Listed around.capabilities) (Building.type around d) := by
  unfold Building.type
  split
  · split
    · exact concludes_pure _
    · exact concludes_bind (concludes_tell _) fun _ => concludes_pure _
  · split
    · exact concludes_pure _
    · next r hr =>
      refine concludes_bind (concludes_optional fun v hv => ?_) fun properties => ?_
      · split
        · exact concludes_pure _
        · next es he =>
          refine concludes_bind (concludes_entries fun p hp => ?_) fun _ => concludes_pure _
          have hsmaller : sizeOf p < sizeOf d := hp.elim fun _ hm => Nat.lt_trans (Datum.sizeOf_entry he hm)
            (hv.elim fun _ hn => Datum.sizeOf_entry (Record.ofDatum_eq_ok hr) hn)
          exact Building.property_listed h hbuilt p
      · split
        · exact concludes_pure _
        · exact concludes_bind (concludes_bind (concludes_tell _) fun _ => concludes_pure _) fun _ => concludes_pure _
termination_by sizeOf d
end

end Types

/-- Making that throws an error and ends in one way throws an error of that sort. -/
theorem Concludes.of_throws {ε α : Type} {P : ε → Prop} {m : ExceptT ε (StateM (List Notice)) α} {e : ε} (h : Concludes P m)
    (hthrows : Throws m e) : P e := by
  cases h with
  | returns a hm => cases (hm []).symm.trans (hthrows [])
  | throws e' he hm =>
    cases (hm []).symm.trans (hthrows [])
    exact he

/-! ## Descriptions of one constraint -/

namespace Probe

variable {kind : String} {constraints : List (String × List Datum)}

theorem read_constraint {method : String} (h : Spelled method) (args : List Datum) :
    Constraint.read (.record [("method", .text method), ("args", .list args)]) = .ok ⟨method, args⟩ := by
  change ((((Reading.someText (.text method)).under (.key "method")).both
    ((Reading.items (.list args)).under (.key "args"))).both (.ok ())).map _ = _
  rw [Reading.someText_of_spelled h]
  rfl

/-- The data of a part are read as its kind and its constraints, if a definition can spell them. -/
theorem read_part (hkind : Spelled kind) (hmethods : ∀ p ∈ constraints, Spelled p.1) :
    ElementDef.read (part kind constraints) = .ok ⟨kind, constraints.map fun (m, args) => ⟨m, args⟩, none⟩ := by
  have hitems : ∀ (cs : List (String × List Datum)) (i : Nat), (∀ p ∈ cs, Spelled p.1) →
      Reading.itemsFrom Constraint.read i (cs.map fun (m, args) => .record [("method", .text m), ("args", .list args)]) =
        .ok (cs.map fun (m, args) => ⟨m, args⟩) := by
    intro cs
    induction cs with
    | nil => exact fun _ _ => rfl
    | cons p rest ih =>
      intro i hspelled
      rw [List.map_cons, Reading.itemsFrom, read_constraint (hspelled p (List.mem_cons_self ..)),
        ih _ fun q hq => hspelled q (List.mem_cons_of_mem _ hq)]
      rfl
  change ((((Reading.someText (.text kind)).under (.key "type")).both
    (((Reading.itemsFrom Constraint.read 0 (constraints.map fun (m, args) =>
      .record [("method", .text m), ("args", .list args)])).under (.key "constraints")).both (.ok none))).both (.ok ())).map _ = _
  rw [Reading.someText_of_spelled hkind, hitems constraints 0 hmethods]
  rfl

/-- What the compiling of a part fails with ends the building of the property, unless it is told as what is wrong with it. -/
theorem property_throws {around : Surroundings} {e : CompileError}
    (hread : ElementDef.read (part kind constraints) = .ok ⟨kind, constraints.map fun (m, args) => ⟨m, args⟩, none⟩)
    (he : around.capabilities.compileProperty kind (constraints.map fun (m, args) => ⟨m, args⟩) none = .error e)
    (hlacks : around.capabilities.lacks e = true) : Throws (Building.property around (part kind constraints)) e := by
  intro notices
  rw [run_property_part hread]
  unfold Capabilities.finishProperty
  rw [he]
  cases e with
  | authoring e => rfl
  | pattern | fault | misread => cases hlacks

end Probe

namespace Capabilities

open Probe

variable {caps : Capabilities}

/-- Each form has arguments that the capabilities admit, as long as there is a kind to describe elements of. -/
theorem exists_fitting {kind : String} (hspelled : Spelled kind) (hkind : caps.hasKind (.text kind) = true)
    (form : ArgumentForm) : ∃ args, form.fit args = .fits ∧ (form = .elements → ∀ a ∈ args, caps.AdmitsElement a) := by
  cases form with
  | nothing | optionalFlag => exact ⟨[], rfl, nofun⟩
  | count | number => exact ⟨[.scalar (.number (.int 0))], rfl, nofun⟩
  | pattern => exact ⟨[.text "a"], by rfl, nofun⟩
  | values => exact ⟨[.null], rfl, nofun⟩
  | keys => exact ⟨[.text "a"], rfl, nofun⟩
  | reference => exact ⟨[.scalar (.reference (reference 0))], rfl, nofun⟩
  | elements =>
    refine ⟨[part kind []], rfl, fun _ a ha => ?_⟩
    obtain rfl := List.mem_singleton.1 ha
    exact .intro (read_part hspelled nofun) hkind nofun

theorem admitsElement_part {kind : String} {cs : List (String × List Datum)} (hkind : Spelled kind)
    (hmethods : ∀ p ∈ cs, Spelled p.1) (hknown : caps.hasKind (.text kind) = true)
    (hadmits : ∀ p ∈ cs, caps.Admits kind ⟨p.1, p.2⟩) : caps.AdmitsElement (part kind cs) := by
  refine .intro (read_part hkind hmethods) hknown fun c hc => ?_
  obtain ⟨p, hp, rfl⟩ := List.mem_map.1 hc
  exact hadmits p hp

theorem admitsProperty_part {kind : String} {cs : List (String × List Datum)} (hkind : Spelled kind)
    (hmethods : ∀ p ∈ cs, Spelled p.1) (hknown : caps.hasKind (.text kind) = true)
    (hadmits : ∀ p ∈ cs, caps.Admits kind ⟨p.1, p.2⟩) : caps.AdmitsProperty (part kind cs) := by
  obtain ⟨⟨⟨_, _, _⟩, _⟩, hp, hx⟩ := Reading.map_eq_ok.1 (read_part hkind hmethods)
  cases hx
  obtain ⟨hkindRead, hrest⟩ := Reading.both_eq_ok.1 (Record.closing_eq_ok.1 hp).1
  have hconstraintsRead := (Reading.both_eq_ok.1 hrest).1
  refine .intro (r := partRecord kind cs) rfl hkindRead hconstraintsRead hknown (fun c hc => ?_) fun x hx => ?_
  · obtain ⟨p, hp, rfl⟩ := List.mem_map.1 hc
    exact hadmits p hp
  · obtain ⟨record, types, _, _, _, _, _, _⟩ := hx
    cases record
    cases types

theorem mem_missing_method (h : caps.Keyed) {kind : Kind} {method : String} :
    (kind.name, method) ∈ caps.missing ↔ caps.LacksMethod kind method := by
  rw [mem_missing h]
  constructor
  · rintro (⟨name, heq, -, hnone⟩ | ⟨kind', method', heq, hlacks⟩)
    · obtain ⟨rfl, -⟩ := Prod.mk.inj heq
      cases (Kind.ofName?_name kind).symm.trans hnone
    · obtain ⟨hname, rfl⟩ := Prod.mk.inj heq
      have hkind : some kind = some kind' := by
        rw [← Kind.ofName?_name kind, ← Kind.ofName?_name kind', hname]
      obtain rfl := Option.some.inj hkind
      exact hlacks
  · exact fun hlacks => .inr ⟨kind, method, rfl, hlacks⟩

/-- The error of a kind that has no meaning. -/
def kindError (name : String) : CompileError := .authoring (.unsupportedKind (.text name) (Kind.all.map Kind.name))

/-- The error of a method that has no meaning. -/
def methodError (kind : Kind) (method : String) : CompileError :=
  .authoring (.unsupportedConstraint kind.name (.text method) .notImplemented none)

theorem kindNamed_known {name : String} (h : caps.hasKind (.text name) = true) : caps.kindNamed name =
    match Kind.ofName? name with
    | some kind => .ok kind
    | none => .error (kindError name) := by
  obtain ⟨own, hget⟩ := hasKind_iff.1 h
  unfold kindNamed
  rw [requireKind_eq_ok.2 (⟨rfl, hget⟩ : _ = Datum.text (name, own).1 ∧ _)]
  rfl

theorem compileConstraint_lacks {kind : Kind} {c : Constraint} {form : ArgumentForm}
    (hcheck : caps.check (.text kind.name) c.method c.args = .ok form) (hnone : Method.ofName? kind c.method = none)
    (element : Datum → Except CompileError PropertyChecker) (checker : PropertyChecker) :
    caps.compileConstraint kind c (fun a _ => element a) checker = .error (methodError kind c.method) := by
  unfold compileConstraint
  rw [hcheck]
  dsimp only [bind, Except.bind]
  rw [hnone]
  rfl

/-- What the compiling of a part fails with, for lack of a meaning, is how it is rejected as a property and as an element. -/
theorem part_rejected {kind : String} {cs : List (String × List Datum)} {e : CompileError} (hkind : Spelled kind)
    (hmethods : ∀ p ∈ cs, Spelled p.1) (hlacks : caps.lacks e = true)
    (he : (caps.kindNamed kind >>= fun k => caps.compileConstraints k (cs.map fun (m, args) => ⟨m, args⟩)
      (fun m a _ => caps.compileElement m a) (.ofKind k)) = .error e) :
    (∀ built, Throws (Building.property ⟨caps, built⟩ (part kind cs)) e) ∧
      ∀ m, caps.compileElement m (part kind cs) = .error e := by
  have hread := read_part hkind hmethods
  refine ⟨fun built => property_throws hread ?_ hlacks, fun m => ?_⟩
  · unfold compileProperty
    cases hk : caps.kindNamed kind with
    | error e' =>
      rw [hk] at he
      exact he
    | ok k =>
      rw [hk] at he
      change caps.compileConstraints k _ _ _ = .error e at he
      dsimp only [bind, Except.bind]
      rw [he]
  · rw [compileElement_of_read hread]
    exact he

/-- A legal constraint of a method that has no meaning is rejected, as the only one of a property or an element. -/
theorem method_rejected {kind : Kind} {method : String} {args : List Datum} (hmethod : Spelled method)
    (hadmits : caps.Admits kind.name ⟨method, args⟩) (hnone : Method.ofName? kind method = none) :
    (∀ built, Throws (Building.property ⟨caps, built⟩ (part kind.name [(method, args)])) (methodError kind method)) ∧
      ∀ m, caps.compileElement m (part kind.name [(method, args)]) = .error (methodError kind method) := by
  obtain ⟨hcheck, -⟩ := hadmits
  obtain ⟨name, own, heq, hget, -⟩ := lookup_eq_ok.1 (check_eq_ok.1 hcheck).1
  cases heq
  refine part_rejected kind.name_spelled (List.forall_mem_singleton.2 hmethod) rfl ?_
  rw [kindNamed_known (hasKind_iff.2 ⟨own, hget⟩), Kind.ofName?_name]
  change (caps.compileConstraint kind ⟨method, args⟩ (fun a _ => caps.compileElement method a) _ >>= _) = _
  rw [compileConstraint_lacks hcheck hnone]
  rfl

/-- A kind that has no meaning is rejected without any constraint. -/
theorem kind_rejected {name : String} (hname : Spelled name) (h : caps.LacksKind name) :
    (∀ built, Throws (Building.property ⟨caps, built⟩ (part name [])) (kindError name)) ∧
      ∀ m, caps.compileElement m (part name []) = .error (kindError name) := by
  refine part_rejected hname nofun h.1 ?_
  rw [kindNamed_known h.1, h.2]
  rfl

/-- Whatever is listed and can be spelled stands in a description that is admitted, and rejected for lack of a meaning. -/
theorem exists_rejected (h : caps.Keyed) {p : String × String} (hp : p ∈ caps.missing) (hkind : Spelled p.1)
    (hmethod : Spelled p.2) : ∃ d e, caps.AdmitsProperty d ∧ caps.AdmitsElement d ∧ caps.lacks e = true ∧
      (∀ built, Throws (Building.property ⟨caps, built⟩ d) e) ∧ ∀ m, caps.compileElement m d = .error e := by
  rcases (mem_missing h).1 hp with ⟨name, rfl, hlacks⟩ | ⟨kind, method, rfl, ⟨form, hlookup⟩, hnone⟩
  · exact ⟨part name [], kindError name, admitsProperty_part hkind nofun hlacks.1 nofun,
      admitsElement_part hkind nofun hlacks.1 nofun, hlacks.1, kind_rejected hkind hlacks⟩
  · obtain ⟨name, own, heq, hget, -⟩ := lookup_eq_ok.1 hlookup
    cases heq
    have hknown := hasKind_iff.2 ⟨own, hget⟩
    obtain ⟨args, hfits, helements⟩ := exists_fitting hkind hknown form
    have hadmits : caps.Admits kind.name ⟨method, args⟩ := .intro (check_eq_ok.2 ⟨hlookup, hfits⟩) helements
    have hone : ∀ q ∈ [(method, args)], caps.Admits kind.name ⟨q.1, q.2⟩ := List.forall_mem_singleton.2 hadmits
    have hspelled : ∀ q ∈ [(method, args)], Spelled q.1 := List.forall_mem_singleton.2 hmethod
    exact ⟨part kind.name [(method, args)], methodError kind method, admitsProperty_part hkind hspelled hknown hone,
      admitsElement_part hkind hspelled hknown hone, rfl, method_rejected hmethod hadmits hnone⟩

/-! ## What the list decides -/

/-- What the list of missing pairs tells of the definitions that the capabilities admit. -/
structure Decides (caps : Capabilities) : Prop where
  /-- A method has a form for a kind exactly if it has this form among all methods of the kind. -/
  lookup : ∀ kind method form, caps.lookup kind method = .ok form ↔
    ∃ methods, caps.methodsFor kind = .ok methods ∧ methods.get? method = some form
  /-- A kind's own entry wins over a base entry. -/
  own : ∀ name own, (name, own) ∈ caps.kinds → ∀ method form,
    caps.lookup (.text name) method = .ok form ↔ (own.get? method).or (caps.base.get? method) = some form
  /-- Nothing is listed that can be spelled exactly if no property that is admitted is rejected for lack of a meaning. -/
  properties : (∀ p ∈ caps.missing, ¬ (Spelled p.1 ∧ Spelled p.2)) ↔
    ∀ built, AllBuilt built → ∀ d e, caps.AdmitsProperty d → Throws (Building.property ⟨caps, built⟩ d) e → caps.lacks e = false
  /-- So it is with descriptions of elements. -/
  elements : (∀ p ∈ caps.missing, ¬ (Spelled p.1 ∧ Spelled p.2)) ↔
    ∀ m d e, caps.AdmitsElement d → caps.compileElement m d = .error e → caps.lacks e = false
  /-- Whatever is rejected for lack of a meaning, admitted or not, is rejected for what is listed. -/
  property : ∀ built, AllBuilt built → ∀ d e, Throws (Building.property ⟨caps, built⟩ d) e → e.Listed caps
  element : ∀ m d e, caps.compileElement m d = .error e → e.Listed caps
  /-- A method is listed for a kind that has a meaning exactly if some legal constraint of it is rejected for lack of one. -/
  methods : ∀ kind : Kind, caps.hasKind (.text kind.name) = true → ∀ method, Spelled method →
    ((kind.name, method) ∈ caps.missing ↔ ∃ args, caps.Admits kind.name ⟨method, args⟩ ∧
      ∀ built, Throws (Building.property ⟨caps, built⟩ (part kind.name [(method, args)])) (methodError kind method))
  /-- Then each legal constraint of it is. -/
  constraints : ∀ (kind : Kind) method, Spelled method → ∀ args, caps.Admits kind.name ⟨method, args⟩ →
    ((kind.name, method) ∈ caps.missing ↔
      ∀ built, Throws (Building.property ⟨caps, built⟩ (part kind.name [(method, args)])) (methodError kind method))

theorem property_of_throws (h : caps.Keyed) {built : TypeHandle → Option ObjectType} (hbuilt : AllBuilt built) {d : Datum}
    {e : CompileError} (hthrows : Throws (Building.property ⟨caps, built⟩ d) e) : e.Listed caps := by
  have hconcludes := @Building.property_listed ⟨caps, built⟩ h hbuilt d
  exact hconcludes.of_throws hthrows

/-- If every rejection of some sort names what is listed, and whatever is listed is rejected so, then the list decides whether there
are such rejections. -/
theorem unlisted_iff {rejects : CompileError → Prop} (hlisted : ∀ e, rejects e → e.Listed caps)
    (hrejected : ∀ p ∈ caps.missing, Spelled p.1 → Spelled p.2 → ∃ e, rejects e ∧ caps.lacks e = true) :
    (∀ p ∈ caps.missing, ¬ (Spelled p.1 ∧ Spelled p.2)) ↔ ∀ e, rejects e → caps.lacks e = false := by
  constructor
  · intro hnone e he
    by_contra hlacks
    obtain ⟨p, hp, -, hspelled⟩ := hlisted e he (Bool.eq_true_of_not_eq_false hlacks)
    exact hnone p hp hspelled
  · rintro hall p hp ⟨hkind, hmethod⟩
    obtain ⟨e, he, hlacks⟩ := hrejected p hp hkind hmethod
    cases (hall e he).symm.trans hlacks

/-- A method that some property is rejected for is listed. -/
theorem mem_missing_of_throws (h : caps.Keyed) {kind : Kind} {method : String} {d : Datum}
    (hthrows : ∀ built, Throws (Building.property ⟨caps, built⟩ d) (methodError kind method)) :
    (kind.name, method) ∈ caps.missing := by
  obtain ⟨p, hp, hpair, -⟩ := property_of_throws h allBuilt_none (hthrows fun _ => none) rfl
  cases hpair
  exact hp

/-- **The list of what is missing decides whether definitions can be rejected for lack of a meaning**, for all capabilities. -/
theorem missing_decides (h : caps.Keyed) : caps.Decides where
  lookup kind method form := lookup_iff_methodsFor h
  own name own hmem method form := lookup_of_mem h hmem
  properties := by
    have hlisted : ∀ e, (∃ built, AllBuilt built ∧ ∃ d, caps.AdmitsProperty d ∧ Throws (Building.property ⟨caps, built⟩ d) e) →
        e.Listed caps :=
      fun e ⟨_, hbuilt, _, _, hthrows⟩ => property_of_throws h hbuilt hthrows
    rw [unlisted_iff hlisted fun p hp hkind hmethod => ?_]
    · exact ⟨fun hall built hbuilt d e hadmits hthrows => hall e ⟨built, hbuilt, d, hadmits, hthrows⟩,
        fun hall e ⟨built, hbuilt, d, hadmits, hthrows⟩ => hall built hbuilt d e hadmits hthrows⟩
    · obtain ⟨d, e, hadmits, -, hlacks, hthrows, -⟩ := exists_rejected h hp hkind hmethod
      exact ⟨e, ⟨fun _ => none, allBuilt_none, d, hadmits, hthrows _⟩, hlacks⟩
  elements := by
    have hlisted : ∀ e, (∃ m d, caps.AdmitsElement d ∧ caps.compileElement m d = .error e) → e.Listed caps :=
      fun e ⟨m, d, _, herror⟩ => compileElement_listed h d m e herror
    rw [unlisted_iff hlisted fun p hp hkind hmethod => ?_]
    · exact ⟨fun hall m d e hadmits herror => hall e ⟨m, d, hadmits, herror⟩,
        fun hall e ⟨m, d, hadmits, herror⟩ => hall m d e hadmits herror⟩
    · obtain ⟨d, e, -, hadmits, hlacks, -, herror⟩ := exists_rejected h hp hkind hmethod
      exact ⟨e, ⟨"", d, hadmits, herror _⟩, hlacks⟩
  property built hbuilt d e hthrows := property_of_throws h hbuilt hthrows
  element m d e herror := compileElement_listed h d m e herror
  methods kind hknown method hmethod := by
    constructor
    · intro hmem
      obtain ⟨⟨form, hlookup⟩, hnone⟩ := (mem_missing_method h).1 hmem
      obtain ⟨args, hfits, helements⟩ := exists_fitting kind.name_spelled hknown form
      have hadmits : caps.Admits kind.name ⟨method, args⟩ := .intro (check_eq_ok.2 ⟨hlookup, hfits⟩) helements
      exact ⟨args, hadmits, (method_rejected hmethod hadmits hnone).1⟩
    · rintro ⟨args, -, hthrows⟩
      exact mem_missing_of_throws h hthrows
  constraints kind method hmethod args hadmits := by
    constructor
    · exact fun hmem => (method_rejected hmethod hadmits ((mem_missing_method h).1 hmem).2).1
    · exact mem_missing_of_throws h

/-- Capabilities with a method and a kind that have no meaning. -/
def shouting : Capabilities := ⟨[("String", [("shout", .nothing), ("min", .count)]), ("Date", [])], [("required", .nothing)]⟩

theorem shouting_decides : shouting.missing = [("String", "shout"), ("Date", "<base>")] ∧ shouting.Keyed ∧ shouting.Decides :=
  have hkeyed : shouting.Keyed := ⟨by decide, by decide⟩
  ⟨by decide, hkeyed, missing_decides hkeyed⟩

/-- Capabilities with a kind that no definition can spell. -/
def emptyKind : Capabilities := ⟨[("", [])], []⟩

/-- A kind is listed, and still no property or element is rejected for it. -/
theorem emptyKind_missing : ¬ (emptyKind.missing = [] ↔
    (∀ built, AllBuilt built → ∀ d e, emptyKind.AdmitsProperty d → Throws (Building.property ⟨emptyKind, built⟩ d) e →
        emptyKind.lacks e = false) ∧
      ∀ m d e, emptyKind.AdmitsElement d → emptyKind.compileElement m d = .error e → emptyKind.lacks e = false) := by
  have hkeyed : emptyKind.Keyed := ⟨by decide, by decide⟩
  have hmissing : emptyKind.missing = [("", "<base>")] := rfl
  have hunlisted : ∀ {e : CompileError}, e.Listed emptyKind → emptyKind.lacks e = false := by
    intro e he
    by_contra hlacks
    obtain ⟨p, hp, -, ⟨-, hname⟩, -⟩ := he (Bool.eq_true_of_not_eq_false hlacks)
    rw [hmissing, List.mem_singleton] at hp
    exact hname (congrArg Prod.fst hp)
  intro h
  have hempty : emptyKind.missing = [] :=
    h.2 ⟨fun built hbuilt d e _ hthrows => hunlisted (property_of_throws hkeyed hbuilt hthrows),
      fun m d e _ herror => hunlisted (compileElement_listed hkeyed d m e herror)⟩
  cases hmissing.symm.trans hempty

end Capabilities
end ShapeCheck
