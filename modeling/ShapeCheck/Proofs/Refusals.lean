import Mathlib.Logic.Relation
import ShapeCheck.Proofs.Legality
import ShapeCheck.Proofs.Lookups
import ShapeCheck.Proofs.Probes
import ShapeCheck.Proofs.Shrinking
import ShapeCheck.Proofs.Telling

/-!
# How definitions are refused

Under the standard capabilities four things can stop the compiling of a constraint: it is not legal, its limit cannot be written,
its pattern is well formed and cannot be read, or it has no end, since a description or a value in it contains itself
(`CompileError.Stops`). The second is told as what is wrong with the definition, and so is a bad value in a pattern; a pattern
that is too large (`Pattern.ReadError.isTooLarge`) ends the building with an error that nothing around it expects, and so does
what has no end. `Concludes` says that making ends in one way, whatever was told before, and with which errors; it
goes through the building of types (`Building.type_concludes`), the types of a schema in order (`Schema.makeTypes_concludes`) and
the operations of a workspace, where `Work.refuses_definitions` lists all the ways in which definitions are refused.
-/

namespace ShapeCheck

open Relation Shape

/-! ## Patterns in data -/

/-- Somewhere in a datum stands a constraint that asks for a pattern. -/
def Datum.AsksFor (d : Datum) (source : String) : Prop :=
  ∃ x, TransGen Datum.Holds d x ∧ Constraint.read x = .ok ⟨"regex", [.scalar (.text source)]⟩

theorem Datum.AsksFor.of_held {d e : Datum} {source : String} (hd : TransGen Datum.Holds d e) (h : e.AsksFor source) :
    d.AsksFor source := by
  obtain ⟨x, hx, hread⟩ := h
  exact ⟨x, hd.trans hx, hread⟩

/-- Something in a datum contains itself. -/
def Datum.HasLoop (d : Datum) : Prop := ∃ x, ReflTransGen Datum.Holds d x ∧ x.isKnotted = true

theorem Datum.HasLoop.of_held {d e : Datum} (hd : ReflTransGen Datum.Holds d e) (h : e.HasLoop) : d.HasLoop := by
  obtain ⟨x, hx, hknotted⟩ := h
  exact ⟨x, hd.trans hx, hknotted⟩

/-- What a constraint asks for as its only argument. -/
def Constraint.Asks (c : Constraint) (source : String) : Prop := c.method = "regex" ∧ c.args = [.scalar (.text source)]

theorem Constraint.Asks.asksFor {c : Constraint} {source : String} (h : c.Asks source) {d x : Datum}
    (hx : TransGen Datum.Holds d x) (hread : Constraint.read x = .ok c) : d.AsksFor source := by
  obtain ⟨method, args⟩ := c
  obtain ⟨rfl, rfl⟩ := h
  exact ⟨x, hx, hread⟩

/-- A property asks for a pattern, in a constraint of its own or in a description of elements. -/
def PropertyDef.AsksFor (p : PropertyDef) (source : String) : Prop :=
  ∃ c ∈ p.constraints, c.Asks source ∨ ∃ a ∈ c.args, a.AsksFor source

/-- An argument of a property has something in it that contains itself. -/
def PropertyDef.HasLoop (p : PropertyDef) : Prop := ∃ c ∈ p.constraints, ∃ a ∈ c.args, a.HasLoop

section Demands

variable (built : TypeHandle → Option ObjectType)

/-- A property that was built before stands in a definition. -/
inductive Datum.Reuses (d : Datum) (p : PropertyDef × PropertyChecker) : Prop
  | intro {handle : TypeHandle} {parts : List (String × Datum)}
      (held : ReflTransGen Datum.Holds d (.structured "Property" (some handle) parts)) (known : handle.property? built = some p)

/-- A definition asks for a pattern where it is written, or in a property that was built before. -/
def Datum.Demands (d : Datum) (source : String) : Prop := d.AsksFor source ∨ ∃ p, d.Reuses built p ∧ p.1.AsksFor source

/-- Something contains itself where a definition is written, or in a property that was built before. -/
def Datum.Loops (d : Datum) : Prop := d.HasLoop ∨ ∃ p, d.Reuses built p ∧ p.1.HasLoop

variable {built} {d e : Datum} (hd : TransGen Datum.Holds d e)

include hd

theorem Datum.Reuses.of_held {p : PropertyDef × PropertyChecker} (h : e.Reuses built p) : d.Reuses built p := by
  obtain ⟨held, known⟩ := h
  exact ⟨hd.to_reflTransGen.trans held, known⟩

theorem Datum.Demands.of_held {source : String} (h : e.Demands built source) : d.Demands built source :=
  h.imp (·.of_held hd) fun ⟨p, hp, hasks⟩ => ⟨p, hp.of_held hd, hasks⟩

theorem Datum.Loops.of_held (h : e.Loops built) : d.Loops built :=
  h.imp (·.of_held hd.to_reflTransGen) fun ⟨p, hp, hloop⟩ => ⟨p, hp.of_held hd, hloop⟩

end Demands

/-- Constraints of a record are read from what stands in it. -/
theorem Record.constraints_held {d : Datum} {r : Record} {cs : List Constraint} (hr : d.entries? = some r.entries)
    (h : r.optional .constraints [] Reading.constraints = .ok cs) :
    ∀ c ∈ cs, ∃ x, TransGen Datum.Holds d x ∧ Constraint.read x = .ok c := by
  intro c hc
  rcases Record.optional_eq_ok h with rfl | ⟨k, v, hmem, hv⟩
  · cases hc
  · obtain ⟨xs, x, hxs, hx, hread⟩ := Reading.listOf_member hv hc
    exact ⟨x, .trans_right (.head (.entry hr hmem) v.holds_target) (.single (.item hxs hx)), hread⟩

/-- What stands under a key of a record of a constraint stands in it. -/
theorem Constraint.holds_entry {d v : Datum} {es : List (Key × Datum)} {k : Key} (hes : entries? d = some es) (hv : (k, v) ∈ es) :
    d.target.Holds v := by
  rcases entries?_cases hes with hes | ⟨parts, hparts, rfl⟩
  · exact .entry hes hv
  · obtain ⟨p, hp, heq⟩ := List.mem_map.1 hv
    cases heq
    exact .part hparts hp

/-- The arguments of a constraint stand in its datum. -/
theorem Constraint.args_held {d : Datum} {c : Constraint} (h : Constraint.read d = .ok c) {a : Datum} (ha : a ∈ c.args) :
    TransGen Datum.Holds d a := by
  obtain ⟨es, k, v, hes, hv, hmembers⟩ := Constraint.args_entry h ha
  exact .trans_right ((d.holds_target.tail (Constraint.holds_entry hes hv)).trans v.holds_target) (.single (.item hmembers ha))

theorem ElementDef.constraints_held {d : Datum} {e : ElementDef} (h : ElementDef.read d = .ok e) :
    ∀ c ∈ e.constraints, ∃ x, TransGen Datum.Holds d x ∧ Constraint.read x = .ok c := by
  unfold ElementDef.read at h
  split at h
  · cases h
  · next r hr =>
    obtain ⟨⟨⟨kind, constraints, description⟩, _⟩, hparts, rfl⟩ := Reading.map_eq_ok.1 h
    have hconstraints := (Reading.both_eq_ok.1 (Reading.both_eq_ok.1 (Record.closing_eq_ok.1 hparts).1).2).1
    intro c hc
    obtain ⟨x, hx, hread⟩ := Record.constraints_held (Record.ofDatum_eq_ok hr) hconstraints c hc
    exact ⟨x, .trans_right d.holds_target hx, hread⟩

/-! ## What stops the compiling of constraints -/

/-- A computation that fails does so with an error of a certain sort. -/
def FailsWith {ε α : Type} (P : ε → Prop) (x : Except ε α) : Prop := ∀ e, x = .error e → P e

section FailsWith

variable {ε α β : Type} {P : ε → Prop}

theorem failsWith_ok (a : α) : FailsWith P (.ok a : Except ε α) := nofun

theorem failsWith_error {e : ε} (h : P e) : FailsWith P (.error e : Except ε α) := by
  rintro _ ⟨⟩
  exact h

theorem failsWith_bind {x : Except ε α} {f : α → Except ε β} (hx : FailsWith P x) (hf : ∀ a, x = .ok a → FailsWith P (f a)) :
    FailsWith P (x >>= f) := by
  cases x with
  | error e => exact failsWith_error (hx e rfl)
  | ok a => exact hf a rfl

theorem failsWith_mapM {f : α → Except ε β} : ∀ {xs : List α}, (∀ x ∈ xs, FailsWith P (f x)) → FailsWith P (xs.mapM f)
  | [], _ => by
    rw [List.mapM_nil]
    exact failsWith_ok _
  | x :: rest, h => by
    rw [List.mapM_cons]
    refine failsWith_bind (h x (List.mem_cons_self ..)) fun _ _ => ?_
    exact failsWith_bind (failsWith_mapM fun y hy => h y (List.mem_cons_of_mem _ hy)) fun _ _ => failsWith_ok _

end FailsWith

/-- Whether a pattern is well formed, and still cannot be read. -/
def Pattern.ReadError.isMalformed : Pattern.ReadError → Bool
  | .malformed .. => true
  | _ => false

/-- What a property asks for is asked for where its constraints stand. -/
theorem PropertyDef.AsksFor.of_held {p : PropertyDef} {source : String} (h : p.AsksFor source) {d : Datum}
    (held : ∀ c ∈ p.constraints, ∃ x, TransGen Datum.Holds d x ∧ Constraint.read x = .ok c) : d.AsksFor source := by
  obtain ⟨c, hc, hasks⟩ := h
  obtain ⟨x, hx, hread⟩ := held c hc
  rcases hasks with hasks | ⟨a, ha, hasks⟩
  · exact hasks.asksFor hx hread
  · exact hasks.of_held (hx.trans (Constraint.args_held hread ha))

theorem PropertyDef.HasLoop.of_held {p : PropertyDef} (h : p.HasLoop) {d : Datum}
    (held : ∀ c ∈ p.constraints, ∃ x, TransGen Datum.Holds d x ∧ Constraint.read x = .ok c) : d.HasLoop := by
  obtain ⟨c, hc, a, ha, hloop⟩ := h
  obtain ⟨x, hx, hread⟩ := held c hc
  exact hloop.of_held (hx.trans (Constraint.args_held hread ha)).to_reflTransGen

/-- What stops the compiling of a constraint under the standard capabilities: something is not legal, a well-formed pattern among
certain ones cannot be read, an integer cannot be written, or there is no end where something may contain itself. -/
inductive CompileError.Stops (among : String → Prop) (loop : Prop) : CompileError → Prop
  | authoring (e : AuthoringError) : Stops among loop (.authoring e)
  | pattern {source : String} {e : Pattern.ReadError} (asked : among source) (unread : Pattern.read source = .error e)
      (formed : e.isMalformed = false) : Stops among loop (.pattern source e)
  | tooLong : Stops among loop (.fault .integerTooLong)
  | endless (there : loop) : Stops among loop (.fault .endless)

theorem CompileError.Stops.mono {P Q : String → Prop} {R S : Prop} (hPQ : ∀ s, P s → Q s) (hRS : R → S) {e : CompileError}
    (h : e.Stops P R) : e.Stops Q S := by
  cases h with
  | authoring e => exact .authoring e
  | pattern asked unread formed => exact .pattern (hPQ _ asked) unread formed
  | tooLong => exact .tooLong
  | endless there => exact .endless (hRS there)

section Compiling

variable {among : String → Prop} {loop : Prop} {kind : Kind}

theorem ArgumentForm.fit_unreadable {form : ArgumentForm} {args : List Datum} {source : String} {e : Pattern.ReadError}
    (h : form.fit args = .unreadable source e) :
    form = .pattern ∧ args = [.scalar (.text source)] ∧ Pattern.read source = .error e ∧ e.isMalformed = false := by
  unfold fit at h
  split at h
  case h_7 s =>
    split at h
    · cases h
    · cases h
    · next hformed hread =>
      cases h
      refine ⟨rfl, rfl, hread, ?_⟩
      unfold Pattern.ReadError.isMalformed
      split
      · next problem position => exact absurd rfl (hformed problem position)
      · rfl
  case h_17 =>
    split at h
    · split at h <;> cases h
    · cases h
  all_goals first
    | cases h
    | (split at h <;> cases h)

theorem ArgumentForm.fit_elements {args : List Datum} (h : elements.fit args = .fits) : ∀ a ∈ args, isMapping a = true := by
  change (if args.isEmpty || !args.all isMapping then Fit.misfit .notElements else .fits) = .fits at h
  split at h
  · cases h
  · next hall =>
    rw [Bool.or_eq_true, not_or, Bool.not_eq_true', Bool.not_eq_false] at hall
    exact List.all_eq_true.1 hall.2

/-- Patterns are what `regex` asks for, and nothing else. -/
theorem Kind.form?_pattern {method : String} (h : kind.form? method = some .pattern) : method = "regex" := by
  have hmem := Kind.form?_mem h
  cases kind <;> simp [Capabilities.standardOwn, Capabilities.standardBase] at hmem
  exact hmem

namespace Capabilities

theorem check_fails {c : Constraint} (h : ∀ source, c.Asks source → among source) :
    FailsWith (CompileError.Stops among loop) (standard.check (.text kind.name) c.method c.args) := by
  intro e he
  unfold check at he
  split at he
  · cases he
    exact .authoring _
  · next form hlookup =>
    split at he
    · cases he
    · cases he
      exact .authoring _
    · next source why hfit =>
      cases he
      obtain ⟨rfl, hargs, hread, hformed⟩ := ArgumentForm.fit_unreadable hfit
      exact .pattern (h source ⟨Kind.form?_pattern (standard_lookup_ok.1 hlookup), hargs⟩) hread hformed

end Capabilities

/-- A description that leads back to itself has a loop in it. -/
theorem ElementDef.hasLoop_of_turns {d : Datum} (h : turns d = true) : d.HasLoop := by
  have hback : ∀ {e : Datum}, e.isTurn = true → e.HasLoop := by
    intro e he
    refine ⟨e.target, e.holds_target, ?_⟩
    unfold Datum.isTurn at he
    split at he
    · next hmark =>
      rw [hmark]
      rfl
    · cases he
  unfold turns at h
  rw [Bool.or_eq_true, Option.any_eq_true] at h
  rcases h with h | ⟨⟨_, constraints⟩, hfound, h⟩
  · exact hback h
  obtain ⟨es, hes, hfound⟩ := Option.bind_eq_some_iff.1 hfound
  obtain ⟨k, hk⟩ := Field.find?_mem hfound
  refine .of_held (d.holds_target.tail (.entry hes hk)) ?_
  unfold constraintsTurn at h
  rw [Bool.or_eq_true, List.any_eq_true] at h
  rcases h with h | ⟨c, hc, h⟩
  · exact hback h
  obtain ⟨xs, hxs, hc⟩ : ∃ xs, constraints.target.members? = some xs ∧ c ∈ xs := by
    cases hxs : constraints.target.members? with
    | none =>
      rw [hxs] at hc
      cases hc
    | some xs =>
      rw [hxs] at hc
      exact ⟨xs, rfl, hc⟩
  refine .of_held (constraints.holds_target.tail (.item hxs hc)) ?_
  rw [Bool.or_eq_true, Option.any_eq_true] at h
  rcases h with h | ⟨⟨_, args⟩, hfound, h⟩
  · exact hback h
  obtain ⟨es, hes, hfound⟩ := Option.bind_eq_some_iff.1 hfound
  obtain ⟨k, hk⟩ := Field.find?_mem hfound
  exact .of_held (c.holds_target.tail (Constraint.holds_entry hes hk)) (hback h)

theorem limitArgument_fails (a : Datum) : FailsWith (CompileError.Stops among loop) (limitArgument [a]) := by
  change FailsWith _ (if a.isTooLong then Except.error (CompileError.fault .integerTooLong) else .ok a)
  split
  · exact failsWith_error .tooLong
  · exact failsWith_ok _

theorem elements_fails {element : Datum → Except CompileError PropertyChecker} {args : List Datum}
    (h : ∀ a ∈ args, FailsWith (CompileError.Stops among loop) (element a)) :
    FailsWith (CompileError.Stops among loop) (args.attach.mapM fun ⟨a, _⟩ => element a) :=
  failsWith_mapM fun x _ => h x.1 x.2

/-- Taking in data stops only at one that contains itself. -/
theorem takeAll_fails {args : List Datum} (hloop : ∀ a ∈ args, a.HasLoop → loop)
    {take : PropertyChecker → Datum → PropertyChecker} {takesOn : PropertyChecker → Datum → Bool}
    (hon : ∀ c d, takesOn c d = true → d.isKnotted = true) (c : PropertyChecker) :
    FailsWith (CompileError.Stops among loop) (takeAll take takesOn args c) := by
  rcases takeAll_cases take takesOn args c with ⟨hall, _⟩ | ⟨hstops, before, d, after, rfl, hd⟩
  · rw [hall]
    exact failsWith_ok _
  · rw [hstops]
    exact failsWith_error (.endless (hloop d (by simp) ⟨d, .refl, hon _ _ hd⟩))

/-- A method whose arguments fit fails only where its limit cannot be written, one of its descriptions fails, or a value that it
mentions contains itself. -/
theorem Method.apply_fails {m : Method} {args : List Datum} {element : Datum → Except CompileError PropertyChecker}
    {c : PropertyChecker} (hfits : m.form.fit args = .fits) (hloop : ∀ a ∈ args, a.HasLoop → loop)
    (helement : ∀ a ∈ args, ArgumentForm.isMapping a = true → FailsWith (CompileError.Stops among loop) (element a)) :
    FailsWith (CompileError.Stops among loop) (m.apply args (fun a _ => element a) c) := by
  cases m with
  | length bound unit =>
    obtain ⟨n, rfl, _⟩ := ArgumentForm.fit_count hfits
    exact failsWith_bind (limitArgument_fails _) fun _ _ => failsWith_ok _
  | atLeast | atMost =>
    obtain ⟨n, rfl⟩ := ArgumentForm.fit_number hfits
    exact failsWith_bind (limitArgument_fails _) fun _ _ => failsWith_ok _
  | pattern | reference =>
    obtain ⟨c', hok⟩ := (@Method.apply_rule_iff element args _ c hfits rfl).2 ⟨fun h => absurd h (by decide), nofun⟩
    rw [hok]
    exact failsWith_ok _
  | allow => exact takeAll_fails hloop (fun _ _ => PropertyChecker.isKnotted_of_allowsOn) c
  | valid =>
    exact failsWith_bind (takeAll_fails hloop (fun _ _ => PropertyChecker.isKnotted_of_allowsOn) c) fun _ _ => failsWith_ok _
  | deny => exact takeAll_fails hloop (fun _ _ => PropertyChecker.isKnotted_of_deniesOn) c
  | includes | excludes =>
    have hmappings := ArgumentForm.fit_elements hfits
    exact failsWith_bind (elements_fails fun a ha => helement a ha (hmappings a ha)) fun _ _ => failsWith_ok _
  | _ => exact failsWith_ok _

namespace Capabilities

variable {element : String → Datum → Except CompileError PropertyChecker}

theorem compileConstraint_fails {x : Constraint} {c : PropertyChecker} (h : ∀ source, x.Asks source → among source)
    (hloop : ∀ a ∈ x.args, a.HasLoop → loop)
    (helement : ∀ a ∈ x.args, ArgumentForm.isMapping a = true → FailsWith (CompileError.Stops among loop) (element x.method a)) :
    FailsWith (CompileError.Stops among loop) (standard.compileConstraint kind x (fun a _ => element x.method a) c) := by
  unfold compileConstraint
  refine failsWith_bind (check_fails h) fun form hform => ?_
  split
  · next m hm => exact Method.apply_fails (standard_check hform hm) hloop helement
  · exact failsWith_error (.authoring _)

theorem compileConstraints_fails : ∀ {cs : List Constraint} {c : PropertyChecker},
    (∀ x ∈ cs, ∀ source, x.Asks source → among source) → (∀ x ∈ cs, ∀ a ∈ x.args, a.HasLoop → loop) →
    (∀ x ∈ cs, ∀ a ∈ x.args, ArgumentForm.isMapping a = true → ∀ m, FailsWith (CompileError.Stops among loop) (element m a)) →
    FailsWith (CompileError.Stops among loop) (standard.compileConstraints kind cs (fun m a _ => element m a) c)
  | [], _, _, _, _ => failsWith_ok _
  | x :: rest, _, hasks, hloop, helement => by
    unfold compileConstraints
    refine failsWith_bind ?_ fun _ _ => ?_
    · exact compileConstraint_fails (hasks x (List.mem_cons_self ..)) (hloop x (List.mem_cons_self ..))
        fun a ha hmapping => helement x (List.mem_cons_self ..) a ha hmapping _
    · exact compileConstraints_fails (fun y hy => hasks y (List.mem_cons_of_mem _ hy))
        (fun y hy => hloop y (List.mem_cons_of_mem _ hy)) fun y hy => helement y (List.mem_cons_of_mem _ hy)

theorem kindNamed_fails (name : String) : FailsWith (CompileError.Stops among loop) (standard.kindNamed name) := by
  intro e he
  unfold kindNamed at he
  split at he
  · cases he
    exact .authoring _
  · split at he
    · cases he
    · cases he
      exact .authoring _

/-- The compiling of a description is stopped by nothing but patterns and loops inside of it. -/
theorem compileElement_fails (d : Datum) (hd : ArgumentForm.isMapping d = true) (m : String) :
    FailsWith (CompileError.Stops d.AsksFor d.HasLoop) (standard.compileElement m d) := by
  rw [compileElement]
  split
  · next hturns => exact failsWith_error (.endless (ElementDef.hasLoop_of_turns hturns))
  next hturns =>
  split
  · have hentries : d.target.entries?.isSome = true := by
      have hknown : d.isTurn = false := Bool.eq_false_iff.2 fun h => hturns (by simp [ElementDef.turns, h])
      rwa [ArgumentForm.isMapping, hknown, Bool.false_or] at hd
    obtain ⟨es, hes⟩ := Option.isSome_iff_exists.1 hentries
    have hshown : d.target.asEntries = .ok es := by
      unfold Datum.asEntries
      rw [hes]
    rw [hshown]
    exact failsWith_error (.authoring _)
  · next e he =>
    refine failsWith_bind (kindNamed_fails _) fun kind _ => ?_
    have hargs : ∀ x ∈ e.constraints, ∀ a ∈ x.args, TransGen Datum.Holds d a := by
      intro x hx a ha
      obtain ⟨y, hy, hread⟩ := ElementDef.constraints_held he x hx
      exact hy.trans (Constraint.args_held hread ha)
    refine compileConstraints_fails (fun x hx source hasks => ?_) (fun x hx a ha hloop => hloop.of_held (hargs x hx a ha).to_reflTransGen)
      fun x hx a ha hmapping m' f hf => ?_
    · obtain ⟨y, hy, hread⟩ := ElementDef.constraints_held he x hx
      exact hasks.asksFor hy hread
    · have hsmaller : sizeOf a < sizeOf d := ElementDef.args_smaller he hx ha
      exact (compileElement_fails a hmapping m' f hf).mono (fun _ h => h.of_held (hargs x hx a ha))
        fun h => h.of_held (hargs x hx a ha).to_reflTransGen
termination_by sizeOf d

/-- So is that of a property: besides, only the descriptions of its constraints are looked at. -/
theorem compileProperty_fails (p : PropertyDef) (inlineTypes : Option (List TypeChecker)) :
    FailsWith (CompileError.Stops p.AsksFor p.HasLoop) (standard.compileProperty p.kind p.constraints inlineTypes) := by
  unfold compileProperty
  refine failsWith_bind (kindNamed_fails _) fun kind _ => ?_
  have hconstraints : FailsWith (CompileError.Stops p.AsksFor p.HasLoop)
      (standard.compileConstraints kind p.constraints (fun m a _ => standard.compileElement m a) (.ofKind kind)) :=
    compileConstraints_fails (fun x hx source hasks => ⟨x, hx, .inl hasks⟩) (fun x hx a ha hloop => ⟨x, hx, a, ha, hloop⟩)
      fun x hx a ha hmapping m e he => (compileElement_fails a hmapping m e he).mono (fun _ h => ⟨x, hx, .inr ⟨a, ha, h⟩⟩)
        fun h => ⟨x, hx, a, ha, h⟩
  refine failsWith_bind hconstraints fun checker _ => ?_
  dsimp only
  split
  · exact failsWith_ok _
  · split
    · exact failsWith_error (.authoring _)
    · split
      · split
        · exact failsWith_error (.authoring _)
        · exact failsWith_ok _
      · exact failsWith_error (.authoring _)

end Capabilities

end Compiling

/-! ## What stops the building of a type -/

/-- Whether a pattern is refused for its size alone, which is not told as what is wrong with the definition. -/
def Pattern.ReadError.isTooLarge : Pattern.ReadError → Bool
  | .repetitionTooLarge | .behindTooWide | .codeTooLarge => true
  | _ => false

/-- What ends the building of a type at once, under the standard capabilities: something is not legal, a pattern among certain
ones is too large, or there is no end where something may contain itself. -/
inductive CompileError.Ends (among : String → Prop) (loop : Prop) : CompileError → Prop
  | authoring (e : AuthoringError) : Ends among loop (.authoring e)
  | pattern {source : String} {e : Pattern.ReadError} (asked : among source) (unread : Pattern.read source = .error e)
      (large : e.isTooLarge = true) : Ends among loop (.pattern source e)
  | endless (there : loop) : Ends among loop (.fault .endless)

theorem CompileError.Ends.mono {P Q : String → Prop} {R S : Prop} (hPQ : ∀ s, P s → Q s) (hRS : R → S) {e : CompileError}
    (h : e.Ends P R) : e.Ends Q S := by
  cases h with
  | authoring e => exact .authoring e
  | pattern asked unread large => exact .pattern (hPQ _ asked) unread large
  | endless there => exact .endless (hRS there)

/-- What stops the compiling of a property is told as what is wrong with it, or ends the building. -/
theorem CompileError.Stops.ends {among : String → Prop} {loop : Prop} {e : CompileError} (h : e.Stops among loop) :
    e.Ends among loop ∨ ∃ reason, e.refusal? = some reason := by
  cases h with
  | authoring e => exact .inl (.authoring e)
  | endless there => exact .inl (.endless there)
  | tooLong => exact .inr ⟨_, rfl⟩
  | @pattern source e asked unread formed =>
    cases e with
    | malformed => cases formed
    | repetitionTooLong | asciiAndUnicode => exact .inr ⟨_, rfl⟩
    | repetitionTooLarge | behindTooWide | codeTooLarge => exact .inl (.pattern asked unread rfl)

/-- Making gives something, whatever was told before. -/
def Returns {ε α : Type} (m : ExceptT ε (StateM (List Notice)) α) (a : α) : Prop := ∀ notices, (m.run.run notices).1 = .ok a

/-- Making fails, whatever was told before. -/
def Throws {ε α : Type} (m : ExceptT ε (StateM (List Notice)) α) (e : ε) : Prop := ∀ notices, (m.run.run notices).1 = .error e

/-- Making ends in one way, whatever was told before: it gives something, or fails with an error of a certain sort. -/
inductive Concludes {ε α : Type} (P : ε → Prop) (m : ExceptT ε (StateM (List Notice)) α) : Prop
  | returns (a : α) (run : Returns m a)
  | throws (e : ε) (sort : P e) (run : Throws m e)

section Concludes

variable {ε α β : Type} {P Q : ε → Prop} {m : ExceptT ε (StateM (List Notice)) α}
  {k : α → ExceptT ε (StateM (List Notice)) β}

theorem returns_pure (a : α) : Returns (pure a : ExceptT ε (StateM (List Notice)) α) a := fun _ => rfl

theorem throws_throw (e : ε) : Throws (throw e : ExceptT ε (StateM (List Notice)) α) e := fun _ => rfl

/-- What comes after making that gives something runs on what it gives, after more notices. -/
theorem Returns.run_bind {a : α} (h : Returns m a) (k : α → ExceptT ε (StateM (List Notice)) β) (notices : List Notice) :
    ∃ told, (m >>= k).run.run notices = (k a).run.run told := by
  have hm := h notices
  rw [ShapeCheck.run_bind]
  rcases hrun : m.run.run notices with ⟨r, told⟩
  rw [hrun] at hm
  cases hm
  exact ⟨told, rfl⟩

theorem returns_bind {a : α} {b : β} (h : Returns m a) (hk : Returns (k a) b) : Returns (m >>= k) b := by
  intro ns
  obtain ⟨told, hrun⟩ := h.run_bind k ns
  rw [hrun, hk told]

theorem throws_bind_left {e : ε} (h : Throws m e) : Throws (m >>= k) e := by
  intro ns
  have hm := h ns
  rw [run_bind]
  rcases hrun : m.run.run ns with ⟨r, told⟩
  rw [hrun] at hm
  cases hm
  rfl

theorem throws_bind_right {a : α} {e : ε} (h : Returns m a) (hk : Throws (k a) e) : Throws (m >>= k) e := by
  intro ns
  obtain ⟨told, hrun⟩ := h.run_bind k ns
  rw [hrun, hk told]

theorem concludes_pure (a : α) : Concludes P (pure a : ExceptT ε (StateM (List Notice)) α) := .returns a (returns_pure a)

theorem concludes_throw {e : ε} (h : P e) : Concludes P (throw e : ExceptT ε (StateM (List Notice)) α) :=
  .throws e h (throws_throw e)

theorem concludes_bind (h : Concludes P m) (hk : ∀ a, Concludes P (k a)) : Concludes P (m >>= k) := by
  cases h with
  | throws e he hm => exact .throws e he (throws_bind_left hm)
  | returns a hm =>
    cases hk a with
    | returns b hb => exact .returns b (returns_bind hm hb)
    | throws e he hb => exact .throws e he (throws_bind_right hm hb)

theorem Concludes.mono (h : Concludes P m) (hPQ : ∀ e, P e → Q e) : Concludes Q m := by
  cases h with
  | returns a hm => exact .returns a hm
  | throws e he hm => exact .throws e (hPQ e he) hm

end Concludes

namespace Building

variable {α : Type} {P : CompileError → Prop}

theorem concludes_tell (n : Notice) : Concludes P (tell n) := .returns () fun _ => rfl

theorem concludes_optional {r : Record} {f : Field} {absent : α}
    {read : (d : Datum) → (∃ k, (k, d) ∈ r.entries) → Building (Reading α)} (h : ∀ d hd, Concludes P (read d hd)) :
    Concludes P (optional r f absent read) := by
  unfold optional
  split
  · exact concludes_bind (h _ _) fun _ => concludes_pure _
  · exact concludes_pure _

theorem concludes_entries : ∀ {es : List (Key × Datum)} {read : (d : Datum) → (∃ k, (k, d) ∈ es) → Building (Reading α)},
    (∀ d hd, Concludes P (read d hd)) → Concludes P (entries es read)
  | [], _, _ => by
    unfold entries
    exact concludes_pure _
  | (k, d) :: rest, read, h => by
    unfold entries
    exact concludes_bind (h _ _) fun _ => concludes_bind (concludes_entries fun _ _ => h _ _) fun _ => concludes_pure _

theorem concludes_items : ∀ {i : Nat} {xs : List Datum} {read : (d : Datum) → d ∈ xs → Building (Reading α)},
    (∀ d hd, Concludes P (read d hd)) → Concludes P (items i xs read)
  | _, [], _, _ => by
    unfold items
    exact concludes_pure _
  | _, d :: rest, read, h => by
    unfold items
    exact concludes_bind (h _ _) fun _ => concludes_bind (concludes_items fun _ _ => h _ _) fun _ => concludes_pure _

end Building

theorem Capabilities.concludes_finishProperty (d : Datum) (p : PropertyDef) (inlineTypes : Option (List TypeChecker)) :
    Concludes (CompileError.Ends p.AsksFor p.HasLoop) (standard.finishProperty d p inlineTypes) := by
  unfold finishProperty
  split
  · exact concludes_pure _
  · exact concludes_pure _
  · next e _ he =>
    split
    · exact concludes_pure _
    · next hnone =>
      rcases (compileProperty_fails p inlineTypes e he).ends with hends | ⟨reason, hreason⟩
      · exact concludes_throw hends
      · cases hnone.symm.trans hreason

section Types

variable {built : TypeHandle → Option ObjectType}

mutual
theorem Building.property_concludes (d : Datum) :
    Concludes (CompileError.Ends (d.Demands built) (d.Loops built)) (Building.property ⟨.standard, built⟩ d) := by
  unfold Building.property
  split
  · split
    · exact concludes_pure _
    · next hq =>
      refine (Capabilities.concludes_finishProperty _ _ _).mono fun _ h => h.mono (fun _ hasks => ?_) fun hloop => ?_
      · exact .inr ⟨_, ⟨.refl, hq⟩, hasks⟩
      · exact .inr ⟨_, ⟨.refl, hq⟩, hloop⟩
  split
  · exact concludes_pure _
  · next r hr =>
    refine concludes_bind (concludes_optional fun v hv => ?_) fun inlineTypes => ?_
    · split
      · exact concludes_pure _
      split
      · exact concludes_pure _
      · next xs hi =>
        refine concludes_bind (concludes_items fun x hx => ?_) fun _ => concludes_pure _
        have hsmaller : sizeOf x < sizeOf d := Nat.lt_trans (Datum.sizeOf_member hi hx)
          (hv.elim fun _ hm => Datum.sizeOf_entry (Record.ofDatum_eq_ok hr) hm)
        obtain ⟨k, hv⟩ := hv
        have held : TransGen Datum.Holds d x := .head (.entry (Record.ofDatum_eq_ok hr) hv) (.single (.item hi hx))
        exact (Building.type_concludes x).mono fun _ h => h.mono (fun _ => .of_held held) (.of_held held)
    · split
      · exact concludes_pure _
      · next hread =>
        obtain ⟨hfirst, -⟩ := Reading.both_eq_ok.1 (Record.closing_eq_ok.1 hread).1
        have hconstraints := (Reading.both_eq_ok.1 (Reading.both_eq_ok.1 hfirst).2).2
        have hheld := Record.constraints_held (Record.ofDatum_eq_ok hr) hconstraints
        exact (Capabilities.concludes_finishProperty _ _ _).mono fun _ h =>
          h.mono (fun _ hasks => .inl (hasks.of_held hheld)) fun hloop => .inl (hloop.of_held hheld)
termination_by sizeOf d
/-- Building a type ends in one way: a type or what is wrong with its form, or an error that ends the building at once. -/
theorem Building.type_concludes (d : Datum) :
    Concludes (CompileError.Ends (d.Demands built) (d.Loops built)) (Building.type ⟨.standard, built⟩ d) := by
  unfold Building.type
  split
  · split
    · exact concludes_pure _
    · exact concludes_bind (concludes_tell _) fun _ => concludes_pure _
  · split
    · exact concludes_pure _
    · next r hr =>
      refine concludes_bind (concludes_optional fun v hv => ?_) fun properties => ?_
      · split
        · exact concludes_pure _
        · next es he =>
          refine concludes_bind (concludes_entries fun p hp => ?_) fun _ => concludes_pure _
          have hsmaller : sizeOf p < sizeOf d := hp.elim fun _ hm => Nat.lt_trans (Datum.sizeOf_entry he hm)
            (hv.elim fun _ hn => Datum.sizeOf_entry (Record.ofDatum_eq_ok hr) hn)
          obtain ⟨k, hv⟩ := hv
          obtain ⟨name, hp⟩ := hp
          have held : TransGen Datum.Holds d p := .head (.entry (Record.ofDatum_eq_ok hr) hv) (.single (.entry he hp))
          exact (Building.property_concludes p).mono fun _ h => h.mono (fun _ => .of_held held) (.of_held held)
      · split
        · exact concludes_pure _
        · exact concludes_bind (concludes_bind (concludes_tell _) fun _ => concludes_pure _) fun _ => concludes_pure _
termination_by sizeOf d
end

end Types

/-! ## What a schema tells of a type that cannot be made -/

/-- What is told of a type: what is wrong with its form, at places within it, or what is not legal in it. -/
inductive SchemaError.Refuses (name : String) : SchemaError → Prop
  | structural {violations : List (Violation Datum)}
      (within : ∀ v ∈ violations, ∃ rest, v.path.text = "types." ++ name ++ rest) :
      Refuses name (.structural ("type " ++ Text.quoted name) violations)
  | authoring (e : AuthoringError) : Refuses name (.compile ("types." ++ name) (.authoring e))

/-- What is not told as what is wrong with a type: the error of a pattern in its definition that is too large, and that there is
no end where something in the definition contains itself. -/
inductive SchemaError.Escapes (built : TypeHandle → Option ObjectType) (name : String) (definition : Datum) : SchemaError → Prop
  | pattern {source : String} {e : Pattern.ReadError} (asked : definition.Demands built source) (unread : Pattern.read source = .error e)
      (large : e.isTooLarge = true) : Escapes built name definition (.compile ("types." ++ name) (.pattern source e))
  | endless (there : definition.Loops built) : Escapes built name definition (.compile ("types." ++ name) (.fault .endless))

/-- How the making of a type may fail. -/
def SchemaError.IsOf (built : TypeHandle → Option ObjectType) (name : String) (definition : Datum) (e : SchemaError) : Prop :=
  e.Refuses name ∨ e.Escapes built name definition

theorem Step.join_eq {parent : String} (h : parent ≠ "") (s : Step) : ∃ rest, s.join parent = parent ++ rest := by
  cases s with
  | index n => exact ⟨"[" ++ toString n ++ "]", by simp only [join, String.append_assoc]⟩
  | key name => exact ⟨"." ++ name, by rw [join, if_neg h, String.append_assoc]⟩

/-- A path begins with the name of its root. -/
theorem Path.text_root {root : String} (h : root ≠ "") : ∀ steps : List Step, ∃ rest, (Path.mk root steps).text = root ++ rest
  | [] => ⟨"", String.append_empty.symm⟩
  | s :: steps => by
    obtain ⟨first, hfirst⟩ := s.join_eq h
    have hne : root ++ first ≠ "" := fun hempty => h (String.append_eq_empty_iff.1 hempty).1
    obtain ⟨rest, hrest⟩ := Path.text_root hne steps
    refine ⟨first ++ rest, ?_⟩
    rw [← String.append_assoc, ← hrest, ← hfirst]
    rfl

namespace Making

variable {α : Type} {b : Building α}

theorem returns_ofBuilding {a : α} (location : String) (h : Returns b a) : Returns (ofBuilding location b) a := by
  intro ns
  rw [run_ofBuilding, h ns]
  rfl

theorem throws_ofBuilding {e : CompileError} (location : String) (h : Throws b e) :
    Throws (ofBuilding location b) (.compile location e) := by
  intro ns
  rw [run_ofBuilding, h ns]
  rfl

theorem concludes_ofBuilding {P : CompileError → Prop} {Q : SchemaError → Prop} {location : String} (h : Concludes P b)
    (hPQ : ∀ e, P e → Q (.compile location e)) : Concludes Q (ofBuilding location b) := by
  cases h with
  | returns a run => exact .returns a (returns_ofBuilding location run)
  | throws e sort run => exact .throws _ (hPQ e sort) (throws_ofBuilding location run)

end Making

section Named

variable {built : TypeHandle → Option ObjectType} {name : String} {definition : Datum} {es : List (Key × Datum)}
  (hes : definition.entries? = some es)

include hes

/-- A name that is put into a definition is a text, in which nothing stands. -/
theorem Datum.held_of_named {x : Datum} (hx : TransGen Holds (.mapping (Entries.put (.text "name") (.text name) es)) x) :
    x = .text name ∨ TransGen Holds definition x := by
  obtain ⟨y, hy, hyx⟩ := TransGen.head'_iff.1 hx
  cases hy with
  | item members mem => cases members
  | entry entries mem =>
    cases entries
    rcases Entries.mem_put mem with heq | hmem
    · cases heq
      rcases ReflTransGen.cases_head hyx with rfl | ⟨z, hz, -⟩
      · exact .inl rfl
      · cases hz with
        | item members mem => cases members
        | entry entries mem => cases entries
        | part structured mem => cases structured
        | around mark mem => cases mark
    · exact .inr (TransGen.head' (.entry hes hmem) hyx)
  | part structured mem => cases structured
  | around mark mem => cases mark

theorem Datum.Reuses.of_named {p : PropertyDef × PropertyChecker}
    (h : (Datum.mapping (Entries.put (.text "name") (.text name) es)).Reuses built p) : definition.Reuses built p := by
  obtain ⟨held, known⟩ := h
  rcases Datum.held_of_named hes ((reflTransGen_iff_eq_or_transGen.1 held).resolve_left nofun) with heq | hx
  · cases heq
  · exact ⟨hx.to_reflTransGen, known⟩

theorem Datum.Demands.of_named {source : String}
    (h : (Datum.mapping (Entries.put (.text "name") (.text name) es)).Demands built source) : definition.Demands built source := by
  refine h.imp (fun hasks => ?_) fun ⟨p, hp, hasks⟩ => ⟨p, hp.of_named hes, hasks⟩
  obtain ⟨x, hx, hread⟩ := hasks
  rcases Datum.held_of_named hes hx with rfl | hx
  · cases hread
  · exact ⟨x, hx, hread⟩

theorem Datum.Loops.of_named (h : (Datum.mapping (Entries.put (.text "name") (.text name) es)).Loops built) :
    definition.Loops built := by
  refine h.imp (fun hloop => ?_) fun ⟨p, hp, hloop⟩ => ⟨p, hp.of_named hes, hloop⟩
  obtain ⟨x, hx, hknotted⟩ := hloop
  rcases reflTransGen_iff_eq_or_transGen.1 hx with rfl | hx
  · rw [Datum.isKnotted, Datum.anyEntryKnotted_iff] at hknotted
    obtain ⟨e, he, hknotted⟩ := hknotted
    rcases Entries.mem_put he with rfl | he
    · cases hknotted
    · exact ⟨e.2, .single (.entry hes he), hknotted⟩
  · rcases Datum.held_of_named hes hx with rfl | hx
    · cases hknotted
    · exact ⟨x, hx.to_reflTransGen, hknotted⟩

end Named

namespace Schema

variable {built : TypeHandle → Option ObjectType}

theorem types_ne_empty (name : String) : "types." ++ name ≠ "" := fun h =>
  absurd (String.append_eq_empty_iff.1 h).1 (by decide)

theorem makeType_concludes (name : String) (definition : Datum) :
    Concludes (SchemaError.IsOf built name definition) (makeType ⟨.standard, built⟩ (.text name) definition) := by
  unfold makeType
  rw [location_text, pure_bind]
  extract_lets refuse known finish
  have hrefuse : ∀ issues, Concludes (SchemaError.IsOf built name definition) (refuse issues) := by
    intro issues
    refine concludes_throw (.inl (.structural fun v hv => ?_))
    obtain ⟨i, -, rfl⟩ := List.mem_map.1 hv
    exact Path.text_root (types_ne_empty name) _
  have hfinish : ∀ made, Concludes (SchemaError.IsOf built name definition) (finish made) := fun made => concludes_pure _
  split
  · exact concludes_bind (concludes_pure _) hfinish
  · exact concludes_bind (hrefuse _) hfinish
  · next es _ hes =>
    refine concludes_bind (Making.concludes_ofBuilding (Building.type_concludes _) fun e he => ?_) fun read => ?_
    · cases he with
      | authoring e => exact .inl (.authoring e)
      | pattern asked unread large => exact .inr (.pattern (asked.of_named hes) unread large)
      | endless there => exact .inr (.endless (there.of_named hes))
    · split
      · exact concludes_bind (concludes_pure _) hfinish
      · exact concludes_bind (hrefuse _) hfinish

/-- The first of some definitions that make no type stands under a name, and fails with an error. -/
inductive FirstFailing (around : Surroundings) : List (String × Datum) → String → Datum → SchemaError → Prop
  | here {name : String} {definition : Datum} {rest : List (String × Datum)} {e : SchemaError}
      (throws : Throws (makeType around (.text name) definition) e) :
      FirstFailing around ((name, definition) :: rest) name definition e
  | there {name earlier : String} {definition other : Datum} {rest : List (String × Datum)} {e : SchemaError}
      {made : Option String × ObjectType} (returns : Returns (makeType around (.text earlier) other) made)
      (later : FirstFailing around rest name definition e) : FirstFailing around ((earlier, other) :: rest) name definition e

/-- Types are made in order, and the first one that cannot be made ends the making. -/
theorem makeTypes_concludes : ∀ definitions : List (String × Datum),
    Concludes (fun e => ∃ name definition, FirstFailing ⟨.standard, built⟩ definitions name definition e ∧ e.IsOf built name definition)
      (makeTypes ⟨.standard, built⟩ definitions)
  | [] => by
    unfold makeTypes
    exact concludes_pure _
  | (name, definition) :: rest => by
    unfold makeTypes
    cases @makeType_concludes built name definition with
    | throws e sort run => exact .throws e ⟨name, definition, .here run, sort⟩ (throws_bind_left run)
    | returns made run =>
      cases makeTypes_concludes rest with
      | returns types hrest => exact .returns _ (returns_bind run (returns_bind hrest (returns_pure _)))
      | throws e sort hrest =>
        obtain ⟨later, other, hfirst, hsort⟩ := sort
        exact .throws e ⟨later, other, .there run hfirst, hsort⟩ (throws_bind_right run (throws_bind_left hrest))

/-- How the making of a schema from a mapping may fail: its header has the wrong form, or a type cannot be made. -/
inductive RefusesMapping (around : Surroundings) (options : List (Key × Datum)) : SchemaError → Prop
  | header {issues : List Issue} (bad : Header.read options = .bad issues) :
      RefusesMapping around options (.structural entityType (issues.map (Issue.violation "")))
  | type {header : Header} {name : String} {definition : Datum} {e : SchemaError} (read : Header.read options = .ok header)
      (first : FirstFailing around header.types name definition e) (sort : e.IsOf around.built name definition) :
      RefusesMapping around options e

theorem make_concludes (clock : Clock) (options : List (Key × Datum)) :
    Concludes (RefusesMapping ⟨.standard, built⟩ options) (make ⟨.standard, built⟩ clock none options) := by
  unfold make
  split
  · next issues hbad => exact concludes_throw (.header hbad)
  · next header hread =>
    refine concludes_bind ((makeTypes_concludes header.types).mono fun e he => ?_) fun types => ?_
    · obtain ⟨name, definition, hfirst, hsort⟩ := he
      exact .type hread hfirst hsort
    · extract_lets finish
      have hfinish : ∀ identity, Concludes (RefusesMapping ⟨.standard, built⟩ options) (finish identity) := fun identity =>
        concludes_bind (.returns () fun _ => rfl) fun _ => concludes_pure _
      split
      · exact concludes_bind (concludes_pure _) hfinish
      · exact concludes_bind (concludes_pure _) hfinish
      · next h => cases h

/-- How a type may fail to be added under a name: the name is taken, or the type cannot be made. -/
inductive RefusesAdded (s : Schema) (built : TypeHandle → Option ObjectType) (name : String) (definition : Datum) :
    SchemaError → Prop
  | taken (has : s.types.has (some name) = true) : RefusesAdded s built name definition (.duplicateType s.key (some name))
  | type {e : SchemaError} (free : s.types.has (some name) = false) (sort : e.IsOf built name definition) :
      RefusesAdded s built name definition e

theorem addType_concludes {s : Schema} (hs : s.capabilities = .standard) {around : Surroundings} (clock : Clock) (name : String)
    (definition : Datum) :
    Concludes (s.RefusesAdded around.built name definition) (s.addType around clock (.text name) definition) := by
  unfold addType
  rw [hs]
  refine concludes_bind (concludes_pure _) fun _ => ?_
  dsimp only [nameIn?, Datum.text]
  split
  · next htaken => exact .throws _ (.taken htaken) (throws_bind_left (throws_throw _))
  · next hfree =>
    refine concludes_bind ((makeType_concludes name definition).mono fun e he => .type (Bool.eq_false_iff.2 hfree) he) fun made => ?_
    exact concludes_bind (.returns () fun _ => rfl) fun _ => concludes_pure _

theorem setType_concludes {s : Schema} (hs : s.capabilities = .standard) {around : Surroundings} (clock : Clock) (name : String)
    (definition : Datum) : Concludes (SchemaError.IsOf around.built name definition) (s.setType around clock (.text name) definition) := by
  unfold setType
  rw [hs]
  refine concludes_bind (makeType_concludes name definition) fun made => ?_
  exact concludes_bind (.returns () fun _ => rfl) fun _ => concludes_pure _

end Schema

/-! ## Patterns that are too large -/

/-- The data of a type with one property, whose texts have to have a pattern. -/
def patternType (source : String) : Datum :=
  .record [("properties", .record [("word", Probe.part "String" [("regex", [.text source])])])]

section Patterns

variable {source : String} {e : Pattern.ReadError}

theorem compileProperty_pattern (hread : Pattern.read source = .error e) (hlarge : e.isTooLarge = true) :
    Capabilities.standard.compileProperty "String" [⟨"regex", [.text source]⟩] none = .error (.pattern source e) := by
  have hfit : ArgumentForm.pattern.fit [.scalar (.text source)] = .unreadable source e := by
    unfold ArgumentForm.fit
    dsimp only
    rw [hread]
    cases e with
    | malformed | repetitionTooLong | asciiAndUnicode => cases hlarge
    | repetitionTooLarge | behindTooWide | codeTooLarge => rfl
  have hcheck : Capabilities.standard.check (.text "String") "regex" [.text source] = .error (.pattern source e) := by
    have hlookup : Capabilities.standard.lookup (.text "String") "regex" = .ok .pattern := rfl
    unfold Capabilities.check
    rw [hlookup]
    dsimp only [Datum.text]
    rw [hfit]
  have hkind : Capabilities.standard.kindNamed "String" = .ok .string := rfl
  have hconstraint : Capabilities.standard.compileConstraint .string ⟨"regex", [.text source]⟩
      (fun a _ => Capabilities.standard.compileElement "regex" a) (.ofKind .string) = .error (.pattern source e) := by
    unfold Capabilities.compileConstraint
    rw [show Kind.name .string = "String" from rfl, hcheck]
    rfl
  unfold Capabilities.compileProperty
  rw [hkind]
  dsimp only [bind, Except.bind]
  unfold Capabilities.compileConstraints
  rw [hconstraint]
  rfl

variable {built : TypeHandle → Option ObjectType}

theorem Building.property_throws (hread : Pattern.read source = .error e) (hlarge : e.isTooLarge = true) :
    Throws (Building.property ⟨.standard, built⟩ (Probe.part "String" [("regex", [.text source])])) (.pattern source e) := by
  unfold Building.property
  split
  · next h => cases h
  split
  · next h => cases h
  · next r h =>
    cases h
    dsimp only
    refine throws_bind_right (Building.yields_optional_none rfl) ?_
    have hfirst : ((Probe.partRecord "String" [("regex", [.text source])]).optional .description none Reading.note).both
        (((Probe.partRecord "String" [("regex", [.text source])]).required .kind Reading.someText).both
          ((Probe.partRecord "String" [("regex", [.text source])]).optional .constraints [] Reading.constraints)) =
        .ok (none, "String", [⟨"regex", [.text source]⟩]) := rfl
    have htypes := Reading.both_eq_ok (p := (_, (none : Option (List ObjectType)))).2 ⟨hfirst, rfl⟩
    have hclose : (Probe.partRecord "String" [("regex", [.text source])]).close PropertyDef.fields = .ok () := rfl
    have hall := Record.closing_eq_ok (p := (_, ())).2 ⟨htypes, hclose⟩
    split
    · next issues hbad => cases hall.symm.trans hbad
    · next hok =>
      cases hall.symm.trans hok
      have hrefusal : (CompileError.pattern source e).refusal? = none := by
        cases e with
        | malformed | repetitionTooLong | asciiAndUnicode => cases hlarge
        | repetitionTooLarge | behindTooWide | codeTooLarge => rfl
      unfold Capabilities.finishProperty
      dsimp only [Option.map_none]
      rw [compileProperty_pattern hread hlarge]
      dsimp only
      rw [hrefusal]
      exact throws_throw _

theorem Building.throws_optional {α : Type} {r : Record} {f : Field} {absent : α} {s : String} {d : Datum} {e : CompileError}
    {read : (d : Datum) → (∃ k, (k, d) ∈ r.entries) → Building (Reading α)} (hf : f.find? r.entries = some (s, d))
    (h : ∀ hd, Throws (read d hd) e) : Throws (optional r f absent read) e := by
  unfold optional
  split
  · next hsome =>
    cases hf.symm.trans hsome
    exact throws_bind_left (h _)
  · next hnone => cases hf.symm.trans hnone

theorem Building.throws_entries {α : Type} {k : Key} {d : Datum} {rest : List (Key × Datum)} {e : CompileError}
    {read : (x : Datum) → (∃ k', (k', x) ∈ (k, d) :: rest) → Building (Reading α)} (h : ∀ hd, Throws (read d hd) e) :
    Throws (entries ((k, d) :: rest) read) e := by
  unfold entries
  exact throws_bind_left (h _)

/-- The data of the type, named as a schema names them. -/
def namedPatternType (name source : String) : Datum :=
  .record [("properties", .record [("word", Probe.part "String" [("regex", [.text source])])]), ("name", .text name)]

theorem Building.type_throws (name : String) (hread : Pattern.read source = .error e) (hlarge : e.isTooLarge = true) :
    Throws (Building.type ⟨.standard, built⟩ (namedPatternType name source)) (.pattern source e) := by
  unfold Building.type
  split
  · next h => cases h
  split
  · next h => cases h
  · next r h =>
    cases h
    dsimp only
    refine throws_bind_left (Building.throws_optional rfl fun hd => ?_)
    split
    · next he => cases he
    · next es he =>
      cases he
      exact throws_bind_left (Building.throws_entries fun _ => Building.property_throws hread hlarge)

theorem Schema.makeType_throws (name : String) (hread : Pattern.read source = .error e) (hlarge : e.isTooLarge = true) :
    Throws (Schema.makeType ⟨.standard, built⟩ (.text name) (patternType source)) (.compile ("types." ++ name) (.pattern source e)) := by
  unfold makeType
  rw [location_text, pure_bind]
  extract_lets refuse known finish
  have hbuild : Throws (Building.type ⟨.standard, built⟩
      (.mapping (Entries.put (.text "name") (.text name) [(.text "properties",
        .record [("word", Probe.part "String" [("regex", [.text source])])])]))) (.pattern source e) :=
    Building.type_throws name hread hlarge
  exact throws_bind_left (Making.throws_ofBuilding _ hbuild)

end Patterns

/-! ## Operations of a workspace -/

namespace Work

variable {α : Type} {P : SchemaError → Prop}

/-- An operation gives something, or fails with an error of a schema of a certain sort. -/
inductive Refuses (P : SchemaError → Prop) : Except Failure α → Prop
  | gives (a : α) : Refuses P (.ok a)
  | refuses {e : SchemaError} (sort : P e) : Refuses P (.error (.schema e))

theorem refuses_ofMaking {m : Making α} (h : Concludes P m) (w : Workspace) : Refuses P ((ofMaking m).ending w).1 := by
  obtain ⟨w', hend, -⟩ := ofMaking_ending m w
  rw [hend]
  cases h with
  | returns a run =>
    rw [run []]
    exact .gives a
  | throws e sort run =>
    rw [run []]
    exact .refuses sort

theorem Refuses.bind {β : Type} {op : Work α} {k : α → Work β} {w : Workspace} (h : Refuses P (op.ending w).1)
    (hk : ∀ a w', Refuses P ((k a).ending w').1) : Refuses P ((op >>= k).ending w).1 := by
  rw [ending_bind]
  rcases hop : op.ending w with ⟨r, w'⟩
  rw [hop] at h
  cases h with
  | gives a => exact hk a w'
  | refuses sort => exact .refuses sort

theorem commit_throws {h : SchemaHandle} {m : Making (α × Schema)} {e : SchemaError} (hm : Throws m e) (w : Workspace) :
    ((commit h m).ending w).1 = .error (.schema e) := by
  have hfails := hm []
  rcases hrun : m.run.run [] with ⟨r, ns⟩
  rw [hrun] at hfails
  cases hfails
  obtain ⟨w', hend, -⟩ := commit_error hrun w
  rw [hend]

theorem refuses_commit {h : SchemaHandle} {m : Making (α × Schema)} (hm : Concludes P m) (w : Workspace) :
    Refuses P ((commit h m).ending w).1 :=
  (refuses_ofMaking hm w).bind fun a _ => .gives a.1

end Work

/-- How the operations of a workspace that take definitions fail, under the standard capabilities. -/
structure Workspace.RefusesDefinitions (w : Workspace) : Prop where
  /-- A mapping makes a schema, or it is refused for its header or for its first type that cannot be made. -/
  mapping : ∀ c options, w.capabilities[c]? = some .standard →
    Work.Refuses (Schema.RefusesMapping ⟨.standard, w.built⟩ options)
      ((Work.makeSchema c none options).ending w).1
  /-- A definition is added under a name, unless the name is taken or the type cannot be made. -/
  added : ∀ h s name definition, w.schemas[h]? = some s → s.capabilities = .standard →
    Work.Refuses (s.RefusesAdded w.built name definition) ((Work.addSchemaType h (.text name) definition).ending w).1
  /-- A definition is set under a name, unless the type cannot be made. -/
  set : ∀ h s name definition, w.schemas[h]? = some s → s.capabilities = .standard →
    Work.Refuses (SchemaError.IsOf w.built name definition) ((Work.setSchemaType h (.text name) definition).ending w).1
  /-- Each pattern that is too large does escape where it is asked for. -/
  large : ∀ h s name source e, w.schemas[h]? = some s → s.capabilities = .standard → Pattern.read source = .error e →
    e.isTooLarge = true → ((Work.setSchemaType h (.text name) (patternType source)).ending w).1 =
      .error (.schema (.compile ("types." ++ name) (.pattern source e)))

/-- **Definitions are refused with errors of their own.** Under the standard capabilities each mapping makes a schema, or is refused
for its header, or for its first type that cannot be made; and each definition makes a type, or is refused. What is told of a
type is what is wrong at places within it, or what is not legal in it, with its place; the one other error is that of a pattern
somewhere in the definition that is too large to be read, and each such pattern does lead to it. -/
theorem Work.refuses_definitions (w : Workspace) : w.RefusesDefinitions where
  mapping c options hc := by
    unfold makeSchema
    rw [ending_bind_ok (surroundingsAt_ending hc), ending_bind_ok (ending_get w)]
    exact (refuses_ofMaking (Schema.make_concludes _ _) w).bind fun s w' => .gives _
  added h s name definition hs hcaps := by
    rw [addSchemaType_ending hs]
    exact refuses_commit (@Schema.addType_concludes s hcaps (surroundingsOf w s) _ _ _) w
  set h s name definition hs hcaps := by
    rw [setSchemaType_ending hs]
    exact refuses_commit (@Schema.setType_concludes s hcaps (surroundingsOf w s) _ _ _) w
  large h s name source e hs hcaps hread hlarge := by
    rw [setSchemaType_ending hs]
    refine commit_throws ?_ w
    unfold Schema.setType
    rw [hcaps]
    exact throws_bind_left (Schema.makeType_throws name hread hlarge)

/-- The errors that the making of schemas has of its own. -/
def SchemaError.isOwn : SchemaError → Bool
  | .structural .. | .compile _ (.authoring _) | .duplicateType .. => true
  | _ => false

/-- The data of a schema with a pattern that repeats a letter too often. -/
def largeWords : List (Key × Datum) :=
  [(.text "namespace", .text "ns://words"), (.text "version", .text "1.0.0"), (.text "description", .text "Words"),
    (.text "types", .record [("Word", patternType "a\x7b4294967296\x7d")])]

/-- The error of a pattern that is too large is none of those. -/
theorem largeWords_not_refused :
    ¬ Work.Refuses (SchemaError.isOwn · = true) ((Work.makeSchema standardCapabilities none largeWords).ending emptyRegistry).1 := by
  have hescapes : (match ((Work.makeSchema standardCapabilities none largeWords).ending emptyRegistry).1 with
      | .error (.schema (.compile location (.pattern source e))) =>
        location == "types.Word" && source == "a\x7b4294967296\x7d" && e == .repetitionTooLarge
      | _ => false) = true := by
    decide +kernel
  intro h
  split at hescapes
  · next hresult =>
    rw [hresult] at h
    cases h with
    | refuses sort => cases sort
  · cases hescapes

end ShapeCheck
