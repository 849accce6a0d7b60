import Mathlib.Data.List.Forall2
import ShapeCheck.Proofs.Compiled
import ShapeCheck.Proofs.Keeping

/-!
# What constraints do to checkers

`Method.apply_cases` says all that one constraint can do: `Method.adjust` sets what a checker asks for beside its rules, and
`Method.Adds` is the rule that a method with some arguments adds at the end. A constraint is checked and applied one after
the other, so what each one keeps all of them keep: `Capabilities.compileConstraints_induct`. With it
`TypeDef.Compiles.every` takes a property of single checkers from one constraint to whole types. `ObjectType.Built.compiles` says
that each type that building gives is a definition with a checker that it compiles to.
-/

namespace ShapeCheck

/-! ## Results that are given -/

section Except

variable {ε α β : Type}

theorem Except.bind_eq_ok {x : Except ε α} {f : α → Except ε β} {b : β} :
    (x >>= f) = .ok b ↔ ∃ a, x = .ok a ∧ f a = .ok b := by
  cases x with
  | error e =>
      constructor
      · intro h
        cases h
      · rintro ⟨a, h, _⟩
        cases h
  | ok a =>
      constructor
      · exact fun h => ⟨a, rfl, h⟩
      · rintro ⟨_, h, hf⟩
        cases h
        exact hf

theorem Except.mapM_eq_ok {f : α → Except ε β} {xs : List α} {ys : List β} (h : xs.mapM f = .ok ys) :
    List.Forall₂ (fun x y => f x = .ok y) xs ys := by
  induction xs generalizing ys with
  | nil =>
      cases h
      exact .nil
  | cons x rest ih =>
      rw [List.mapM_cons] at h
      obtain ⟨y, hy, h⟩ := Except.bind_eq_ok.1 h
      obtain ⟨zs, hzs, h⟩ := Except.bind_eq_ok.1 h
      cases h
      exact .cons hy (ih hzs)

end Except

namespace Method

/-- A method that a kind has is one of its own or one of every kind. -/
theorem ofName?_mem {kind : Kind} {name : String} {m : Method} (h : ofName? kind name = some m) :
    (name, m) ∈ own kind ++ base := by
  rcases Option.or_eq_some_iff.1 h with h | ⟨_, h⟩
  · obtain ⟨_, _, heq, _⟩ := List.lookup_eq_some_iff.1 h
    rw [heq]
    simp
  · obtain ⟨_, _, heq, _⟩ := List.lookup_eq_some_iff.1 h
    rw [heq]
    simp

/-- What a method does to a checker beside adding a rule. -/
def adjust (m : Method) (args : List Datum) (c : PropertyChecker) : PropertyChecker :=
  match m with
  | .required => { c with required := true }
  | .nullOk => { c with nullOk := true }
  | .emptyOk => { c with emptyOk := true }
  | .allow => args.foldl .allow c
  | .valid => { args.foldl .allow c with onlyValid := true }
  | .deny => args.foldl .deny c
  | .withPeers => { c with peersWith := c.peersWith ++ args }
  | .withoutPeers => { c with peersWithout := c.peersWithout ++ args }
  | _ => c

/-- Whether a method adds a rule. -/
def addsRule : Method → Bool
  | .required | .nullOk | .emptyOk | .allow | .valid | .deny | .withPeers | .withoutPeers => false
  | _ => true

/-- The rule that a method with some arguments adds, where `element` compiles the description of an element. -/
inductive Adds (element : Datum → Except CompileError PropertyChecker) (args : List Datum) : Method → Rule → Prop
  | length {bound : LengthBound} {unit : LengthUnit} {limit : Datum} (first : args.head? = some limit)
      (writable : limit.isTooLong = false) : Adds element args (.length bound unit) (.length bound unit limit)
  | atLeast {limit : Datum} (first : args.head? = some limit) (writable : limit.isTooLong = false) :
      Adds element args .atLeast (.atLeast limit)
  | atMost {limit : Datum} (first : args.head? = some limit) (writable : limit.isTooLong = false) :
      Adds element args .atMost (.atMost limit)
  | alphanumeric : Adds element args .alphanumeric (.alphanumeric ((args.head?.map Datum.isTruthy).getD false))
  | email : Adds element args .email .email
  | date : Adds element args .date .date
  | whole : Adds element args .whole .whole
  | fraction : Adds element args .fraction .fraction
  | pattern {s : String} {program : Pattern.Program} (first : args.head? = some (.scalar (.text s)))
      (read : Pattern.read s = .ok program) : Adds element args .pattern (.pattern s program)
  | includes {elements : List PropertyChecker} (compiled : List.Forall₂ (fun a c => element a = .ok c) args elements) :
      Adds element args .includes (.includes elements)
  | excludes {elements : List PropertyChecker} (compiled : List.Forall₂ (fun a c => element a = .ok c) args elements) :
      Adds element args .excludes (.excludes elements)
  | reference {d : Datum} {ref : TypeRef} (first : args.head? = some d) (read : TypeRef.read d = .ok ref) :
      Adds element args .reference (.reference ref)

end Method

theorem firstArgument_eq_ok {args : List Datum} {d : Datum} (h : firstArgument args = .ok d) : args.head? = some d := by
  cases args with
  | nil => cases h
  | cons a rest =>
      cases h
      rfl

theorem limitArgument_eq_ok {args : List Datum} {d : Datum} (h : limitArgument args = .ok d) :
    args.head? = some d ∧ d.isTooLong = false := by
  unfold limitArgument at h
  obtain ⟨limit, hfirst, h⟩ := Except.bind_eq_ok.1 h
  split at h
  · cases h
  · next hlong =>
    cases h
    exact ⟨firstArgument_eq_ok hfirst, by simpa using hlong⟩

theorem patternRule_eq_ok {args : List Datum} {r : Rule} (h : patternRule args = .ok r) :
    ∃ s program, args.head? = some (.scalar (.text s)) ∧ Pattern.read s = .ok program ∧ r = .pattern s program := by
  unfold patternRule at h
  obtain ⟨a, hfirst, h⟩ := Except.bind_eq_ok.1 h
  have ha := firstArgument_eq_ok hfirst
  split at h
  · split at h
    · next program hread =>
      cases h
      exact ⟨_, program, ha, hread, rfl⟩
    · cases h
  · split at h <;> cases h

theorem referenceRule_eq_ok {args : List Datum} {r : Rule} (h : referenceRule args = .ok r) :
    ∃ d ref, args.head? = some d ∧ TypeRef.read d = .ok ref ∧ r = .reference ref := by
  unfold referenceRule at h
  obtain ⟨a, hfirst, h⟩ := Except.bind_eq_ok.1 h
  split at h
  · next ref hread =>
    cases h
    exact ⟨a, ref, firstArgument_eq_ok hfirst, hread, rfl⟩
  · cases h

section Elements

variable {element : Datum → Except CompileError PropertyChecker} {args : List Datum}

theorem elements_eq_ok {elements : List PropertyChecker}
    (h : (args.attach.mapM fun ⟨a, _⟩ => element a) = .ok elements) :
    List.Forall₂ (fun a c => element a = .ok c) args elements := by
  have hforall := Except.mapM_eq_ok h
  rw [← List.forall₂_map_left_iff (f := Subtype.val) (R := fun a c => element a = .ok c)] at hforall
  rwa [List.attach_map_subtype_val] at hforall

/-- Each datum is taken in after those before it, or taking one of them has no end. -/
theorem takeAll_cases (take : PropertyChecker → Datum → PropertyChecker) (takesOn : PropertyChecker → Datum → Bool)
    (args : List Datum) (c : PropertyChecker) :
    takeAll take takesOn args c = .ok (args.foldl take c) ∧
        (∀ before d after, args = before ++ d :: after → takesOn (before.foldl take c) d = false) ∨
      takeAll take takesOn args c = .error (.fault .endless) ∧
        ∃ before d after, args = before ++ d :: after ∧ takesOn (before.foldl take c) d = true := by
  induction args generalizing c with
  | nil => exact .inl ⟨rfl, fun before d after h => absurd h (by simp)⟩
  | cons a rest ih =>
      unfold takeAll
      by_cases ha : takesOn c a = true
      · rw [if_pos ha]
        exact .inr ⟨rfl, [], a, rest, rfl, ha⟩
      · rw [if_neg ha]
        rcases ih (take c a) with ⟨hall, hends⟩ | ⟨hstops, before, d, after, rfl, hd⟩
        · refine .inl ⟨hall, fun before d after h => ?_⟩
          cases before with
          | nil =>
              cases h
              exact Bool.eq_false_iff.2 ha
          | cons b before =>
              cases h
              exact hends before d after rfl
        · exact .inr ⟨hstops, a :: before, d, after, rfl, hd⟩

theorem takeAll_eq_ok {take : PropertyChecker → Datum → PropertyChecker} {takesOn : PropertyChecker → Datum → Bool}
    {c c' : PropertyChecker} (h : takeAll take takesOn args c = .ok c') : c' = args.foldl take c := by
  rcases takeAll_cases take takesOn args c with ⟨hall, _⟩ | ⟨hstops, _⟩
  · exact Except.ok.inj (h.symm.trans hall)
  · cases h.symm.trans hstops

/-- A constraint adjusts a checker, or adds one rule. -/
theorem Method.apply_cases {m : Method} {c c' : PropertyChecker} (h : m.apply args (fun a _ => element a) c = .ok c') :
    m.addsRule = false ∧ c' = m.adjust args c ∨ ∃ r, m.Adds element args r ∧ c' = c.addRule r := by
  cases m with
  | required | nullOk | emptyOk | withPeers | withoutPeers =>
      cases h
      exact .inl ⟨rfl, rfl⟩
  | allow | deny => exact .inl ⟨rfl, takeAll_eq_ok h⟩
  | valid =>
      obtain ⟨b, hb, h⟩ := Except.bind_eq_ok.1 h
      cases h
      cases takeAll_eq_ok hb
      exact .inl ⟨rfl, rfl⟩
  | length bound unit =>
      obtain ⟨limit, hlimit, h⟩ := Except.bind_eq_ok.1 h
      obtain ⟨hfirst, hlong⟩ := limitArgument_eq_ok hlimit
      cases h
      exact .inr ⟨_, .length hfirst hlong, rfl⟩
  | atLeast =>
      obtain ⟨limit, hlimit, h⟩ := Except.bind_eq_ok.1 h
      obtain ⟨hfirst, hlong⟩ := limitArgument_eq_ok hlimit
      cases h
      exact .inr ⟨_, .atLeast hfirst hlong, rfl⟩
  | atMost =>
      obtain ⟨limit, hlimit, h⟩ := Except.bind_eq_ok.1 h
      obtain ⟨hfirst, hlong⟩ := limitArgument_eq_ok hlimit
      cases h
      exact .inr ⟨_, .atMost hfirst hlong, rfl⟩
  | alphanumeric =>
      cases h
      exact .inr ⟨_, .alphanumeric, rfl⟩
  | email =>
      cases h
      exact .inr ⟨_, .email, rfl⟩
  | date =>
      cases h
      exact .inr ⟨_, .date, rfl⟩
  | whole =>
      cases h
      exact .inr ⟨_, .whole, rfl⟩
  | fraction =>
      cases h
      exact .inr ⟨_, .fraction, rfl⟩
  | pattern =>
      obtain ⟨r, hr, h⟩ := Except.bind_eq_ok.1 h
      obtain ⟨s, program, hfirst, hread, rfl⟩ := patternRule_eq_ok hr
      cases h
      exact .inr ⟨_, .pattern hfirst hread, rfl⟩
  | includes =>
      obtain ⟨elements, helements, h⟩ := Except.bind_eq_ok.1 h
      cases h
      exact .inr ⟨_, .includes (elements_eq_ok helements), rfl⟩
  | excludes =>
      obtain ⟨elements, helements, h⟩ := Except.bind_eq_ok.1 h
      cases h
      exact .inr ⟨_, .excludes (elements_eq_ok helements), rfl⟩
  | reference =>
      obtain ⟨r, hr, h⟩ := Except.bind_eq_ok.1 h
      obtain ⟨d, ref, hfirst, hread, rfl⟩ := referenceRule_eq_ok hr
      cases h
      exact .inr ⟨_, .reference hfirst hread, rfl⟩

end Elements

theorem PropertyChecker.mem_inlineTypes {c : PropertyChecker} {t : TypeChecker} : t ∈ c.inlineTypes ↔ .inlineType t ∈ c.rules := by
  unfold inlineTypes
  rw [List.mem_filterMap]
  constructor
  · rintro ⟨x, hx, ht⟩
    cases x with
    | inlineType u =>
      cases ht
      exact hx
    | _ => cases ht
  · exact fun h => ⟨_, h, rfl⟩

@[simp] theorem PropertyChecker.addRule_kind (c : PropertyChecker) (r : Rule) : (c.addRule r).kind = c.kind := rfl

@[simp] theorem PropertyChecker.addRule_rules (c : PropertyChecker) (r : Rule) : (c.addRule r).rules = c.rules ++ [r] := rfl

/-- Allowing or denying values one after the other leaves alone what each one leaves alone. -/
theorem PropertyChecker.foldl_eq {α : Type} {f : PropertyChecker → Datum → PropertyChecker} {g : PropertyChecker → α}
    (h : ∀ c d, g (f c d) = g c) (args : List Datum) (c : PropertyChecker) : g (args.foldl f c) = g c := by
  induction args generalizing c with
  | nil => rfl
  | cons a rest ih =>
      rw [List.foldl_cons, ih, h]

theorem Method.adjust_kind (m : Method) (args : List Datum) (c : PropertyChecker) : (m.adjust args c).kind = c.kind := by
  cases m with
  | allow => exact PropertyChecker.foldl_eq (f := .allow) (g := PropertyChecker.kind) (fun _ _ => rfl) args c
  | valid => exact PropertyChecker.foldl_eq (f := .allow) (g := PropertyChecker.kind) (fun _ _ => rfl) args c
  | deny => exact PropertyChecker.foldl_eq (f := .deny) (g := PropertyChecker.kind) (fun _ _ => rfl) args c
  | _ => rfl

theorem Method.adjust_rules (m : Method) (args : List Datum) (c : PropertyChecker) :
    (m.adjust args c).rules = c.rules := by
  cases m with
  | allow => exact PropertyChecker.foldl_eq (f := .allow) (g := PropertyChecker.rules) (fun _ _ => rfl) args c
  | valid => exact PropertyChecker.foldl_eq (f := .allow) (g := PropertyChecker.rules) (fun _ _ => rfl) args c
  | deny => exact PropertyChecker.foldl_eq (f := .deny) (g := PropertyChecker.rules) (fun _ _ => rfl) args c
  | _ => rfl

/-! ## Constraints in order -/

/-! ## Descriptions that do not lead back -/

/-- All items of a list that is read are read. -/
theorem Reading.itemsFrom_forall {α : Type} {read : Datum → Reading α} {ys : List α} :
    ∀ {i : Nat} {xs : List Datum}, itemsFrom read i xs = .ok ys → ∀ x ∈ xs, ∃ y, read x = .ok y := by
  intro i xs
  induction xs generalizing i ys with
  | nil => exact fun _ => List.forall_mem_nil _
  | cons d rest ih =>
      intro h
      rw [itemsFrom] at h
      obtain ⟨⟨y, zs⟩, hboth, rfl⟩ := Reading.map_eq_ok.1 h
      obtain ⟨hy, hzs⟩ := Reading.both_eq_ok.1 hboth
      exact List.forall_mem_cons.2 ⟨⟨y, Reading.under_eq_ok.1 hy⟩, ih hzs⟩

theorem Datum.isTurn_of_target {d : Datum} (h : d.target.entries?.isSome = true ∨ d.target.members?.isSome = true) :
    d.isTurn = false := by
  unfold isTurn
  split
  · next hback =>
    rw [hback] at h
    rcases h with h | h <;> cases h
  · rfl

theorem Constraint.isTurn_of_read {d : Datum} {c : Constraint} (h : read d = .ok c) :
    d.isTurn = false ∧ ∀ args ∈ (entries? d).bind Field.args.find?, args.2.isTurn = false := by
  obtain ⟨es, hes, hrecord⟩ := read_eq_ok h
  constructor
  · unfold Datum.isTurn
    rcases entries?_cases hes with hentries | ⟨parts, hparts, _⟩
    · exact Datum.isTurn_of_target (.inl (Option.isSome_of_eq_some hentries))
    · rw [hparts]
  · rintro ⟨s, args⟩ hargs
    rw [hes] at hargs
    obtain ⟨⟨⟨method, xs⟩, _⟩, hparts, rfl⟩ := Reading.map_eq_ok.1 hrecord
    have hread := (Reading.both_eq_ok.1 (Record.closing_eq_ok.1 hparts).1).2
    unfold Record.optional at hread
    rw [show Field.args.find? es = some (s, args) from hargs] at hread
    exact Datum.isTurn_of_target (.inr (Option.isSome_of_eq_some (Reading.items_eq_ok (Reading.under_eq_ok.1 hread))))

/-- A description that is read does not lead back to itself. -/
theorem ElementDef.turns_eq_false {d : Datum} {e : ElementDef} (h : read d = .ok e) : turns d = false := by
  have hconstraints := constraintsOf_eq h
  have hwhole : d.isTurn = false := by
    unfold read at h
    split at h
    · cases h
    · next r hr => exact Datum.isTurn_of_target (.inl (Option.isSome_of_eq_some (Record.ofDatum_eq_ok hr)))
  unfold turns
  unfold constraintsOf at hconstraints
  rw [hwhole, Bool.false_or]
  cases hfound : d.target.entries?.bind Field.constraints.find? with
  | none => rfl
  | some found =>
      obtain ⟨s, v⟩ := found
      rw [hfound] at hconstraints
      unfold Reading.constraints Reading.listOf at hconstraints
      dsimp only at hconstraints
      split at hconstraints
      case h_2 => cases hconstraints
      next xs hxs =>
      have hread := Reading.itemsFrom_forall hconstraints
      unfold constraintsTurn
      rw [Option.any_some]
      dsimp only
      rw [hxs, Datum.isTurn_of_target (.inr (Option.isSome_of_eq_some hxs)), Bool.false_or, Option.getD_some,
        List.any_eq_false]
      intro x hx
      obtain ⟨c, hc⟩ := hread x hx
      obtain ⟨hself, hargs⟩ := Constraint.isTurn_of_read hc
      rw [hself, Bool.false_or, Option.any_eq_true]
      rintro ⟨args, hmem, hturn⟩
      rw [hargs args hmem] at hturn
      cases hturn

namespace Capabilities

variable {caps : Capabilities} {kind : Kind}

theorem kindNamed_eq_ok {name : String} {kind : Kind} (h : caps.kindNamed name = .ok kind) :
    Kind.ofName? name = some kind := by
  unfold kindNamed at h
  split at h
  · cases h
  · split at h
    · next k hk =>
      cases h
      exact hk
    · cases h

/-- A constraint that is applied is legal and has a meaning. -/
theorem compileConstraint_eq_ok {c : Constraint} {element : Datum → Except CompileError PropertyChecker}
    {checker checker' : PropertyChecker}
    (h : caps.compileConstraint kind c (fun a _ => element a) checker = .ok checker') :
    ∃ form m, caps.check (.text kind.name) c.method c.args = .ok form ∧ Method.ofName? kind c.method = some m ∧
      m.apply c.args (fun a _ => element a) checker = .ok checker' := by
  unfold compileConstraint at h
  obtain ⟨form, hcheck, h⟩ := Except.bind_eq_ok.1 h
  split at h
  · next m hm => exact ⟨form, m, hcheck, hm, h⟩
  · cases h

/-- What each constraint keeps, all of them keep. -/
theorem compileConstraints_induct {I : PropertyChecker → Prop} {element : String → Datum → Except CompileError PropertyChecker}
    {cs : List Constraint}
    (step : ∀ c ∈ cs, ∀ {form m checker checker'}, caps.check (.text kind.name) c.method c.args = .ok form →
      Method.ofName? kind c.method = some m → m.apply c.args (fun a _ => element c.method a) checker = .ok checker' →
      I checker → I checker') :
    ∀ {checker checker' : PropertyChecker},
      caps.compileConstraints kind cs (fun m a _ => element m a) checker = .ok checker' → I checker → I checker' := by
  induction cs with
  | nil =>
      intro checker checker' h hI
      unfold compileConstraints at h
      cases h
      exact hI
  | cons c rest ih =>
      intro checker checker' h hI
      unfold compileConstraints at h
      obtain ⟨next, hnext, h⟩ := Except.bind_eq_ok.1 h
      obtain ⟨form, m, hcheck, hm, happly⟩ := compileConstraint_eq_ok hnext
      refine ih (fun c hc => step c (List.mem_cons_of_mem _ hc)) h ?_
      exact step c (List.mem_cons_self ..) hcheck hm happly hI

/-- Constraints that follow others are compiled from where these lead. -/
theorem compileConstraints_append {element : String → Datum → Except CompileError PropertyChecker} {cs ds : List Constraint}
    {checker : PropertyChecker} :
    caps.compileConstraints kind (cs ++ ds) (fun m a _ => element m a) checker =
      caps.compileConstraints kind cs (fun m a _ => element m a) checker >>=
        caps.compileConstraints kind ds (fun m a _ => element m a) := by
  induction cs generalizing checker with
  | nil => rfl
  | cons c rest ih =>
      rw [List.cons_append, compileConstraints, compileConstraints, bind_assoc]
      exact bind_congr fun next => ih

/-- A description that is read compiles as its kind and its constraints do. -/
theorem compileElement_of_read {method : String} {d : Datum} {e : ElementDef} (h : ElementDef.read d = .ok e) :
    caps.compileElement method d = caps.kindNamed e.kind >>= fun kind =>
      caps.compileConstraints kind e.constraints (fun m a _ => caps.compileElement m a) (.ofKind kind) := by
  rw [compileElement, if_neg (Bool.eq_false_iff.1 (ElementDef.turns_eq_false h))]
  split
  · next h' => cases h.symm.trans h'
  · next e' h' =>
    cases h.symm.trans h'
    rfl

/-- The checker of an element is that of its kind with its constraints. -/
theorem compileElement_eq_ok {method : String} {d : Datum} {c : PropertyChecker} (h : caps.compileElement method d = .ok c) :
    ∃ e kind, ElementDef.read d = .ok e ∧ caps.kindNamed e.kind = .ok kind ∧
      caps.compileConstraints kind e.constraints (fun m a _ => caps.compileElement m a) (.ofKind kind) = .ok c := by
  unfold compileElement at h
  split at h
  · cases h
  split at h
  · split at h <;> cases h
  · next e he =>
    obtain ⟨kind, hkind, h⟩ := Except.bind_eq_ok.1 h
    exact ⟨e, kind, he, hkind, h⟩

/-- The checker of a property is that of its kind with its constraints, and with a rule for its inline type. -/
theorem compileProperty_eq_ok {kindName : String} {constraints : List Constraint} {inlineTypes : Option (List TypeChecker)}
    {c : PropertyChecker} (h : caps.compileProperty kindName constraints inlineTypes = .ok c) :
    ∃ kind checker, caps.kindNamed kindName = .ok kind ∧
      caps.compileConstraints kind constraints (fun m a _ => caps.compileElement m a) (.ofKind kind) = .ok checker ∧
      (inlineTypes = none ∧ c = checker ∨
        ∃ t, inlineTypes = some [t] ∧ kind = .object ∧ checker.rules.any Rule.isReference = false ∧
          c = checker.addRule (.inlineType t)) := by
  unfold compileProperty at h
  obtain ⟨kind, hkind, h⟩ := Except.bind_eq_ok.1 h
  obtain ⟨checker, hchecker, h⟩ := Except.bind_eq_ok.1 h
  refine ⟨kind, checker, hkind, hchecker, ?_⟩
  dsimp only at h
  split at h
  · cases h
    exact .inl ⟨rfl, rfl⟩
  · split at h
    · cases h
    · next hobject =>
      split at h
      · next t _ _ =>
        split at h
        · cases h
        · next hreference =>
          cases h
          exact .inr ⟨t, rfl, Classical.not_not.1 hobject, by simpa using hreference, rfl⟩
      · cases h

/-- Constraints give no types in place. -/
theorem compileConstraints_inlineTypes {element : String → Datum → Except CompileError PropertyChecker} {cs : List Constraint}
    {checker checker' : PropertyChecker} (h : caps.compileConstraints kind cs (fun m a _ => element m a) checker = .ok checker') :
    checker'.inlineTypes = checker.inlineTypes := by
  refine compileConstraints_induct (I := fun c => c.inlineTypes = checker.inlineTypes) (fun c _ form m before after _ _ happly hI => ?_)
    h rfl
  unfold PropertyChecker.inlineTypes at hI ⊢
  rcases Method.apply_cases happly with ⟨-, rfl⟩ | ⟨r, hr, rfl⟩
  · rw [Method.adjust_rules]
    exact hI
  · rw [PropertyChecker.addRule_rules, List.filterMap_append, hI]
    cases hr <;> exact List.append_nil _

/-- The types in place of a property are those that it was compiled with. -/
theorem compileProperty_inlineTypes {kindName : String} {constraints : List Constraint} {types : List TypeChecker}
    {c : PropertyChecker} (h : caps.compileProperty kindName constraints (some types) = .ok c) : c.inlineTypes = types := by
  obtain ⟨kind, checker, -, hconstraints, ⟨hnone, -⟩ | ⟨t, htypes, -, -, rfl⟩⟩ := compileProperty_eq_ok h
  · cases hnone
  · have hnone : checker.inlineTypes = [] := compileConstraints_inlineTypes hconstraints
    cases htypes
    unfold PropertyChecker.inlineTypes at hnone ⊢
    rw [PropertyChecker.addRule_rules, List.filterMap_append, hnone]
    rfl

end Capabilities

/-! ## From one constraint to types -/

/-- What holds of a checker without constraints, and what each legal constraint keeps. -/
structure Accrues (legal : Capabilities → Prop) (Φ : PropertyChecker → Prop) : Prop where
  ofKind : ∀ kind, Φ (.ofKind kind)
  constraint : ∀ {caps : Capabilities} {kind : Kind} {form : ArgumentForm} {m : Method} {c : Constraint}
    {element : Datum → Except CompileError PropertyChecker} {checker checker' : PropertyChecker}, legal caps →
    caps.check (.text kind.name) c.method c.args = .ok form → Method.ofName? kind c.method = some m →
    checker.kind = kind → m.apply c.args (fun a _ => element a) checker = .ok checker' → Φ checker → Φ checker'

/-- What an inline type keeps as well. -/
structure Settles (legal : Capabilities → Prop) (Φ : PropertyChecker → Prop) : Prop extends Accrues legal Φ where
  inlineType : ∀ {checker t}, checker.kind = .object → Φ checker → Φ (checker.addRule (.inlineType t))

section Every

variable {legal : Capabilities → Prop} {Φ : PropertyChecker → Prop}

/-- One constraint keeps what holds of each checker, if the elements that it compiles are as they should be. -/
theorem Method.apply_every {m : Method} {args : List Datum} {element : Datum → Except CompileError PropertyChecker}
    {c c' : PropertyChecker} (h : m.apply args (fun a _ => element a) c = .ok c') (hΦ : Φ c')
    (helement : ∀ a ∈ args, ∀ e, element a = .ok e → e.Every Φ) (hc : c.Every Φ) : c'.Every Φ := by
  have hrules := (PropertyChecker.every_iff.1 hc).2
  rw [PropertyChecker.every_iff]
  refine ⟨hΦ, ?_⟩
  rcases Method.apply_cases h with ⟨_, rfl⟩ | ⟨r, hr, rfl⟩
  · rw [Method.adjust_rules]
    exact hrules
  · rw [PropertyChecker.addRule_rules]
    intro rule hrule
    rcases List.mem_append.1 hrule with hrule | hrule
    · exact hrules rule hrule
    · obtain rfl := List.mem_singleton.1 hrule
      have hcompiled : ∀ {elements : List PropertyChecker}, List.Forall₂ (fun a c => element a = .ok c) args elements →
          PropertyChecker.EveryOfAll Φ elements := by
        intro elements hforall
        rw [PropertyChecker.everyOfAll_iff]
        intro e he
        obtain ⟨a, ha, hae⟩ := List.Forall₂.exists_of_mem_right hforall he
        exact helement a ha e hae
      cases hr with
      | includes hforall =>
          rw [Rule.every_includes]
          exact hcompiled hforall
      | excludes hforall =>
          rw [Rule.every_excludes]
          exact hcompiled hforall
      | _ => exact Rule.every_of_checkers_nil (by simp only [Rule.checkers])

theorem Capabilities.compileConstraints_every (hΦ : Accrues legal Φ) {caps : Capabilities} (hlegal : legal caps)
    {kind : Kind} {cs : List Constraint} {c : PropertyChecker}
    (helement : ∀ k ∈ cs, ∀ a ∈ k.args, ∀ m e, caps.compileElement m a = .ok e → e.Every Φ)
    (h : caps.compileConstraints kind cs (fun m a _ => caps.compileElement m a) (.ofKind kind) = .ok c) :
    c.kind = kind ∧ c.Every Φ := by
  refine caps.compileConstraints_induct (I := fun c => c.kind = kind ∧ c.Every Φ) ?_ h ⟨rfl, ?_⟩
  · rintro k hk form m checker checker' hcheck hm happly ⟨hkind, hevery⟩
    have hΦ' := hΦ.constraint hlegal hcheck hm hkind happly (PropertyChecker.every_iff.1 hevery).1
    refine ⟨?_, Method.apply_every happly hΦ' (fun a ha e he => helement k hk a ha _ e he) hevery⟩
    rcases Method.apply_cases happly with ⟨_, rfl⟩ | ⟨r, _, rfl⟩
    · rw [Method.adjust_kind, hkind]
    · rw [PropertyChecker.addRule_kind, hkind]
  · rw [PropertyChecker.every_iff]
    exact ⟨hΦ.ofKind kind, fun _ h => nomatch h⟩

/-- The induction is on the size of the description, which is larger than those inside of it. -/
theorem Capabilities.compileElement_every (hΦ : Accrues legal Φ) {caps : Capabilities} (hlegal : legal caps) (d : Datum)
    (m : String) (c : PropertyChecker) (h : caps.compileElement m d = .ok c) : c.Every Φ := by
  obtain ⟨e, kind, he, _, hcs⟩ := compileElement_eq_ok h
  refine (compileConstraints_every hΦ hlegal (fun k hk a ha m' e' he' => ?_) hcs).2
  have hsmaller : sizeOf a < sizeOf d := ElementDef.args_smaller he hk ha
  exact compileElement_every hΦ hlegal a m' e' he'
termination_by sizeOf d

theorem Capabilities.compileProperty_every (hΦ : Settles legal Φ) {caps : Capabilities} (hlegal : legal caps)
    {kindName : String} {constraints : List Constraint} {inlineTypes : Option (List TypeChecker)} {c : PropertyChecker}
    (htypes : ∀ ts ∈ inlineTypes, ∀ t ∈ ts, t.Every Φ)
    (h : caps.compileProperty kindName constraints inlineTypes = .ok c) : c.Every Φ := by
  obtain ⟨kind, checker, _, hcs, hc⟩ := compileProperty_eq_ok h
  obtain ⟨hkind, hevery⟩ := compileConstraints_every hΦ.toAccrues hlegal
    (fun k hk a ha m e he => compileElement_every hΦ.toAccrues hlegal a m e he) hcs
  rcases hc with ⟨_, rfl⟩ | ⟨t, rfl, hobject, _, rfl⟩
  · exact hevery
  · obtain ⟨hΦ', hrules⟩ := PropertyChecker.every_iff.1 hevery
    rw [PropertyChecker.every_iff]
    refine ⟨hΦ.inlineType (hkind.trans hobject) hΦ', fun r hr => ?_⟩
    rw [PropertyChecker.addRule_rules] at hr
    rcases List.mem_append.1 hr with hr | hr
    · exact hrules r hr
    · obtain rfl := List.mem_singleton.1 hr
      have ht := htypes [t] rfl t (List.mem_singleton_self _)
      rw [Rule.every_inlineType]
      exact ht

mutual
theorem PropertyDef.Compiles.every (hΦ : Settles legal Φ) : ∀ {d : PropertyDef} {c : PropertyChecker},
    d.Compiles legal c → c.Every Φ
  | ⟨_, kind, constraints, none⟩, c, h => by
      rw [PropertyDef.Compiles] at h
      obtain ⟨caps, hlegal, hcompile⟩ := h
      exact caps.compileProperty_every hΦ hlegal (fun _ hts => by cases hts) hcompile
  | ⟨_, kind, constraints, some types⟩, c, h => by
      rw [PropertyDef.Compiles] at h
      obtain ⟨caps, checkers, hlegal, htypes, hcompile⟩ := h
      refine caps.compileProperty_every hΦ hlegal (fun ts hts t ht => ?_) hcompile
      obtain rfl := Option.some.inj hts
      exact TypeDef.compilesAll_every hΦ htypes t ht
theorem TypeDef.compilesAll_every (hΦ : Settles legal Φ) : ∀ {ds : List TypeDef} {ts : List TypeChecker},
    TypeDef.CompilesAll legal ds ts → ∀ t ∈ ts, t.Every Φ
  | [], [], _, t, ht => nomatch ht
  | [], _ :: _, h, _, _ => by
      unfold TypeDef.CompilesAll at h
      exact h.elim
  | _ :: _, [], _, t, ht => nomatch ht
  | d :: ds, u :: us, h, t, ht => by
      rw [TypeDef.CompilesAll] at h
      rcases List.mem_cons.1 ht with rfl | ht
      · exact TypeDef.Compiles.every hΦ h.1
      · exact TypeDef.compilesAll_every hΦ h.2 t ht
theorem TypeDef.Compiles.every (hΦ : Settles legal Φ) : ∀ {d : TypeDef} {t : TypeChecker}, d.Compiles legal t → t.Every Φ
  | ⟨_, _, leniency, properties⟩, t, h => by
      rw [TypeDef.Compiles] at h
      exact PropertyChecker.everyOfFields_iff.2 (PropertyDef.compilesFields_every hΦ h.2)
theorem PropertyDef.compilesFields_every (hΦ : Settles legal Φ) : ∀ {ds : List (String × PropertyDef)}
    {cs : List (String × PropertyChecker)}, PropertyDef.CompilesFields legal ds cs → ∀ c ∈ cs, c.2.Every Φ
  | [], [], _, c, hc => nomatch hc
  | [], _ :: _, h, _, _ => by
      unfold PropertyDef.CompilesFields at h
      exact h.elim
  | _ :: _, [], _, c, hc => nomatch hc
  | (_, d) :: ds, (_, c) :: cs, h, e, he => by
      rw [PropertyDef.CompilesFields] at h
      rcases List.mem_cons.1 he with rfl | he
      · exact PropertyDef.Compiles.every hΦ h.2.1
      · exact PropertyDef.compilesFields_every hΦ h.2.2 e he
end

end Every

/-! ## Types that are built -/

section Built

variable {legal : Capabilities → Prop}

theorem PropertyDef.compilesFields_of_mem {properties : List (String × (PropertyDef × PropertyChecker))}
    (h : ∀ p ∈ properties, p.2.1.Compiles legal p.2.2) :
    PropertyDef.CompilesFields legal (properties.map fun (n, p) => (n, p.1)) (properties.map fun (n, p) => (n, p.2)) := by
  induction properties with
  | nil =>
      unfold PropertyDef.CompilesFields
      trivial
  | cons p rest ih =>
      rw [List.map_cons, List.map_cons, PropertyDef.CompilesFields]
      exact ⟨rfl, h p (List.mem_cons_self ..), ih fun q hq => h q (List.mem_cons_of_mem _ hq)⟩

theorem TypeDef.compilesAll_of_mem {types : List ObjectType} (h : ∀ t ∈ types, t.definition.Compiles legal t.checker) :
    TypeDef.CompilesAll legal (types.map ObjectType.definition) (types.map ObjectType.checker) := by
  induction types with
  | nil =>
      unfold TypeDef.CompilesAll
      trivial
  | cons t rest ih =>
      rw [List.map_cons, List.map_cons, TypeDef.CompilesAll]
      exact ⟨h t (List.mem_cons_self ..), ih fun u hu => h u (List.mem_cons_of_mem _ hu)⟩

/-- A definition and its checker name the same properties. -/
theorem PropertyDef.names_eq {ds : List (String × PropertyDef)} {cs : List (String × PropertyChecker)}
    (h : List.Forall₂ (fun d c => d.1 = c.1 ∧ d.2.Compiles legal c.2) ds cs) :
    cs.map Prod.fst = ds.map Prod.fst := by
  induction h with
  | nil => rfl
  | cons hdc _ ih => rw [List.map_cons, List.map_cons, hdc.1, ih]

theorem PropertyDef.CompilesFields.forall₂ {ds : List (String × PropertyDef)} {cs : List (String × PropertyChecker)}
    (h : PropertyDef.CompilesFields legal ds cs) :
    List.Forall₂ (fun d c => d.1 = c.1 ∧ d.2.Compiles legal c.2) ds cs := by
  induction ds generalizing cs with
  | nil =>
      cases cs with
      | nil => exact .nil
      | cons c cs =>
          unfold PropertyDef.CompilesFields at h
          exact h.elim
  | cons d ds ih =>
      cases cs with
      | nil =>
          unfold PropertyDef.CompilesFields at h
          exact h.elim
      | cons c cs =>
          rw [PropertyDef.CompilesFields] at h
          exact .cons ⟨h.1, h.2.1⟩ (ih h.2.2)

/-- A property of a type and what it compiles to stand in the same place. -/
theorem PropertyDef.get?_compiles {name : String} {d : PropertyDef} {c : PropertyChecker} {ds : List (String × PropertyDef)}
    {cs : List (String × PropertyChecker)} (h : List.Forall₂ (fun d c => d.1 = c.1 ∧ d.2.Compiles legal c.2) ds cs)
    (hd : Assoc.get? name ds = some d) (hc : Assoc.get? name cs = some c) : d.Compiles legal c := by
  induction h with
  | nil => cases hd
  | @cons p q _ _ hpq _ ih =>
    unfold Assoc.get? at hd hc
    by_cases hname : p.1 = name
    · rw [if_pos hname] at hd
      rw [if_pos (hpq.1.symm.trans hname)] at hc
      cases hd
      cases hc
      exact hpq.2
    · rw [if_neg hname] at hd
      rw [if_neg fun heq => hname (hpq.1.trans heq)] at hc
      exact ih hd hc

theorem ObjectType.property?_eq_some {t : ObjectType} {name : String} {p : PropertyDef × PropertyChecker} :
    t.property? name = some p ↔
      Assoc.get? name t.definition.properties = some p.1 ∧ Assoc.get? name t.checker.properties = some p.2 := by
  obtain ⟨d, c⟩ := p
  unfold property?
  simp [Option.bind_eq_some_iff]

theorem TypeHandle.property?_eq_some {built : TypeHandle → Option ObjectType} {handle : TypeHandle}
    {p : PropertyDef × PropertyChecker} :
    handle.property? built = some p ↔ ∃ t name, built handle = some t ∧ handle.part = some name ∧ t.property? name = some p := by
  unfold property?
  simp [Option.bind_eq_some_iff]

/-- A property of a type that was built before stands in the type, and its checker in that of the type. -/
theorem TypeHandle.property?_mem {built : TypeHandle → Option ObjectType} {handle : TypeHandle}
    {p : PropertyDef × PropertyChecker} (h : handle.property? built = some p) :
    ∃ t name, built handle = some t ∧ (name, p.1) ∈ t.definition.properties ∧ (name, p.2) ∈ t.checker.properties := by
  obtain ⟨t, name, hbuilt, -, hp⟩ := property?_eq_some.1 h
  obtain ⟨hd, hc⟩ := ObjectType.property?_eq_some.1 hp
  exact ⟨t, name, hbuilt, Assoc.mem_of_get? hd, Assoc.mem_of_get? hc⟩

/-- A property of a type compiles as the type does. -/
theorem ObjectType.property?_compiles {t : ObjectType} {name : String} {p : PropertyDef × PropertyChecker}
    (ht : t.definition.Compiles legal t.checker) (h : t.property? name = some p) : p.1.Compiles legal p.2 := by
  obtain ⟨⟨_, _, leniency, properties⟩, checker⟩ := t
  obtain ⟨hd, hc⟩ := property?_eq_some.1 h
  rw [TypeDef.Compiles] at ht
  exact PropertyDef.get?_compiles ht.2.forall₂ hd hc

theorem TypeHandle.property?_compiles {built : TypeHandle → Option ObjectType}
    (hbefore : ∀ handle u, built handle = some u → u.definition.Compiles legal u.checker) {handle : TypeHandle}
    {p : PropertyDef × PropertyChecker} (h : handle.property? built = some p) : p.1.Compiles legal p.2 := by
  obtain ⟨t, part, hbuilt, -, hp⟩ := property?_eq_some.1 h
  exact ObjectType.property?_compiles (hbefore handle t hbuilt) hp

theorem TypeDef.CompilesAll.length_eq : ∀ {ds : List TypeDef} {ts : List TypeChecker}, TypeDef.CompilesAll legal ds ts →
    ts.length = ds.length
  | [], [], _ => rfl
  | [], _ :: _, h => by
    unfold TypeDef.CompilesAll at h
    exact h.elim
  | _ :: _, [], h => by
    unfold TypeDef.CompilesAll at h
    exact h.elim
  | _ :: _, _ :: _, h => by
    rw [TypeDef.CompilesAll] at h
    exact congrArg (· + 1) h.2.length_eq

/-- A property has as many types in place as its checker. -/
theorem PropertyDef.Compiles.length_inlineTypes : ∀ {d : PropertyDef} {c : PropertyChecker}, d.Compiles legal c →
    (d.inlineTypes.map fun _ => c.inlineTypes).map List.length = d.inlineTypes.map List.length
  | ⟨_, kind, constraints, none⟩, _, _ => rfl
  | ⟨_, kind, constraints, some types⟩, c, h => by
    rw [PropertyDef.Compiles] at h
    obtain ⟨caps, checkers, -, hall, hcompile⟩ := h
    rw [← Capabilities.compileProperty_inlineTypes hcompile] at hall
    exact congrArg some hall.length_eq

/-- A property that is compiled again keeps its types in place, and so compiles to what it is compiled to now. -/
theorem PropertyDef.Compiles.again : ∀ {d : PropertyDef} {c c' : PropertyChecker}, d.Compiles legal c → ∀ {caps : Capabilities},
    legal caps → caps.compileProperty d.kind d.constraints (d.inlineTypes.map fun _ => c.inlineTypes) = .ok c' →
    d.Compiles legal c'
  | ⟨_, kind, constraints, none⟩, c, c', _, caps, hlegal, hcompile => by
    rw [PropertyDef.Compiles]
    exact ⟨caps, hlegal, hcompile⟩
  | ⟨_, kind, constraints, some types⟩, c, c', h, caps, hlegal, hcompile => by
    rw [PropertyDef.Compiles] at h ⊢
    obtain ⟨before, checkers, -, hall, hbefore⟩ := h
    refine ⟨caps, checkers, hlegal, hall, ?_⟩
    rw [← Capabilities.compileProperty_inlineTypes hbefore]
    exact hcompile

variable {around : Surroundings}

mutual
theorem Building.property_compiles (hlegal : legal around.capabilities)
    (hbefore : ∀ handle u, around.built handle = some u → u.definition.Compiles legal u.checker) (d : Datum)
    {p : PropertyDef × PropertyChecker} (h : Building.Gives (Building.property around d) (.ok p)) : p.1.Compiles legal p.2 := by
  rcases Building.gives_property h with ⟨handle, _, q, _, hq, hp, hcompile⟩ |
    ⟨r, description, kind, constraints, inlineTypes, hr, _, _, hinline, hp, hcompile⟩
  · rw [hp]
    exact (handle.property?_compiles hbefore hq).again hlegal hcompile
  rw [hp]
  cases inlineTypes with
  | none =>
      change PropertyDef.Compiles legal ⟨description, kind, constraints, none⟩ p.2
      rw [PropertyDef.Compiles]
      exact ⟨around.capabilities, hlegal, hcompile⟩
  | some types =>
      change PropertyDef.Compiles legal ⟨description, kind, constraints, some (types.map ObjectType.definition)⟩ p.2
      rw [PropertyDef.Compiles]
      refine ⟨around.capabilities, _, hlegal, TypeDef.compilesAll_of_mem fun t ht => ?_, hcompile⟩
      obtain ⟨x, hheld, hx⟩ := hinline.held (Record.ofDatum_eq_ok hr) t ht
      have hsmaller := Datum.sizeOf_held hheld
      exact Building.type_compiles hlegal hbefore x hx
termination_by sizeOf d
theorem Building.type_compiles (hlegal : legal around.capabilities)
    (hbefore : ∀ handle u, around.built handle = some u → u.definition.Compiles legal u.checker) (d : Datum)
    {t : ObjectType} (h : Building.Gives (Building.type around d) (.ok t)) : t.definition.Compiles legal t.checker := by
  rcases Building.gives_type h with ⟨handle, _, _, hbuilt⟩ | ⟨r, name, description, leniency, ps, hr, hfields, rfl⟩
  · exact hbefore handle t hbuilt
  · change TypeDef.Compiles legal ⟨name, description, leniency, _⟩ _
    rw [TypeDef.Compiles]
    refine ⟨rfl, PropertyDef.compilesFields_of_mem fun p hp => ?_⟩
    obtain ⟨x, hheld, hx⟩ := hfields.held (Record.ofDatum_eq_ok hr) p hp
    have hsmaller := Datum.sizeOf_held hheld
    exact Building.property_compiles hlegal hbefore x hx
termination_by sizeOf d
end

/-- **Built types are compiled definitions.** -/
theorem ObjectType.Built.compiles {t : ObjectType} (h : t.Built legal) : t.definition.Compiles legal t.checker := by
  induction h with
  | build hlegal _ hresult ih => exact Building.type_compiles hlegal ih _ ⟨_, hresult⟩
  | @rename t name _ ih =>
      obtain ⟨⟨_, _, leniency, properties⟩, checker⟩ := t
      change TypeDef.Compiles legal ⟨_, _, leniency, properties⟩ checker at ih
      change TypeDef.Compiles legal ⟨name, _, leniency, properties⟩ checker
      rw [TypeDef.Compiles] at ih ⊢
      exact ih

end Built

end ShapeCheck
