import Mathlib.Data.List.Induction
import ShapeCheck.Proofs.Conformance
import ShapeCheck.Proofs.Equality
import ShapeCheck.Proofs.Standard

/-!
# What checkers hold of demands

Compiling takes the constraints of a demand in order. `Demand.Meets` says of each part of a checker how it comes from the
constraints that were taken: the flags are set if some constraint sets them, the values that stand as allowed and as denied
are those that were mentioned so and not otherwise after that, and there is one rule for each constraint that adds one. Since
equality goes back and on between proper data, a value is the same as one that stands as allowed exactly if the last
constraint to mention it allows it, `Demand.holds_standing_iff`.
-/

namespace ShapeCheck

open PropertyChecker

/-! ## Values that stand -/

namespace Demand

variable {described : Descriptions}

theorem standing_append (sense : Bool) (ms : List (Datum × Bool)) (a : Datum) (s : Bool) :
    standing sense (ms ++ [(a, s)]) =
      if s = sense then including (standing sense ms) a else without (standing sense ms) a := by
  unfold standing
  rw [List.foldl_append]
  rfl

theorem lastOf_append (ms : List (Datum × Bool)) (a : Datum) (s : Bool) (x : Datum) :
    lastOf (ms ++ [(a, s)]) x = if a.same x then some s else lastOf ms x := by
  unfold lastOf
  rw [List.reverse_append, List.reverse_singleton, List.singleton_append, List.find?_cons]
  dsimp only
  cases a.same x <;> rfl

theorem holds_iff {values : List Datum} {x : Datum} : holds values x = true ↔ ∃ a ∈ values, a.same x = true := by
  unfold holds
  rw [List.any_eq_true]

theorem holds_including_iff {values : List Datum} {a x : Datum} (hvalues : ∀ v ∈ values, v.Proper described)
    (ha : a.Proper described) (hx : x.Proper described) :
    holds (including values a) x = true ↔ holds values x = true ∨ a.same x = true := by
  unfold including
  by_cases hold : holds values a = true
  · rw [if_pos hold]
    refine ⟨.inl, fun h => h.elim id fun hax => ?_⟩
    obtain ⟨v, hv, hva⟩ := holds_iff.1 hold
    exact holds_iff.2 ⟨v, hv, (hvalues v hv).same_trans ha hx hva hax⟩
  · rw [if_neg hold]
    unfold holds
    rw [List.any_append, Bool.or_eq_true, List.any_cons, List.any_nil, Bool.or_false]

theorem holds_without_iff {values : List Datum} {a x : Datum} (hvalues : ∀ v ∈ values, v.Proper described)
    (ha : a.Proper described) (hx : x.Proper described) :
    holds (without values a) x = true ↔ holds values x = true ∧ ¬ a.same x = true := by
  unfold without
  constructor
  · intro h
    obtain ⟨v, hv, hvx⟩ := holds_iff.1 h
    obtain ⟨hv, hva⟩ := List.mem_filter.1 hv
    refine ⟨holds_iff.2 ⟨v, hv, hvx⟩, fun hax => ?_⟩
    rw [(hvalues v hv).same_of_same ha hx hvx hax] at hva
    cases hva
  · rintro ⟨h, hax⟩
    obtain ⟨v, hv, hvx⟩ := holds_iff.1 h
    refine holds_iff.2 ⟨v, List.mem_filter.2 ⟨hv, ?_⟩, hvx⟩
    rw [Bool.not_eq_true', Bool.eq_false_iff]
    intro hva
    exact hax (ha.same_trans (hvalues v hv) hx ((hvalues v hv).same_symm ha hva) hvx)

theorem standing_proper {sense : Bool} {ms : List (Datum × Bool)} (hms : ∀ m ∈ ms, m.1.Proper described) :
    ∀ v ∈ standing sense ms, v.Proper described := by
  induction ms using List.reverseRecOn with
  | nil =>
      intro v hv
      cases hv
  | append_singleton ms m ih =>
      obtain ⟨a, s⟩ := m
      have hbefore := ih fun m hm => hms m (List.mem_append_left _ hm)
      have ha := hms (a, s) (List.mem_append_right _ (List.mem_singleton_self _))
      intro v hv
      rw [standing_append] at hv
      split at hv
      · unfold including at hv
        split at hv
        · exact hbefore v hv
        · rcases List.mem_append.1 hv with hv | hv
          · exact hbefore v hv
          · rw [List.mem_singleton.1 hv]
            exact ha
      · exact hbefore v (List.mem_filter.1 hv).1

/-- A value is the same as one that stands in a sense exactly if it was last mentioned in this sense. The induction takes
the mentions from the last one on. -/
theorem holds_standing_iff_lastOf {sense : Bool} {ms : List (Datum × Bool)} {x : Datum}
    (hms : ∀ m ∈ ms, m.1.Proper described) (hx : x.Proper described) :
    holds (standing sense ms) x = true ↔ lastOf ms x = some sense := by
  induction ms using List.reverseRecOn with
  | nil =>
      constructor
      · intro h
        cases h
      · intro h
        cases h
  | append_singleton ms m ih =>
      obtain ⟨a, s⟩ := m
      have hbefore : ∀ m ∈ ms, m.1.Proper described := fun m hm => hms m (List.mem_append_left _ hm)
      have ha : a.Proper described := hms (a, s) (List.mem_append_right _ (List.mem_singleton_self _))
      have hstanding : ∀ v ∈ standing sense ms, v.Proper described := standing_proper hbefore
      rw [standing_append, lastOf_append]
      by_cases hs : s = sense
      · subst hs
        rw [if_pos rfl, holds_including_iff hstanding ha hx, ih hbefore]
        by_cases hax : a.same x = true
        · simp [hax]
        · simp [hax]
      · rw [if_neg hs, holds_without_iff hstanding ha hx, ih hbefore]
        by_cases hax : a.same x = true
        · simp [hax, hs]
        · simp [hax]

theorem holds_standing_iff {q : Demand} {sense : Bool} {x : Datum} (hq : ∀ m ∈ q.mentions, m.1.Proper described)
    (hx : x.Proper described) : holds (standing sense q.mentions) x = true ↔ q.lastMention x = some sense :=
  holds_standing_iff_lastOf hq hx

end Demand

/-! ## What one constraint does -/

namespace Method

variable {element : Datum → Except CompileError PropertyChecker} {m : Method} {args : List Datum} {r : Rule}
  {c c' : PropertyChecker}

theorem Adds.addsRule (h : m.Adds element args r) : m.addsRule = true := by
  cases h <;> rfl

/-- The values that a method mentions, each with whether it allows them. -/
def mentions (m : Method) (args : List Datum) : List (Datum × Bool) := m.sense?.elim [] fun sense => args.map (·, sense)

theorem mentions_eq_nil (h : m.addsRule = true) (args : List Datum) : m.mentions args = [] := by
  unfold mentions
  cases m with
  | allow | valid | deny => cases h
  | _ => rfl

/-- A part of a checker after one step for each of some values is what steps for the part alone give. -/
theorem foldl_part {step : PropertyChecker → Datum → PropertyChecker} {change : List Datum → Datum → List Datum}
    (part : PropertyChecker → List Datum) (h : ∀ c a, part (step c a) = change (part c) a) (args : List Datum) (c : PropertyChecker) :
    part (args.foldl step c) = args.foldl change (part c) :=
  (List.foldl_hom part fun c a => (h c a).symm).symm

/-- What stands after more values were mentioned in one sense. -/
theorem standing_append_map (sense s : Bool) (ms : List (Datum × Bool)) (args : List Datum) :
    Demand.standing sense (ms ++ args.map (·, s)) =
      args.foldl (if s = sense then including else without) (Demand.standing sense ms) := by
  unfold Demand.standing
  rw [List.foldl_append, List.foldl_map]
  by_cases hs : s = sense
  · simp only [if_pos hs]
  · simp only [if_neg hs]

theorem apply_allowed (h : m.apply args (fun a _ => element a) c = .ok c') {ms : List (Datum × Bool)}
    (hc : c.allowed = Demand.standing true ms) : c'.allowed = Demand.standing true (ms ++ m.mentions args) := by
  have hallow : (args.foldl .allow c).allowed = Demand.standing true (ms ++ args.map (·, true)) := by
    rw [standing_append_map, if_pos rfl, ← hc]
    exact foldl_part allowed (fun _ _ => rfl) args c
  have hdeny : (args.foldl .deny c).allowed = Demand.standing true (ms ++ args.map (·, false)) := by
    rw [standing_append_map, if_neg (by decide), ← hc]
    exact foldl_part allowed (fun _ _ => rfl) args c
  rcases apply_cases h with ⟨_, rfl⟩ | ⟨r, hr, rfl⟩
  · cases m with
    | allow => exact hallow
    | valid => exact hallow
    | deny => exact hdeny
    | _ => exact hc.trans (congrArg _ (List.append_nil ms).symm)
  · rw [mentions_eq_nil hr.addsRule, List.append_nil]
    exact hc

theorem apply_denied (h : m.apply args (fun a _ => element a) c = .ok c') {ms : List (Datum × Bool)}
    (hc : c.denied = Demand.standing false ms) : c'.denied = Demand.standing false (ms ++ m.mentions args) := by
  have hallow : (args.foldl .allow c).denied = Demand.standing false (ms ++ args.map (·, true)) := by
    rw [standing_append_map, if_neg (by decide), ← hc]
    exact foldl_part denied (fun _ _ => rfl) args c
  have hdeny : (args.foldl .deny c).denied = Demand.standing false (ms ++ args.map (·, false)) := by
    rw [standing_append_map, if_pos rfl, ← hc]
    exact foldl_part denied (fun _ _ => rfl) args c
  rcases apply_cases h with ⟨_, rfl⟩ | ⟨r, hr, rfl⟩
  · cases m with
    | allow => exact hallow
    | valid => exact hallow
    | deny => exact hdeny
    | _ => exact hc.trans (congrArg _ (List.append_nil ms).symm)
  · rw [mentions_eq_nil hr.addsRule, List.append_nil]
    exact hc

/-- What a method does to the flags of a checker. -/
structure Flags (m : Method) (c c' : PropertyChecker) : Prop where
  required : c'.required = true ↔ c.required = true ∨ m = .required
  nullOk : c'.nullOk = true ↔ c.nullOk = true ∨ m = .nullOk
  emptyOk : c'.emptyOk = true ↔ c.emptyOk = true ∨ m = .emptyOk
  onlyValid : c'.onlyValid = true ↔ c.onlyValid = true ∨ m = .valid

theorem apply_flags (h : m.apply args (fun a _ => element a) c = .ok c') : m.Flags c c' := by
  have hallow : ∀ g : PropertyChecker → Bool, (∀ c d, g (c.allow d) = g c) → g (args.foldl .allow c) = g c :=
    fun g hg => foldl_eq (f := .allow) hg args c
  have hdeny : ∀ g : PropertyChecker → Bool, (∀ c d, g (c.deny d) = g c) → g (args.foldl .deny c) = g c :=
    fun g hg => foldl_eq (f := .deny) hg args c
  rcases apply_cases h with ⟨_, rfl⟩ | ⟨r, hr, rfl⟩
  · constructor
    · cases m <;> simp [adjust, hallow PropertyChecker.required fun _ _ => rfl, hdeny PropertyChecker.required fun _ _ => rfl]
    · cases m <;> simp [adjust, hallow PropertyChecker.nullOk fun _ _ => rfl, hdeny PropertyChecker.nullOk fun _ _ => rfl]
    · cases m <;> simp [adjust, hallow PropertyChecker.emptyOk fun _ _ => rfl, hdeny PropertyChecker.emptyOk fun _ _ => rfl]
    · cases m <;>
        simp [adjust, hallow PropertyChecker.onlyValid fun _ _ => rfl, hdeny PropertyChecker.onlyValid fun _ _ => rfl]
  · cases hr <;> exact ⟨by simp [addRule], by simp [addRule], by simp [addRule], by simp [addRule]⟩

theorem apply_peers (h : m.apply args (fun a _ => element a) c = .ok c') (a : Datum) :
    (a ∈ c'.peersWith ↔ a ∈ c.peersWith ∨ m = .withPeers ∧ a ∈ args) ∧
      (a ∈ c'.peersWithout ↔ a ∈ c.peersWithout ∨ m = .withoutPeers ∧ a ∈ args) := by
  rcases apply_cases h with ⟨_, rfl⟩ | ⟨r, hr, rfl⟩
  · refine ⟨?_, ?_⟩
    · by_cases hwith : m = .withPeers
      · subst hwith
        simp [adjust]
      · rw [adjust_peersWith hwith]
        simp [hwith]
    · by_cases hwithout : m = .withoutPeers
      · subst hwithout
        simp [adjust]
      · rw [adjust_peersWithout hwithout]
        simp [hwithout]
  · cases hr <;> simp [addRule]

end Method

/-! ## What all constraints do -/

namespace Demand

/-- A constraint of a demand adds a rule. -/
def addsRule (q : Demand) (x : Constraint) : Bool := (q.method? x).any Method.addsRule

/-- The rule that a constraint of a demand adds. -/
def Adds (caps : Capabilities) (q : Demand) (x : Constraint) (r : Rule) : Prop :=
  ∃ m, q.method? x = some m ∧ m.Adds (fun a => caps.compileElement x.method a) x.args r

/-- How a checker comes from the constraints of a demand. -/
structure Meets (caps : Capabilities) (q : Demand) (c : PropertyChecker) : Prop where
  kind : q.kind? = some c.kind
  required : c.required = true ↔ q.Asks .required
  nullOk : c.nullOk = true ↔ q.Asks .nullOk
  emptyOk : c.emptyOk = true ↔ q.Asks .emptyOk
  onlyValid : c.onlyValid = true ↔ q.Asks .valid
  allowed : c.allowed = standing true q.mentions
  denied : c.denied = standing false q.mentions
  peersWith : ∀ a, a ∈ c.peersWith ↔ ∃ x ∈ q.constraints, q.method? x = some .withPeers ∧ a ∈ x.args
  peersWithout : ∀ a, a ∈ c.peersWithout ↔ ∃ x ∈ q.constraints, q.method? x = some .withoutPeers ∧ a ∈ x.args
  rules : List.Forall₂ (q.Adds caps) (q.constraints.filter q.addsRule) c.rules

theorem Meets.holds_allowed {caps : Capabilities} {q : Demand} {c : PropertyChecker} (h : q.Meets caps c)
    (hq : ∀ m ∈ q.mentions, m.1.Proper described) {x : Datum} (hx : x.Proper described) :
    holds c.allowed x = true ↔ q.lastMention x = some true := by
  rw [h.allowed]
  exact holds_standing_iff hq hx

theorem Meets.holds_denied {caps : Capabilities} {q : Demand} {c : PropertyChecker} (h : q.Meets caps c)
    (hq : ∀ m ∈ q.mentions, m.1.Proper described) {x : Datum} (hx : x.Proper described) :
    holds c.denied x = true ↔ q.lastMention x = some false := by
  rw [h.denied]
  exact holds_standing_iff hq hx

/-- A demand with other constraints. -/
def withConstraints (q : Demand) (cs : List Constraint) : Demand := { q with constraints := cs }

variable {caps : Capabilities} {q : Demand} {done : List Constraint} {x : Constraint} {m : Method}
  {c c' : PropertyChecker}

/-- What some constraint asks for is asked for by an earlier one or by the last one. -/
theorem exists_append_iff {P : Constraint → Prop} : (∃ y ∈ done ++ [x], P y) ↔ (∃ y ∈ done, P y) ∨ P x := by
  simp only [List.mem_append, List.mem_singleton, or_and_right, exists_or, exists_eq_left]

theorem mentions_append (hm : q.method? x = some m) :
    (q.withConstraints (done ++ [x])).mentions = (q.withConstraints done).mentions ++ m.mentions x.args := by
  have hx : (q.withConstraints (done ++ [x])).method? x = some m := hm
  unfold mentions
  change (done ++ [x]).flatMap _ = done.flatMap _ ++ _
  rw [List.flatMap_append, List.flatMap_singleton, hx]
  rfl

/-- One constraint after others. -/
theorem Meets.step (h : (q.withConstraints done).Meets caps c) (hm : q.method? x = some m)
    (happly : m.apply x.args (fun a _ => caps.compileElement x.method a) c = .ok c') :
    (q.withConstraints (done ++ [x])).Meets caps c' := by
  have hflags := Method.apply_flags happly
  have hasks : ∀ n, (q.withConstraints (done ++ [x])).Asks n ↔ (q.withConstraints done).Asks n ∨ m = n := by
    intro n
    refine exists_append_iff.trans (or_congr_right ?_)
    change q.method? x = some n ↔ m = n
    rw [hm, Option.some.injEq]
  have hpeers : ∀ n a, (∃ y ∈ done ++ [x], q.method? y = some n ∧ a ∈ y.args) ↔
      (∃ y ∈ done, q.method? y = some n ∧ a ∈ y.args) ∨ m = n ∧ a ∈ x.args := by
    intro n a
    rw [exists_append_iff, hm, Option.some.injEq]
  have hfilter : (done ++ [x]).filter q.addsRule = done.filter q.addsRule ++ if m.addsRule then [x] else [] := by
    rw [List.filter_append, List.filter_singleton]
    unfold addsRule
    rw [hm, Option.any_some]
    cases m.addsRule <;> rfl
  constructor
  case kind =>
    have hkind : c'.kind = c.kind := by
      rcases Method.apply_cases happly with ⟨_, rfl⟩ | ⟨r, _, rfl⟩
      · exact Method.adjust_kind m x.args c
      · rfl
    rw [hkind]
    exact h.kind
  case required => rw [hflags.required, h.required, hasks]
  case nullOk => rw [hflags.nullOk, h.nullOk, hasks]
  case emptyOk => rw [hflags.emptyOk, h.emptyOk, hasks]
  case onlyValid => rw [hflags.onlyValid, h.onlyValid, hasks]
  case allowed => rw [mentions_append hm, Method.apply_allowed happly h.allowed]
  case denied => rw [mentions_append hm, Method.apply_denied happly h.denied]
  case peersWith => exact fun a => (Method.apply_peers happly a).1.trans ((or_congr_left (h.peersWith a)).trans (hpeers _ a).symm)
  case peersWithout =>
    exact fun a => (Method.apply_peers happly a).2.trans ((or_congr_left (h.peersWithout a)).trans (hpeers _ a).symm)
  case rules =>
    change List.Forall₂ (q.Adds caps) ((done ++ [x]).filter q.addsRule) c'.rules
    rw [hfilter]
    rcases Method.apply_cases happly with ⟨hrule, rfl⟩ | ⟨r, hr, rfl⟩
    · rw [hrule, Method.adjust_rules, if_neg Bool.false_ne_true, List.append_nil]
      exact h.rules
    · rw [hr.addsRule, if_pos rfl, addRule_rules]
      exact List.rel_append h.rules (.cons ⟨m, hm, hr⟩ .nil)

theorem Meets.ofKind {kind : Kind} (hkind : q.kind? = some kind) : (q.withConstraints []).Meets caps (.ofKind kind) := by
  have hnone : ∀ P : Constraint → Prop, ¬ ∃ y ∈ ([] : List Constraint), P y := by
    rintro P ⟨y, hy, _⟩
    cases hy
  have hflag : ∀ m, false = true ↔ (q.withConstraints []).Asks m := fun m => ⟨nofun, fun h => absurd h (hnone _)⟩
  have hpeers : ∀ m a, a ∈ ([] : List Datum) ↔ ∃ y ∈ ([] : List Constraint), q.method? y = some m ∧ a ∈ y.args :=
    fun m a => ⟨nofun, fun h => absurd h (hnone _)⟩
  exact ⟨hkind, hflag _, hflag _, hflag _, hflag _, rfl, rfl, hpeers _, hpeers _, .nil⟩

/-- A checker meets the demand that it is compiled from. The induction is on the constraints that are left. -/
theorem Meets.compile {kind : Kind} (hkind : q.kind? = some kind)
    (h : caps.compileConstraints kind q.constraints (fun m a _ => caps.compileElement m a) (.ofKind kind) = .ok c) :
    q.Meets caps c := by
  have hstep : ∀ (rest done : List Constraint) (b : PropertyChecker), (q.withConstraints done).Meets caps b →
      caps.compileConstraints kind rest (fun m a _ => caps.compileElement m a) b = .ok c →
      (q.withConstraints (done ++ rest)).Meets caps c := by
    intro rest
    induction rest with
    | nil =>
        intro done b hb h
        unfold Capabilities.compileConstraints at h
        cases h
        rwa [List.append_nil]
    | cons x rest ih =>
        intro done b hb h
        unfold Capabilities.compileConstraints at h
        obtain ⟨b', hb', h⟩ := Except.bind_eq_ok.1 h
        obtain ⟨form, m, _, hm, happly⟩ := Capabilities.compileConstraint_eq_ok hb'
        have hmethod : q.method? x = some m := by
          unfold method?
          rw [hkind]
          exact hm
        rw [List.append_cons]
        exact ih (done ++ [x]) b' (hb.step hmethod happly) h
  exact hstep q.constraints [] _ (.ofKind hkind) h

/-- A checker comes from a demand: from its constraints, and then from its types. -/
structure Compiled (q : Demand) (c : PropertyChecker) : Prop where
  standard : c.Standard
  rules : ∃ own inner, c.rules = own ++ inner ∧ q.Meets .standard { c with rules := own } ∧
    List.Forall₂ (fun t r => ∃ u, t.Compiles (· = .standard) u ∧ r = .inlineType u) q.types inner
  objects : q.types ≠ [] → c.kind = .object

theorem Meets.with_own_rules (h : q.Meets .standard c) (htypes : q.types = []) :
    ∃ own inner, c.rules = own ++ inner ∧ q.Meets .standard { c with rules := own } ∧
      List.Forall₂ (fun t r => ∃ u, t.Compiles (· = .standard) u ∧ r = .inlineType u) q.types inner := by
  refine ⟨c.rules, [], (List.append_nil _).symm, ?_, htypes ▸ .nil⟩
  cases c
  exact h

end Demand

/-- What a description of an element compiles to comes from its demand. -/
theorem Capabilities.compileElement_compiled {m : String} {d : Datum} {c : PropertyChecker}
    (h : Capabilities.standard.compileElement m d = .ok c) : ∃ e, ElementDef.read d = .ok e ∧ e.demand.Compiled c := by
  have hstandard := compileElement_every PropertyChecker.standard_settles.toAccrues rfl d m c h
  obtain ⟨e, kind, he, hkind, hcs⟩ := compileElement_eq_ok h
  have hmeets : e.demand.Meets .standard c := Demand.Meets.compile (kindNamed_eq_ok hkind) hcs
  exact ⟨e, he, (PropertyChecker.every_iff.1 hstandard).1, hmeets.with_own_rules rfl, fun hne => absurd rfl hne⟩

/-- What a property compiles to comes from its demand. -/
theorem PropertyDef.Compiles.compiled {p : PropertyDef} {c : PropertyChecker} (h : p.Compiles (· = .standard) c) :
    p.demand.Compiled c := by
  have hstandard := (PropertyChecker.every_iff.1 (h.every PropertyChecker.standard_settles)).1
  obtain ⟨description, kindName, constraints, inlineTypes⟩ := p
  have hmeets : ∀ {kind : Kind} {b : PropertyChecker}, Capabilities.standard.kindNamed kindName = .ok kind →
      Capabilities.standard.compileConstraints kind constraints (fun m a _ => Capabilities.standard.compileElement m a)
        (.ofKind kind) = .ok b →
      (PropertyDef.demand ⟨description, kindName, constraints, inlineTypes⟩).Meets .standard b :=
    fun hkind hcs => Demand.Meets.compile (Capabilities.kindNamed_eq_ok hkind) hcs
  cases inlineTypes with
  | none =>
      rw [PropertyDef.Compiles] at h
      obtain ⟨_, rfl, hcompile⟩ := h
      obtain ⟨kind, b, hkind, hcs, ⟨_, rfl⟩ | ⟨t, ht, _⟩⟩ := Capabilities.compileProperty_eq_ok hcompile
      · exact ⟨hstandard, (hmeets hkind hcs).with_own_rules rfl, fun hne => absurd rfl hne⟩
      · cases ht
  | some types =>
      rw [PropertyDef.Compiles] at h
      obtain ⟨_, checkers, rfl, htypes, hcompile⟩ := h
      obtain ⟨kind, b, hkind, hcs, ⟨hnone, _⟩ | ⟨u, hu, hobject, _, rfl⟩⟩ := Capabilities.compileProperty_eq_ok hcompile
      · cases hnone
      · cases hu
        have hb := hmeets hkind hcs
        have hkind' := hb.kind.symm.trans (Capabilities.kindNamed_eq_ok hkind)
        refine ⟨hstandard, ⟨b.rules, [.inlineType u], rfl, by cases b; exact hb, ?_⟩,
          fun _ => (Option.some.inj hkind').trans hobject⟩
        match types, htypes with
        | [t], htypes =>
            rw [TypeDef.CompilesAll] at htypes
            exact .cons ⟨u, htypes.1, rfl⟩ .nil
        | _ :: _ :: _, htypes =>
            rw [TypeDef.CompilesAll] at htypes
            unfold TypeDef.CompilesAll at htypes
            exact htypes.2.elim

end ShapeCheck
