import ShapeCheck.Proofs.Steps

/-!
# What checkers keep

The functions that collect violations recurse on the checkers, and take what a reference leads to as an argument. So what a
type keeps follows from what each place of it keeps: how it reads and changes the store, which values it hands to its parts,
and which faults it may end in. A `Keeping` names these things for two runs of one checker, and `Keeping.Lawful` says what
each place has to keep. `TypeChecker.collect_ends` and its companions then hold for all checkers, by one induction along
their syntax; only the law of references speaks of other types.
-/

namespace ShapeCheck

/-! ## All checkers of a type -/

mutual
/-- The checkers inside of a rule, at any depth. -/
def Rule.checkers : Rule → List PropertyChecker
  | .includes elements => PropertyChecker.checkersOfAll elements
  | .excludes elements => PropertyChecker.checkersOfAll elements
  | .inlineType ⟨properties, _⟩ => PropertyChecker.checkersOfFields properties
  | _ => []
def Rule.checkersOfAll : List Rule → List PropertyChecker
  | [] => []
  | r :: rest => r.checkers ++ Rule.checkersOfAll rest
/-- A checker and the checkers inside of it, at any depth. -/
def PropertyChecker.checkers : PropertyChecker → List PropertyChecker
  | c@⟨_, _, _, _, _, _, _, _, _, rules⟩ => c :: Rule.checkersOfAll rules
def PropertyChecker.checkersOfAll : List PropertyChecker → List PropertyChecker
  | [] => []
  | c :: rest => c.checkers ++ PropertyChecker.checkersOfAll rest
def PropertyChecker.checkersOfFields : List (String × PropertyChecker) → List PropertyChecker
  | [] => []
  | (_, c) :: rest => c.checkers ++ PropertyChecker.checkersOfFields rest
end

section Every

variable (Φ : PropertyChecker → Prop)

/-- Each checker inside of a rule is as `Φ` says. -/
def Rule.Every (r : Rule) : Prop := ∀ c ∈ r.checkers, Φ c

def Rule.EveryOfAll (rules : List Rule) : Prop := ∀ c ∈ Rule.checkersOfAll rules, Φ c

/-- A checker and each checker inside of it is as `Φ` says. -/
def PropertyChecker.Every (c : PropertyChecker) : Prop := ∀ d ∈ c.checkers, Φ d

def PropertyChecker.EveryOfAll (cs : List PropertyChecker) : Prop := ∀ c ∈ PropertyChecker.checkersOfAll cs, Φ c

def PropertyChecker.EveryOfFields (ps : List (String × PropertyChecker)) : Prop :=
  ∀ c ∈ PropertyChecker.checkersOfFields ps, Φ c

/-- Each checker of a type is as `Φ` says. -/
def TypeChecker.Every (t : TypeChecker) : Prop := PropertyChecker.EveryOfFields Φ t.properties

variable {Φ}

theorem Rule.every_includes {elements : List PropertyChecker} :
    (Rule.includes elements).Every Φ ↔ PropertyChecker.EveryOfAll Φ elements := by
  unfold Rule.Every
  rw [Rule.checkers]
  rfl

theorem Rule.every_excludes {elements : List PropertyChecker} :
    (Rule.excludes elements).Every Φ ↔ PropertyChecker.EveryOfAll Φ elements := by
  unfold Rule.Every
  rw [Rule.checkers]
  rfl

theorem Rule.every_of_checkers_nil {r : Rule} (h : r.checkers = []) : r.Every Φ := by
  unfold Rule.Every
  rw [h]
  exact fun _ hc => nomatch hc

theorem Rule.every_inlineType {t : TypeChecker} : (Rule.inlineType t).Every Φ ↔ t.Every Φ := by
  obtain ⟨properties, leniency⟩ := t
  unfold Rule.Every
  rw [Rule.checkers]
  rfl

theorem Rule.everyOfAll_iff {rules : List Rule} : Rule.EveryOfAll Φ rules ↔ ∀ r ∈ rules, r.Every Φ := by
  induction rules with
  | nil =>
      unfold Rule.EveryOfAll
      rw [Rule.checkersOfAll]
      exact ⟨fun _ _ h => (nomatch h), fun _ _ h => nomatch h⟩
  | cons r rest ih =>
      rw [List.forall_mem_cons, ← ih]
      unfold Rule.EveryOfAll
      rw [Rule.checkersOfAll, List.forall_mem_append]
      rfl

theorem PropertyChecker.everyOfAll_iff {cs : List PropertyChecker} :
    PropertyChecker.EveryOfAll Φ cs ↔ ∀ c ∈ cs, c.Every Φ := by
  induction cs with
  | nil =>
      unfold PropertyChecker.EveryOfAll
      rw [PropertyChecker.checkersOfAll]
      exact ⟨fun _ _ h => (nomatch h), fun _ _ h => nomatch h⟩
  | cons c rest ih =>
      rw [List.forall_mem_cons, ← ih]
      unfold PropertyChecker.EveryOfAll
      rw [PropertyChecker.checkersOfAll, List.forall_mem_append]
      rfl

theorem PropertyChecker.everyOfFields_iff {ps : List (String × PropertyChecker)} :
    PropertyChecker.EveryOfFields Φ ps ↔ ∀ p ∈ ps, p.2.Every Φ := by
  induction ps with
  | nil =>
      unfold PropertyChecker.EveryOfFields
      rw [PropertyChecker.checkersOfFields]
      exact ⟨fun _ _ h => (nomatch h), fun _ _ h => nomatch h⟩
  | cons p rest ih =>
      obtain ⟨name, c⟩ := p
      rw [List.forall_mem_cons, ← ih]
      unfold PropertyChecker.EveryOfFields
      rw [PropertyChecker.checkersOfFields, List.forall_mem_append]
      rfl

theorem PropertyChecker.every_iff {c : PropertyChecker} : c.Every Φ ↔ Φ c ∧ ∀ r ∈ c.rules, r.Every Φ := by
  obtain ⟨_, _, _, _, _, _, _, _, _, rules⟩ := c
  rw [← Rule.everyOfAll_iff]
  unfold PropertyChecker.Every
  rw [PropertyChecker.checkers, List.forall_mem_cons]
  rfl

theorem TypeChecker.Every.mono {Ψ : PropertyChecker → Prop} {t : TypeChecker} (h : t.Every Φ) (hΦ : ∀ c, Φ c → Ψ c) :
    t.Every Ψ := fun c hc => hΦ c (h c hc)

end Every

/-! ## Single steps of a checker -/

/-- A violation that is not about following a reference. -/
def Violation.IsPlain {α : Type} (f : Violation α) : Prop := f.code ∉ [Code.unresolved, .cycle, .depth]

/-- The scalars that checkers bring in themselves: null for a value that is missing, truth values and finite numbers. -/
inductive Value.Counted : Value → Prop
  | null : Counted (.scalar .null)
  | bool (b : Bool) : Counted (.scalar (.bool b))
  | number {n : Number} (finite : n.isFinite? = some true) : Counted (.scalar (.number n))

theorem Value.Counted.isScalar {v : Value} (h : v.Counted) : v.isScalar = true := by
  cases h <;> rfl

theorem finite?_eq {n : Number} {w : Value} (h : finite? n = .ok (some w)) :
    w = .scalar (.number n) ∧ n.isFinite? = some true := by
  unfold finite? at h
  split at h
  · cases h
  · next hfinite =>
    cases h
    exact ⟨rfl, hfinite⟩
  · cases h

/-- A value counts as itself or as a scalar that conversion brings in. -/
theorem Kind.convert_eq {k : Kind} {convert : Bool} {σ : Store} {v w : Value}
    (h : k.convert convert σ v = .ok (some w)) : w = v ∨ w.Counted := by
  unfold Kind.convert at h
  split at h
  · split at h <;> cases h
    exact .inl rfl
  · split at h
    · exact .inl (finite?_eq h).1
    · split at h
      · split at h
        · obtain ⟨rfl, hfinite⟩ := finite?_eq h
          exact .inr (.number hfinite)
        · cases h
      · cases h
    · cases h
  · split at h
    · cases h
      exact .inl rfl
    · next s =>
      split at h
      · cases ht : truth? s <;> rw [ht] at h <;> cases h
        exact .inr (.bool _)
      · cases h
    · cases h
  · cases hi : σ.items? v <;> rw [hi] at h <;> cases h
    exact .inl rfl
  · cases he : σ.entries? v <;> rw [he] at h <;> cases h
    exact .inl rfl
  · split at h <;> cases h
    exact .inl rfl
  · cases h
    exact .inl rfl

/-- Only mappings are of the kind of objects. -/
theorem Kind.convert_object {convert : Bool} {σ : Store} {v w : Value}
    (h : Kind.object.convert convert σ v = .ok (some w)) : w = v ∧ (σ.entries? v).isSome = true := by
  change Except.ok ((σ.entries? v).map fun _ => v) = _ at h
  cases he : σ.entries? v <;> rw [he] at h <;> cases h
  exact ⟨rfl, rfl⟩

theorem finding_isPlain {path : Path} {code : Code} {constraint message : String} {v : Value}
    (h : code ∉ [Code.unresolved, .cycle, .depth]) : (finding path code constraint message v).IsPlain := h

theorem judged_isPlain {passes : Bool} {path : Path} {method message : String} {v : Value} :
    ∀ f ∈ judged passes path method message v, f.IsPlain := by
  intro f hf
  unfold judged at hf
  split at hf
  · cases hf
  · rw [List.mem_singleton.1 hf]
    exact finding_isPlain (by decide)

theorem noMatch_mem {path : Path} {item : Value} {attempts : List Findings} {f : Violation Value}
    (hf : f ∈ noMatch path item attempts) : f.IsPlain ∨ ∃ found ∈ attempts, f ∈ found := by
  unfold noMatch at hf
  split at hf
  · exact .inr ⟨_, List.mem_singleton_self _, hf⟩
  · rw [List.mem_singleton.1 hf]
    exact .inl (finding_isPlain (by decide))

theorem peerFindings_isPlain {c : PropertyChecker} {path : Path} {σ : Store} {parent : Option Value} {v : Value}
    {found : Findings} (h : peerFindings c path σ parent v = .ok found) : ∀ f ∈ found, f.IsPlain := by
  unfold peerFindings at h
  intro f hf
  cases parent with
  | none =>
      cases h
      cases hf
  | some p =>
      simp only [bind, Except.bind] at h
      split at h
      · cases h
      split at h
      · cases h
      cases h
      rcases List.mem_append.1 hf with hf | hf <;> obtain ⟨s, _, rfl⟩ := List.mem_map.1 hf
      · exact finding_isPlain (by decide)
      · exact finding_isPlain (by decide)

namespace PropertyChecker

variable {c : PropertyChecker} {convert present : Bool} {path : Path} {σ : Store} {v : Value}

theorem early_goOn {w : Value} (h : c.early convert path present σ v = .ok (.goOn w)) :
    c.kind.convert convert σ v = .ok (some w) := by
  unfold early at h
  split at h
  · cases h
  split at h
  · cases h
  cases hk : c.kind.convert convert σ v with
  | error e =>
      rw [hk] at h
      cases h
  | ok counted =>
      rw [hk] at h
      simp only [bind, Except.bind] at h
      split at h
      · cases h
      split at h
      · cases h
      split at h
      · split at h <;> cases h
      split at h
      · split at h <;> cases h
      split at h
      · cases h
      · split at h <;> cases h
        rfl

/-- What is decided early is plain, and the value counts as itself or as what it is converted to. -/
theorem early_done {found : Findings} {w : Value} (h : c.early convert path present σ v = .ok (.done found w)) :
    (∀ f ∈ found, f.IsPlain) ∧ (w = v ∨ w.Counted) := by
  have hone : ∀ (code : Code) (m s : String) (x : Value), code ∉ [Code.unresolved, .cycle, .depth] →
      ∀ f ∈ [finding path code m s x], f.IsPlain := by
    intro code m s x hc f hf
    rw [List.mem_singleton.1 hf]
    exact finding_isPlain hc
  have hnil : ∀ f ∈ ([] : Findings), f.IsPlain := fun f hf => nomatch hf
  unfold early at h
  split at h
  · cases h
    refine ⟨?_, .inl rfl⟩
    split
    · exact hone _ _ _ _ (by decide)
    · exact hnil
  split at h
  · cases h
    refine ⟨?_, .inl rfl⟩
    split
    · exact hnil
    · exact hone _ _ _ _ (by decide)
  cases hk : c.kind.convert convert σ v with
  | error e =>
      rw [hk] at h
      cases h
  | ok counted =>
      rw [hk] at h
      simp only [bind, Except.bind] at h
      split at h
      · cases h
      split at h
      · cases h
        refine ⟨hnil, ?_⟩
        cases counted with
        | none => exact .inl rfl
        | some w => exact Kind.convert_eq hk
      split at h
      · split at h <;> cases h
        exact ⟨hone _ _ _ _ (by decide), .inl rfl⟩
      split at h
      · split at h <;> cases h
        exact ⟨hone _ _ _ _ (by decide), .inl rfl⟩
      split at h
      · cases h
        exact ⟨hone _ _ _ _ (by decide), .inl rfl⟩
      · split at h <;> cases h
        exact ⟨hone _ _ _ _ (by decide), .inl rfl⟩

end PropertyChecker

/-! ## Laws of a keeping -/

/-- What two runs of one checker keep: how their references are followed, and what is said of the runs and the values. -/
structure Keeping where
  /-- How references are followed in the first run. -/
  first : Follow
  /-- How references are followed in the second run. -/
  second : Follow
  /-- The context of the first run, up to conversions. -/
  here : Context
  /-- The context of the second run, up to conversions. -/
  there : Context
  /-- How the runs are related at each place. -/
  runs : Run → Run → Prop
  /-- How the runs are related when a fault ends them. -/
  faults : Fault → Run → Run → Prop
  /-- What may stand in a container. -/
  held : Address → Value → Prop
  /-- The values whose entries are looked at. -/
  opened : Value → Prop
  /-- The values that a property or an element is checked for. -/
  met : Value → Prop
  /-- The values that a reference may be followed for. -/
  followed : Value → Prop
  /-- What is known of each checker. -/
  checker : PropertyChecker → Prop
  /-- What is known of the leniency of each type. -/
  lenient : Leniency → Prop
  /-- What is known of each violation. -/
  finds : Violation Value → Prop

namespace Keeping

/-- Two ends that keep what is to be kept. -/
abbrev Ends {α : Type} (k : Keeping) (P : α → Prop) : Except Fault α × Run → Except Fault α × Run → Prop :=
  ShapeCheck.Ends k.runs k.faults P

/-- What is known of some findings. -/
def Finds (k : Keeping) (found : Findings) : Prop := ∀ f ∈ found, k.finds f

/-- How a checker may end in a fault of its own. -/
structure KnownFaults (k : Keeping) : Prop where
  early_fault : ∀ {r s c convert path present v e}, k.runs r s → k.checker c → k.met v →
    c.early convert path present r.store v = .error e → k.faults e r s
  peer_fault : ∀ {r s c path parent v e}, k.runs r s → k.checker c → (∀ p ∈ parent, k.followed p) →
    peerFindings c path r.store parent v = .error e → k.faults e r s
  length_fault : ∀ {r s c bound unit limit n e}, k.runs r s → k.checker c → .length bound unit limit ∈ c.rules →
    bound.allows limit n = .error e → k.faults e r s
  atLeast_fault : ∀ {r s c limit n e}, k.runs r s → k.checker c → .atLeast limit ∈ c.rules →
    limitAtMost limit n = .error e → k.faults e r s
  atMost_fault : ∀ {r s c limit n e}, k.runs r s → k.checker c → .atMost limit ∈ c.rules →
    atMostLimit n limit = .error e → k.faults e r s
  key_fault : ∀ {r s v es e}, k.runs r s → k.opened v → r.store.entries? v = some es → e ∈ es → e.1.isTooLong = true →
    k.faults .integerTooLong r s
  /-- A key that was there before its value was checked is gone. -/
  missing_fault : ∀ {c : PropertyChecker} {leniency convert path es es' name a w x found r s r' s'}, k.runs r s →
    k.opened (.container a) → k.lenient leniency → leniency.saveConversions = true → c.Every k.checker → r.store.entries? (.container a) = some es → Entries.get? name es = some w →
    (c.collect k.first { k.here with convert := convert } path true (some (.container a)) w).ending r =
      (.ok (found, x), r') →
    k.runs r' s' → r'.store.read? a = some (.mapping es') → Entries.get? name es' = none →
    k.faults (.missingKey name) r' s'

/-- Where nothing is known of faults but what the runs keep anyway. -/
theorem KnownFaults.of_runs {k : Keeping} (h : ∀ {e r s}, k.runs r s → k.faults e r s) : k.KnownFaults where
  early_fault hr _ _ _ := h hr
  peer_fault hr _ _ _ := h hr
  length_fault hr _ _ _ := h hr
  atLeast_fault hr _ _ _ := h hr
  atMost_fault hr _ _ _ := h hr
  key_fault hr _ _ _ _ := h hr
  missing_fault _ _ _ _ _ _ _ _ hr _ _ := h hr

/-- What each place of a checker has to keep. -/
structure Lawful (k : Keeping) : Prop extends KnownFaults k where
  store_eq : ∀ {r s}, k.runs r s → s.store = r.store
  item : ∀ {r s v xs x}, k.runs r s → k.met v → r.store.items? v = some xs → x ∈ xs → k.met x
  entry : ∀ {r s a es name x}, k.runs r s → r.store.entries? (.container a) = some es → Entries.get? name es = some x →
    k.held a x
  held_counted : ∀ {a x}, x.Counted → k.held a x
  met_held : ∀ {a x}, k.opened (.container a) → k.held a x → k.met x
  met_counted : ∀ {x}, x.Counted → k.met x
  opened : ∀ {v}, k.met v → k.opened v
  followed : ∀ {r s v}, k.runs r s → (r.store.entries? v).isSome = true → k.followed v
  references : ∀ {c ref}, k.checker c → .reference ref ∈ c.rules → c.kind = .object ∨ ∀ v, k.followed v
  inlineType : ∀ {c t}, k.checker c → .inlineType t ∈ c.rules → k.lenient t.leniency
  plain : ∀ {f}, f.IsPlain → k.finds f
  strip : ∀ {r s leniency a es} (p : Key × Value → Bool), k.lenient leniency → leniency.stripExtraKeys = true →
    k.runs r s → k.opened (.container a) → r.store.read? a = some (.mapping es) →
    k.runs { r with store := r.store.write a (.mapping (es.filter p)) }
      { s with store := s.store.write a (.mapping (es.filter p)) }
  save : ∀ {r s leniency a es name x}, k.lenient leniency → leniency.saveConversions = true → k.runs r s →
    k.opened (.container a) → r.store.read? a = some (.mapping es) → k.held a x →
    k.runs { r with store := r.store.write a (.mapping (Entries.put (.text name) x es)) }
      { s with store := s.store.write a (.mapping (Entries.put (.text name) x es)) }
  follow : ∀ {r s convert path ref v}, k.runs r s → k.met v → k.followed v →
    k.Ends k.Finds ((k.first { k.here with convert := convert } path ref v).ending r)
      ((k.second { k.there with convert := convert } path ref v).ending s)

end Keeping

end ShapeCheck
