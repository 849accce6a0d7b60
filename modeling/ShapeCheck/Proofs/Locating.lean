import ShapeCheck.Proofs.Reaching

/-!
# Where to find what a violation is about

The path of a violation is the text of a location in the candidate. `Store.Located` follows keys and indices from a value, and
`Violation.Faithful` says that the location of a violation leads to its value, or stops at a mapping that lacks the last key.

This is so where a run leaves the store as it is. `Check.Stays` says something of each result of a check that does, and the
induction is along the syntax of checkers; `follow_finds` carries it over references.
-/

namespace ShapeCheck

/-! ## Locations -/

/-- A step of a location: a key of a mapping, or an index of an array. -/
inductive Access where
  | key (k : Key)
  | index (i : Nat)

/-- The step of a path that a step of a location is written as. -/
def Access.step : Access → Step
  | .key k => .key k.plain
  | .index i => .index i

/-- The path of a location, whose text joins its steps from the candidate on. -/
def Path.along (loc : List Access) : Path := { steps := loc.map Access.step }

namespace Store

/-- A location leads from a value to another one. Keys are found among the entries, since there are some that equal no key. -/
inductive Located (σ : Store) (root : Value) : List Access → Value → Prop
  | here : Located σ root [] root
  | key {loc : List Access} {v w : Value} {es : List (Key × Value)} {k : Key} (located : Located σ root loc v)
      (entries : σ.entries? v = some es) (entry : (k, w) ∈ es) : Located σ root (loc ++ [.key k]) w
  | index {loc : List Access} {v w : Value} {xs : List Value} {i : Nat} (located : Located σ root loc v)
      (items : σ.items? v = some xs) (item : xs[i]? = some w) : Located σ root (loc ++ [.index i]) w

/-- A value is another one, or what that one counts as when it is to be of some kind. -/
def Stands (σ : Store) (u v : Value) : Prop := v = u ∨ ∃ k, Kind.convert k true σ u = .ok (some v)

end Store

/-- A violation is about what its path leads to: a missing key is missing there, and any other value is found there, as it is or as
it counts. -/
inductive Violation.Faithful (σ : Store) (root : Value) (f : Violation Value) : Prop
  | there {loc : List Access} {u : Value} (code : f.code ≠ .required) (located : σ.Located root loc u) (path : f.path = .along loc)
      (value : σ.Stands u f.value)
  | absent {loc : List Access} {parent : Value} {es : List (Key × Value)} {name : String} (code : f.code = .required)
      (located : σ.Located root loc parent) (entries : σ.entries? parent = some es) (missing : Entries.get? name es = none)
      (path : f.path = .along (loc ++ [.key (.text name)]))

/-- All of some findings are about what their paths lead to. -/
def Findings.Faithful (σ : Store) (root : Value) (found : Findings) : Prop := ∀ f ∈ found, f.Faithful σ root

/-- What a property is checked at: a value of a location, or a key that the mapping of a location lacks. -/
inductive Store.Spot (σ : Store) (root : Value) : List Access → Bool → Value → Prop
  | there {loc : List Access} {v : Value} (located : σ.Located root loc v) : Spot σ root loc true v
  | absent {loc : List Access} {parent v : Value} {es : List (Key × Value)} {name : String} (located : σ.Located root loc parent)
      (entries : σ.entries? parent = some es) (missing : Entries.get? name es = none) :
      Spot σ root (loc ++ [.key (.text name)]) false v

section Locations

variable {σ : Store} {root u v w : Value} {loc : List Access}

theorem Path.along_key (loc : List Access) (k : Key) : (along loc).key k.plain = along (loc ++ [.key k]) := by
  simp [along, key, Access.step]

theorem Path.along_name (loc : List Access) (name : String) : (along loc).key name = along (loc ++ [.key (.text name)]) :=
  along_key loc (.text name)

theorem Path.along_index (loc : List Access) (i : Nat) : (along loc).index i = along (loc ++ [.index i]) := by
  simp [along, index, Access.step]

theorem Store.Stands.refl (σ : Store) (v : Value) : σ.Stands v v := .inl rfl

/-- Where conversions are off, a value counts as itself. -/
theorem Kind.convert_off {k : Kind} (h : k.convert false σ v = .ok (some w)) : w = v := by
  unfold Kind.convert at h
  split at h
  · split at h <;> cases h
    rfl
  · split at h
    · exact (finite?_eq h).1
    · cases h
    · cases h
  · split at h <;> cases h
    rfl
  · cases hitems : σ.items? v <;> rw [hitems] at h <;> cases h
    rfl
  · cases hentries : σ.entries? v <;> rw [hentries] at h <;> cases h
    rfl
  · split at h <;> cases h
    rfl
  · cases h
    rfl

theorem Kind.convert_stands {k : Kind} {convert : Bool} (h : k.convert convert σ v = .ok (some w)) : σ.Stands v w := by
  cases convert with
  | true => exact .inr ⟨k, h⟩
  | false => exact .inl (convert_off h)

/-- A container stands for itself alone. -/
theorem Store.Stands.eq_of_container (h : σ.Stands u v) (hv : v.isScalar = false) : v = u := by
  rcases h with heq | ⟨k, hk⟩
  · exact heq
  · rcases Kind.convert_eq hk with heq | hcounted
    · exact heq
    · rw [hcounted.isScalar] at hv
      cases hv

theorem Store.isScalar_of_entries {es : List (Key × Value)} (h : σ.entries? v = some es) : v.isScalar = false := by
  cases v with
  | scalar a => cases h
  | container a => rfl

theorem Store.isScalar_of_items {xs : List Value} (h : σ.items? v = some xs) : v.isScalar = false := by
  cases v with
  | scalar a => cases h
  | container a => rfl

end Locations

/-! ## Checks that leave the store -/

namespace Check

variable {α β : Type} {σ : Store} {c : Check α} {k : α → Check β} {P : α → Prop} {Q : β → Prop}

/-- From a store, a check only comes to results as `P` says, and leaves the store as it is. -/
def Stays (σ : Store) (c : Check α) (P : α → Prop) : Prop := ∀ r x s, r.store = σ → c.ending r = (.ok x, s) → s.store = σ ∧ P x

theorem Stays.pure {x : α} (h : P x) : Stays σ (Pure.pure x) P := by
  intro r y s hr hy
  cases hy
  exact ⟨hr, h⟩

theorem Stays.throw {e : Fault} : Stays σ (throw e) P := fun _ _ _ _ h => nomatch h

theorem Stays.bind (hc : c.Stays σ P) (hk : ∀ x, P x → (k x).Stays σ Q) : (c >>= k).Stays σ Q := by
  intro r y t hr h
  obtain ⟨x, s, hx, hy⟩ := ending_bind_eq_ok h
  obtain ⟨hs, hP⟩ := hc r x s hr hx
  exact hk x hP s y t hs hy

theorem Stays.store {k : Store → Check β} (h : (k σ).Stays σ Q) : (Check.store >>= k).Stays σ Q := by
  intro r y s hr hy
  rw [ending_bind_ok (ending_store r), hr] at hy
  exact h r y s hr hy

/-- A step that only computes. -/
theorem Stays.ofExcept {x : Except Fault α} (hk : ∀ a, x = .ok a → (k a).Stays σ Q) : (Check.ofExcept x >>= k).Stays σ Q := by
  intro r y s hr hy
  obtain ⟨a, t, ha, hy⟩ := ending_bind_eq_ok hy
  rw [ending_ofExcept] at ha
  cases ha
  exact hk a rfl r y s hr hy

/-- A note of what happens. -/
theorem Stays.record {e : RunEvent} {k : Unit → Check β} (h : (k ()).Stays σ Q) : (Check.record e >>= k).Stays σ Q := by
  intro r y s hr hy
  rw [ending_bind_ok (ending_record e r)] at hy
  exact h { r with events := r.events ++ [e] } y s hr hy

end Check

open Check

/-! ## Single steps -/

namespace Findings.Faithful

variable {σ : Store} {root u v : Value} {loc : List Access} {found others : Findings}

theorem nil : Findings.Faithful σ root [] := fun _ h => nomatch h

theorem append (h : Findings.Faithful σ root found) (h' : Findings.Faithful σ root others) :
    Findings.Faithful σ root (found ++ others) := fun f hf => (List.mem_append.1 hf).elim (h f) (h' f)

theorem finding {code : Code} {constraint message : String} (hcode : code ≠ .required) (h : σ.Located root loc u)
    (hv : σ.Stands u v) : Findings.Faithful σ root [finding (.along loc) code constraint message v] := by
  intro f hf
  rw [List.mem_singleton.1 hf]
  exact .there hcode h rfl hv

theorem judged {passes : Bool} {method message : String} (h : σ.Located root loc u) (hv : σ.Stands u v) :
    Findings.Faithful σ root (judged passes (.along loc) method message v) := by
  unfold ShapeCheck.judged
  cases passes with
  | true => exact .nil
  | false => exact .finding (by decide) h hv

theorem causedBy {cause : Cause} (h : σ.Located root loc u) (hv : σ.Stands u v) :
    Findings.Faithful σ root [causedBy cause (.along loc) v] := by
  intro f hf
  rw [List.mem_singleton.1 hf]
  refine .there ?_ h rfl hv
  cases cause <;> exact nofun

end Findings.Faithful

section Steps

variable {σ : Store} {root u v : Value} {loc : List Access}

theorem noMatch_locates {attempts : List Findings} (h : ∀ found ∈ attempts, Findings.Faithful σ root found)
    (hv : σ.Located root loc v) : Findings.Faithful σ root (noMatch (.along loc) v attempts) := by
  unfold noMatch
  split
  · exact h _ (List.mem_singleton_self _)
  · exact .finding (by decide) hv (.refl σ v)

/-- The items of an array from an index on, each at its location. -/
theorem eachItem_locates {check : Path → Value → Check Findings}
    (h : ∀ loc w, σ.Located root loc w → (check (.along loc) w).Stays σ (Findings.Faithful σ root)) :
    ∀ (items : List Value) (i : Nat), (∀ j w, items[j]? = some w → σ.Located root (loc ++ [.index (i + j)]) w) →
      (eachItem (.along loc) check i items).Stays σ (Findings.Faithful σ root)
  | [], _, _ => .pure .nil
  | item :: rest, i, hitems => by
    have hitem : σ.Located root (loc ++ [.index i]) item := hitems 0 item rfl
    have hrest : ∀ j w, rest[j]? = some w → σ.Located root (loc ++ [.index (i + 1 + j)]) w := by
      intro j w hw
      have hlater := hitems (j + 1) w hw
      rwa [show i + (j + 1) = i + 1 + j by omega] at hlater
    unfold eachItem
    rw [Path.along_index]
    exact (h _ item hitem).bind fun found hfound => (eachItem_locates h rest (i + 1) hrest).bind fun others hothers =>
      .pure (hfound.append hothers)

/-- The items of a value are at their indices. -/
theorem Store.Located.items (h : σ.Located root loc u) (hv : σ.Stands u v) :
    ∀ j w, ((σ.items? v).getD [])[j]? = some w → σ.Located root (loc ++ [.index (0 + j)]) w := by
  intro j w hw
  rw [Nat.zero_add]
  cases hitems : σ.items? v with
  | none =>
    rw [hitems] at hw
    cases hw
  | some xs =>
    rw [hitems] at hw
    obtain rfl := hv.eq_of_container (Store.isScalar_of_items hitems)
    exact h.index hitems hw

/-- Where nothing is stripped, keys that are not declared are at their locations. -/
theorem strays_locates {leniency : Leniency} (hstrip : leniency.stripExtraKeys = false) (names : List String)
    (h : σ.Located root loc v) : (strays leniency names (.along loc) v).Stays σ (Findings.Faithful σ root) := by
  have hstray : ∀ {found}, strayFindings leniency names (.along loc) ((σ.entries? v).getD []) = .ok found →
      Findings.Faithful σ root found := by
    intro found hfound f hf
    unfold strayFindings at hfound
    dsimp only at hfound
    split at hfound
    · cases hfound
      cases hf
    · split at hfound
      · cases hfound
      · cases hfound
        obtain ⟨⟨k, w⟩, hentry, rfl⟩ := List.mem_map.1 hf
        replace hentry := (List.mem_filter.1 hentry).1
        cases hes : σ.entries? v with
        | none =>
          rw [hes] at hentry
          cases hentry
        | some es =>
          rw [hes] at hentry
          exact .there nofun (h.key hes hentry) (Path.along_key loc k) (.refl σ w)
  unfold strays
  refine .store ?_
  dsimp only
  rw [hstrip]
  intro r found s hr hends
  rw [ending_ofExcept] at hends
  obtain ⟨hfound, hs⟩ := Prod.mk.inj hends
  exact ⟨hs ▸ hr, hstray hfound⟩

/-- What is found about the keys beside a value is about that value. -/
theorem peerFindings_locates {c : PropertyChecker} {parent : Option Value} {found : Findings}
    (h : peerFindings c (.along loc) σ parent v = .ok found) (hv : σ.Located root loc v) : Findings.Faithful σ root found := by
  unfold peerFindings at h
  cases parent with
  | none =>
    cases h
    exact .nil
  | some p =>
    obtain ⟨absent, _, h⟩ := Except.bind_eq_ok.1 h
    obtain ⟨there, _, h⟩ := Except.bind_eq_ok.1 h
    cases h
    intro f hf
    rcases List.mem_append.1 hf with hf | hf
    · obtain ⟨_, _, rfl⟩ := List.mem_map.1 hf
      exact .there nofun hv rfl (.refl σ v)
    · obtain ⟨_, _, rfl⟩ := List.mem_map.1 hf
      exact .there nofun hv rfl (.refl σ v)

/-- What is decided early is about the value, or about the key that is missing. -/
theorem PropertyChecker.early_locates {c : PropertyChecker} {convert present : Bool} {found : Findings} {w : Value}
    (h : c.early convert (.along loc) present σ v = .ok (.done found w)) (hspot : σ.Spot root loc present v) :
    Findings.Faithful σ root found := by
  unfold early at h
  cases hspot with
  | absent hlocated hentries hmissing =>
    cases h
    split
    · intro f hf
      rw [List.mem_singleton.1 hf]
      exact .absent rfl hlocated hentries hmissing rfl
    · exact .nil
  | there hv =>
    rw [if_neg (by decide)] at h
    split at h
    · next hnull =>
      cases h
      split
      · exact .nil
      · exact .finding (by decide) hv (.inl hnull.symm)
    obtain ⟨counted, _, h⟩ := Except.bind_eq_ok.1 h
    dsimp only at h
    split at h
    · cases h
    split at h
    · cases h
      exact .nil
    split at h
    · obtain ⟨_, _, h⟩ := Except.bind_eq_ok.1 h
      cases h
      exact .finding (by decide) hv (.refl σ v)
    split at h
    · obtain ⟨_, _, h⟩ := Except.bind_eq_ok.1 h
      cases h
      exact .finding (by decide) hv (.refl σ v)
    split at h
    · cases h
      exact .finding (by decide) hv (.refl σ v)
    · split at h
      · cases h
        exact .finding (by decide) hv (.refl σ v)
      · cases h

/-- Only a value that is there goes on to the rules, as it is or as it counts. -/
theorem PropertyChecker.early_goOn_spot {c : PropertyChecker} {convert present : Bool} {w : Value}
    (h : c.early convert (.along loc) present σ v = .ok (.goOn w)) (hspot : σ.Spot root loc present v) :
    σ.Located root loc v ∧ σ.Stands v w := by
  have hstands := Kind.convert_stands (PropertyChecker.early_goOn h)
  cases hspot with
  | there hv => exact ⟨hv, hstands⟩
  | absent =>
    unfold early at h
    cases h

/-- What stands under a name in a mapping, or the lack of it, is at its location. -/
theorem Store.Located.spot {es : List (Key × Value)} (h : σ.Located root loc v) (hes : σ.entries? v = some es) (name : String) :
    σ.Spot root (loc ++ [.key (.text name)]) (Entries.get? name es).isSome ((Entries.get? name es).getD default) := by
  cases hget : Entries.get? name es with
  | none => exact .absent h hes hget
  | some w => exact .there (h.key hes (Entries.mem_of_get? hget))

end Steps

/-! ## Checkers -/

/-- The types in place of a checker neither strip keys nor save conversions. -/
def PropertyChecker.Keeps (c : PropertyChecker) : Prop := ∀ u, .inlineType u ∈ c.rules → u.Keeps

/-- What is found behind a reference is about what its paths lead to. -/
def Follow.Finds (σ : Store) (root : Value) (f : Follow) (ref : TypeRef) : Prop :=
  ∀ ctx loc u v, σ.Located root loc u → σ.Stands u v → (f ctx (.along loc) ref v).Stays σ (Findings.Faithful σ root)

/-- Where conversions are not saved, saving does nothing. -/
theorem saveConversion_stays {σ : Store} {leniency : Leniency} (h : leniency.saveConversions = false) (v : Value) (name : String)
    (converted : Value) : (saveConversion leniency v name converted).Stays σ fun _ => True := by
  unfold saveConversion
  rw [h]
  exact .pure trivial

section Checkers

variable {σ : Store} {root : Value} {f : Follow}

mutual
theorem Rule.run_locates : ∀ (x : Rule), x.Every PropertyChecker.Keeps → (∀ t, x = .inlineType t → t.Keeps) →
    (∀ ref ∈ x.references, f.Finds σ root ref) → ∀ {ctx : Context} {loc : List Access} {u v : Value}, σ.Located root loc u →
    σ.Stands u v → (x.run f ctx (.along loc) v).Stays σ (Findings.Faithful σ root)
  | .length .., _, _, _, _, _, _, _, hu, hv => by
    rw [Rule.run]
    exact .store (.ofExcept fun _ _ => .pure (.judged hu hv))
  | .pattern source program, _, _, _, _, _, _, v, hu, hv => by
    rw [Rule.run]
    cases program.search (textOf v) with
    | found => exact .pure .nil
    | missing => exact .pure (.judged hu hv)
  | .alphanumeric _, _, _, _, _, _, _, _, hu, hv | .email, _, _, _, _, _, _, _, hu, hv | .date, _, _, _, _, _, _, _, hu, hv
  | .whole, _, _, _, _, _, _, _, hu, hv | .fraction, _, _, _, _, _, _, _, hu, hv => by
    rw [Rule.run]
    exact .pure (.judged hu hv)
  | .atLeast _, _, _, _, _, _, _, _, hu, hv | .atMost _, _, _, _, _, _, _, _, hu, hv => by
    rw [Rule.run]
    exact .ofExcept fun _ _ => .pure (.judged hu hv)
  | .includes elements, hkeeps, _, hrefs, _, _, _, _, hu, hv => by
    rw [Rule.run]
    refine .store (eachItem_locates (fun loc w hw => ?_) _ 0 (hu.items hv))
    rw [Rule.references] at hrefs
    refine (PropertyChecker.attempts_locates elements (Rule.every_includes.1 hkeeps) hrefs hw).bind fun attempts hattempts =>
      .pure ?_
    split
    · exact .nil
    · exact noMatch_locates hattempts hw
  | .excludes elements, hkeeps, _, hrefs, _, _, _, _, hu, hv => by
    rw [Rule.run]
    refine .store (eachItem_locates (fun loc w hw => ?_) _ 0 (hu.items hv))
    rw [Rule.references] at hrefs
    refine (PropertyChecker.someAccepts_stays elements (Rule.every_excludes.1 hkeeps) hrefs hw).bind fun matched _ => .pure ?_
    split
    · exact .finding (by decide) hw (.refl σ w)
    · exact .nil
  | .reference ref, _, _, hrefs, ctx, loc, u, v, hu, hv => by
    rw [Rule.references] at hrefs
    rw [Rule.run]
    exact hrefs ref (List.mem_singleton_self ref) ctx loc u v hu hv
  | .inlineType ⟨properties, leniency⟩, hkeeps, hin, hrefs, _, _, _, _, hu, hv => by
    rw [Rule.references] at hrefs
    rw [Rule.run]
    exact TypeChecker.collect_locates ⟨properties, leniency⟩ (Rule.every_inlineType.1 hkeeps) (hin _ rfl) hrefs hu hv
theorem Rule.runAll_locates : ∀ (rules : List Rule), Rule.EveryOfAll PropertyChecker.Keeps rules →
    (∀ t, .inlineType t ∈ rules → t.Keeps) → (∀ ref ∈ Rule.referencesOfAll rules, f.Finds σ root ref) →
    ∀ {ctx : Context} {loc : List Access} {u v : Value}, σ.Located root loc u → σ.Stands u v →
      (Rule.runAll f ctx (.along loc) rules v).Stays σ (Findings.Faithful σ root)
  | [], _, _, _, _, _, _, _, _, _ => by
    rw [Rule.runAll]
    exact .pure .nil
  | x :: rest, hkeeps, hin, hrefs, _, _, _, _, hu, hv => by
    obtain ⟨hx, hrest⟩ := List.forall_mem_cons.1 (Rule.everyOfAll_iff.1 hkeeps)
    rw [Rule.referencesOfAll, List.forall_mem_append] at hrefs
    rw [Rule.runAll]
    refine (Rule.run_locates x hx (fun t ht => hin t (ht ▸ List.mem_cons_self)) hrefs.1 hu hv).bind fun found hfound => ?_
    refine (Rule.runAll_locates rest (Rule.everyOfAll_iff.2 hrest) (fun t ht => hin t (List.mem_cons_of_mem _ ht)) hrefs.2
      hu hv).bind fun others hothers => ?_
    exact .pure (hfound.append hothers)
/-- What is found about a property or an element is about it or about a part of it. -/
theorem PropertyChecker.collect_locates : ∀ (c : PropertyChecker), c.Every PropertyChecker.Keeps →
    (∀ ref ∈ c.references, f.Finds σ root ref) → ∀ {ctx : Context} {loc : List Access} {present : Bool} {parent : Option Value}
      {v : Value}, σ.Spot root loc present v →
      (c.collect f ctx (.along loc) present parent v).Stays σ fun x => Findings.Faithful σ root x.1
  | ⟨kind, required, nullOk, emptyOk, onlyValid, allowed, denied, peersWith, peersWithout, rules⟩, hkeeps, hrefs, _, _, _, _, _,
    hspot => by
    rw [PropertyChecker.references] at hrefs
    obtain ⟨hself, hrules⟩ := PropertyChecker.every_iff.1 hkeeps
    rw [PropertyChecker.collect]
    refine .store (.ofExcept fun early hearly => ?_)
    cases early with
    | done found w => exact .pure (PropertyChecker.early_locates hearly hspot)
    | goOn w =>
      obtain ⟨hv, hw⟩ := PropertyChecker.early_goOn_spot hearly hspot
      refine .store (.ofExcept fun peers hpeers => ?_)
      refine (Rule.runAll_locates rules (Rule.everyOfAll_iff.2 hrules) hself hrefs hv hw).bind fun found hfound => ?_
      exact .pure ((peerFindings_locates hpeers hv).append hfound)
theorem PropertyChecker.attempts_locates : ∀ (cs : List PropertyChecker), PropertyChecker.EveryOfAll PropertyChecker.Keeps cs →
    (∀ ref ∈ PropertyChecker.referencesOfAll cs, f.Finds σ root ref) → ∀ {ctx : Context} {loc : List Access} {v : Value},
      σ.Located root loc v →
      (PropertyChecker.attempts f ctx (.along loc) cs v).Stays σ fun attempts => ∀ found ∈ attempts, Findings.Faithful σ root found
  | [], _, _, _, _, _, _ => by
    rw [PropertyChecker.attempts]
    exact .pure fun _ h => nomatch h
  | c :: rest, hkeeps, hrefs, _, _, _, hv => by
    obtain ⟨hc, hrest⟩ := List.forall_mem_cons.1 (PropertyChecker.everyOfAll_iff.1 hkeeps)
    rw [PropertyChecker.referencesOfAll, List.forall_mem_append] at hrefs
    rw [PropertyChecker.attempts]
    refine (PropertyChecker.collect_locates c hc hrefs.1 (.there hv)).bind fun x hfound => ?_
    refine (PropertyChecker.attempts_locates rest (PropertyChecker.everyOfAll_iff.2 hrest) hrefs.2 hv).bind fun others hothers => ?_
    exact .pure (List.forall_mem_cons.2 ⟨hfound, hothers⟩)
theorem PropertyChecker.someAccepts_stays : ∀ (cs : List PropertyChecker), PropertyChecker.EveryOfAll PropertyChecker.Keeps cs →
    (∀ ref ∈ PropertyChecker.referencesOfAll cs, f.Finds σ root ref) → ∀ {ctx : Context} {loc : List Access} {v : Value},
      σ.Located root loc v → (PropertyChecker.someAccepts f ctx (.along loc) cs v).Stays σ fun _ => True
  | [], _, _, _, _, _, _ => by
    rw [PropertyChecker.someAccepts]
    exact .pure trivial
  | c :: rest, hkeeps, hrefs, _, _, _, hv => by
    obtain ⟨hc, hrest⟩ := List.forall_mem_cons.1 (PropertyChecker.everyOfAll_iff.1 hkeeps)
    rw [PropertyChecker.referencesOfAll, List.forall_mem_append] at hrefs
    rw [PropertyChecker.someAccepts]
    refine (PropertyChecker.collect_locates c hc hrefs.1 (.there hv)).bind fun x _ => ?_
    dsimp only
    split
    · exact .pure trivial
    · exact PropertyChecker.someAccepts_stays rest (PropertyChecker.everyOfAll_iff.2 hrest) hrefs.2 hv
/-- What is found at a value that a type is asked of is about it or about a part of it. -/
theorem TypeChecker.collect_locates : ∀ (t : TypeChecker), t.Every PropertyChecker.Keeps → t.Keeps →
    (∀ ref ∈ t.references, f.Finds σ root ref) → ∀ {ctx : Context} {loc : List Access} {u v : Value}, σ.Located root loc u →
    σ.Stands u v → (t.collect f ctx (.along loc) v).Stays σ (Findings.Faithful σ root)
  | ⟨properties, leniency⟩, hkeeps, hself, hrefs, _, loc, u, v, hu, hv => by
    rw [TypeChecker.collect]
    refine .store ?_
    cases hes : σ.entries? v with
    | none => exact .pure (.finding (by decide) hu hv)
    | some es =>
      obtain rfl := hv.eq_of_container (Store.isScalar_of_entries hes)
      refine (strays_locates hself.1 _ hu).bind fun extra hextra => ?_
      refine (PropertyChecker.collectFields_locates properties hkeeps hself.2 hrefs hu hes).bind fun found hfound => ?_
      exact .pure (hextra.append hfound)
theorem PropertyChecker.collectFields_locates : ∀ (ps : List (String × PropertyChecker)),
    PropertyChecker.EveryOfFields PropertyChecker.Keeps ps → ∀ {leniency : Leniency}, leniency.saveConversions = false →
    (∀ ref ∈ PropertyChecker.referencesOfFields ps, f.Finds σ root ref) → ∀ {ctx : Context} {loc : List Access} {v : Value}
      {es : List (Key × Value)}, σ.Located root loc v → σ.entries? v = some es →
      (PropertyChecker.collectFields f ctx (.along loc) leniency v ps).Stays σ (Findings.Faithful σ root)
  | [], _, _, _, _, _, _, _, _, _, _ => by
    rw [PropertyChecker.collectFields]
    exact .pure .nil
  | (name, c) :: rest, hkeeps, leniency, hsave, hrefs, _, loc, v, es, hv, hes => by
    obtain ⟨hc, hrest⟩ := List.forall_mem_cons.1 (PropertyChecker.everyOfFields_iff.1 hkeeps)
    rw [PropertyChecker.referencesOfFields, List.forall_mem_append] at hrefs
    have hlater {ctx : Context} : (PropertyChecker.collectFields f ctx (.along loc) leniency v rest).Stays σ
        (Findings.Faithful σ root) :=
      PropertyChecker.collectFields_locates rest (PropertyChecker.everyOfFields_iff.2 hrest) hsave hrefs.2 hv hes
    rw [PropertyChecker.collectFields]
    refine .store ?_
    rw [hes, Path.along_name]
    refine (PropertyChecker.collect_locates c hc hrefs.1 (hv.spot hes name)).bind fun x hfound => ?_
    dsimp only
    split
    · exact (saveConversion_stays hsave v name x.2).bind fun _ _ => hlater.bind fun others hothers =>
        .pure (hfound.append hothers)
    · exact hlater.bind fun others hothers => .pure (hfound.append hothers)
end

end Checkers

/-! ## References -/

section References

variable {σ : Store} {root : Value} {resolve : Resolver} {t : TypeChecker}

/-- All checkers of a type keep the store if the types that it leads to do. -/
theorem TypeChecker.every_keeps (h : ∀ u, t.Reaches resolve u → u.Keeps) : t.Every PropertyChecker.Keeps :=
  fun _ hc _ hu => h _ (TypeChecker.Reaches.refl.inside hc hu)

/-- What is found behind a reference is about what its paths lead to, if the types that it leads to keep the store. The induction
is on the budget. -/
theorem follow_finds (n : Nat) : ∀ ref, (∀ t, resolve ref = some t → ∀ u, t.Reaches resolve u → u.Keeps) →
    (follow resolve n).Finds σ root ref := by
  have hcaused {cause : Cause} {path : List Access} {u v : Value} {e : RunEvent} (hu : σ.Located root path u) (hv : σ.Stands u v) :
      (Check.record e >>= fun _ => pure [causedBy cause (.along path) v]).Stays σ (Findings.Faithful σ root) :=
    .record (.pure (.causedBy hu hv))
  induction n with
  | zero =>
    intro ref h ctx loc u v hu hv
    unfold follow
    dsimp only
    cases resolve ref with
    | none => exact hcaused hu hv
    | some t =>
      dsimp only
      split <;> exact hcaused hu hv
  | succ n ih =>
    intro ref h ctx loc u v hu hv
    unfold follow
    dsimp only
    cases ht : resolve ref with
    | none => exact hcaused hu hv
    | some t =>
      dsimp only
      split
      · exact hcaused hu hv
      · have hreached := h t ht
        have hrefs : ∀ ref ∈ t.references, (follow resolve n).Finds σ root ref := fun ref href =>
          ih ref fun w hw x hx => hreached x ((TypeChecker.Reaches.refl.named href hw).trans hx)
        refine .record ((t.collect_locates (TypeChecker.every_keeps hreached) (hreached t .refl) hrefs hu hv).bind
          fun found hfound => ?_)
        exact .record (.pure hfound)

/-- Where no type that is reached strips keys or saves conversions, each violation says where to find what it is about: its path is
that of a location which leads from the candidate to its value, as it is or as it counts, or to a mapping that lacks the last key.
The candidate stays as it is, so its locations are the same before and after the run. -/
theorem TypeChecker.validate_faithful (t : TypeChecker) (resolve : Resolver) (maxDepth : Int) (v : Value) (σ : Store)
    (h : ∀ u, t.Reaches resolve u → u.Keeps) {found : Findings} (hfound : (t.validate resolve maxDepth v σ).result = .ok found) :
    (t.validate resolve maxDepth v σ).run.store = σ ∧ ∀ f ∈ found, f.Faithful σ v := by
  have hrefs : ∀ ref ∈ t.references, (follow resolve maxDepth.toNat).Finds σ v ref := fun ref href =>
    follow_finds _ ref fun w hw u hu => h u ((TypeChecker.Reaches.refl.named href hw).trans hu)
  have hcollect : (t.collect (follow resolve maxDepth.toNat) { maxDepth := maxDepth } (.along []) v).Stays σ
      (Findings.Faithful σ v) := t.collect_locates (TypeChecker.every_keeps h) (h t .refl) hrefs .here (.refl σ v)
  exact hcollect _ found _ rfl (Prod.ext hfound rfl)

end References

/-! A chain of links with one list of tags, whose last link has no next one. -/

def anyLink : TypeRef := ⟨"ns://links", "0.1.0", "Link", by decide, by decide, by decide⟩

def linkChecker : TypeChecker where
  properties := [("next", { PropertyChecker.ofKind .object with required := true, rules := [.reference anyLink] }),
    ("tags", { PropertyChecker.ofKind .array with rules := [.includes [.ofKind .number]] })]
  leniency := {}

def links : Store :=
  ⟨#[.mapping [(.text "next", .container 1), (.text "tags", .container 2)], .mapping [(.text "tags", .container 2)],
    .list [.scalar (.text "1"), .scalar (.text "x")]]⟩

/-- Links lead to links only. -/
theorem linkChecker_reaches {u : TypeChecker} (h : linkChecker.Reaches (fun _ => some linkChecker) u) : u = linkChecker :=
  h.eq_self (fun _ _ hw => (Option.some.inj hw).symm) (by decide)

theorem links_faithful :
    (∀ u, linkChecker.Reaches (fun _ => some linkChecker) u → u.Keeps) ∧
    ∃ found, (linkChecker.validate (fun _ => some linkChecker) 5 (.container 0) links).result = .ok found ∧
      found.map (fun f => f.path.text) = ["next.next", "next.tags[1]", "tags[1]"] ∧
      (linkChecker.validate (fun _ => some linkChecker) 5 (.container 0) links).run.store = links ∧
      ∀ f ∈ found, f.Faithful links (.container 0) := by
  have hkeeps : ∀ u, linkChecker.Reaches (fun _ => some linkChecker) u → u.Keeps :=
    fun u hu => linkChecker_reaches hu ▸ ⟨rfl, rfl⟩
  have hpaths : (linkChecker.validate (fun _ => some linkChecker) 5 (.container 0) links).result.map
      (List.map fun f => f.path.text) = .ok ["next.next", "next.tags[1]", "tags[1]"] := by decide +kernel
  cases hfound : (linkChecker.validate (fun _ => some linkChecker) 5 (.container 0) links).result with
  | error e =>
    rw [hfound] at hpaths
    cases hpaths
  | ok found =>
    rw [hfound] at hpaths
    exact ⟨hkeeps, found, rfl, Except.ok.inj hpaths, TypeChecker.validate_faithful linkChecker _ 5 _ links hkeeps hfound⟩

end ShapeCheck
