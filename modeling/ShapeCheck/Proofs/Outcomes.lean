import ShapeCheck.Proofs.Probes
import ShapeCheck.Workspace.Basic

/-!
# Outcomes of a validation

`Work.Documented` are the two outcomes that a validation is meant to have: the candidate conforms, or it does not and there
is a violation to show for it. `Work.validate_ending` says that a validation ends as the run of its type does and leaves its
store, and `Work.documented_or_escape` that it has one of the two outcomes or ends in a fault for a known cause. On a
`Store.Sound` candidate, for types whose constants can be written, there is no fault (`ObjectType.validate_no_fault`).
-/

namespace ShapeCheck

open Relation

theorem Except.isOk_iff {ε : Type} {x : Except ε Unit} : x.isOk = true ↔ x = .ok () := by
  cases x with
  | ok => exact ⟨fun _ => rfl, fun _ => rfl⟩
  | error e => exact ⟨nofun, nofun⟩

namespace Work

variable {α β : Type}

/-- What an operation gives in a workspace, and the workspace that it leaves. -/
def ending (op : Work α) (w : Workspace) : Except Failure α × Workspace := op.run.run w

/-- An operation and what depends on its result. -/
theorem ending_bind (op : Work α) (k : α → Work β) (w : Workspace) :
    (op >>= k).ending w =
      match op.ending w with
      | (.ok a, w') => (k a).ending w'
      | (.error e, w') => (.error e, w') := by
  rw [ending, run_bind, ending]
  rcases op.run.run w with ⟨e | a, w'⟩ <;> rfl

theorem ending_bind_ok {op : Work α} {k : α → Work β} {a : α} {w w' : Workspace} (h : op.ending w = (.ok a, w')) :
    (op >>= k).ending w = (k a).ending w' := by
  rw [ending_bind, h]

theorem eq_ok_of_toOption {ending : Except Failure α × Workspace} {a : α} (h : ending.1.toOption = some a) :
    ending = (.ok a, ending.2) := by
  obtain ⟨_ | b, w⟩ := ending <;> cases h
  rfl

theorem ending_get (w : Workspace) : (get : Work Workspace).ending w = (.ok w, w) := rfl

/-- A workspace has the store and the settings of another one. -/
structure Beside (w w' : Workspace) : Prop where
  store : w'.store = w.store
  settings : w'.settings = w.settings

theorem Beside.trans {w w' w'' : Workspace} (h : Beside w w') (h' : Beside w' w'') : Beside w w'' :=
  ⟨h'.store.trans h.store, h'.settings.trans h.settings⟩

theorem tell_ending (n : Notice) (w : Workspace) : ∃ w', (tell n).ending w = (.ok (), w') ∧ Beside w w' := ⟨_, rfl, rfl, rfl⟩

theorem trace_ending (s : Span) (w : Workspace) : ∃ w', (trace s).ending w = (.ok (), w') ∧ Beside w w' := ⟨_, rfl, rfl, rfl⟩

theorem tellAll_ending (ns : List Notice) : ∀ w, ∃ w', (tellAll ns).ending w = (.ok (), w') ∧ Beside w w' := by
  induction ns with
  | nil => exact fun w => ⟨w, rfl, rfl, rfl⟩
  | cons n rest ih =>
      intro w
      obtain ⟨w', hw', hbeside⟩ := tell_ending n w
      obtain ⟨w'', hw'', hbeside'⟩ := ih w'
      refine ⟨w'', ?_, hbeside.trans hbeside'⟩
      change ((tell n >>= fun _ => tellAll rest) : Work Unit).ending w = _
      rw [ending_bind_ok hw', hw'']

/-- The bound of a validation: the given one, or failing that the one of the settings. -/
def bound? (maxDepth : Option Int) (w : Workspace) : Option Int := maxDepth.or (w.settings.map Settings.maxDepth)

theorem depthBound_ending {maxDepth : Option Int} {w : Workspace} {n : Int} (h : bound? maxDepth w = some n) :
    (depthBound maxDepth).ending w = (.ok n, w) := by
  cases maxDepth with
  | some m =>
      obtain rfl := Option.some.inj h
      rfl
  | none =>
      obtain ⟨s, hs, rfl⟩ := Option.map_eq_some_iff.1 (show w.settings.map Settings.maxDepth = some n from h)
      have hsettings : (settings []).ending w = (.ok s, w) := by
        have hget : (get : Work Workspace).ending w = (.ok w, w) := rfl
        unfold settings
        rw [ending_bind_ok hget, hs]
        rfl
      exact ending_bind_ok hsettings

theorem conclude_ending (t : ObjectType) (σ : Store) (found : Findings) (w : Workspace) :
    ((conclude t σ found).ending w).1 =
        (if found = [] then .ok () else .error (.nonconforming t.name (found.map (Violation.map (σ.treeWith σ.trees))))) ∧
      Beside w ((conclude t σ found).ending w).2 := by
  obtain ⟨w1, hw1, hbeside⟩ := tell_ending (if found.isEmpty then .passed t.name
    else .failed t.name (found.map fun f => f.path.text)) w
  obtain ⟨w2, hw2, hbeside'⟩ := trace_ending (.validated t.name found) w1
  unfold conclude
  dsimp only
  rw [ending_bind_ok hw1, ending_bind_ok hw2]
  cases found with
  | nil => exact ⟨rfl, hbeside.trans hbeside'⟩
  | cons f rest =>
      have hrest : Beside w w2 := hbeside.trans hbeside'
      exact ⟨rfl, hrest.store, hrest.settings⟩

section Ending

variable {t : ObjectType} {resolve : Resolver} {maxDepth : Option Int} {v : Value} {w : Workspace} {n : Int}

theorem validate_ending (hn : bound? maxDepth w = some n) :
    ((validate t resolve maxDepth v).ending w).1 =
        (match t.checker.validate resolve n v w.store with
          | ⟨.error e, _⟩ => .error (.run e)
          | ⟨.ok found, r⟩ => if found = [] then .ok ()
              else .error (.nonconforming t.name (found.map (Violation.map (r.store.treeWith r.store.trees))))) ∧
      Beside { w with store := (t.checker.validate resolve n v w.store).run.store } ((validate t resolve maxDepth v).ending w).2 := by
  have hget : (get : Work Workspace).ending w = (.ok w, w) := rfl
  unfold validate
  rw [ending_bind_ok (depthBound_ending hn), ending_bind_ok hget]
  rcases t.checker.validate resolve n v w.store with ⟨result, r⟩
  dsimp only
  have hmodify : (modify fun w => { w with store := r.store } : Work Unit).ending w = (.ok (), { w with store := r.store }) := rfl
  rw [ending_bind_ok hmodify]
  generalize List.filterMap _ r.visits = notices
  obtain ⟨w1, hw1, hbeside⟩ := tellAll_ending notices { w with store := r.store }
  rw [ending_bind_ok hw1]
  cases result with
  | error e => exact ⟨rfl, hbeside⟩
  | ok found =>
      obtain ⟨hresult, hbeside'⟩ := conclude_ending t r.store found w1
      exact ⟨hresult, hbeside.trans hbeside'⟩

/-- A validation ends as the run of its type does: with its fault, or with what it found. -/
theorem validate_result (hn : bound? maxDepth w = some n) :
    ((validate t resolve maxDepth v).ending w).1 =
      match t.checker.validate resolve n v w.store with
      | ⟨.error e, _⟩ => .error (.run e)
      | ⟨.ok found, r⟩ => if found = [] then .ok ()
          else .error (.nonconforming t.name (found.map (Violation.map (r.store.treeWith r.store.trees)))) :=
  (validate_ending hn).1

/-- A validation passes exactly if the run of its type ends in no fault and finds nothing. -/
theorem validate_ok_iff (hn : bound? maxDepth w = some n) :
    ((validate t resolve maxDepth v).ending w).1 = .ok () ↔ (t.checker.validate resolve n v w.store).result = .ok [] := by
  rw [validate_result hn]
  rcases t.checker.validate resolve n v w.store with ⟨e | found, r⟩
  · exact ⟨nofun, nofun⟩
  · cases found with
    | nil => exact ⟨fun _ => rfl, fun _ => rfl⟩
    | cons f rest => exact ⟨nofun, nofun⟩

/-- A validation leaves the store that the run of its type leaves, whatever it ends with. -/
theorem validate_store (hn : bound? maxDepth w = some n) :
    ((validate t resolve maxDepth v).ending w).2.store = (t.checker.validate resolve n v w.store).run.store :=
  (validate_ending hn).2.store

/-- A validation leaves the settings as they are, and so the bound. -/
theorem validate_bound (hn : bound? maxDepth w = some n) : bound? maxDepth ((validate t resolve maxDepth v).ending w).2 = some n := by
  have hsettings : ((validate t resolve maxDepth v).ending w).2.settings = w.settings := (validate_ending hn).2.settings
  unfold bound? at hn ⊢
  rw [hsettings, hn]

end Ending

/-- The two outcomes that a validation is meant to have: the candidate conforms, or some violations say why not. -/
def Documented (t : ObjectType) (resolve : Resolver) (maxDepth : Option Int) (v : Value) (w : Workspace) : Prop :=
  ((validate t resolve maxDepth v).ending w).1 = .ok () ∨
    ∃ violations, violations ≠ [] ∧ ((validate t resolve maxDepth v).ending w).1 = .error (.nonconforming t.name violations)

/-- A validation has one of its two outcomes exactly if the run of its type ends in no fault. -/
theorem documented_iff {t : ObjectType} {resolve : Resolver} {maxDepth : Option Int} {v : Value} {w : Workspace} {n : Int}
    (hn : bound? maxDepth w = some n) :
    Documented t resolve maxDepth v w ↔ ∀ e, (t.checker.validate resolve n v w.store).result ≠ .error e := by
  unfold Documented
  rw [validate_result hn]
  rcases t.checker.validate resolve n v w.store with ⟨e | found, r⟩
  · refine ⟨fun h => ?_, fun h => absurd rfl (h e)⟩
    rcases h with h | ⟨_, _, h⟩ <;> cases h
  · refine ⟨fun _ e h => (nomatch h), fun _ => ?_⟩
    dsimp only
    by_cases hfound : found = []
    · rw [if_pos hfound]
      exact .inl rfl
    · rw [if_neg hfound]
      exact .inr ⟨_, fun h => hfound (List.map_eq_nil_iff.1 h), rfl⟩

end Work

/-- Types that give no cause for a fault: their constants can be written. -/
def Quiet (types : TypeChecker → Prop) : Prop := ∀ e, ¬ AnyLoud types e

/-- No key is taken away before a conversion is saved under it: no type saves conversions while one strips keys, or no
container that a candidate leads to leads back to itself. -/
def KeepsKeys (types : TypeChecker → Prop) (σ : Store) (v : Value) : Prop :=
  SavesAndStrips types → ∀ a, ReflTransGen σ.Leads v (.container a) → ¬ TransGen σ.Leads (.container a) (.container a)

/-- Every comparison of a constant with a part of a candidate has an end: no constant contains itself, or nothing in the
candidate does. -/
def Comparable (types : TypeChecker → Prop) (σ : Store) (v : Value) : Prop := AnyKnotted types → σ.Acyclic v

/-- A run on a sound candidate ends in no fault. -/
theorem ObjectType.validate_no_fault {t : ObjectType} {registry : TypeRef → Option ObjectType} (ht : t.Built (· = .standard))
    (hregistry : ∀ ref u, registry ref = some u → u.Built (· = .standard)) (hquiet : Quiet (t.Together registry)) {σ : Store}
    {v : Value} (hkeeps : KeepsKeys (t.Together registry) σ v) (hcompare : Comparable (t.Together registry) σ v)
    (hσ : σ.Sound v) {maxDepth : Int} (e : Fault) :
    (t.checker.validate (fun ref => (registry ref).map ObjectType.checker) maxDepth v σ).result ≠ .error e := by
  intro h
  cases ObjectType.validate_escape ht hregistry h with
  | oversized reached large => exact hσ.numbers _ reached large
  | longKey reached entries entry long =>
      rw [hσ.keys _ _ reached entries _ entry] at long
      cases long
  | loud checker => exact hquiet e checker
  | lostKey reached inside flags => exact hkeeps flags _ reached inside
  | endless constants inside => exact inside (hcompare constants)

/-- What is no mapping is found to be none. -/
theorem TypeChecker.validate_no_mapping (t : TypeChecker) {resolve : Resolver} {σ : Store} {v : Value} {maxDepth : Int}
    (hv : ¬ σ.isMapping v = true) (e : Fault) : (t.validate resolve maxDepth v σ).result ≠ .error e := by
  obtain ⟨properties, leniency⟩ := t
  have hnone : (σ.entries? v).isNone = true := by
    unfold Store.isMapping at hv
    simpa using hv
  unfold validate
  rw [Outcome.ofCheck_eq, collect, Check.ending_bind_ok (Check.ending_store _), if_pos hnone]
  nofun

/-- The types of a probe give no cause for a fault. -/
theorem Probe.Stops.quiet {σ : Store} {v : Value} {types : List ObjectType} {t : ObjectType} (h : Probe.Stops σ v types t) :
    Quiet (t.Together (Probe.registry types)) ∧ KeepsKeys (t.Together (Probe.registry types)) σ v ∧
      Comparable (t.Together (Probe.registry types)) σ v := by
  have hknown : ∀ u, t.Together (Probe.registry types) u → u.Known Probe.Calm Probe.Still := by
    rintro u (rfl | ⟨ref, w, hw, rfl⟩)
    · exact (h.built t (List.mem_cons_self ..)).2
    · exact (h.built w (List.mem_cons_of_mem _ (Probe.registry_mem hw))).2
  refine ⟨?_, ?_, ?_⟩
  · rintro e ⟨u, hu, c, hc, hloud⟩
    exact ((hknown u hu).every c hc).loud e hloud
  · rintro ⟨⟨u, l, hu, hl, hsave⟩, _⟩
    have hstill : Probe.Still l := by
      cases hl with
      | own => exact (hknown u hu).leniency
      | inside checker rule => exact absurd rule (((hknown u hu).every _ checker).inlineType _)
    rw [hstill.save] at hsave
    cases hsave
  · rintro ⟨u, hu, c, hc, d, hd, _⟩
    exact absurd hd (((hknown u hu).every c hc).noConstant d)

/-- A probe ends in a fault. -/
theorem Probe.Stops.result {σ : Store} {v : Value} {types : List ObjectType} {t : ObjectType} (h : Probe.Stops σ v types t) :
    ∃ e, (t.checker.validate (fun ref => (Probe.registry types ref).map ObjectType.checker) types.length v σ).result = .error e := by
  have hresolve : ∀ ref u, (Probe.registry types ref).map ObjectType.checker = some u → u.Known Probe.Calm Probe.Still := by
    intro ref u hu
    obtain ⟨w, hw, rfl⟩ := Option.map_eq_some_iff.1 hu
    exact (h.built w (List.mem_cons_of_mem _ (Probe.registry_mem hw))).2
  have hagree : ∀ (i : Nat) (u : ObjectType), types[i]? = some u →
      (Probe.registry types (Probe.reference i)).map ObjectType.checker = some u.checker := by
    intro i u hu
    rw [Probe.registry_reference, hu]
    rfl
  let ctx : Context := { maxDepth := types.length }
  obtain ⟨e, s, he⟩ : Probe.Fails (t.checker.collect (follow _ (types.length : Int).toNat) ctx {} v) { store := σ } :=
    h.fails hresolve hagree (by rw [Int.toNat_natCast]) (fun _ hp => by cases hp) rfl
  refine ⟨e, ?_⟩
  unfold TypeChecker.validate
  rw [Outcome.ofCheck_eq, he]

/-- A validation has one of its two outcomes, or ends in a fault with a known cause. -/
theorem Work.documented_or_escape {t : ObjectType} {registry : TypeRef → Option ObjectType} {maxDepth : Option Int} {v : Value}
    {w : Workspace} (ht : t.Built (· = .standard)) (hregistry : ∀ ref u, registry ref = some u → u.Built (· = .standard))
    (hbound : (Work.bound? maxDepth w).isSome = true) :
    Work.Documented t (fun ref => (registry ref).map ObjectType.checker) maxDepth v w ∨
      ∃ e, ((Work.validate t (fun ref => (registry ref).map ObjectType.checker) maxDepth v).ending w).1 = .error (.run e) ∧
        Escape (t.Together registry) w.store v e := by
  obtain ⟨n, hn⟩ := Option.isSome_iff_exists.1 hbound
  by_cases hfault : ∃ e, (t.checker.validate (fun ref => (registry ref).map ObjectType.checker) n v w.store).result = .error e
  · obtain ⟨e, he⟩ := hfault
    refine .inr ⟨e, ?_, ObjectType.validate_escape ht hregistry he⟩
    rw [Work.validate_result hn]
    rcases hrun : t.checker.validate (fun ref => (registry ref).map ObjectType.checker) n v w.store with ⟨result, r⟩
    rw [hrun] at he
    change result = .error e at he
    rw [he]
  · exact .inl ((Work.documented_iff hn).2 fun e he => hfault ⟨e, he⟩)

/-- **When a validation has only its two outcomes.** With any built type, registry of built types, bound and workspace a
candidate is validated to one of the two outcomes, or the validation ends in a fault for one of the causes of `Escape`. And
it is always one of the two outcomes exactly if the candidate is no mapping, or one in which no number is out of the range of
doubles and no key is too long to be written. By always we mean types with any constants that can be written, which do not both save
conversions and strip keys where the candidate leads back into itself, and whose constants do not contain themselves where
something in the candidate does. -/
theorem Work.validate_outcomes {σ : Store} (hkeys : σ.DistinctKeys) {v : Value} :
    (∀ (t : ObjectType) (registry : TypeRef → Option ObjectType) (maxDepth : Option Int) (w : Workspace),
      t.Built (· = .standard) → (∀ ref u, registry ref = some u → u.Built (· = .standard)) → w.store = σ →
      (Work.bound? maxDepth w).isSome = true →
      Work.Documented t (fun ref => (registry ref).map ObjectType.checker) maxDepth v w ∨
        ∃ e, ((Work.validate t (fun ref => (registry ref).map ObjectType.checker) maxDepth v).ending w).1 = .error (.run e) ∧
          Escape (t.Together registry) σ v e) ∧
    ((∀ (t : ObjectType) (registry : TypeRef → Option ObjectType) (maxDepth : Option Int) (w : Workspace),
      t.Built (· = .standard) → (∀ ref u, registry ref = some u → u.Built (· = .standard)) →
      Quiet (t.Together registry) → KeepsKeys (t.Together registry) σ v → Comparable (t.Together registry) σ v → w.store = σ →
      (Work.bound? maxDepth w).isSome = true →
      Work.Documented t (fun ref => (registry ref).map ObjectType.checker) maxDepth v w) ↔
    (σ.isMapping v = true → σ.Sound v)) := by
  refine ⟨fun t registry maxDepth w ht hregistry hw hbound => hw ▸ Work.documented_or_escape ht hregistry hbound, ?_, ?_⟩
  · intro hall hv
    by_contra hσ
    obtain ⟨types, t, hstops⟩ := Store.exists_fault hkeys hv hσ
    obtain ⟨hquiet, hkeeps, hcompare⟩ := hstops.quiet
    obtain ⟨e, he⟩ := hstops.result
    let w : Workspace := { clock := ⟨default, ""⟩, files := ⟨"/", []⟩, store := σ }
    have hdocumented := hall t (Probe.registry types) (some types.length) w (hstops.built t (List.mem_cons_self ..)).1
      (fun ref u hu => (hstops.built u (List.mem_cons_of_mem _ (Probe.registry_mem hu))).1) hquiet hkeeps hcompare rfl rfl
    exact (Work.documented_iff rfl).1 hdocumented e he
  · rintro hσ t registry maxDepth w ht hregistry hquiet hkeeps hcompare rfl hbound
    obtain ⟨n, hn⟩ := Option.isSome_iff_exists.1 hbound
    refine (Work.documented_iff hn).2 fun e => ?_
    by_cases hv : w.store.isMapping v = true
    · exact ObjectType.validate_no_fault ht hregistry hquiet hkeeps hcompare (hσ hv) e
    · exact TypeChecker.validate_no_mapping _ hv e

/-! A number under a key: one that a double is near, and one that none is near. -/

/-- A type of mappings with a number under one key. -/
def numberData : Datum :=
  .record [("properties", .record [("a", .record [("type", .text "Number"), ("constraints", .list [])])])]

def numberType : ObjectType := (ObjectType.ofDatum? numberData).get (by decide +kernel)

/-- A mapping with an integer under one key. -/
def integerStore (n : Int) : Store := ⟨#[.mapping [(.text "a", .scalar (.int n))]]⟩

theorem integerStore_distinctKeys (n : Int) : (integerStore n).DistinctKeys := by
  intro v es hes
  match v, hes with
  | .container 0, hes =>
      cases hes
      exact List.pairwise_singleton _ _
  | .container (a + 1), hes => cases hes

theorem integerStore_outcomes :
    (∀ (t : ObjectType) (registry : TypeRef → Option ObjectType) (maxDepth : Option Int) (w : Workspace),
      t.Built (· = .standard) → (∀ ref u, registry ref = some u → u.Built (· = .standard)) → w.store = integerStore 7 →
      (Work.bound? maxDepth w).isSome = true →
      Work.Documented t (fun ref => (registry ref).map ObjectType.checker) maxDepth (.container 0) w ∨
        ∃ e, ((Work.validate t (fun ref => (registry ref).map ObjectType.checker) maxDepth (.container 0)).ending w).1 =
            .error (.run e) ∧ Escape (t.Together registry) (integerStore 7) (.container 0) e) ∧
    ((∀ (t : ObjectType) (registry : TypeRef → Option ObjectType) (maxDepth : Option Int) (w : Workspace),
      t.Built (· = .standard) → (∀ ref u, registry ref = some u → u.Built (· = .standard)) →
      Quiet (t.Together registry) → KeepsKeys (t.Together registry) (integerStore 7) (.container 0) →
      Comparable (t.Together registry) (integerStore 7) (.container 0) → w.store = integerStore 7 → (Work.bound? maxDepth w).isSome = true →
      Work.Documented t (fun ref => (registry ref).map ObjectType.checker) maxDepth (.container 0) w) ↔
    ((integerStore 7).isMapping (.container 0) = true → (integerStore 7).Sound (.container 0))) :=
  Work.validate_outcomes (integerStore_distinctKeys 7)

theorem numberType_not_documented : numberType.Built (· = .standard) ∧
    ¬ Work.Documented numberType (fun _ => none) (some 64) (.container 0)
      { clock := ⟨default, ""⟩, files := ⟨"/", []⟩, store := integerStore (10 ^ 400) } := by
  have hfault : (match (numberType.checker.validate (fun _ => none) 64 (.container 0) (integerStore (10 ^ 400))).result with
      | .error .integerTooLarge => true
      | _ => false) = true := by decide +kernel
  refine ⟨ObjectType.ofDatum?_built (Option.some_get _).symm, fun h => ?_⟩
  have hno := (Work.documented_iff rfl).1 h
  split at hfault
  · next he => exact hno _ he
  · cases hfault

end ShapeCheck
