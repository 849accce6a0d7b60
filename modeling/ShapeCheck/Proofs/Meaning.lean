import ShapeCheck.Proofs.Conforming
import ShapeCheck.Proofs.Outcomes

/-!
# Validation and the meaning of definitions

`Work.validate_conforms` puts together what a validation says and what a definition means: on a tree, with nothing stripped
or saved and room for the mappings inside of each other, a validation passes exactly if the tree conforms and is not stumbled
over. Where both are so it ends in a fault in place of its answer. This happens: a type may ask for lists without one integer
that has too many digits for a message, as `withoutType` does.
-/

namespace ShapeCheck

open Relation

/-- The run of a type on a candidate decides what its definition says. -/
theorem ObjectType.validate_judged {t : ObjectType} {registry : TypeRef → Option ObjectType} (ht : t.Built (· = .standard))
    (hregistry : ∀ ref u, registry ref = some u → u.Built (· = .standard)) {described : Descriptions}
    (hplain : ∀ u, t.definition.Reaches (definitionOf registry) u → u.Plain described) {σ : Store} {v : Value}
    (hv : σ.Candidate described v) {maxDepth : Int} (hdepth : (σ.nesting v : Int) - 1 ≤ maxDepth) :
    Judged σ Clean (t.definition.Conforms (definitionOf registry) (σ.datum v))
      (t.definition.Stumbles (definitionOf registry) (σ.datum v))
      ((t.checker.validate (checkerOf registry) maxDepth v σ).result, (t.checker.validate (checkerOf registry) maxDepth v σ).run) := by
  have hroom : Room σ maxDepth.toNat { maxDepth := maxDepth } (σ.nesting v) := ⟨by omega, nofun⟩
  have hrun := (hv.decided hregistry hplain).2 {} ht.compiles .refl hroom { store := σ } rfl
  unfold TypeChecker.validate
  rw [Outcome.ofCheck_eq]
  exact hrun

/-- **When validation says what the definition says.** Take a built type, a registry of built types and a candidate that is
a tree, and suppose that no type that the type leads to strips keys or saves conversions, and that the bound allows for the
mappings inside of each other. A candidate passes exactly if it conforms and is not stumbled over, and a fault escapes exactly
if it is stumbled over. So passing is the same as conforming exactly where a candidate does not conform and is stumbled over
at once, which is everywhere if all constants can be written. -/
theorem Work.validate_conforms {t : ObjectType} {registry : TypeRef → Option ObjectType} (ht : t.Built (· = .standard))
    (hregistry : ∀ ref u, registry ref = some u → u.Built (· = .standard)) {described : Descriptions}
    (hplain : ∀ u, t.definition.Reaches (definitionOf registry) u → u.Plain described) {w : Workspace} {v : Value}
    (hv : w.store.Candidate described v) {maxDepth : Option Int} {n : Int} (hn : Work.bound? maxDepth w = some n)
    (hdepth : (w.store.nesting v : Int) ≤ n + 1) :
    let result := ((Work.validate t (checkerOf registry) maxDepth v).ending w).1
    let conforms := t.definition.Conforms (definitionOf registry) (w.store.datum v)
    let stumbles := t.definition.Stumbles (definitionOf registry) (w.store.datum v)
    ((result = .ok () ↔ conforms) ↔ ¬ (conforms ∧ stumbles)) ∧ (result = .ok () ↔ conforms ∧ ¬ stumbles) ∧
      ((∃ e, result = .error (.run e)) ↔ stumbles) ∧ (Quiet (t.Together registry) → ¬ stumbles) := by
  intro result conforms stumbles
  have hjudged := ObjectType.validate_judged ht hregistry hplain hv (show (w.store.nesting v : Int) - 1 ≤ n by omega)
  have hends : (result = .ok () ↔ conforms ∧ ¬ stumbles) ∧ ((∃ e, result = .error (.run e)) ↔ stumbles) := by
    have hresult : result = _ := Work.validate_result hn
    rw [hresult]
    generalize t.checker.validate (checkerOf registry) n v w.store = outcome at hjudged
    obtain ⟨ended, run⟩ := outcome
    cases hjudged with
    | @fault e _ hstumbles => exact ⟨⟨nofun, fun h => absurd hstumbles h.2⟩, fun _ => hstumbles, fun _ => ⟨e, rfl⟩⟩
    | @done found _ _ hanswers hverdict =>
        refine ⟨?_, ?_⟩
        · dsimp only
          by_cases hfound : found = []
          · rw [if_pos hfound]
            exact ⟨fun _ => ⟨hverdict.1 hfound, hanswers⟩, fun _ => rfl⟩
          · rw [if_neg hfound]
            exact ⟨nofun, fun h => absurd (hverdict.2 h.1) hfound⟩
        · refine ⟨fun ⟨e, he⟩ => ?_, fun h => absurd h hanswers⟩
          dsimp only at he
          split at he <;> cases he
  obtain ⟨hok, hfault⟩ := hends
  refine ⟨?_, hok, hfault, fun hquiet hstumbles => ?_⟩
  · rw [hok]
    tauto
  · obtain ⟨e, he⟩ := hfault.2 hstumbles
    have hleads : w.store.Leads ≤ w.store.Contains := fun _ _ => Store.Leads.contains
    have hkeeps : KeepsKeys (t.Together registry) w.store v := fun _ a ha hcycle =>
      hv.tree.acyclic _ (ReflTransGen.mono hleads _ _ ha) (TransGen.mono hleads _ _ hcycle)
    have hdocumented := (Work.documented_iff hn).2 (ObjectType.validate_no_fault ht hregistry hquiet hkeeps (fun _ => hv.tree.acyclic) hv.sound)
    rcases hdocumented with hpassed | ⟨_, _, hfailed⟩
    · cases he.symm.trans hpassed
    · cases he.symm.trans hfailed

/-! A list that must not hold one integer: one that messages can show, and one that is too long for them. -/

/-- A candidate whose containers hold nothing that is out of range is sound. -/
theorem Store.sound_of_cells {σ : Store} {a : Address} (hscalars : ∀ b c, σ.read? b = some c → ∀ x, .scalar x ∈ c.values → ¬ x.Oversized)
    (hkeys : ∀ w es, σ.entries? w = some es → ∀ e ∈ es, e.1.isTooLong = false) : σ.Sound (.container a) where
  numbers x hx := by
    rcases ReflTransGen.cases_tail hx with heq | ⟨y, _, hy⟩
    · cases heq
    · obtain ⟨c, hc, hmem⟩ := hy.contains
      cases y with
      | scalar => cases hc
      | container b => exact hscalars b c hc x hmem
  keys w es _ hes := hkeys w es hes

theorem Probe.part_proper {described : Descriptions} {kind : String} {constraints : List (String × List Datum)}
    (h : ∀ c ∈ constraints, ∀ a ∈ c.2, a.Proper described) : (Probe.part kind constraints).Proper described := by
  refine Datum.proper_pair (by decide) (Datum.proper_scalar _) ?_
  rw [Datum.Proper, Datum.allProper_iff]
  intro d hd
  obtain ⟨c, hc, rfl⟩ := List.mem_map.1 hd
  refine Datum.proper_pair (by decide) (Datum.proper_scalar _) ?_
  rw [Datum.Proper, Datum.allProper_iff]
  exact h c hc

/-- The checker and the description of an element that is one integer. -/
def onlyChecker (n : Int) : PropertyChecker :=
  { PropertyChecker.ofKind .any with onlyValid := true, allowed := [.scalar (.number (.int n))] }

def onlyPart (n : Int) : Datum := Probe.part "Any" [("valid", [.scalar (.number (.int n))])]

def withoutDef (n : Int) : PropertyDef := ⟨none, "Array", [⟨"excludes", [onlyPart n]⟩], none⟩

/-- A type of mappings with a list without one integer under one key. -/
def withoutType (n : Int) : ObjectType :=
  Probe.keyObject false "xs" (withoutDef n) (Probe.bare .array [.excludes [onlyChecker n]])

theorem withoutType_built (n : Int) : (withoutType n).Built (· = .standard) := by
  have hdescribes : Probe.Describes (onlyPart n) (onlyChecker n) := .of_part rfl rfl (by rfl)
  have hproperty : Building.Yields (Building.property ⟨.standard, fun _ => none⟩ (Probe.part "Array" [("excludes", [onlyPart n])]))
      (.ok (withoutDef n, Probe.bare .array [.excludes [onlyChecker n]])) :=
    Probe.property_of_part rfl rfl (Probe.compileConstraints_items hdescribes (.inr rfl))
  exact Probe.keyObject_built hproperty false "xs"

theorem onlyPart_read (n : Int) :
    ElementDef.read (onlyPart n) = .ok ⟨"Any", [⟨"valid", [.scalar (.number (.int n))]⟩], none⟩ := rfl

theorem withoutType_references (n : Int) : (withoutType n).definition.references = [] := by
  have helement : ElementDef.referencesOf (onlyPart n) = [] := ElementDef.referencesOf_eq (onlyPart_read n)
  change (ElementDef.referencesOf (onlyPart n) ++ []) ++ [] ++ [] ++ [] = []
  rw [helement]
  rfl

/-- The type leads to itself only, and its constants are proper. -/
theorem withoutType_plain {registry : TypeRef → Option TypeDef} (n : Int) (u : TypeDef)
    (hu : (withoutType n).definition.Reaches registry u) : u.Plain fun _ => none := by
  have hself : u = (withoutType n).definition := by
    induction hu with
    | refl => rfl
    | inside _ hp ht ih =>
        subst ih
        obtain rfl := List.mem_singleton.1 hp
        cases ht
    | named _ href _ ih =>
        subst ih
        rw [withoutType_references] at href
        cases href
  subst hself
  refine ⟨rfl, rfl, fun p hp x hx a ha => ?_⟩
  obtain rfl := List.mem_singleton.1 hp
  obtain rfl := List.mem_singleton.1 hx
  obtain rfl := List.mem_singleton.1 ha
  refine Probe.part_proper fun c hc b hb => ?_
  obtain rfl := List.mem_singleton.1 hc
  obtain rfl := List.mem_singleton.1 hb
  exact Datum.proper_scalar _

def wordList : Store := ⟨#[.mapping [(.text "xs", .container 1)], .list [.scalar (.text "a")]]⟩

example : wordList.datum (.container 0) = .mapping [(.text "xs", .list [.text "a"])] := by rfl

theorem wordList_isTree : wordList.IsTree (.container 0) := by
  have hinner : wordList.IsTree (.container 1) := by
    refine .container (c := .list [.scalar (.text "a")]) rfl ?_
    intro v hv
    obtain rfl := List.mem_singleton.1 hv
    exact .scalar _
  refine .container (c := .mapping [(.text "xs", .container 1)]) rfl ?_
  intro v hv
  obtain rfl := List.mem_singleton.1 hv
  exact hinner

theorem wordList_sound : wordList.Sound (.container 0) := by
  refine Store.sound_of_cells (fun b c hc x hx => ?_) fun w es hes e he => ?_
  · match b, hc with
    | 0, hc =>
        cases hc
        cases List.mem_singleton.1 hx
    | 1, hc =>
        cases hc
        cases List.mem_singleton.1 hx
        nofun
    | b + 2, hc => cases hc
  · match w, hes with
    | .container 0, hes =>
        cases hes
        obtain rfl := List.mem_singleton.1 he
        rfl
    | .container 1, hes => cases hes
    | .container (b + 2), hes => cases hes

theorem wordList_candidate : wordList.Candidate (fun _ => none) (.container 0) where
  tree := wordList_isTree
  sound := wordList_sound
  proper := by
    change (Datum.mapping [(.text "xs", .list [.text "a"])]).Proper _
    rw [Datum.Proper, Datum.entriesProper_iff, List.forall_mem_singleton, Datum.Proper, Datum.allProper_iff, List.forall_mem_singleton]
    exact ⟨Datum.proper_scalar _, List.pairwise_singleton _ _⟩

theorem wordList_nesting : wordList.nesting (.container 0) ≤ 2 :=
  wordList_isTree.acyclic.mappingCounts_le wordList_isTree.acyclic.nesting_isGreatest.1

def wordWork : Workspace := { clock := ⟨default, ""⟩, files := ⟨"/", []⟩, store := wordList }

/-- What the element of the type asks for, no text is. -/
theorem onlyPart_rejects (n : Int) {registry : TypeRef → Option TypeDef} {convert : Bool} {s : String} :
    ¬ ArgumentIs (fun e => e.Accepts registry convert none (.text s)) (onlyPart n) := by
  rintro ⟨e, he, haccepts⟩
  cases (onlyPart_read n).symm.trans he
  rw [Demand.accepts_iff, Demand.passes_iff rfl] at haccepts
  have hcandidates : ∀ x ∈ Kind.any.candidates convert (.text s), x = .text s := by
    cases convert <;> exact fun x hx => List.mem_singleton.1 hx
  rcases haccepts with ⟨x, hx, hlast⟩ | ⟨_, hvalid, _⟩
  · obtain rfl := hcandidates x hx
    have hdiffer : (Datum.scalar (.number (.int n))).same (.text s) = false := by
      rw [Datum.same, Datum.text, Datum.equals]
      rfl
    have hnone : Demand.lastOf [(.scalar (.number (.int n)), true)] (.text s) = none := by
      rw [Demand.lastOf, List.reverse_singleton, List.find?_singleton, hdiffer]
      rfl
    cases hnone.symm.trans hlast
  · exact hvalid ⟨_, List.mem_singleton_self _, rfl⟩

theorem withoutType_conforms (n : Int) {registry : TypeRef → Option TypeDef} :
    (withoutType n).definition.Conforms registry (wordList.datum (.container 0)) := by
  have hmethod : ∀ c ∈ (withoutDef n).demand.constraints, ∀ m, (withoutDef n).demand.method? c = some m →
      c = ⟨"excludes", [onlyPart n]⟩ ∧ m = .excludes := by
    intro c hc m hm
    obtain rfl := List.mem_singleton.1 hc
    exact ⟨rfl, (Option.some.inj hm).symm⟩
  rw [TypeDef.conforms_iff]
  refine ⟨_, rfl, fun e he => .inl ?_, fun p hp => ?_⟩
  · obtain rfl := List.mem_singleton.1 he
    exact ⟨_, List.mem_singleton_self _, rfl⟩
  obtain rfl := List.mem_singleton.1 hp
  refine ⟨nofun, fun w hw => ?_⟩
  obtain rfl : Datum.list [.text "a"] = w := Option.some.inj hw
  rw [Demand.accepts_iff, Demand.passes_iff rfl]
  refine .inr ⟨fun x _ => nofun, ?_, .list [.text "a"], List.mem_cons_self .., ⟨.array, rfl, rfl, nofun⟩, ?_, ?_, nofun⟩
  · rintro ⟨c, hc, hm⟩
    cases (hmethod c hc _ hm).2
  · refine fun _ _ c hc => ⟨fun hm => ?_, fun hm => ?_⟩ <;> cases (hmethod c hc _ hm).2
  · intro c hc m hm
    obtain ⟨rfl, rfl⟩ := hmethod c hc m hm
    intro i hi a ha
    obtain rfl := List.mem_singleton.1 hi
    obtain rfl := List.mem_singleton.1 ha
    exact onlyPart_rejects n

theorem withoutType_not_equivalent :
    let t := withoutType (10 ^ 4300)
    t.Built (· = .standard) ∧ (∀ u, t.definition.Reaches (definitionOf fun _ => none) u → u.Plain fun _ => none) ∧
      wordWork.store.Candidate (fun _ => none) (.container 0) ∧ (wordWork.store.nesting (.container 0) : Int) ≤ 64 ∧
      t.definition.Conforms (definitionOf fun _ => none) (wordWork.store.datum (.container 0)) ∧
      ((Work.validate t (checkerOf fun _ => none) (some 64) (.container 0)).ending wordWork).1 ≠ .ok () := by
  have hstops : (match ((Work.validate (withoutType (10 ^ 4300)) (checkerOf fun _ => none) (some 64) (.container 0)).ending
        wordWork).1 with
      | .ok () => false
      | .error _ => true) = true := by decide +kernel
  refine ⟨withoutType_built _, withoutType_plain _, wordList_candidate, ?_, withoutType_conforms _, fun hok => ?_⟩
  · have hnesting : wordWork.store.nesting (.container 0) ≤ 2 := wordList_nesting
    omega
  · rw [hok] at hstops
    cases hstops

theorem withoutType_validate_conforms :
    let result := ((Work.validate (withoutType 7) (checkerOf fun _ => none) (some 64) (.container 0)).ending wordWork).1
    let conforms := (withoutType 7).definition.Conforms (definitionOf fun _ => none) (wordWork.store.datum (.container 0))
    let stumbles := (withoutType 7).definition.Stumbles (definitionOf fun _ => none) (wordWork.store.datum (.container 0))
    ((result = .ok () ↔ conforms) ↔ ¬ (conforms ∧ stumbles)) ∧ (result = .ok () ↔ conforms ∧ ¬ stumbles) ∧
      ((∃ e, result = .error (.run e)) ↔ stumbles) ∧ (Quiet ((withoutType 7).Together fun _ => none) → ¬ stumbles) :=
  Work.validate_conforms (withoutType_built 7) (fun _ _ h => by cases h) (withoutType_plain 7) wordList_candidate rfl
    (by have : wordWork.store.nesting (.container 0) ≤ 2 := wordList_nesting; omega)

end ShapeCheck
