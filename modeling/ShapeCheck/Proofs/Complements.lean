import ShapeCheck.Proofs.Independence
import ShapeCheck.Proofs.Judging
import ShapeCheck.Proofs.Leaving
import ShapeCheck.Proofs.Places
import ShapeCheck.Proofs.Probes

/-!
# Including and excluding

A rule that an array includes some elements tries all descriptions on an item, and a rule that it excludes them stops at the
first that accepts it. A trial may strip or convert what it looks at, so the two runs come apart, but only after a description
has accepted the item, and only below that item (`PropertyChecker.someAccepts_iff`, `Store.ChangedBelow`). On data without
shared containers the next item is then as it was, and so the rules fault complementary items, `Rule.includes_excludes`.
-/

namespace ShapeCheck

open Relation

/-! ## Trials of one item -/

section Trials

variable {resolve : Resolver} {n : Nat} {ctx : Context} {path : Path} {σ τ ρ : Store} {v : Value} {q r s t : Run}
  {attempts : List Findings} {matched : Bool}

theorem Store.ChangedBelow.refl (σ : Store) (v : Value) : σ.ChangedBelow v σ := ⟨rfl, fun _ _ => rfl, fun _ h => h⟩

theorem Store.ChangedBelow.trans (h : σ.ChangedBelow v τ) (h' : τ.ChangedBelow v ρ) : σ.ChangedBelow v ρ where
  size := h'.size.trans h.size
  outside b hb := (h'.outside b fun hτ => hb (h.closed b hτ)).trans (h.outside b hb)
  closed b hb := h.closed b (h'.closed b hb)

/-- The check of a property, as it ended, changed what its value leads to and nothing else. -/
theorem PropertyChecker.collect_changedBelow {c : PropertyChecker} {present : Bool} {parent : Option Value} {x : Findings × Value}
    (h : (c.collect (follow resolve n) ctx path present parent v).ending r = (.ok x, s)) : r.store.ChangedBelow v s.store :=
  c.changedBelow (c.collect_ofStore.leaves h)

theorem PropertyChecker.attempts_changedBelow {elements : List PropertyChecker}
    (h : (PropertyChecker.attempts (follow resolve n) ctx path elements v).ending r = (.ok attempts, s)) :
    r.store.ChangedBelow v s.store := by
  induction elements generalizing r attempts with
  | nil =>
      rw [PropertyChecker.attempts] at h
      cases h
      exact .refl _ _
  | cons c rest ih =>
      rw [PropertyChecker.attempts] at h
      obtain ⟨x, t, hx, h⟩ := Check.ending_bind_eq_ok h
      obtain ⟨others, u, hothers, h⟩ := Check.ending_bind_eq_ok h
      cases h
      exact (PropertyChecker.collect_changedBelow hx).trans (ih hothers)

theorem PropertyChecker.someAccepts_changedBelow {elements : List PropertyChecker}
    (h : (PropertyChecker.someAccepts (follow resolve n) ctx path elements v).ending r = (.ok matched, s)) :
    r.store.ChangedBelow v s.store := by
  induction elements generalizing r with
  | nil =>
      rw [PropertyChecker.someAccepts] at h
      cases h
      exact .refl _ _
  | cons c rest ih =>
      rw [PropertyChecker.someAccepts] at h
      obtain ⟨x, t, hx, h⟩ := Check.ending_bind_eq_ok h
      dsimp only at h
      split at h
      · cases h
        exact PropertyChecker.collect_changedBelow hx
      · exact (PropertyChecker.collect_changedBelow hx).trans (ih h)

/-- Trials of an item up to the first that accepts it, and all trials of it in another run, which is the same below the item:
the first run finds a description that accepts the item exactly if some trial of the other one does. Both runs stay the same
below the item as long as no description has accepted it. -/
theorem PropertyChecker.someAccepts_iff {elements : List PropertyChecker} (hr : (Area.below σ v τ).Runs q r)
    (hattempts : (PropertyChecker.attempts (follow resolve n) ctx path elements v).ending q = (.ok attempts, s))
    (hmatched : (PropertyChecker.someAccepts (follow resolve n) ctx path elements v).ending r = (.ok matched, t)) :
    matched = true ↔ attempts.any List.isEmpty = true := by
  induction elements generalizing q r attempts with
  | nil =>
      rw [PropertyChecker.attempts] at hattempts
      rw [PropertyChecker.someAccepts] at hmatched
      cases hattempts
      cases hmatched
      simp
  | cons c rest ih =>
      rw [PropertyChecker.attempts] at hattempts
      rw [PropertyChecker.someAccepts] at hmatched
      obtain ⟨x, q', hx, hrest⟩ := Check.ending_bind_eq_ok hattempts
      obtain ⟨others, u, hothers, hend⟩ := Check.ending_bind_eq_ok hrest
      obtain ⟨y, r', hy, hmatched⟩ := Check.ending_bind_eq_ok hmatched
      cases hend
      have hlocal : Agrees (Area.below σ v τ).Runs Eq ((c.collect (follow resolve n) ctx path true none v).ending q)
          ((c.collect (follow resolve n) ctx path true none v).ending r) := c.collect_local (fun _ h => nomatch h) hr
      rw [hx, hy] at hlocal
      cases hlocal with
      | done hsame hruns =>
          subst hsame
          dsimp only at hmatched
          cases hempty : x.1.isEmpty with
          | true =>
              rw [hempty, if_pos rfl] at hmatched
              cases hmatched
              simp [hempty]
          | false =>
              rw [hempty, if_neg (by decide)] at hmatched
              simpa [hempty] using ih hruns hothers hmatched

end Trials

/-! ## One item after the other -/

/-- What two rules find about an item: one of them finds something and the other one nothing. The second one finds at most one
violation, and so does the first one if there are several descriptions. -/
structure Opposed (path : Path) (several : Prop) (included excluded : Findings) : Prop where
  here : Findings.Under path included
  there : Findings.Under path excluded
  opposite : included = [] ↔ excluded ≠ []
  one : excluded.length ≤ 1
  single : several → included.length ≤ 1

/-- What two rules find about the items of an array, one after the other, is opposed for each item. -/
inductive Complementary (path : Path) (several : Prop) : Nat → List Value → Findings → Findings → Prop
  | nil {i : Nat} : Complementary path several i [] [] []
  | cons {i : Nat} {item : Value} {rest : List Value} {included excluded inc exc : Findings}
      (opposed : Opposed (path.index i) several included excluded) (after : Complementary path several (i + 1) rest inc exc) :
      Complementary path several i (item :: rest) (included ++ inc) (excluded ++ exc)

/-- A store in which nothing has changed below some values. -/
structure Store.SameBelow (σ : Store) (vs : List Value) (τ : Store) : Prop where
  size : τ.cells.size = σ.cells.size
  same : ∀ v ∈ vs, ∀ b, ReflTransGen σ.Contains v (.container b) → τ.read? b = σ.read? b

section Items

variable {resolve : Resolver} {n : Nat} {ctx : Context} {path : Path} {σ τ ρ : Store} {v item : Value} {vs : List Value}
  {q r s t : Run} {elements : List PropertyChecker} {inc exc : Findings}

namespace Store.SameBelow

theorem reaches_iff (h : σ.SameBelow vs τ) (hv : v ∈ vs) {w : Value} :
    ReflTransGen τ.Contains v w ↔ ReflTransGen σ.Contains v w := reaches_congr (h.same v hv)

/-- What is changed below one value is the same below those that share nothing with it. -/
theorem tail (h : σ.SameBelow (v :: vs) τ) (hapart : ∀ w ∈ vs, σ.Apart v w) (hchanged : τ.ChangedBelow v ρ) :
    σ.SameBelow vs ρ where
  size := hchanged.size.trans h.size
  same w hw b hb := by
    have hout : ¬ ReflTransGen τ.Contains v (.container b) := by
      rw [h.reaches_iff (List.mem_cons_self ..)]
      exact fun hv => hapart w hw b hv hb
    rw [hchanged.outside b hout]
    exact h.same w (List.mem_cons_of_mem _ hw) b hb

/-- Two runs in whose stores nothing has changed below a value. -/
theorem runs (hq : σ.SameBelow vs q.store) (hr : σ.SameBelow vs r.store) (hv : v ∈ vs) :
    (Area.below q.store v r.store).Runs q r := by
  refine Area.below_start (hr.size.trans hq.size.symm) fun b hb => ?_
  rw [hq.reaches_iff hv] at hb
  rw [hr.same v hv b hb, hq.same v hv b hb]

end Store.SameBelow

/-- Several attempts that fail are one violation. -/
theorem noMatch_length {attempts : List Findings} (h : 2 ≤ attempts.length) : (noMatch path item attempts).length = 1 := by
  unfold noMatch
  split
  · simp at h
  · rfl

/-- What the two rules find about one item, from runs that are the same below it. -/
theorem Rule.item_opposed (hr : (Area.below σ item τ).Runs q r)
    (hinc : (Rule.includesItem (follow resolve n) ctx elements path item).ending q = (.ok inc, s))
    (hexc : (Rule.excludesItem (follow resolve n) ctx elements path item).ending r = (.ok exc, t)) :
    Opposed path (2 ≤ elements.length) inc exc ∧ q.store.ChangedBelow item s.store ∧ r.store.ChangedBelow item t.store := by
  unfold Rule.includesItem at hinc
  unfold Rule.excludesItem at hexc
  obtain ⟨attempts, s', hattempts, hinc⟩ := Check.ending_bind_eq_ok hinc
  obtain ⟨matched, t', hmatched, hexc⟩ := Check.ending_bind_eq_ok hexc
  have hiff := PropertyChecker.someAccepts_iff hr hattempts hmatched
  have hunder := PropertyChecker.attempts_under (follow_under resolve n) elements q attempts s' hattempts
  have hlength := Account.attempts_length hattempts
  cases hinc
  cases hexc
  refine ⟨?_, PropertyChecker.attempts_changedBelow hattempts, PropertyChecker.someAccepts_changedBelow hmatched⟩
  constructor
  case here =>
    split
    · exact .nil
    · exact noMatch_under hunder
  case there =>
    split
    · exact .finding
    · exact .nil
  case opposite =>
    by_cases hany : attempts.any List.isEmpty = true
    · simp [hany, hiff.2 hany]
    · have hnot : matched = false := Bool.eq_false_iff.2 fun h => hany (hiff.1 h)
      simp [hany, hnot, noMatch_ne_nil hany]
  case one => cases matched <;> simp
  case single =>
    intro hseveral
    split
    · exact Nat.zero_le _
    · exact Nat.le_of_eq (noMatch_length (hlength ▸ hseveral))

/-- What the two rules find about items that share no containers. The induction is on the items that are left, below which both
stores are as they were. -/
theorem eachItem_complementary (i : Nat) (hapart : vs.Pairwise σ.Apart) (hq : σ.SameBelow vs q.store)
    (hr : σ.SameBelow vs r.store)
    (hinc : (eachItem path (Rule.includesItem (follow resolve n) ctx elements) i vs).ending q = (.ok inc, s))
    (hexc : (eachItem path (Rule.excludesItem (follow resolve n) ctx elements) i vs).ending r = (.ok exc, t)) :
    Complementary path (2 ≤ elements.length) i vs inc exc := by
  induction vs generalizing i q r inc exc with
  | nil =>
      cases hinc
      cases hexc
      exact .nil
  | cons item rest ih =>
      unfold eachItem at hinc hexc
      obtain ⟨included, q', hincluded, hinc⟩ := Check.ending_bind_eq_ok hinc
      obtain ⟨excluded, r', hexcluded, hexc⟩ := Check.ending_bind_eq_ok hexc
      obtain ⟨inc, s', hinc, hincEnd⟩ := Check.ending_bind_eq_ok hinc
      obtain ⟨exc, t', hexc, hexcEnd⟩ := Check.ending_bind_eq_ok hexc
      cases hincEnd
      cases hexcEnd
      obtain ⟨hfirst, hrest⟩ := List.pairwise_cons.1 hapart
      obtain ⟨hitem, hqchanged, hrchanged⟩ := Rule.item_opposed (hq.runs hr (List.mem_cons_self ..)) hincluded hexcluded
      exact .cons hitem (ih (i + 1) hrest (hq.tail hfirst hqchanged) (hr.tail hfirst hrchanged) hinc hexc)

/-- Those of some findings that are about a place or about places below it. -/
def Findings.below (path : Path) (found : Findings) : Findings := found.filter fun f => path.Leads f.path

theorem Findings.Under.below_eq (h : Findings.Under path inc) : Findings.below path inc = inc :=
  List.filter_eq_self.2 fun f hf => decide_eq_true (h f hf)

/-- Of what is found about one item nothing is about another one. -/
theorem Findings.Under.below_other {i j : Nat} (h : Findings.Under (path.index i) inc) (hij : i ≠ j) :
    Findings.below (path.index j) inc = [] :=
  List.filter_eq_nil_iff.2 fun f hf hj => hij (Path.index_eq_of_leads (h f hf) (of_decide_eq_true hj))

theorem Findings.below_append (path : Path) (found others : Findings) :
    Findings.below path (found ++ others) = Findings.below path found ++ Findings.below path others := List.filter_append ..

namespace Complementary

variable {several : Prop} {i : Nat}

/-- Each violation is about one of the items. -/
theorem about_items (h : Complementary path several i vs inc exc) :
    ∀ f ∈ inc ++ exc, ∃ j < vs.length, (path.index (i + j)).Leads f.path := by
  induction h with
  | nil => exact fun _ hf => nomatch hf
  | @cons i item rest included excluded inc exc opposed after ih =>
      intro f hf
      have hmem : (f ∈ included ∨ f ∈ excluded) ∨ f ∈ inc ++ exc := by
        simp only [List.mem_append] at hf ⊢
        tauto
      rcases hmem with hf | hf
      · exact ⟨0, Nat.zero_lt_succ _, hf.elim (opposed.here f) (opposed.there f)⟩
      · obtain ⟨j, hj, hleads⟩ := ih f hf
        refine ⟨j + 1, Nat.succ_lt_succ hj, ?_⟩
        rwa [Nat.add_right_comm, Nat.add_assoc] at hleads

/-- Nothing is about an item before them. -/
theorem below_before (h : Complementary path several i vs inc exc) {k : Nat} (hk : k < i) :
    inc.below (path.index k) = [] ∧ exc.below (path.index k) = [] := by
  have hnot : ∀ f ∈ inc ++ exc, ¬ (path.index k).Leads f.path := by
    intro f hf hleads
    obtain ⟨j, _, hj⟩ := h.about_items f hf
    have hkj := Path.index_eq_of_leads hleads hj
    omega
  constructor
  · exact List.filter_eq_nil_iff.2 fun f hf => by simpa using hnot f (List.mem_append_left _ hf)
  · exact List.filter_eq_nil_iff.2 fun f hf => by simpa using hnot f (List.mem_append_right _ hf)

/-- What is found about one of the items is opposed. -/
theorem at_item (h : Complementary path several i vs inc exc) {j : Nat} (hj : j < vs.length) :
    Opposed (path.index (i + j)) several (inc.below (path.index (i + j))) (exc.below (path.index (i + j))) := by
  induction h generalizing j with
  | nil => cases hj
  | @cons i item rest included excluded inc exc opposed after ih =>
      rw [Findings.below_append, Findings.below_append]
      cases j with
      | zero =>
          obtain ⟨hinc, hexc⟩ := after.below_before (Nat.lt_succ_self i)
          rw [Nat.add_zero, hinc, hexc, opposed.here.below_eq, opposed.there.below_eq, List.append_nil, List.append_nil]
          exact opposed
      | succ j =>
          have hne : i ≠ i + (j + 1) := by omega
          rw [opposed.here.below_other hne, opposed.there.below_other hne]
          have hrest := ih (Nat.lt_of_succ_lt_succ hj)
          rwa [Nat.add_right_comm, Nat.add_assoc] at hrest

end Complementary

end Items

/-- What the description of an element compiles to does not depend on which of the two constraints it stands in. -/
theorem Capabilities.compileElement_method {caps : Capabilities} {m : String} {d : Datum} {c : PropertyChecker}
    (h : caps.compileElement m d = .ok c) (m' : String) : caps.compileElement m' d = .ok c := by
  obtain ⟨e, kind, he, hkind, hcs⟩ := compileElement_eq_ok h
  rw [compileElement_of_read he, hkind]
  exact hcs

theorem Capabilities.compiled_eq {caps : Capabilities} {m m' : String} {descriptions : List Datum}
    {elements others : List PropertyChecker}
    (h : List.Forall₂ (fun a c => caps.compileElement m a = .ok c) descriptions elements)
    (h' : List.Forall₂ (fun a c => caps.compileElement m' a = .ok c) descriptions others) : elements = others := by
  induction h generalizing others with
  | nil =>
      cases h'
      rfl
  | cons hfirst _ ih =>
      cases h' with
      | cons hfirst' hrest' =>
          rw [ih hrest', Except.ok.inj ((compileElement_method hfirst _).symm.trans hfirst')]

/-- **Including and excluding are complementary.** Take a list of descriptions of elements that both constraints compile, any
way to resolve references, any context and place, and an array without shared or cyclic containers, and run both rules on it
as it stands. If neither run ends in a fault, then for each item the first rule finds something at the item or below it
exactly if the second one finds nothing there; the second one finds at most one violation for an item, and the first one
exactly one for an item that it faults if there are several descriptions; and all that is found is about some item. So an
array that passes both rules is empty. -/
theorem Rule.includes_excludes {caps : Capabilities} {descriptions : List Datum} {including excluding : Rule}
    (hincluding : Method.Adds (fun a => caps.compileElement "includes" a) descriptions .includes including)
    (hexcluding : Method.Adds (fun a => caps.compileElement "excludes" a) descriptions .excludes excluding)
    {resolve : Resolver} {n : Nat} {ctx : Context} {path : Path} {v : Value} {r s t : Run} {inc exc : Findings}
    (hv : r.store.Unshared v) (hinc : (including.run (follow resolve n) ctx path v).ending r = (.ok inc, s))
    (hexc : (excluding.run (follow resolve n) ctx path v).ending r = (.ok exc, t)) :
    let items := (r.store.items? v).getD []
    (∀ i < items.length, (inc.below (path.index i) ≠ [] ↔ exc.below (path.index i) = []) ∧
      (exc.below (path.index i)).length ≤ 1 ∧
      (2 ≤ descriptions.length → inc.below (path.index i) ≠ [] → (inc.below (path.index i)).length = 1)) ∧
    (∀ f ∈ inc ++ exc, ∃ i < items.length, (path.index i).Leads f.path) ∧
    (inc = [] → exc = [] → items = []) := by
  intro items
  cases hincluding with
  | @includes elements hcompiled =>
  cases hexcluding with
  | @excludes others hothers =>
  obtain rfl : elements = others := Capabilities.compiled_eq hcompiled hothers
  rw [Rule.run_includes, Check.ending_bind_ok (Check.ending_store r)] at hinc
  rw [Rule.run_excludes, Check.ending_bind_ok (Check.ending_store r)] at hexc
  have hapart : items.Pairwise r.store.Apart := hv.items.2
  have hstart : r.store.SameBelow items r.store := ⟨rfl, fun _ _ _ _ => rfl⟩
  have hcomplementary : Complementary path (2 ≤ elements.length) 0 items inc exc :=
    eachItem_complementary 0 hapart hstart hstart hinc hexc
  have hlength : descriptions.length = elements.length := hcompiled.length_eq
  refine ⟨fun i hi => ?_, fun f hf => ?_, fun hinc hexc => ?_⟩
  · have hopposed := hcomplementary.at_item hi
    rw [Nat.zero_add] at hopposed
    refine ⟨?_, hopposed.one, fun hseveral hfaulted => ?_⟩
    · rw [ne_eq, hopposed.opposite, not_not]
    · have hone := hopposed.single (hlength ▸ hseveral)
      have hpos := List.length_pos_iff.2 hfaulted
      omega
  · obtain ⟨j, hj, hleads⟩ := hcomplementary.about_items f hf
    rw [Nat.zero_add] at hleads
    exact ⟨j, hj, hleads⟩
  · subst hinc
    subst hexc
    by_contra hne
    have hopposed := hcomplementary.at_item (List.length_pos_iff.2 hne)
    exact hopposed.opposite.1 rfl rfl

/-! An array with a mapping and a number, where one description accepts the mapping and another one strips it. -/

def staying : TypeRef := (TypeRef.make? "ns://parts" "1.0.0" "Staying").get (by decide +kernel)

def stripping : TypeRef := (TypeRef.make? "ns://parts" "1.0.0" "Stripping").get (by decide +kernel)

def mixedArray : Run :=
  { store := ⟨#[.list [.container 1, .scalar (.int 5)], .mapping [(.text "x", .scalar (.int 1))]]⟩ }

theorem mixedArray_complementary :
    let elements := [Probe.bare .object [.reference staying], Probe.bare .object [.reference stripping]]
    ∃ inc exc s t,
      ((Rule.includes elements).run (follow keyedTypes 64) { maxDepth := 64 } {} (.container 0)).ending mixedArray = (.ok inc, s) ∧
      ((Rule.excludes elements).run (follow keyedTypes 64) { maxDepth := 64 } {} (.container 0)).ending mixedArray = (.ok exc, t) ∧
      ∀ i < 2, (inc.below (Path.index {} i) ≠ [] ↔ exc.below (Path.index {} i) = []) ∧
        (exc.below (Path.index {} i)).length ≤ 1 ∧
        (inc.below (Path.index {} i) ≠ [] → (inc.below (Path.index {} i)).length = 1) := by
  intro elements
  have hdescribed : ∀ m, List.Forall₂ (fun a c => Capabilities.standard.compileElement m a = .ok c)
      [Probe.referencePart staying, Probe.referencePart stripping] elements := fun m =>
    .cons ((Probe.describes_reference staying).element m) (.cons ((Probe.describes_reference stripping).element m) .nil)
  have hinc : (((Rule.includes elements).run (follow keyedTypes 64) { maxDepth := 64 } {} (.container 0)).ending
      mixedArray).1.isOk = true := by decide +kernel
  have hexc : (((Rule.excludes elements).run (follow keyedTypes 64) { maxDepth := 64 } {} (.container 0)).ending
      mixedArray).1.isOk = true := by decide +kernel
  rcases hincluded : ((Rule.includes elements).run (follow keyedTypes 64) { maxDepth := 64 } {} (.container 0)).ending mixedArray
    with ⟨e | inc, s⟩
  · rw [hincluded] at hinc
    cases hinc
  rcases hexcluded : ((Rule.excludes elements).run (follow keyedTypes 64) { maxDepth := 64 } {} (.container 0)).ending mixedArray
    with ⟨e | exc, t⟩
  · rw [hexcluded] at hexc
    cases hexc
  have hv : mixedArray.store.Unshared (.container 0) := Store.IsChain.unshared (by decide +kernel) _
  have hall := (Rule.includes_excludes (.includes (hdescribed _)) (.excludes (hdescribed _)) hv hincluded hexcluded).1
  exact ⟨inc, exc, s, t, rfl, rfl, fun i hi => ⟨(hall i hi).1, (hall i hi).2.1, (hall i hi).2.2 (by decide)⟩⟩

end ShapeCheck
