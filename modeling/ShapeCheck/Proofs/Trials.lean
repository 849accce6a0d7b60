import ShapeCheck.Proofs.Judging
import ShapeCheck.Proofs.Outcomes
import ShapeCheck.Proofs.Reaching

/-!
# Trials of elements

The descriptions of the elements of an array are tried on an item one after the other, and the trials run on the item itself.
Where a description leads to a type that strips keys or saves conversions, the next one meets what that type has left of the
item. Where none does, a trial leaves the store as it is, and what a check finds depends on nothing else of the run
(`PropertyChecker.collect_alike`). Then an item is accepted exactly if one of the descriptions accepts it by itself, in
whatever order they are tried: `Rule.trials_alone`.
-/

namespace ShapeCheck

/-! ## Checks depend on the store alone -/

section Alike

variable {f g : Follow} {ctx : Context}

/-- Two runs with one store. -/
def Keeping.alike (f : Follow) (ctx : Context) : Keeping where
  first := f
  second := f
  here := ctx
  there := ctx
  runs r s := s.store = r.store
  faults _ r s := s.store = r.store
  held _ _ := True
  opened _ := True
  met _ := True
  followed _ := True
  checker _ := True
  lenient _ := True
  finds _ := True

/-- Two ends are alike if they give one result and leave one store. -/
abbrev Alike {α : Type} : Except Fault α × Run → Except Fault α × Run → Prop :=
  Ends (fun r s => s.store = r.store) (fun _ r s => s.store = r.store) fun _ => True

theorem Keeping.alike_lawful
    (hfollow : ∀ {convert path ref v} {r s : Run}, s.store = r.store →
      Alike ((f { ctx with convert := convert } path ref v).ending r) ((f { ctx with convert := convert } path ref v).ending s)) :
    (Keeping.alike f ctx).Lawful := by
  constructor
  case toKnownFaults => exact .of_runs fun hr => hr
  case store_eq => exact fun hr => hr
  case item | entry | held_counted | met_held | met_counted | opened | followed | inlineType | plain => intros; trivial
  case references => exact fun _ _ => .inr fun _ => trivial
  case strip => exact fun _ _ _ hr _ _ => congrArg (Store.write · _ _) hr
  case save => exact fun _ _ hr _ _ _ => congrArg (Store.write · _ _) hr
  case follow => exact fun hr _ _ => (hfollow hr).mono (fun _ _ _ _ => trivial) fun _ _ h => h

theorem TypeChecker.collect_alike
    (hfollow : ∀ {convert path ref v} {r s : Run}, s.store = r.store →
      Alike ((f { ctx with convert := convert } path ref v).ending r) ((f { ctx with convert := convert } path ref v).ending s))
    (t : TypeChecker) {path : Path} {v : Value} {r s : Run} (hr : s.store = r.store) :
    Alike ((t.collect f ctx path v).ending r) ((t.collect f ctx path v).ending s) := by
  have hlawful := Keeping.alike_lawful hfollow
  have hevery : t.Every (Keeping.alike f ctx).checker := fun _ _ => trivial
  exact (TypeChecker.collect_ends hlawful t hevery trivial hr trivial).mono (fun _ _ => trivial) fun _ _ h => h

/-- Following a reference depends on the store alone. -/
theorem follow_alike (resolve : Resolver) (n : Nat) : ∀ {ctx : Context} {path : Path} {ref : TypeRef} {v : Value} {r s : Run},
    s.store = r.store → Alike ((follow resolve n ctx path ref v).ending r) ((follow resolve n ctx path ref v).ending s) := by
  induction n with
  | zero =>
      intro ctx path ref v r s hr
      unfold follow
      cases resolve ref with
      | none => exact .done trivial hr
      | some t =>
          dsimp only
          split <;> exact .done trivial hr
  | succ n ih =>
      intro ctx path ref v r s hr
      unfold follow
      cases resolve ref with
      | none => exact .done trivial hr
      | some t =>
          dsimp only
          split
          · exact .done trivial hr
          · rw [Check.ending_bind_ok (Check.ending_record ..), Check.ending_bind_ok (Check.ending_record ..)]
            refine (TypeChecker.collect_alike (fun hr => ih hr) t ?_).bind fun found r s _ _ hr => .done trivial hr
            exact hr

/-- What a check finds, and the store that it leaves, depend on the store alone. -/
theorem PropertyChecker.collect_alike (c : PropertyChecker) {resolve : Resolver} {n : Nat} {path : Path} {present : Bool}
    {parent : Option Value} {v : Value} {r s : Run} (hr : s.store = r.store) :
    Alike ((c.collect (follow resolve n) ctx path present parent v).ending r)
      ((c.collect (follow resolve n) ctx path present parent v).ending s) := by
  have hlawful : (Keeping.alike (follow resolve n) ctx).Lawful := Keeping.alike_lawful fun hr => follow_alike resolve n hr
  have hevery : c.Every (Keeping.alike (follow resolve n) ctx).checker := fun _ _ => trivial
  exact (PropertyChecker.collect_ends hlawful c hevery hr trivial fun _ _ => trivial).mono (fun _ _ => trivial) fun _ _ h => h

end Alike

/-! ## Descriptions that leave candidates as they are -/

/-- The types that a property or an element leads to: in place inside of it, or behind its references. -/
inductive PropertyChecker.LeadsTo (resolve : Resolver) (c : PropertyChecker) : TypeChecker → Prop
  | inside {d : PropertyChecker} {w u : TypeChecker} (checker : d ∈ c.checkers) (rule : .inlineType w ∈ d.rules)
      (reached : w.Reaches resolve u) : LeadsTo resolve c u
  | named {ref : TypeRef} {w u : TypeChecker} (named : ref ∈ c.references) (found : resolve ref = some w)
      (reached : w.Reaches resolve u) : LeadsTo resolve c u

section Kept

variable {resolve : Resolver} {n : Nat} {ctx : Context} {path : Path} {v : Value} {r : Run}

/-- Descriptions that lead to types which keep candidates as they are. -/
def PropertyChecker.AllKeep (resolve : Resolver) (elements : List PropertyChecker) : Prop :=
  ∀ c ∈ elements, ∀ u, c.LeadsTo resolve u → u.Keeps

/-- A rule with such descriptions leaves the store as it is. -/
theorem PropertyChecker.AllKeep.run_store {elements : List PropertyChecker} (h : PropertyChecker.AllKeep resolve elements)
    {x : Rule} (hx : x = .includes elements ∨ x = .excludes elements) :
    ((x.run (follow resolve n) ctx path v).ending r).2.store = r.store := by
  have hevery : PropertyChecker.EveryOfAll (Territory.keeping resolve).checkers elements :=
    PropertyChecker.everyOfAll_iff.2 fun c hc _ hd _ hu _ hw => h c hc _ (.inside hd hu hw)
  have hreferences : ∀ ref ∈ PropertyChecker.referencesOfAll elements, (Territory.keeping resolve).references ref := by
    intro ref href u hu w hw
    obtain ⟨c, hc, href⟩ := PropertyChecker.mem_referencesOfAll.1 href
    exact h c hc _ (.named href hu hw)
  -- The rule is looked at as the only one of an array.
  have howner : ∃ c : PropertyChecker, (Territory.keeping resolve).checkers c ∧ x ∈ c.rules := by
    refine ⟨{ PropertyChecker.ofKind .array with rules := [x] }, fun u hu => ?_, List.mem_singleton_self _⟩
    rcases hx with rfl | rfl <;> cases List.mem_singleton.1 hu
  have hinside : (Point.rule n ctx path x v).Inside (Territory.keeping resolve) := by
    refine ⟨?_, howner, fun ref href => hreferences ref ?_⟩
    · rcases hx with rfl | rfl
      · exact Rule.every_includes.2 hevery
      · exact Rule.every_excludes.2 hevery
    · rcases hx with rfl | rfl <;> rwa [Rule.references] at href
  exact Point.check_store hinside

end Kept

/-! ## Descriptions by themselves -/

section Alone

variable (resolve : Resolver) (n : Nat) (ctx : Context) (path : Path) (σ : Store)

/-- A description by itself finds nothing about an item as it stands in a store. -/
def PropertyChecker.Accepts (c : PropertyChecker) (item : Value) : Prop :=
  ∃ x s, (c.collect (follow resolve n) ctx path true none item).ending { store := σ } = (.ok ([], x), s)

/-- A description by itself ends in no fault on an item as it stands in a store. -/
def PropertyChecker.Answers (c : PropertyChecker) (item : Value) : Prop :=
  ∃ x s, (c.collect (follow resolve n) ctx path true none item).ending { store := σ } = (.ok x, s)

variable {resolve n ctx path σ}

/-- In any run with this store a description says what it says by itself. -/
theorem PropertyChecker.judgesItem {c : PropertyChecker} (hc : ∀ u, c.LeadsTo resolve u → u.Keeps) {item : Value} :
    c.JudgesItem σ (follow resolve n) ctx path item (c.Accepts resolve n ctx path σ item)
      (¬ c.Answers resolve n ctx path σ item) := by
  intro r hr
  have hstore : ((c.collect (follow resolve n) ctx path true none item).ending r).2.store = r.store := by
    have hinside : (Point.property n ctx path true none c item).Inside (Territory.keeping resolve) :=
      ⟨fun _ hd _ hu _ hw => hc _ (.inside hd hu hw), fun _ href _ hu _ hw => hc _ (.named href hu hw)⟩
    rw [← Point.check_property_run]
    exact Point.check_store hinside
  have halike : Alike ((c.collect (follow resolve n) ctx path true none item).ending { store := σ })
      ((c.collect (follow resolve n) ctx path true none item).ending r) := c.collect_alike hr
  unfold PropertyChecker.Accepts PropertyChecker.Answers
  generalize (c.collect (follow resolve n) ctx path true none item).ending { store := σ } = alone at halike
  generalize (c.collect (follow resolve n) ctx path true none item).ending r = here at halike hstore
  cases halike with
  | fault => exact .fault fun ⟨_, _, h⟩ => by cases h
  | @done x s s' =>
      refine .done (hstore.trans hr) (fun h => h ⟨_, _, rfl⟩) ⟨fun hfound => ?_, fun ⟨_, _, h⟩ => ?_⟩
      · obtain ⟨found, x⟩ := x
        obtain rfl : found = [] := hfound
        exact ⟨_, _, rfl⟩
      · cases h
        rfl

end Alone

/-! ## Verdicts on the items of an array -/

/-- What is found about the items of an array, one after the other, where something is found about an item exactly if it is
rejected. -/
inductive Verdicts (path : Path) (rejects : Path → Value → Prop) : Nat → List Value → Findings → Prop
  | nil {i : Nat} : Verdicts path rejects i [] []
  | cons {i : Nat} {item : Value} {rest : List Value} {found others : Findings}
      (verdict : found ≠ [] ↔ rejects (path.index i) item) (after : Verdicts path rejects (i + 1) rest others) :
      Verdicts path rejects i (item :: rest) (found ++ others)

section Verdicts

variable {path : Path} {σ : Store}

/-- Where each item is judged, verdicts are found, or one of the items gives cause for a fault. -/
theorem eachItem_verdicts {check : Path → Value → Check Findings} (rejects faulty : Path → Value → Prop) {items : List Value}
    (h : ∀ p, ∀ item ∈ items, Judges σ (check p item) Clean (¬ rejects p item) (faulty p item)) (i : Nat) :
    Judges σ (eachItem path check i items) (Verdicts path rejects i items) True
      (∃ j item, items[j]? = some item ∧ faulty (path.index (i + j)) item) := by
  induction items generalizing i with
  | nil => exact .pure ⟨fun _ => trivial, fun _ => .nil⟩ fun ⟨_, _, h, _⟩ => nomatch h
  | cons item rest ih =>
      unfold eachItem
      refine (h _ item (List.mem_cons_self ..)).bind (fun hf => ⟨0, item, rfl, hf⟩) fun found hsound hfound => ?_
      refine (ih (fun p x hx => h p x (List.mem_cons_of_mem _ hx)) (i + 1)).bind ?_ fun others hsound' hothers => ?_
      · rintro ⟨j, x, hx, hf⟩
        refine ⟨j + 1, x, hx, ?_⟩
        rwa [Nat.add_right_comm] at hf
      · refine .pure ⟨fun _ => trivial, fun _ => .cons ?_ (hothers.2 trivial)⟩ ?_
        · exact (not_congr hfound).trans not_not
        · rintro ⟨j, x, hx, hf⟩
          cases j with
          | zero =>
              obtain rfl := Option.some.inj hx
              exact hsound hf
          | succ j =>
              refine hsound' ⟨j, x, hx, ?_⟩
              rwa [Nat.add_right_comm]

variable {resolve : Resolver} {n : Nat} {ctx : Context} {elements : List PropertyChecker}

/-- Each description says of an item what it says by itself. -/
theorem PropertyChecker.AllKeep.judge_item (h : PropertyChecker.AllKeep resolve elements) (p : Path) (item : Value) :
    List.Forall₂ (fun c d => d.JudgesItem σ (follow resolve n) ctx p item (c.Accepts resolve n ctx p σ item)
      (¬ c.Answers resolve n ctx p σ item)) elements elements :=
  List.forall₂_same.2 fun c hc => PropertyChecker.judgesItem (h c hc)

/-- An item that is to pass one of some descriptions. -/
theorem Rule.includesItem_judges (h : PropertyChecker.AllKeep resolve elements) (p : Path) (item : Value) :
    Judges σ (Rule.includesItem (follow resolve n) ctx elements p item) Clean
      (¬ ¬ ∃ c ∈ elements, c.Accepts resolve n ctx p σ item) (∃ c ∈ elements, ¬ c.Answers resolve n ctx p σ item) := by
  unfold Rule.includesItem
  refine (PropertyChecker.attempts_judges (h.judge_item p item)).bind id fun attempts hsound hattempts => .pure ?_ hsound
  rw [not_not, ← hattempts]
  split
  · next hany => exact ⟨fun _ => hany, fun _ => rfl⟩
  · next hany => exact ⟨fun h => absurd h (noMatch_ne_nil hany), fun h => absurd h hany⟩

/-- An item that is to pass none of some descriptions. -/
theorem Rule.excludesItem_judges (h : PropertyChecker.AllKeep resolve elements) (p : Path) (item : Value) :
    Judges σ (Rule.excludesItem (follow resolve n) ctx elements p item) Clean
      (¬ ∃ c ∈ elements, c.Accepts resolve n ctx p σ item)
      (BadFirst (fun c => c.Accepts resolve n ctx p σ item) (fun c => ¬ c.Answers resolve n ctx p σ item) elements) := by
  unfold Rule.excludesItem
  refine (PropertyChecker.someAccepts_judges (h.judge_item p item)).bind id fun matched hsound hmatched => .pure ?_ hsound
  rw [← hmatched]
  split
  · next hmatch => exact ⟨fun h => absurd h (List.cons_ne_nil _ _), fun h => absurd hmatch h⟩
  · next hmatch => exact ⟨fun _ => hmatch, fun _ => rfl⟩

/-- An array that is to include elements is faulted for the items that no description accepts. -/
theorem Rule.includes_verdicts (h : PropertyChecker.AllKeep resolve elements) {v : Value} :
    Judges σ ((Rule.includes elements).run (follow resolve n) ctx path v)
      (Verdicts path (fun p item => ¬ ∃ c ∈ elements, c.Accepts resolve n ctx p σ item) 0 ((σ.items? v).getD [])) True
      (∃ j item, ((σ.items? v).getD [])[j]? = some item ∧
        ∃ c ∈ elements, ¬ c.Answers resolve n ctx (path.index (0 + j)) σ item) := by
  rw [Rule.run_includes]
  exact .store (eachItem_verdicts _ (fun p item => ∃ c ∈ elements, ¬ c.Answers resolve n ctx p σ item)
    (fun p item _ => Rule.includesItem_judges h p item) 0)

/-- An array that is to exclude elements is faulted for the items that some description accepts. -/
theorem Rule.excludes_verdicts (h : PropertyChecker.AllKeep resolve elements) {v : Value} :
    Judges σ ((Rule.excludes elements).run (follow resolve n) ctx path v)
      (Verdicts path (fun p item => ∃ c ∈ elements, c.Accepts resolve n ctx p σ item) 0 ((σ.items? v).getD [])) True
      (∃ j item, ((σ.items? v).getD [])[j]? = some item ∧
        BadFirst (fun c => c.Accepts resolve n ctx (path.index (0 + j)) σ item)
          (fun c => ¬ c.Answers resolve n ctx (path.index (0 + j)) σ item) elements) := by
  rw [Rule.run_excludes]
  exact .store (eachItem_verdicts _ (fun p item => BadFirst (fun c => c.Accepts resolve n ctx p σ item)
    (fun c => ¬ c.Answers resolve n ctx p σ item) elements) (fun p item _ => Rule.excludesItem_judges h p item) 0)

/-- A check that was meant to pass does so, unless there is cause for a fault. -/
theorem Judged.result {α : Type} {passes : α → Prop} {F : Prop} {x : Except Fault α × Run} (h : Judged σ passes True F x) :
    (∀ a, x.1 = .ok a → passes a) ∧ (¬ F → ∃ a, x.1 = .ok a) := by
  cases h with
  | fault hf => exact ⟨nofun, fun h => absurd hf h⟩
  | @done a _ _ _ hpasses =>
      refine ⟨fun b hb => ?_, fun _ => ⟨a, rfl⟩⟩
      cases hb
      exact hpasses.2 trivial

theorem BadFirst.exists {α : Type} {good bad : α → Prop} {xs : List α} (h : BadFirst good bad xs) : ∃ x ∈ xs, bad x := by
  induction h with
  | here hx => exact ⟨_, List.mem_cons_self .., hx⟩
  | later _ _ ih =>
      obtain ⟨x, hx, hbad⟩ := ih
      exact ⟨x, List.mem_cons_of_mem _ hx, hbad⟩

end Verdicts

/-- **When descriptions are tried on the item as supplied.** Take descriptions of elements that lead to types which neither
strip keys nor save conversions. In any order of them and at any place of a run, an array that is to include elements is
faulted exactly for the items that none of the descriptions accepts by itself, and one that is to exclude elements exactly
for those that some description accepts by itself. The store is left as it is, and there is a result if each description by
itself ends in no fault on any item. -/
theorem Rule.trials_alone {resolve : Resolver} {elements : List PropertyChecker}
    (hkeep : ∀ c ∈ elements, ∀ u, c.LeadsTo resolve u → u.Keeps) {order : List PropertyChecker} (horder : order.Perm elements)
    {n : Nat} {ctx : Context} {path : Path} {v : Value} {r : Run} :
    let items := (r.store.items? v).getD []
    let accepted (p : Path) (item : Value) := ∃ c ∈ elements, c.Accepts resolve n ctx p r.store item
    let includes := ((Rule.includes order).run (follow resolve n) ctx path v).ending r
    let excludes := ((Rule.excludes order).run (follow resolve n) ctx path v).ending r
    (includes.2.store = r.store ∧ excludes.2.store = r.store) ∧
    (∀ found, includes.1 = .ok found → Verdicts path (fun p item => ¬ accepted p item) 0 items found) ∧
    (∀ found, excludes.1 = .ok found → Verdicts path accepted 0 items found) ∧
    ((∀ c ∈ elements, ∀ i item, items[i]? = some item → c.Answers resolve n ctx (path.index i) r.store item) →
      (∃ found, includes.1 = .ok found) ∧ ∃ found, excludes.1 = .ok found) := by
  intro items accepted includes excludes
  have hall : PropertyChecker.AllKeep resolve order := fun c hc => hkeep c (horder.mem_iff.1 hc)
  have haccepted : accepted = fun p item => ∃ c ∈ order, c.Accepts resolve n ctx p r.store item := by
    funext p item
    exact propext (exists_congr fun c => and_congr_left fun _ => horder.mem_iff.symm)
  rw [haccepted]
  have hincludes : Judged r.store _ True _ includes := Rule.includes_verdicts hall r rfl
  have hexcludes : Judged r.store _ True _ excludes := Rule.excludes_verdicts hall r rfl
  refine ⟨⟨hall.run_store (.inl rfl), hall.run_store (.inr rfl)⟩, hincludes.result.1, hexcludes.result.1, fun hanswers => ?_⟩
  have hsound : ∀ (j : Nat) item, items[j]? = some item → ∀ c ∈ order, c.Answers resolve n ctx (path.index (0 + j)) r.store item := by
    intro j item hitem c hc
    rw [Nat.zero_add]
    exact hanswers c (horder.mem_iff.1 hc) j item hitem
  refine ⟨hincludes.result.2 ?_, hexcludes.result.2 ?_⟩
  · rintro ⟨j, item, hitem, c, hc, hfault⟩
    exact hfault (hsound j item hitem c hc)
  · rintro ⟨j, item, hitem, hbad⟩
    obtain ⟨c, hc, hfault⟩ := hbad.exists
    exact hfault (hsound j item hitem c hc)

/-! A list of two mappings and a text. One description has a type in place, and the other one names it. -/

def tagChecker : PropertyChecker := { PropertyChecker.ofKind .any with required := true }

/-- The type of mappings with a key that has to be there. -/
def taggedChecker : TypeChecker := ⟨[("tag", tagChecker)], {}⟩

def taggedRef : TypeRef := (TypeRef.make? "ns://parts" "1.0.0" "Tagged").get (by decide +kernel)

def taggedInPlace : PropertyChecker := { PropertyChecker.ofKind .object with rules := [.inlineType taggedChecker] }

def taggedByName : PropertyChecker := { PropertyChecker.ofKind .object with rules := [.reference taggedRef] }

def taggedTypes : Resolver := fun _ => some taggedChecker

theorem taggedChecker_reaches {u : TypeChecker} (h : taggedChecker.Reaches taggedTypes u) : u = taggedChecker :=
  h.eq_self (fun _ _ hw => (Option.some.inj hw).symm) (by decide)

theorem tagged_leadsTo {c : PropertyChecker} (hc : c ∈ [taggedInPlace, taggedByName]) {u : TypeChecker}
    (h : c.LeadsTo taggedTypes u) : u = taggedChecker := by
  cases h with
  | named _ hw hu =>
    cases hw
    exact taggedChecker_reaches hu
  | @inside d w _ hd hw hu =>
    have hplace : taggedInPlace.checkers = [taggedInPlace, tagChecker] := rfl
    have hname : taggedByName.checkers = [taggedByName] := rfl
    have hw' : w = taggedChecker := by
      simp only [List.mem_cons, List.not_mem_nil, or_false] at hc
      rcases hc with rfl | rfl
      · rw [hplace, List.mem_pair] at hd
        rcases hd with rfl | rfl
        · exact Rule.inlineType.inj (List.mem_singleton.1 hw)
        · cases hw
      · rw [hname, List.mem_singleton] at hd
        subst hd
        cases List.mem_singleton.1 hw
    exact taggedChecker_reaches (hw' ▸ hu)

def taggedList : Run :=
  { store := ⟨#[.list [.container 1, .container 2, .scalar (.text "a")], .mapping [(.text "tag", .scalar (.int 1))], .mapping []]⟩ }

theorem taggedList_trials_alone :
    let elements := [taggedInPlace, taggedByName]
    let order := [taggedByName, taggedInPlace]
    let ctx : Context := { maxDepth := 3 }
    let items := (taggedList.store.items? (.container 0)).getD []
    let accepted (p : Path) (item : Value) := ∃ c ∈ elements, c.Accepts taggedTypes 3 ctx p taggedList.store item
    let includes := ((Rule.includes order).run (follow taggedTypes 3) ctx {} (.container 0)).ending taggedList
    let excludes := ((Rule.excludes order).run (follow taggedTypes 3) ctx {} (.container 0)).ending taggedList
    (∀ c ∈ elements, c.LeadsTo taggedTypes taggedChecker) ∧
    (includes.1.map fun found => found.map fun f => f.path.text) = .ok ["[1]", "[2]"] ∧
    (includes.2.store = taggedList.store ∧ excludes.2.store = taggedList.store) ∧
    (∀ found, includes.1 = .ok found → Verdicts {} (fun p item => ¬ accepted p item) 0 items found) ∧
    (∀ found, excludes.1 = .ok found → Verdicts {} accepted 0 items found) ∧
    ((∀ c ∈ elements, ∀ i item, items[i]? = some item → c.Answers taggedTypes 3 ctx (Path.index {} i) taggedList.store item) →
      (∃ found, includes.1 = .ok found) ∧ ∃ found, excludes.1 = .ok found) := by
  refine ⟨?_, by decide +kernel, Rule.trials_alone (fun c hc u hu => ?_) (List.Perm.swap ..)⟩
  · rintro c hc
    simp only [List.mem_cons, List.not_mem_nil, or_false] at hc
    rcases hc with rfl | rfl
    · exact .inside (List.mem_cons_self ..) (List.mem_singleton_self _) .refl
    · exact .named (List.mem_singleton_self taggedRef) rfl .refl
  · rw [tagged_leadsTo hc hu]
    exact ⟨rfl, rfl⟩

/-! Two types for one item: the first one strips keys and is not met, and the second one asks for what was stripped. -/

/-- A type of mappings with one key that has to be there. -/
def keyedData (strips : Bool) (key : String) : Datum :=
  .record [("stripExtraKeys", .bool strips), ("properties", .record [(key, .record [("type", .text "Any"),
    ("constraints", .list [.record [("method", .text "required"), ("args", .list [])]])])])]

def strippingType : ObjectType := (ObjectType.ofDatum? (keyedData true "y")).get (by decide +kernel)

def stayingType : ObjectType := (ObjectType.ofDatum? (keyedData false "x")).get (by decide +kernel)

def keyedTypes : Resolver := fun ref =>
  if ref.name = "Stripping" then some strippingType.checker
  else if ref.name = "Staying" then some stayingType.checker
  else none

/-- A type of mappings with a list of mappings, each of one of some named types. -/
def eitherData (names : List String) : Datum :=
  .record [("properties", .record [("a", .record [("type", .text "Array"), ("constraints", .list [.record
    [("method", .text "includes"), ("args", .list (names.map fun name => .record [("type", .text "Object"),
      ("constraints", .list [.record [("method", .text "objectSchemaType"), ("args", .list [.record
        [("namespace", .text "ns://parts"), ("version", .text "1.0.0"), ("type", .text name)]])]])]))]])])])]

def eitherType (names : List String) (h : (ObjectType.ofDatum? (eitherData names)).isSome = true) : ObjectType :=
  (ObjectType.ofDatum? (eitherData names)).get h

def keyedWork : Workspace where
  clock := ⟨default, ""⟩
  files := ⟨"/", []⟩
  store := ⟨#[.mapping [(.text "a", .container 1)], .list [.container 2], .mapping [(.text "x", .scalar (.int 1))]]⟩

/-- Whether the item passes depends on the order: by itself the second description accepts it, but not after the first. -/
theorem eitherType_order :
    let validated (t : ObjectType) := ((Work.validate t keyedTypes (some 64) (.container 0)).ending keyedWork).1
    validated (eitherType ["Staying"] (by decide +kernel)) = .ok () ∧
      validated (eitherType ["Staying", "Stripping"] (by decide +kernel)) = .ok () ∧
      validated (eitherType ["Stripping", "Staying"] (by decide +kernel)) ≠ .ok () := by
  intro validated
  refine ⟨Except.isOk_iff.1 (by decide +kernel), Except.isOk_iff.1 (by decide +kernel), fun hok => ?_⟩
  have hfailed : (validated (eitherType ["Stripping", "Staying"] (by decide +kernel))).isOk = false := by decide +kernel
  exact Bool.false_ne_true (hfailed.symm.trans (Except.isOk_iff.2 hok))

end ShapeCheck
