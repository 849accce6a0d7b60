import Mathlib.Data.List.TakeWhile
import ShapeCheck.Pattern.Search

/-!
# Plain patterns

A plain pattern is one that has to match from the start of a text on and asks for nothing but single characters, greedy
repetitions of them, and the end of the text. The words that it is for are described without any order of trying, by
`PlainStep.Words`, and `Program.search_plain_iff` says that a search finds a match exactly in these. Greediness gives back
character by character, so a repetition succeeds if the rest does behind some shorter run, `takes_many`.
-/

namespace ShapeCheck.Pattern

/-! ## Words -/

/-- A step of a plain pattern. -/
inductive PlainStep where
  | one (test : CharTest)
  | finish
  | many (test : CharTest) (least : Nat) (follower : Option Nat)
deriving DecidableEq

namespace PlainStep

def step : PlainStep → Step
  | one test => .one test
  | finish => .at (.finish false)
  | many test least follower => .repeatOne .greedy test least none follower

/-- The words that some steps match the beginnings of. -/
def Words : List PlainStep → List Nat → Prop
  | [], _ => True
  | one test :: rest, w => ∃ c v, w = c :: v ∧ test.accepts c = true ∧ Words rest v
  | finish :: rest, w => (w = [] ∨ w = [10]) ∧ Words rest w
  | many test least _ :: rest, w =>
    ∃ u v, w = u ++ v ∧ least ≤ u.length ∧ (∀ c ∈ u, test.accepts c = true) ∧ Words rest v

/-- The least number of characters that some steps match. -/
def least : List PlainStep → Nat
  | [] => 0
  | one _ :: rest => 1 + least rest
  | finish :: rest => least rest
  | many _ n _ :: rest => n + least rest

/-- Where a repetition knows which code point follows, the next step asks for it. -/
def followed : List PlainStep → Bool
  | [] => true
  | many _ _ (some c) :: rest => rest.head? == some (one (.code false c)) && followed rest
  | _ :: rest => followed rest

theorem Words.least_le {steps : List PlainStep} {w : List Nat} (h : Words steps w) : least steps ≤ w.length := by
  induction steps generalizing w with
  | nil => exact Nat.zero_le _
  | cons s rest ih =>
      cases s with
      | one test =>
          obtain ⟨c, v, rfl, _, hv⟩ := h
          have hrest := ih hv
          simp only [least, List.length_cons]
          omega
      | finish => exact ih h.2
      | many test n follower =>
          obtain ⟨u, v, rfl, hn, _, hv⟩ := h
          have hrest := ih hv
          simp only [least, List.length_append]
          omega

end PlainStep

def Step.plain? : Step → Option PlainStep
  | .one test => some (.one test)
  | .at (.finish false) => some .finish
  | .repeatOne .greedy test least none follower => some (.many test least follower)
  | _ => none

theorem Step.eq_of_plain? {s : Step} {x : PlainStep} (h : s.plain? = some x) : s = x.step := by
  unfold plain? at h
  split at h
  · cases h
    rfl
  · cases h
    rfl
  · cases h
    rfl
  · cases h

theorem steps_of_plain? {steps : List Step} {xs : List PlainStep} (h : steps.mapM Step.plain? = some xs) :
    steps = xs.map PlainStep.step := by
  induction steps generalizing xs with
  | nil =>
      cases h
      rfl
  | cons s rest ih =>
      rw [List.mapM_cons] at h
      obtain ⟨x, hx, h⟩ := Option.bind_eq_some_iff.1 h
      obtain ⟨ys, hys, h⟩ := Option.bind_eq_some_iff.1 h
      cases h
      rw [List.map_cons, ← Step.eq_of_plain? hx, ← ih hys]

/-- The steps of a plain pattern behind the one that asks for the start of the text. -/
def Program.plain? (program : Program) : Option (List PlainStep) :=
  match program.steps, program.opener with
  | .at (.start false) :: steps, .free => steps.mapM Step.plain?
  | _, _ => none

theorem Program.eq_of_plain? {program : Program} {steps : List PlainStep} (h : program.plain? = some steps) :
    program.steps = .at (.start false) :: steps.map PlainStep.step ∧ program.opener = .free := by
  unfold plain? at h
  split at h
  · next rest hsteps hopener =>
    rw [hsteps, steps_of_plain? h]
    exact ⟨rfl, hopener⟩
  · cases h

/-! ## What the rest of a match takes -/

/-- An attempt that fills no slots succeeds exactly if something is so. -/
def Outcome.Tells (outcome : Outcome) (what : Prop) : Prop :=
  ∃ q : Progress, q.slots = [] ∧ (what ∧ outcome = .matched q ∨ ¬ what ∧ outcome = .failed q)

namespace Outcome.Tells

variable {outcome : Outcome} {what other : Prop}

theorem matched {q : Progress} (hq : q.slots = []) (h : what) : (Outcome.matched q).Tells what := ⟨q, hq, .inl ⟨h, rfl⟩⟩

theorem failed {q : Progress} (hq : q.slots = []) (h : ¬ what) : (Outcome.failed q).Tells what := ⟨q, hq, .inr ⟨h, rfl⟩⟩

theorem congr (h : outcome.Tells what) (heq : what ↔ other) : outcome.Tells other := by
  rwa [← propext heq]

end Outcome.Tells

/-- From a place of a text on, the rest of a match succeeds exactly if a word of a language is left. -/
def Takes (text : List Nat) (rest : Rest) (language : List Nat → Prop) : Prop :=
  ∀ before after, text = before ++ after → ∀ p : Progress, p.slots = [] → (rest before.length p).Tells (language after)

section Takes

variable {text : List Nat} {rest : Rest} {language : List Nat → Prop} {inRound : Bool}

theorem getElem?_behind {before after : List Nat} : (before ++ after).toArray[before.length]? = after.head? := by
  rw [List.getElem?_toArray, List.getElem?_append_right (Nat.le_refl _), Nat.sub_self, List.head?_eq_getElem?]

theorem undo_slots {p : Progress} : (p.undo inRound []).slots = [] := by
  unfold Progress.undo
  cases inRound <;> simp

theorem takes_finished : Takes text finished fun _ => True :=
  fun before _ _ p hp => .matched (q := p.goto before.length) hp trivial

theorem takes_one {test : CharTest} (h : Takes text rest language) :
    Takes text ((Step.one test).run text.toArray inRound rest) fun w =>
      ∃ c v, w = c :: v ∧ test.accepts c = true ∧ language v := by
  intro before after htext p hp
  subst htext
  rw [Step.run]
  dsimp only
  rw [getElem?_behind]
  cases after with
  | nil =>
      refine .failed hp ?_
      rintro ⟨c, v, hw, _, _⟩
      cases hw
  | cons c v =>
      have hrest := h (before ++ [c]) v (by simp) p hp
      rw [List.length_append, List.length_singleton] at hrest
      rw [List.head?_cons]
      dsimp only
      by_cases hc : test.accepts c = true
      · rw [if_pos hc]
        refine hrest.congr ⟨fun hv => ⟨c, v, rfl, hc, hv⟩, ?_⟩
        rintro ⟨_, _, heq, _, hv⟩
        cases heq
        exact hv
      · rw [if_neg hc]
        refine .failed hp ?_
        rintro ⟨_, _, heq, hc', _⟩
        cases heq
        exact hc hc'

theorem finish_holds_iff {before after : List Nat} :
    (Anchor.finish false).holds (before ++ after).toArray before.length = true ↔ after = [] ∨ after = [10] := by
  unfold Anchor.holds
  rw [getElem?_behind]
  rcases after with _ | ⟨c, _ | ⟨d, v⟩⟩
  · simp
  · simp
  · simp

theorem takes_finish (h : Takes text rest language) :
    Takes text ((Step.at (.finish false)).run text.toArray inRound rest) fun w => (w = [] ∨ w = [10]) ∧ language w := by
  intro before after htext p hp
  subst htext
  rw [Step.run]
  dsimp only
  by_cases hend : after = [] ∨ after = [10]
  · rw [if_pos (finish_holds_iff.2 hend)]
    exact (h before after rfl p hp).congr ⟨fun hv => ⟨hend, hv⟩, fun hw => hw.2⟩
  · rw [if_neg fun hholds => hend (finish_holds_iff.1 hholds)]
    exact .failed hp fun hw => hend hw.1

/-- A run goes on as long as characters pass. -/
theorem run_eq {test : CharTest} {before after : List Nat} :
    run (before ++ after).toArray test before.length after.length = (after.takeWhile test.accepts).length := by
  induction after generalizing before with
  | nil => rfl
  | cons c v ih =>
      rw [List.length_cons, run, getElem?_behind, List.head?_cons]
      dsimp only
      have hrest : run (before ++ c :: v).toArray test (before.length + 1) v.length = (v.takeWhile test.accepts).length := by
        have hnext := @ih (before ++ [c])
        rwa [List.append_assoc, List.length_append, List.length_singleton] at hnext
      by_cases hc : test.accepts c = true
      · rw [if_pos hc, hrest, List.takeWhile_cons_of_pos hc, List.length_cons]
      · rw [if_neg hc, List.takeWhile_cons_of_neg hc, List.length_nil]

/-- Trying the rest behind a run, unless it is known to fail there, and then behind the shorter ones. -/
theorem attempt_tells {least n : Nat} {before after : List Nat} {skips : Bool} {shorter : Progress → Outcome}
    (h : Takes text rest language) (htext : text = before ++ after) (hn : n ≤ after.length)
    (hskips : skips = true → ¬ language (after.drop n)) (p : Progress) (hp : p.slots = [])
    (hshorter : ∀ q : Progress, q.slots = [] → (shorter q).Tells (∃ m, least ≤ m ∧ m < n ∧ language (after.drop m))) :
    (if n < least then Outcome.failed p
      else if skips then shorter p
      else
        match rest (before.length + n) (p.goto (before.length + n)) with
        | .matched q => .matched q
        | .failed q => shorter (q.undo inRound p.slots)).Tells
      (∃ m, least ≤ m ∧ m ≤ n ∧ language (after.drop m)) := by
  have hplace : before.length + n = (before ++ after.take n).length := by
    rw [List.length_append, List.length_take_of_le hn]
  have hsplit : text = (before ++ after.take n) ++ after.drop n := by
    rw [List.append_assoc, List.take_append_drop, htext]
  by_cases hleast : n < least
  · rw [if_pos hleast]
    refine .failed hp ?_
    rintro ⟨m, hm, hmn, _⟩
    omega
  rw [if_neg hleast]
  have hlast : ¬ language (after.drop n) →
      ((∃ m, least ≤ m ∧ m < n ∧ language (after.drop m)) ↔ ∃ m, least ≤ m ∧ m ≤ n ∧ language (after.drop m)) := by
    intro hnot
    constructor
    · rintro ⟨m, hm, hmn, hrest⟩
      exact ⟨m, hm, by omega, hrest⟩
    · rintro ⟨m, hm, hmn, hrest⟩
      have hne : m ≠ n := by
        rintro rfl
        exact hnot hrest
      exact ⟨m, hm, by omega, hrest⟩
  by_cases hskip : skips = true
  · rw [if_pos hskip]
    exact (hshorter p hp).congr (hlast (hskips hskip))
  · rw [if_neg hskip]
    obtain ⟨q, hq, ⟨hrest, houtcome⟩ | ⟨hrest, houtcome⟩⟩ := h _ _ hsplit (p.goto (before.length + n)) hp
    · rw [← hplace] at houtcome
      rw [houtcome]
      exact .matched hq ⟨n, by omega, Nat.le_refl _, hrest⟩
    · rw [← hplace] at houtcome
      rw [houtcome, hp]
      exact (hshorter _ undo_slots).congr (hlast hrest)

/-- A run is passed over only if the code point that has to follow does not come behind it. -/
theorem not_language_of_skipped {follower : Option Nat} {before after : List Nat} {n : Nat}
    (hskips : (match follower with
      | some c => text.toArray[before.length + n]? != some c
      | none => false) = true)
    (hfollower : ∀ c ∈ follower, ∀ w, language w → w.head? = some c) (htext : text = before ++ after) :
    ¬ language (after.drop n) := by
  intro hrest
  cases follower with
  | none => cases hskips
  | some c =>
      have hplace : text.toArray[before.length + n]? = (after.drop n).head? := by
        rw [htext, List.getElem?_toArray, List.getElem?_append_right (Nat.le_add_right ..), Nat.add_sub_cancel_left,
          List.head?_drop]
      dsimp only at hskips
      rw [hplace, hfollower c rfl _ hrest, bne_self_eq_false] at hskips
      cases hskips

/-- Giving back succeeds if the rest does behind some run that is long enough. The induction is on the length of the run. -/
theorem giveBack_tells {follower : Option Nat} {least : Nat} {before after : List Nat} (h : Takes text rest language)
    (hfollower : ∀ c ∈ follower, ∀ w, language w → w.head? = some c) (htext : text = before ++ after) (n : Nat)
    (hn : n ≤ after.length) (p : Progress) (hp : p.slots = []) :
    (giveBack text.toArray inRound follower rest before.length least n p).Tells
      (∃ m, least ≤ m ∧ m ≤ n ∧ language (after.drop m)) := by
  induction n generalizing p with
  | zero =>
      have hshorter : ∀ q : Progress, q.slots = [] →
          (Outcome.failed q).Tells (∃ m, least ≤ m ∧ m < 0 ∧ language (after.drop m)) := by
        intro q hq
        refine .failed hq ?_
        rintro ⟨m, _, hm, _⟩
        omega
      unfold giveBack
      exact attempt_tells h htext hn (fun hskips => not_language_of_skipped hskips hfollower htext) p hp hshorter
  | succ n ih =>
      have hshorter : ∀ q : Progress, q.slots = [] →
          (giveBack text.toArray inRound follower rest before.length least n q).Tells
            (∃ m, least ≤ m ∧ m < n + 1 ∧ language (after.drop m)) := by
        intro q hq
        refine (ih (by omega) q hq).congr ?_
        simp only [Nat.lt_succ_iff]
      unfold giveBack
      exact attempt_tells h htext hn (fun hskips => not_language_of_skipped hskips hfollower htext) p hp hshorter

/-- What is left behind a part of the longest run of characters that pass is what is left behind any run of such. -/
theorem exists_run_iff {test : CharTest} {least : Nat} {w : List Nat} :
    (∃ m, least ≤ m ∧ m ≤ (w.takeWhile test.accepts).length ∧ language (w.drop m)) ↔
      ∃ u v, w = u ++ v ∧ least ≤ u.length ∧ (∀ c ∈ u, test.accepts c = true) ∧ language v := by
  constructor
  · rintro ⟨m, hleast, hm, hrest⟩
    refine ⟨w.take m, w.drop m, (List.take_append_drop m w).symm, ?_, ?_, hrest⟩
    · have hlength := (List.takeWhile_prefix test.accepts (l := w)).length_le
      rw [List.length_take]
      omega
    · intro c hc
      have htaken : w.take m <+: w.takeWhile test.accepts :=
        List.prefix_of_prefix_length_le (List.take_prefix m w) (List.takeWhile_prefix _) (by rw [List.length_take]; omega)
      exact List.mem_takeWhile_imp (htaken.subset hc)
  · rintro ⟨u, v, rfl, hleast, hu, hrest⟩
    refine ⟨u.length, hleast, ?_, by rwa [List.drop_left]⟩
    rw [List.takeWhile_append_of_pos hu, List.length_append]
    omega

theorem takes_many {test : CharTest} {least : Nat} {follower : Option Nat} (h : Takes text rest language)
    (hfollower : ∀ c ∈ follower, ∀ w, language w → w.head? = some c) :
    Takes text ((Step.repeatOne .greedy test least none follower).run text.toArray inRound rest) fun w =>
      ∃ u v, w = u ++ v ∧ least ≤ u.length ∧ (∀ c ∈ u, test.accepts c = true) ∧ language v := by
  intro before after htext p hp
  have hsize : text.toArray.size = before.length + after.length := by
    rw [htext, List.size_toArray, List.length_append]
  rw [Step.run]
  dsimp only
  by_cases hshort : text.toArray.size < before.length + least
  · rw [if_pos hshort]
    refine .failed hp ?_
    rintro ⟨u, v, hw, hleast, _, _⟩
    rw [hw, List.length_append] at hsize
    omega
  · rw [if_neg hshort]
    have hrun : (runFrom text.toArray test before.length none).1 = (after.takeWhile test.accepts).length := by
      unfold runFrom
      dsimp only
      rw [hsize, Nat.add_sub_cancel_left, htext, run_eq]
    rw [hrun]
    have hbound : (after.takeWhile test.accepts).length ≤ after.length := (List.takeWhile_prefix test.accepts).length_le
    exact (giveBack_tells h hfollower htext _ hbound (p.goto (runFrom text.toArray test before.length none).2) hp).congr
      exists_run_iff

end Takes

/-! ## Searching -/

namespace PlainStep

/-- The word behind a repetition begins with the code point that is known to follow. -/
theorem Words.head?_eq {steps : List PlainStep} {c : Nat} {w : List Nat} (hnext : steps.head? = some (one (.code false c)))
    (h : Words steps w) : w.head? = some c := by
  cases steps with
  | nil => cases hnext
  | cons s rest =>
      cases hnext
      obtain ⟨d, v, rfl, hd, _⟩ := h
      have heq : d = c := by simpa [CharTest.accepts] using hd
      rw [heq, List.head?_cons]

/-- Steps succeed exactly in the words that they are for. The induction is on the steps, with one case for each sort. -/
theorem takes_words {text : List Nat} {inRound : Bool} {steps : List PlainStep} (h : followed steps = true) :
    Takes text (runAll text.toArray inRound (steps.map step) finished) (Words steps) := by
  induction steps with
  | nil => exact takes_finished
  | cons s rest ih =>
      cases s with
      | one test => exact takes_one (ih h)
      | finish => exact takes_finish (ih h)
      | many test least follower =>
          cases follower with
          | none => exact takes_many (ih h) nofun
          | some c =>
              rw [followed, Bool.and_eq_true, beq_iff_eq] at h
              refine takes_many (ih h.2) fun d hd w hw => ?_
              cases hd
              exact hw.head?_eq h.1

end PlainStep

namespace Program

variable {program : Program} {steps : List PlainStep}

/-- Only the start of a text is a place where a plain pattern begins to match. -/
theorem searchFrom_plain (h : program.plain? = some steps) (text : Array Nat) (i n : Nat) :
    program.searchFrom text (i + 1) n = .missing := by
  obtain ⟨hsteps, _⟩ := eq_of_plain? h
  induction n generalizing i with
  | zero => rfl
  | succ n ih =>
      have hstart : (Anchor.start false).holds text (i + 1) = false := by
        simp [Anchor.holds]
      rw [searchFrom, hsteps, runAll, Step.run]
      simp only [hstart, Bool.false_eq_true, ↓reduceIte, ih, ite_self]

/-- A search for a plain pattern finds a match exactly in the texts that begin with a word of it. -/
theorem search_plain_iff (h : program.plain? = some steps) (hfollowed : PlainStep.followed steps = true)
    (hleast : program.least ≤ PlainStep.least steps) (s : String) :
    program.search s = .found ↔ PlainStep.Words steps ((Text.points s).map Text.CodePoint.code) := by
  obtain ⟨hsteps, hopener⟩ := eq_of_plain? h
  unfold search
  generalize (Text.points s).map Text.CodePoint.code = text
  dsimp only
  by_cases hshort : text.toArray.size < program.least
  · rw [if_pos hshort]
    refine ⟨nofun, fun hw => ?_⟩
    have hlength := hw.least_le
    rw [List.size_toArray] at hshort
    omega
  · rw [if_neg hshort, hopener, Opener.places]
    have htells := @PlainStep.takes_words text false _ hfollowed [] text rfl { place := 0 } rfl
    rw [List.length_nil] at htells
    have hplaces : ∃ n, text.toArray.size + 1 - (program.least - 1) = n + 1 := ⟨text.toArray.size - (program.least - 1), by omega⟩
    obtain ⟨n, hn⟩ := hplaces
    have hstart : (Anchor.start false).holds text.toArray 0 = true := rfl
    rw [hn, searchFrom, hopener, hsteps, runAll, Step.run]
    simp only [Opener.admits, hstart, ↓reduceIte]
    obtain ⟨q, _, ⟨hwords, houtcome⟩ | ⟨hwords, houtcome⟩⟩ := htells
    · rw [houtcome]
      simp only [hwords]
    · rw [houtcome]
      simp only [searchFrom_plain h, hwords, reduceCtorEq]

end Program

end ShapeCheck.Pattern
