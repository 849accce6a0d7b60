import ShapeCheck.Pattern.Program

/-!
# Searching for a pattern

A sequence of steps is tried at a place of a text and hands every way to match it, the preferred one first, to the rest of
the match, until one succeeds. What a failed attempt leaves behind is part of the rules: the slots that it has filled
are cleared from the first new one on, but a slot that was filled before gets its old value back only inside a repetition,
and a possessive repetition goes on from wherever its last round gave up. `Progress` therefore goes through failures too.

The functions recurse on the steps; only a repetition counts down its possible rounds. `Program.search` tries the places
of a text in turn.
-/

namespace ShapeCheck.Pattern

/-- How far a match has come. -/
structure Progress where
  /-- The place where the latest attempt began or came to an end. -/
  place : Nat
  /-- The slots filled so far. -/
  slots : List (Option Nat) := []
deriving DecidableEq, Repr

/-- Whether an attempt succeeds, and what it leaves behind. -/
inductive Outcome where
  | matched (p : Progress)
  | failed (p : Progress)
deriving DecidableEq, Repr

/-- The rest of a match, from a place on. -/
abbrev Rest := Nat → Progress → Outcome

namespace Progress

/-- The progress as seen from a place. -/
def goto (p : Progress) (i : Nat) : Progress := { p with place := i }

/-- Fills a slot; slots before it that are not filled stay empty. -/
def mark (p : Progress) (slot i : Nat) : Progress :=
  { p with slots :=
      if slot < p.slots.length then p.slots.set slot (some i)
      else p.slots ++ List.replicate (slot - p.slots.length) none ++ [some i] }

/-- The slots after an attempt that failed, given those before it. -/
def undo (p : Progress) (inRound : Bool) (before : List (Option Nat)) : Progress :=
  { p with slots := if inRound then before else p.slots.take before.length }

/-- Where a group begins and ends, if both are known. -/
def ends? (p : Progress) (group : Nat) : Option (Nat × Nat) :=
  match p.slots[2 * group]?, p.slots[2 * group + 1]? with
  | some (some first), some (some last) => some (first, last)
  | _, _ => none

/-- Where a group begins and ends, if it does so in this order. -/
def span? (p : Progress) (group : Nat) : Option (Nat × Nat) :=
  (p.ends? group).filter fun (first, last) => first ≤ last

end Progress

/-- An attempt that leaves a place behind if it fails. -/
def Outcome.backTo (i : Nat) : Outcome → Outcome
  | .failed p => .failed (p.goto i)
  | done => done

/-- The end of a match, or of a part that is matched by itself. -/
def finished : Rest := fun i p => .matched (p.goto i)

/-! ## Repeated tests -/

/-- Whether another round may follow so many. -/
def mayGoOn (most : Option Nat) (count : Nat) : Bool :=
  match most with
  | some m => count < m
  | none => true

/-- The number of characters from a place on that pass a test, up to a limit. -/
def run (text : Array Nat) (test : CharTest) (i : Nat) : Nat → Nat
  | 0 => 0
  | limit + 1 =>
    match text[i]? with
    | some c => if test.accepts c then run text test (i + 1) limit + 1 else 0
    | none => 0

/-- A run, and the place that it leaves behind. -/
def runFrom (text : Array Nat) (test : CharTest) (i : Nat) (most : Option Nat) : Nat × Nat :=
  let left := text.size - i
  let n := run text test i (match most with | some m => min m left | none => left)
  (n, if test.isLowerSet then i + n else i)

/-- Tries the rest behind ever shorter runs. -/
def giveBack (text : Array Nat) (inRound : Bool) (follower : Option Nat) (rest : Rest) (start least : Nat) :
    Nat → Progress → Outcome
  | n, p =>
    if n < least then .failed p
    else
      let skipped := match follower with
        | some c => text[start + n]? != some c
        | none => false
      let shorter (q : Progress) : Outcome :=
        match n with
        | 0 => .failed q
        | m + 1 => giveBack text inRound follower rest start least m q
      if skipped then shorter p
      else
        match rest (start + n) (p.goto (start + n)) with
        | .matched q => .matched q
        | .failed q => shorter (q.undo inRound p.slots)

/-- Tries the rest behind ever longer runs. `room` bounds the number of further characters. -/
def takeMore (text : Array Nat) (inRound : Bool) (test : CharTest) (most : Option Nat) (rest : Rest) (n i : Nat)
    (p : Progress) : Nat → Outcome
  | 0 => .failed p
  | room + 1 =>
    if n = 0 || mayGoOn most (n - 1) then
      match rest i (p.goto i) with
      | .matched q => .matched q
      | .failed q =>
        let q := q.undo inRound p.slots
        let (k, place) := runFrom text test i (some 1)
        if k = 0 then .failed (q.goto place)
        else takeMore text inRound test most rest (n + 1) (i + 1) (q.goto place) room
    else .failed p

/-! ## Repeated sequences -/

/-- Rounds of a repetition that prefers to go on. `count` rounds are over, and `last` is where the latest round began that
was not needed; a round like that must not begin where the one before it began. -/
def greedyRounds (body : Rest → Rest) (least : Nat) (most : Option Nat) (rest : Rest) :
    Nat → Nat → Option Nat → Rest
  | 0, _, _ => fun _ p => .failed p
  | fuel + 1, count, last => fun i p =>
    let p := p.goto i
    if count < least then (body (greedyRounds body least most rest fuel (count + 1) last) i p).backTo i
    else if mayGoOn most count && last != some i then
      match body (greedyRounds body least most rest fuel (count + 1) (some i)) i p with
      | .matched q => .matched q
      | .failed _ => (rest i p).backTo i
    else (rest i p).backTo i

/-- Rounds of a repetition that prefers to stop. -/
def lazyRounds (body : Rest → Rest) (inRound : Bool) (least : Nat) (most : Option Nat) (rest : Rest) :
    Nat → Nat → Option Nat → Rest
  | 0, _, _ => fun _ p => .failed p
  | fuel + 1, count, last => fun i p =>
    let p := p.goto i
    if count < least then (body (lazyRounds body inRound least most rest fuel (count + 1) last) i p).backTo i
    else
      match rest i p with
      | .matched q => .matched q
      | .failed q =>
        let q := (q.undo inRound p.slots).goto i
        if mayGoOn most count && last != some i then
          (body (lazyRounds body inRound least most rest fuel (count + 1) (some i)) i q).backTo i
        else .failed q

/-- The rounds that a possessive repetition needs. -/
def neededRounds (body : Rest → Rest) : Nat → Progress → Outcome
  | 0, p => .matched p
  | n + 1, p =>
    match body finished p.place p with
    | .matched q => neededRounds body n q
    | .failed q => .failed q

/-- The further rounds of a possessive repetition. The round that fails leaves its place behind, but no slots. -/
def furtherRounds (body : Rest → Rest) (most : Option Nat) : Nat → Nat → Option Nat → Progress → Progress
  | 0, _, _, p => p
  | fuel + 1, count, last, p =>
    if mayGoOn most count && last != some p.place then
      match body finished p.place p with
      | .matched q => furtherRounds body most fuel (count + 1) (some p.place) q
      | .failed q => { q with slots := p.slots }
    else p

/-- A bound for the rounds of a repetition: a round that is not needed leaves the place where it began, and there are only
so many pairs of places. -/
def roundLimit (text : Array Nat) : Nat := (text.size + 2) * (text.size + 2)

/-! ## Steps -/

/-- Whether two stretches of a text agree in the given number of characters. -/
def agrees (text : Array Nat) (rule : CaseRule) (i j : Nat) : Nat → Bool
  | 0 => true
  | n + 1 =>
    match text[i]?, text[j]? with
    | some c, some d => rule.lower c == rule.lower d && agrees text rule (i + 1) (j + 1) n
    | _, _ => false

/-- Whether steps cannot match at a place, as their first test shows. -/
def ruledOut (text : Array Nat) (i : Nat) : List Step → Bool
  | .one test :: _ => test.isExact && !((text[i]?.map test.accepts).getD false)
  | _ => false

mutual
/-- Tries one step at a place, and then the rest. `inRound` says that the step belongs to a repetition. -/
def Step.run (text : Array Nat) (inRound : Bool) : Step → Rest → Rest
  | .one test, rest => fun i p =>
    match text[i]? with
    | some c => if test.accepts c then rest (i + 1) p else .failed p
    | none => .failed p
  | .at anchor, rest => fun i p => if anchor.holds text i then rest i p else .failed p
  | .mark slot, rest => fun i p => rest i (p.mark slot i)
  | .branch branches, rest => runBranches text inRound branches rest
  | .repeatOne greed test least most follower, rest => fun i p =>
    if text.size < i + least then .failed p
    else
      match greed with
      | .greedy =>
        let (n, place) := runFrom text test i most
        giveBack text inRound follower rest i least n (p.goto place)
      | .lazy =>
        let (n, place) := runFrom text test i (some least)
        if n < least then .failed (p.goto place)
        else takeMore text inRound test most rest n (i + n) (p.goto place) (text.size + 2)
      | .possessive =>
        let (n, place) := runFrom text test i most
        if n < least then .failed (p.goto place) else rest (i + n) (p.goto (i + n))
  | .repeats greed least most body, rest => fun i p =>
    match greed with
    | .greedy => greedyRounds (runAll text true body) least most rest (least + roundLimit text) 0 none i (p.goto i)
    | .lazy =>
      lazyRounds (runAll text true body) inRound least most rest (least + roundLimit text) 0 none i (p.goto i)
    | .possessive =>
      match neededRounds (runAll text inRound body) least (p.goto i) with
      | .failed q => .failed (q.goto i)
      | .matched q =>
        let q := furtherRounds (runAll text inRound body) most (roundLimit text) least none q
        rest q.place q
  | .atomic body, rest => fun i p =>
    match runAll text inRound body finished i (p.goto i) with
    | .matched q => rest q.place q
    | .failed q => .failed (q.goto i)
  | .look back false body, rest => fun i p =>
    if i < back then .failed p
    else
      match runAll text inRound body finished (i - back) (p.goto (i - back)) with
      | .matched q => rest i q
      | .failed q => .failed q
  | .look back true body, rest => fun i p =>
    if i < back then rest i p
    else
      match runAll text inRound body finished (i - back) (p.goto (i - back)) with
      | .matched q => .failed q
      | .failed q => rest i (q.undo inRound p.slots)
  | .again group rule, rest => fun i p =>
    match p.span? group with
    | some (first, last) =>
      if agrees text rule first i (last - first) then rest (i + (last - first)) p else .failed p
    | none => .failed p
  | .ifGroup group yes no, rest => fun i p =>
    if (p.span? group).isSome then runAll text inRound yes rest i p else runAll text inRound no rest i p
/-- Tries steps one after the other, and then the rest. -/
def runAll (text : Array Nat) (inRound : Bool) : List Step → Rest → Rest
  | [], rest => rest
  | s :: more, rest => s.run text inRound (runAll text inRound more rest)
/-- Tries branches in order, each with the rest. -/
def runBranches (text : Array Nat) (inRound : Bool) : List (List Step) → Rest → Rest
  | [], _ => fun _ p => .failed p
  | b :: others, rest => fun i p =>
    if ruledOut text i b then runBranches text inRound others rest i p
    else
      match runAll text inRound b rest i (p.goto i) with
      | .matched q => .matched q
      | .failed q => runBranches text inRound others rest i (q.undo inRound p.slots)
end

/-! ## Searching -/

/-- What a search comes to. -/
inductive Sighting where
  | found
  | missing
deriving DecidableEq, Repr

namespace Opener

/-- Whether a match may begin at a place. -/
def admits (text : Array Nat) (i : Nat) : Opener → Bool
  | .free => true
  | .character => i < text.size
  | .oneOf test => (text[i]?.map test.accepts).getD false

/-- The number of places where a match of at least so many characters may begin. -/
def places (text : Array Nat) (least : Nat) : Opener → Nat
  | .free => text.size + 1 - (least - 1)
  | _ => text.size + 1

end Opener

namespace Program

/-- Tries so many places from a place on. -/
def searchFrom (program : Program) (text : Array Nat) (i : Nat) : Nat → Sighting
  | 0 => .missing
  | n + 1 =>
    if program.opener.admits text i then
      match runAll text false program.steps finished i { place := i } with
      | .matched _ => .found
      | .failed _ => searchFrom program text (i + 1) n
    else searchFrom program text (i + 1) n

/-- Looks for a match somewhere in a text. -/
def search (program : Program) (s : String) : Sighting :=
  let text := ((Text.points s).map Text.CodePoint.code).toArray
  if text.size < program.least then .missing
  else searchFrom program text 0 (program.opener.places text program.least)

end Program

end ShapeCheck.Pattern
