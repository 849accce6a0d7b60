import ShapeCheck.Pattern.Reading

/-!
# Programs for patterns

A pattern is matched by a sequence of `Step`s, in which the flags in force are made out: every test of a character and of
an edge says by itself what it accepts. `Pattern.read` goes from the text of a pattern to its `Program`, which also holds
what is known about the places where a match can begin.
-/

namespace ShapeCheck.Pattern

inductive Step where
  | one (test : CharTest)
  | at (anchor : Anchor)
  /-- Notes the place: groups have two slots each, for where they begin and where they end. -/
  | mark (slot : Nat)
  | branch (branches : List (List Step))
  /-- Repeats a test. `follower` is the code point that has to come next, if it is known. -/
  | repeatOne (greed : Greed) (test : CharTest) (least : Nat) (most : Option Nat) (follower : Option Nat)
  | repeats (greed : Greed) (least : Nat) (most : Option Nat) (body : List Step)
  | atomic (body : List Step)
  /-- Looks ahead from so many characters before the place. -/
  | look (back : Nat) (negated : Bool) (body : List Step)
  | again (group : Nat) (rule : CaseRule)
  | ifGroup (group : Nat) (yes no : List Step)

/-! ## Tests and anchors -/

namespace Flags

/-- The test for a code point, or for any other. -/
def literal (f : Flags) (negated : Bool) (code : Nat) : CharTest :=
  let rule := f.caseRule
  if rule.affects code then
    let low := rule.lower code
    .lower rule negated (low :: rule.kin low)
  else .code negated code

/-- The test for a set. -/
def set (f : Flags) (negated : Bool) (items : List SetItem) : CharTest :=
  if items.any f.caseRule.affectsItem then .lowerSet f.caseRule negated items f.ascii else .set negated items f.ascii

def anchor (f : Flags) : Edge → Anchor
  | .start => .start f.lines
  | .finish => .finish f.lines
  | .textStart => .textStart
  | .textEnd => .textEnd
  | .word => .wordEdge f.ascii
  | .notWord => .notWordEdge f.ascii

end Flags

mutual
/-- The test that an item is, if it is one. -/
def Item.test? (f : Flags) : Item → Option CharTest
  | .literal c => some (f.literal false c)
  | .notLiteral c => some (f.literal true c)
  | .any => some (if f.dotAll then .any else .notNewline)
  | .set negated items => some (f.set negated items)
  | .group none on off body => singleTest? (f.within on off) body
  | _ => none
/-- The test that a sequence consists of, if it is a single one. -/
def singleTest? (f : Flags) : List Item → Option CharTest
  | [i] => i.test? f
  | _ => none
end

/-! ## Steps -/

/-- The code point that has to come first, if it is known, where `follower` has to come behind the steps. -/
def leader? (steps : List Step) (follower : Option Nat) : Option Nat :=
  match steps with
  | [] => follower
  | .one test :: _ => test.only?
  | _ => none

mutual
/-- The steps for an item. -/
def Item.steps (f : Flags) (groups : Nat → Width) (follower : Option Nat) : Item → List Step
  | .literal c => [.one (f.literal false c)]
  | .notLiteral c => [.one (f.literal true c)]
  | .any => [.one (if f.dotAll then .any else .notNewline)]
  | .set negated items => [.one (f.set negated items)]
  | .at edge => [.at (f.anchor edge)]
  | .branch branches => [.branch (branchSteps f groups branches)]
  | .repeats greed least most body =>
    match singleTest? f body with
    | some test => [.repeatOne greed test least most follower]
    | none => [.repeats greed least most (sequenceSteps f groups none body)]
  | .group none on off body => sequenceSteps (f.within on off) groups follower body
  | .group (some i) on off body =>
    .mark (2 * i - 2) :: (sequenceSteps (f.within on off) groups none body ++ [.mark (2 * i - 1)])
  | .atomic body => [.atomic (sequenceSteps f groups none body)]
  | .look behind negated body =>
    [.look (if behind then (sequenceWidth groups body).least else 0) negated (sequenceSteps f groups none body)]
  | .again i => [.again (i - 1) f.caseRule]
  | .ifGroup i yes no =>
    [.ifGroup (i - 1) (sequenceSteps f groups (if no.isEmpty then follower else none) yes)
      (sequenceSteps f groups follower no)]
def sequenceSteps (f : Flags) (groups : Nat → Width) (follower : Option Nat) : List Item → List Step
  | [] => []
  | i :: rest =>
    let after := sequenceSteps f groups follower rest
    i.steps f groups (leader? after follower) ++ after
def branchSteps (f : Flags) (groups : Nat → Width) : List (List Item) → List (List Step)
  | [] => []
  | b :: rest => sequenceSteps f groups none b :: branchSteps f groups rest
end

/-! ## What has no steps -/

/-- The largest width of a look-behind that has an encoding. -/
def behindLimit : Nat := 0x7FFFFFFF

mutual
/-- The first problem with an item: nothing is repeated in a template, and what is looked for behind has one width. -/
def Item.problem? (template : Bool) (groups : Nat → Width) : Item → Option Problem
  | .branch branches => branchProblem? template groups branches
  | .repeats greed _ _ body =>
    if template then some (.templateRepetition greed) else sequenceProblem? template groups body
  | .group _ _ _ body | .atomic body | .look false _ body => sequenceProblem? template groups body
  | .look true _ body =>
    let w := sequenceWidth groups body
    if w.least ≠ w.most then some .unevenBehind else sequenceProblem? template groups body
  | .ifGroup _ yes no => (sequenceProblem? template groups yes).or (sequenceProblem? template groups no)
  | _ => none
def sequenceProblem? (template : Bool) (groups : Nat → Width) : List Item → Option Problem
  | [] => none
  | i :: rest => (i.problem? template groups).or (sequenceProblem? template groups rest)
def branchProblem? (template : Bool) (groups : Nat → Width) : List (List Item) → Option Problem
  | [] => none
  | b :: rest => (sequenceProblem? template groups b).or (branchProblem? template groups rest)
end

mutual
/-- Whether some step looks back further than can be encoded. -/
def Step.looksTooFar : Step → Bool
  | .branch branches => branchLooksTooFar branches
  | .repeats _ _ _ body | .atomic body => sequenceLooksTooFar body
  | .look back _ body => behindLimit < back || sequenceLooksTooFar body
  | .ifGroup _ yes no => sequenceLooksTooFar yes || sequenceLooksTooFar no
  | _ => false
def sequenceLooksTooFar : List Step → Bool
  | [] => false
  | s :: rest => s.looksTooFar || sequenceLooksTooFar rest
def branchLooksTooFar : List (List Step) → Bool
  | [] => false
  | b :: rest => sequenceLooksTooFar b || branchLooksTooFar rest
end

/-! ## Where a match begins -/

/-- What has to stand where a match begins. -/
inductive Opener where
  /-- Nothing is known. -/
  | free
  /-- A character that is not told apart. -/
  | character
  /-- A character of a set. -/
  | oneOf (test : CharTest)

mutual
/-- Whether an item begins with a code point that is matched as it stands; `none` if it is empty. -/
def Item.beginsExactly? (f : Flags) : Item → Option Bool
  | .literal c => some (!f.caseRule.affects c)
  | .group _ on off body => sequenceBeginsExactly? (f.within on off) body
  | _ => some false
def sequenceBeginsExactly? (f : Flags) : List Item → Option Bool
  | [] => none
  | i :: rest => (i.beginsExactly? f).or (sequenceBeginsExactly? f rest)
end

/-- Whether no item of a set depends on the case of letters. -/
def caseFree (rule : CaseRule) (items : List SetItem) : Bool :=
  rule == .exact || items.all fun i =>
    match i with
    | .code c => !rule.affects c
    | .range first last => last ≤ basicLast && !rule.affectsAny first last
    | .category .. => true

/-- The code point that a branch begins with, if it is matched as it stands. -/
def firstCode? (f : Flags) : List Item → Option SetItem
  | .literal c :: _ => if f.caseRule.affects c then none else some (.code c)
  | _ => none

mutual
/-- The set that the first character of an item is of, if it is known. Classes of characters in it are those of `outer`. -/
def Item.opener (outer f : Flags) : Item → Opener
  | .group _ on off body => sequenceOpener outer (f.within on off) body
  | .set negated items => if caseFree f.caseRule items then .oneOf (.set negated items outer.ascii) else .free
  | .branch branches =>
    match branches.mapM (firstCode? f) with
    | some codes => .oneOf (.set false codes outer.ascii)
    | none => .free
  | _ => .free
def sequenceOpener (outer f : Flags) : List Item → Opener
  | [] => .free
  | i :: _ => i.opener outer f
end

/-! ## Programs -/

structure Program where
  steps : List Step
  /-- The least number of characters that a match takes. -/
  least : Nat
  opener : Opener

namespace Parsed

/-- The program for a pattern. -/
def program (p : Parsed) : Program :=
  let f := p.flags.inForce
  let least := (sequenceWidth p.groupWidth p.items).least
  { steps := sequenceSteps f p.groupWidth none p.items
    least := least
    opener :=
      if least = 0 then .free
      else if sequenceBeginsExactly? f p.items = some true then .character
      else sequenceOpener f f p.items }

end Parsed

/-- Reads a pattern and makes its program. -/
def read (text : String) : Except ReadError Program := do
  let parsed ← parse text
  match sequenceProblem? parsed.flags.template parsed.groupWidth parsed.items with
  | some problem => throw (.malformed problem none)
  | none =>
    let program := parsed.program
    if sequenceLooksTooFar program.steps then throw .behindTooWide
    return program

end ShapeCheck.Pattern
