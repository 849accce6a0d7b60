/-!
# Likeness of texts

`matched a b` counts the characters that two texts share in order: those of their longest common run, and those shared
before it and behind it. Two texts are alike if at least three fifths of their characters are shared. `alikes` picks the
texts that are most like a given one.
-/

namespace ShapeCheck.Text

/-- The number of characters that two lists have in common at their front. -/
def sharedFront : List Char → List Char → Nat
  | a :: as, b :: bs => if a = b then sharedFront as bs + 1 else 0
  | _, _ => 0

/-- A run that two texts have in common: where it starts in each, and how long it is. -/
structure CommonRun where
  left : Nat
  right : Nat
  size : Nat
deriving DecidableEq, Repr

/-- The longest common run; of several the first in the left text, and then the first in the right one. -/
def longestRun (a b : List Char) : CommonRun :=
  ((List.range a.length).flatMap fun i => (List.range b.length).map fun j =>
    (⟨i, j, sharedFront (a.drop i) (b.drop j)⟩ : CommonRun)).foldl
      (fun best run => if best.size < run.size then run else best) ⟨0, 0, 0⟩

/-- The number of characters that two texts share in order. Both parts beside the longest run are shorter than the left
text, so its length bounds the depth. -/
def matchedWithin : Nat → List Char → List Char → Nat
  | 0, _, _ => 0
  | fuel + 1, a, b =>
    let run := longestRun a b
    if run.size = 0 then 0
    else
      run.size + matchedWithin fuel (a.take run.left) (b.take run.right) +
        matchedWithin fuel (a.drop (run.left + run.size)) (b.drop (run.right + run.size))

def matched (a b : String) : Nat := matchedWithin (a.length + 1) a.toList b.toList

/-- Whether at least three fifths of the characters of two texts are shared. -/
def areAlike (a b : String) : Bool :=
  3 * (a.length + b.length) ≤ 10 * min a.length b.length && 3 * (a.length + b.length) ≤ 10 * matched a b

/-- Whether one candidate is before another among those for a text: it is more alike, or as much and later in order. -/
def isCloser (word a b : String) : Bool :=
  let x := matched a word * (b.length + word.length)
  let y := matched b word * (a.length + word.length)
  y < x || (x = y && b < a)

/-- The three candidates that are most like a text, among those that are like it at all. -/
def alikes (word : String) (candidates : List String) : List String :=
  ((candidates.filter (areAlike · word)).mergeSort (fun a b => !isCloser word b a)).take 3

end ShapeCheck.Text
