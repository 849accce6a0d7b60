/-!
# Paths into values

A `Path` leads from a value to a part of it by keys and indices. `Path.text` folds `Step.join` over the steps: an index
stands in brackets, and a key stands behind a point unless it is the first.
-/

namespace ShapeCheck

/-- One step down: to what stands under a key, or to an item. -/
inductive Step where
  | key (name : String)
  | index (n : Int)
deriving DecidableEq, Repr

/-- The text of a path with one step more. -/
def Step.join (parent : String) : Step → String
  | .index n => parent ++ "[" ++ toString n ++ "]"
  | .key name => if parent = "" then name else parent ++ "." ++ name

/-- A step without the path before it. -/
def Step.text : Step → String
  | .index n => toString n
  | .key name => name

/-- Steps from the place that `root` names. -/
structure Path where
  root : String := ""
  steps : List Step := []
deriving DecidableEq, Repr

namespace Path

instance : Inhabited Path := ⟨{}⟩

def key (p : Path) (name : String) : Path := { p with steps := p.steps ++ [.key name] }

def index (p : Path) (n : Nat) : Path := { p with steps := p.steps ++ [.index n] }

def text (p : Path) : String := p.steps.foldl Step.join p.root

/-- A path in a message, where the empty one has a name. -/
def shown (p : Path) : String := if p.text = "" then "<root>" else p.text

theorem text_key (p : Path) (name : String) : (p.key name).text = (Step.key name).join p.text := by
  simp [text, key]

theorem text_index (p : Path) (n : Nat) : (p.index n).text = (Step.index n).join p.text := by
  simp [text, index]

end Path

end ShapeCheck
