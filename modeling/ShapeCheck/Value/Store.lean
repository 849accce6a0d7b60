import ShapeCheck.Value.Datum

/-!
# Values that are shared and change

A candidate for validation may hold one container in two places or inside itself, and validation may change a mapping in
place. A `Value` is therefore a scalar or the address of a container in a `Store`. `Store.datum` reads a value as a tree,
with a `back` node wherever the value runs into a container that it is inside of. `Store.treeWith` does the same for many
values, with trees that are made once for all, and `Store.definition` reads a tree whose `back` nodes tell what they stand for.
`Store.write` changes one cell and leaves all others, as the lemmas at the end say.
-/

namespace ShapeCheck

/-- A place of a store. -/
abbrev Address := Nat

inductive Value where
  | scalar (a : Scalar)
  | container (address : Address)
deriving DecidableEq

instance : Inhabited Value := ⟨.scalar .null⟩

def Value.isScalar : Value → Bool
  | .scalar _ => true
  | .container _ => false

/-- The content of a container. -/
inductive Cell where
  | list (items : List Value)
  | tuple (items : List Value)
  | set (items : List Value)
  | mapping (entries : List (Key × Value))
  | readOnly (entries : List (Key × Value))
  /-- Something with parts that do not change. -/
  | structured (sort : String) (handle : Option TypeHandle) (parts : List (String × Datum))

instance : Inhabited Cell := ⟨.list []⟩

structure Store where
  cells : Array Cell := #[]

namespace Store

instance : Inhabited Store := ⟨{}⟩

/-- The content of the container at an address. -/
def read? (σ : Store) (a : Address) : Option Cell := σ.cells[a]?

/-- The content of a value that is a container. -/
def cell? (σ : Store) : Value → Option Cell
  | .container a => σ.read? a
  | .scalar _ => none

/-- Adds a container. -/
def alloc (σ : Store) (c : Cell) : Address × Store := (σ.cells.size, ⟨σ.cells.push c⟩)

/-- Changes the content of a container. -/
def write (σ : Store) (a : Address) (c : Cell) : Store := ⟨σ.cells.setIfInBounds a c⟩

/-- The entries of a mapping of either sort. -/
def entries? (σ : Store) (v : Value) : Option (List (Key × Value)) :=
  match σ.cell? v with
  | some (.mapping es) => some es
  | some (.readOnly es) => some es
  | _ => none

/-- The items of a list or a tuple. -/
def items? (σ : Store) (v : Value) : Option (List Value) :=
  match σ.cell? v with
  | some (.list xs) => some xs
  | some (.tuple xs) => some xs
  | _ => none

/-- Trees of containers, by their addresses, as far as they are known. -/
abbrev Trees := Array (Option Datum)

/-- How a container is marked that stands so many levels up among those around. -/
abbrev Mark := List Address → (level : Nat) → Datum

/-- A mark that tells the level only. -/
def Mark.level : Mark := fun _ level => @Datum.back [] [] level

/-- A mark that tells the containers around apart. -/
def Mark.named : Mark := fun around level => @Datum.back around [] level

/-- A mark that also has the trees of the containers around. -/
def Mark.known (tree : Address → Datum) : Mark := fun around level => @Datum.back around (around.map tree) level

/-- A value as a tree, inside the containers of `around`, the nearest first. `fuel` bounds the depth. -/
def unfold (σ : Store) (known : Trees) (mark : Mark) : Nat → List Address → Value → Datum
  | _, _, .scalar a => .scalar a
  | 0, _, .container _ => .null
  | fuel + 1, around, .container a =>
    match around.findIdx? (· == a), (known[a]?).join with
    | some level, _ => mark around level
    | none, some d => d
    | none, none =>
      match σ.read? a with
      | none => .null
      | some (.list xs) => .list (xs.map (σ.unfold known mark fuel (a :: around)))
      | some (.tuple xs) => .tuple (xs.map (σ.unfold known mark fuel (a :: around)))
      | some (.set xs) => .set (xs.map (σ.unfold known mark fuel (a :: around)))
      | some (.mapping es) => .mapping (es.map fun (k, v) => (k, σ.unfold known mark fuel (a :: around) v))
      | some (.readOnly es) => .readOnly (es.map fun (k, v) => (k, σ.unfold known mark fuel (a :: around) v))
      | some (.structured sort handle parts) => .structured sort handle parts

/-- A value as a tree, with the help of known trees. A path that meets no container twice is no longer than the store, and
`unfold` needs one step more to find the repetition. -/
def treeWith (σ : Store) (known : Trees) (v : Value) : Datum := σ.unfold known .level (σ.cells.size + 1) [] v

/-- A value as a tree. -/
def datum (σ : Store) (v : Value) : Datum := σ.treeWith #[] v

/-- The tree of a value, if it is known. -/
def knownTree? (known : Trees) : Value → Option Datum
  | .scalar a => some (.scalar a)
  | .container a => (known[a]?).join

/-- An entry with the tree of its value, if that is known. -/
def entryTree? (known : Trees) (e : Key × Value) : Option (Key × Datum) := (knownTree? known e.2).map fun d => (e.1, d)

/-- The tree of a content, if those of all its values are known. -/
def cellTree? (known : Trees) : Cell → Option Datum
  | .list xs => (xs.mapM (knownTree? known)).map .list
  | .tuple xs => (xs.mapM (knownTree? known)).map .tuple
  | .set xs => (xs.mapM (knownTree? known)).map .set
  | .mapping es => (es.mapM (entryTree? known)).map .mapping
  | .readOnly es => (es.mapM (entryTree? known)).map .readOnly
  | .structured sort handle parts => some (.structured sort handle parts)

/-- The known trees, and those of the containers that hold nothing else. -/
def moreTrees (σ : Store) (known : Trees) : Trees :=
  σ.cells.mapIdx fun a c => (known[a]?).join.or (cellTree? known c)

/-- Adds trees to the known ones as long as there are more, for some rounds at most. -/
def allTrees (σ : Store) : (rounds : Nat) → Trees → Trees
  | 0, known => known
  | rounds + 1, known =>
    let more := σ.moreTrees known
    if more.countP Option.isSome = known.countP Option.isSome then known else σ.allTrees rounds more

/-- The trees of all containers that no container inside of them holds. A container that stands in many places has one
tree. Each round finds a tree more, so there are no more rounds than containers. -/
def trees (σ : Store) : Trees := σ.allTrees σ.cells.size #[]

/-- A value as a tree that tells apart the containers around a `back` node, and knows the tree of each. -/
def definition (σ : Store) (v : Value) : Datum :=
  let tree (a : Address) := σ.unfold σ.trees .named (σ.cells.size + 1) [] (.container a)
  σ.unfold σ.trees (.known tree) (σ.cells.size + 1) [] v

/-- The addresses of the containers around a `back` node while a tree is built. -/
abbrev Around := List Address

mutual
/-- Builds a tree in a store. A container gets its address before its content is built, so that `back` nodes can name it. -/
def build (σ : Store) (around : Around) : Datum → Value × Store
  | .scalar a => (.scalar a, σ)
  | .back level => (.container (around.getD level 0), σ)
  | .list xs =>
    let (a, σ) := σ.alloc (.list [])
    let (vs, σ) := buildItems σ (a :: around) xs
    (.container a, σ.write a (.list vs))
  | .tuple xs =>
    let (a, σ) := σ.alloc (.tuple [])
    let (vs, σ) := buildItems σ (a :: around) xs
    (.container a, σ.write a (.tuple vs))
  | .set xs =>
    let (a, σ) := σ.alloc (.set [])
    let (vs, σ) := buildItems σ (a :: around) xs
    (.container a, σ.write a (.set vs))
  | .structured sort handle parts =>
    let (a, σ) := σ.alloc (.structured sort handle parts)
    (.container a, σ)
  | .mapping es =>
    let (a, σ) := σ.alloc (.mapping [])
    let (vs, σ) := buildEntries σ (a :: around) es
    (.container a, σ.write a (.mapping vs))
  | .readOnly es =>
    let (a, σ) := σ.alloc (.readOnly [])
    let (vs, σ) := buildEntries σ (a :: around) es
    (.container a, σ.write a (.readOnly vs))
def buildItems (σ : Store) (around : Around) : List Datum → List Value × Store
  | [] => ([], σ)
  | x :: xs =>
    let (v, σ) := σ.build around x
    let (vs, σ) := buildItems σ around xs
    (v :: vs, σ)
def buildEntries (σ : Store) (around : Around) : List (Key × Datum) → List (Key × Value) × Store
  | [] => ([], σ)
  | (k, x) :: rest =>
    let (v, σ) := σ.build around x
    let (vs, σ) := buildEntries σ around rest
    ((k, v) :: vs, σ)
end

/-! ## What changes and what stays -/

@[simp] theorem read?_write_same (σ : Store) (a : Address) (c : Cell) (h : a < σ.cells.size) :
    (σ.write a c).read? a = some c := by
  simp [write, read?, h]

@[simp] theorem read?_write_other (σ : Store) {a b : Address} (c : Cell) (h : a ≠ b) :
    (σ.write a c).read? b = σ.read? b := by
  simp [write, read?, h]

@[simp] theorem size_write (σ : Store) (a : Address) (c : Cell) : (σ.write a c).cells.size = σ.cells.size := by
  simp [write]

theorem read?_alloc_new (σ : Store) (c : Cell) : (σ.alloc c).2.read? (σ.alloc c).1 = some c := by
  simp [alloc, read?]

theorem read?_alloc_old (σ : Store) (c : Cell) {a : Address} (h : a < σ.cells.size) :
    (σ.alloc c).2.read? a = σ.read? a := by
  simp [alloc, read?, Array.getElem?_push, Nat.ne_of_lt h]

end Store

end ShapeCheck
