import ShapeCheck.Value.Store
import ShapeCheck.Yaml.Node
import ShapeCheck.Yaml.SetOrder

/-!
# Documents

`Yaml.load` reads the value of a document. A node that has several aliases is one value, and a collection may hold itself:
it gets its place in the store first, and its content is built when everything outside of it has a place. Keys of mappings
are scalars. A merge key stands for the entries of other mappings, which come before the mapping's own; the graph is changed
to say so when the mapping's content is built.
-/

namespace ShapeCheck.Yaml

/-- A collection whose content is still to be built, with its place in the store. -/
structure Pending where
  sort : NodeSort
  node : NodeId
  address : Address

structure Builder where
  graph : Graph
  store : Store
  /-- The values of nodes that have one. -/
  values : Array (Option Value)
  /-- The last one first. -/
  pending : List Pending := []

abbrev Build := StateT Builder (Except Error)

namespace Build

def fail {α : Type} : Build α := throw .malformed

def node (i : NodeId) : Build Node := return (← get).graph.node i

/-! ## Merge keys -/

def setEntries (i : NodeId) (es : List (NodeId × NodeId)) : Build Unit :=
  modify fun b => { b with graph := b.graph.set i { b.graph.node i with content := .mapping es } }

/-- Takes a node for a text, where it stands as a key. -/
def nameText (i : NodeId) : Build Unit :=
  modify fun b => { b with graph := b.graph.set i { b.graph.node i with sort := .text } }

def entriesOf (i : NodeId) : Build (List (NodeId × NodeId)) := do
  match (← node i).content with
  | .mapping es => return es
  | _ => fail

/-- Runs a step on the first merge key of a mapping, which is taken out before, and on the next one of what the mapping
then is. The keys before it are known to be none. `fuel` bounds the entries that are looked at. -/
def eachMerge (i : NodeId) (step : NodeId → Build (List (NodeId × NodeId))) :
    (fuel : Nat) → (seen : Nat) → Build (List (NodeId × NodeId))
  | 0, _ => return []
  | fuel + 1, seen => do
    let es ← entriesOf i
    match es[seen]? with
    | none => return []
    | some (k, v) =>
      match (← node k).sort with
      | .merge =>
        setEntries i (es.eraseIdx seen)
        let merged ← step v
        return merged ++ (← eachMerge i step fuel seen)
      | .valueKey =>
        nameText k
        eachMerge i step fuel (seen + 1)
      | _ => eachMerge i step fuel (seen + 1)

/-- Replaces the merge keys of a mapping by what they stand for. Each merge key is taken out before what it leads to is
looked at, so a graph with so many merge keys needs as much fuel. -/
def flatten : (fuel : Nat) → NodeId → Build Unit
  | 0, _ => fail
  | fuel + 1, i => do
    let step (v : NodeId) : Build (List (NodeId × NodeId)) := do
      match (← node v).content with
      | .mapping _ =>
        flatten fuel v
        entriesOf v
      | .sequence items =>
        let parts ← items.mapM fun item => do
          match (← node item).content with
          | .mapping _ =>
            flatten fuel item
            entriesOf item
          | _ => fail
        return parts.reverse.flatten
      | .scalar _ => fail
    let merged ← eachMerge i step ((← entriesOf i).length + 1) 0
    if !merged.isEmpty then setEntries i (merged ++ (← entriesOf i))

/-- The number of keys and values in a graph, and one more. -/
def flattenFuel (g : Graph) : Nat :=
  g.nodes.foldl (fun n node => match node.content with
    | .mapping es => n + es.length
    | _ => n) 1

/-! ## Values -/

/-- The text of a node that should be a scalar; a mapping may have one under the key `=`. Only a mapping that has itself
there uses up as much fuel as there are nodes. -/
def scalarText : (fuel : Nat) → NodeId → Build String
  | 0, _ => throw .endless
  | fuel + 1, i => do
    let g := (← get).graph
    match (g.node i).content with
    | .scalar s => return s
    | .mapping es =>
      match es.find? fun (k, _) => (g.node k).sort = .valueKey with
      | some (_, v) => scalarText fuel v
      | none => fail
    | .sequence _ => fail

/-- Gives a node its value. -/
def settle (i : NodeId) (v : Value) : Build Value := do
  modify fun b => { b with values := b.values.setIfInBounds i (some v) }
  return v

/-- Gives a collection its place. -/
def place (sort : NodeSort) (i : NodeId) (empty : Cell) : Build Value := do
  let b ← get
  let (a, σ) := b.store.alloc empty
  set { b with store := σ, pending := ⟨sort, i, a⟩ :: b.pending }
  settle i (.container a)

/-- The value of a node, which need not have its content yet. -/
def value (i : NodeId) : Build Value := do
  let b ← get
  match b.values.getD i none with
  | some v => return v
  | none =>
    let n := b.graph.node i
    match n.sort with
    | .list => place .list i (.list [])
    | .orderedMap => place .orderedMap i (.list [])
    | .pairs => place .pairs i (.list [])
    | .map => place .map i (.mapping [])
    | .set => place .set i (.set [])
    | sort => do
      if sort = .unknown || sort = .merge || sort = .valueKey then fail
      let text ← scalarText (b.graph.nodes.size + 1) i
      match sort, n.content with
      | .timestamp, .mapping _ => throw .stampInMapping
      | _, _ =>
        match ← sort.read text with
        | some a => settle i (.scalar a)
        | none => fail

/-- A key of a mapping that is built, with the node that it is of. -/
structure BuiltKey where
  node : NodeId
  key : Key

/-- Whether two keys are one key. All values for no number that the word for it stands for are one. -/
def sameKey (g : Graph) (k l : BuiltKey) : Bool :=
  let named (i : NodeId) : Bool := match (g.node i).content with
    | .scalar s => isNoNumber s
    | _ => false
  match k.key, l.key with
  | .scalar (.number (.float .nan)), .scalar (.number (.float .nan)) => k.node = l.node || (named k.node && named l.node)
  | a, b => a.same b

/-- Puts a value under a key, in the place of an old one or at the end. -/
def putEntry (g : Graph) (k : BuiltKey) (v : Value) : List (BuiltKey × Value) → List (BuiltKey × Value)
  | [] => [(k, v)]
  | (l, w) :: rest => if sameKey g l k then (l, v) :: rest else (l, w) :: putEntry g k v rest

/-- The entries of a mapping; its keys are scalars. -/
def mappingEntries (i : NodeId) : Build (List (Key × Value)) := do
  match (← node i).content with
  | .mapping _ => flatten (flattenFuel (← get).graph) i
  | _ => fail
  let built ← (← entriesOf i).foldlM (fun entries (k, v) => do
    match ← value k with
    | .container _ => fail
    | .scalar a => do
      let w ← value v
      return putEntry (← get).graph ⟨k, .scalar a⟩ w entries) []
  return built.map fun (k, v) => (k.key, v)

/-- The items of an ordered mapping: a pair for each mapping of one entry. -/
def pairItems (i : NodeId) : Build (List Value) := do
  match (← node i).content with
  | .sequence items =>
    items.mapM fun item => do
      match (← node item).content with
      | .mapping [(k, v)] =>
        let kv ← value k
        let vv ← value v
        let b ← get
        let (a, σ) := b.store.alloc (.tuple [kv, vv])
        set { b with store := σ }
        return .container a
      | _ => fail
  | _ => fail

/-- The scalar that a key of a built mapping is. -/
def keyScalar? : Key → Option Scalar
  | .scalar a => some a
  | .tuple _ => none

/-- The residue of a key that is a number or a truth value. -/
def keyResidue? : Key → Option Int
  | .scalar (.number n) => SetOrder.residue? n
  | .scalar (.bool b) => some (if b then 1 else 0)
  | _ => none

/-- The scalars of a set. Numbers stand in the order of a set, and anything else in the order of the document. -/
def setItems (ks : List Key) : List Value :=
  let numbers := ks.filterMap fun k => (keyResidue? k).map fun r => (r, k)
  ((if numbers.length = ks.length then SetOrder.sorted numbers else ks).filterMap keyScalar?).map .scalar

/-- Builds the content of a collection. -/
def complete (p : Pending) : Build Unit := do
  let cell ← match p.sort with
    | .map => do pure (Cell.mapping (← mappingEntries p.node))
    | .set => do pure (Cell.set (setItems ((← mappingEntries p.node).map Prod.fst)))
    | .list =>
      match (← node p.node).content with
      | .sequence items => do pure (Cell.list (← items.mapM value))
      | _ => fail
    | _ => do pure (Cell.list (← pairItems p.node))
  modify fun b => { b with store := b.store.write p.address cell }

/-- Builds the contents of all collections: those that have a place now, then those that got one meanwhile, and so on. Each
node gets one place, so there are no more rounds than nodes. -/
def completeAll : (rounds : Nat) → Build Unit
  | 0 => return ()
  | rounds + 1 => do
    let now := (← get).pending.reverse
    if now.isEmpty then return ()
    modify fun b => { b with pending := [] }
    now.forM complete
    completeAll rounds

/-- The value of a whole document with the given root. -/
def document (root : NodeId) : Build Value := do
  let v ← value root
  completeAll ((← get).graph.nodes.size + 1)
  return v

end Build

/-- The value of the one document of a text, in a store; null without a document. -/
def load (text : String) (σ : Store) : Except Error (Value × Store) := do
  let (g, root) ← Graph.ofTokens (Token.scan text)
  match root with
  | none => return (.scalar .null, σ)
  | some i =>
    let (v, b) ← (Build.document i).run
      { graph := g, store := σ, values := (List.replicate g.nodes.size none).toArray }
    return (v, b.store)

end ShapeCheck.Yaml
