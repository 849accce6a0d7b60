import ShapeCheck.Yaml.Scalar

/-!
# Nodes of YAML

The tokens of a document build a `Graph` of nodes, each of which has a sort. A node is named by its place in the graph, so
that an alias can name a node that is still being built. `Graph.ofTokens` reads exactly one document, or none. What is
wrong with a document is found as soon as the tokens before it are known, so a text that goes wrong later does not matter.
-/

namespace ShapeCheck.Yaml

abbrev NodeId := Nat

inductive Content where
  | scalar (text : String)
  | sequence (items : List NodeId)
  | mapping (entries : List (NodeId × NodeId))

structure Node where
  sort : NodeSort
  content : Content

instance : Inhabited Node := ⟨.unknown, .sequence []⟩

structure Graph where
  nodes : Array Node := #[]

namespace Graph

def node (g : Graph) (i : NodeId) : Node := g.nodes.getD i default

/-- Puts a node in the place of another one. -/
def set (g : Graph) (i : NodeId) (n : Node) : Graph := ⟨g.nodes.setIfInBounds i n⟩

end Graph

/-- The state of a reading of tokens. -/
structure Parser where
  tokens : List Token
  /-- What goes wrong behind the tokens. -/
  ending : Option Error := none
  graph : Graph := {}
  anchors : List (String × NodeId) := []
  /-- What the handles of tags stand for. -/
  handles : List (String × String) := []

abbrev Parse := StateT Parser (Except Error)

namespace Parse

def fail {α : Type} : Parse α := throw .malformed

def peek : Parse Token := do
  let p ← get
  match p.tokens, p.ending with
  | t :: _, _ => return t
  | [], some e => throw e
  | [], none => return .streamEnd

def skip : Parse Unit := modify fun p => { p with tokens := p.tokens.drop 1 }

/-- Skips a token if it is the given one. -/
def accept (t : Token) : Parse Bool := do
  if (← peek) = t then
    skip
    return true
  else return false

def expect (t : Token) : Parse Unit := do
  let found ← accept t
  if !found then fail

/-- Whether the next token is one of some. -/
def at? (ts : List Token) : Parse Bool := return ts.contains (← peek)

def add (n : Node) : Parse NodeId := do
  let p ← get
  set { p with graph := ⟨p.graph.nodes.push n⟩ }
  return p.graph.nodes.size

def fill (i : NodeId) (n : Node) : Parse Unit := modify fun p => { p with graph := p.graph.set i n }

/-- The node of something that is left out. -/
def emptyNode : Parse NodeId := add ⟨.null, .scalar ""⟩

/-- Gives a node a name. -/
def name (anchor : Option String) (i : NodeId) : Parse Unit := do
  match anchor with
  | none => return ()
  | some a => modify fun p => { p with anchors := (a, i) :: p.anchors }

/-- The anchor and the tag in front of a node. -/
structure Properties where
  anchor : Option String := none
  tag : Option String := none

/-- The name of a tag with its handle written out. -/
def tagName (handle : Option String) (suffix : String) : Parse String := do
  match handle with
  | none => return suffix
  | some h =>
    match (← get).handles.lookup h with
    | some start => return start ++ suffix
    | none => fail

def properties : Parse Properties := do
  let readTag : Parse (Option (Option String × String)) := do
    match ← peek with
    | .tag handle suffix => skip; return some (handle, suffix)
    | _ => return none
  let readAnchor : Parse (Option String) := do
    match ← peek with
    | .anchor a => skip; return some a
    | _ => return none
  let first ← readAnchor
  let tag ← readTag
  let anchor ← if first.isSome || tag.isNone then pure first else readAnchor
  match tag with
  | none => return { anchor }
  | some (handle, suffix) => return { anchor, tag := some (← tagName handle suffix) }

namespace Properties

/-- The sort of a collection, where `basic` is that of one without a tag. -/
def collectionSort (p : Properties) (basic : NodeSort) : NodeSort :=
  match p.tag with
  | none => basic
  | some t => if t = "!" then basic else .ofTag t

/-- The sort of a scalar. A plain one without a tag, and one with the bare tag, says by its text what it is. -/
def scalarSort (p : Properties) (style : ScalarStyle) (text : String) : NodeSort :=
  match p.tag with
  | none => if style = .plain then .ofText text else .text
  | some t => if t = "!" then .ofText text else .ofTag t

/-- An anchor has to be a name that is not taken. -/
def check (p : Properties) : Parse Unit := do
  match p.anchor with
  | some a => if ((← get).anchors.lookup a).isSome then fail
  | none => return ()

end Properties

/-- Where a node stands, which decides what may be one. -/
inductive Place where
  | flow
  | block
  /-- After the sign of a key or of a value, a sequence need not be further in. -/
  | blockValue
deriving DecidableEq

mutual
/-- One node. -/
def node (place : Place) : Nat → Parse NodeId
  | 0 => fail
  | fuel + 1 => do
    match ← peek with
    | .alias a =>
      skip
      match (← get).anchors.lookup a with
      | some i => return i
      | none => fail
    | _ =>
      let props ← properties
      let sequenceOf (items : Parse (List NodeId)) : Parse NodeId := do
        props.check
        let i ← add default
        name props.anchor i
        fill i ⟨props.collectionSort .list, .sequence (← items)⟩
        return i
      let mappingOf (entries : Parse (List (NodeId × NodeId))) : Parse NodeId := do
        props.check
        let i ← add default
        name props.anchor i
        fill i ⟨props.collectionSort .map, .mapping (← entries)⟩
        return i
      match ← peek with
      | .blockEntry => if place = .blockValue then sequenceOf (looseItems fuel) else emptyOr props
      | .scalar text style =>
        skip
        props.check
        let i ← add ⟨props.scalarSort style text, .scalar text⟩
        name props.anchor i
        return i
      | .flowSequenceStart => sequenceOf do skip; flowItems true fuel
      | .flowMappingStart => mappingOf do skip; flowEntries true fuel
      | .blockSequenceStart => if place = .flow then emptyOr props else sequenceOf do skip; blockItems fuel
      | .blockMappingStart => if place = .flow then emptyOr props else mappingOf do skip; blockEntries fuel
      | _ => emptyOr props
/-- A scalar that is left out behind an anchor or a tag. -/
def emptyOr (props : Properties) : Parse NodeId := do
  if props.anchor.isNone && props.tag.isNone then fail
  props.check
  let i ← add ⟨props.scalarSort .plain "", .scalar ""⟩
  name props.anchor i
  return i
/-- A node, unless a token comes that shows it to be left out. -/
def nodeUnless (stops : List Token) (place : Place) : Nat → Parse NodeId
  | 0 => fail
  | fuel + 1 => do
    let stop ← at? stops
    if stop then emptyNode else node place fuel
/-- The entries of a block sequence. -/
def blockItems : Nat → Parse (List NodeId)
  | 0 => fail
  | fuel + 1 => do
    let more ← accept .blockEntry
    if more then
      let i ← nodeUnless [.blockEntry, .blockEnd] .block fuel
      return i :: (← blockItems fuel)
    else
      expect .blockEnd
      return []
/-- The entries of a block sequence that is no further in than the mapping around it. -/
def looseItems : Nat → Parse (List NodeId)
  | 0 => fail
  | fuel + 1 => do
    let more ← accept .blockEntry
    if more then
      let i ← nodeUnless [.blockEntry, .key, .value, .blockEnd] .block fuel
      return i :: (← looseItems fuel)
    else return []
/-- The entries of a block mapping. -/
def blockEntries : Nat → Parse (List (NodeId × NodeId))
  | 0 => fail
  | fuel + 1 => do
    let more ← accept .key
    if more then
      let k ← nodeUnless [.key, .value, .blockEnd] .blockValue fuel
      let hasValue ← accept .value
      let v ← if hasValue then nodeUnless [.key, .value, .blockEnd] .blockValue fuel else emptyNode
      return (k, v) :: (← blockEntries fuel)
    else
      expect .blockEnd
      return []
/-- The items of a flow sequence; an item with a colon is a mapping of one entry. -/
def flowItems (first : Bool) : Nat → Parse (List NodeId)
  | 0 => fail
  | fuel + 1 => do
    let closed ← accept .flowSequenceEnd
    if closed then return []
    if !first then expect .flowEntry
    let closed ← accept .flowSequenceEnd
    if closed then return []
    let keyed ← accept .key
    let i ← if keyed then do
        let i ← add default
        let k ← nodeUnless [.value, .flowEntry, .flowSequenceEnd] .flow fuel
        let hasValue ← accept .value
        let v ← if hasValue then nodeUnless [.flowEntry, .flowSequenceEnd] .flow fuel else emptyNode
        fill i ⟨.map, .mapping [(k, v)]⟩
        pure i
      else node .flow fuel
    return i :: (← flowItems false fuel)
/-- The entries of a flow mapping; an entry without a colon has no value. -/
def flowEntries (first : Bool) : Nat → Parse (List (NodeId × NodeId))
  | 0 => fail
  | fuel + 1 => do
    let closed ← accept .flowMappingEnd
    if closed then return []
    if !first then expect .flowEntry
    let closed ← accept .flowMappingEnd
    if closed then return []
    let keyed ← accept .key
    let entry ← if keyed then do
        let k ← nodeUnless [.value, .flowEntry, .flowMappingEnd] .flow fuel
        let hasValue ← accept .value
        let v ← if hasValue then nodeUnless [.flowEntry, .flowMappingEnd] .flow fuel else emptyNode
        pure (k, v)
      else do
        let k ← node .flow fuel
        pure (k, ← emptyNode)
    return entry :: (← flowEntries false fuel)
end

/-- The handles that need no directive. -/
def standardHandles : List (String × String) := [("!", "!"), ("!!", "tag:yaml.org,2002:")]

/-- The directives in front of a document. -/
def directives (version : Bool) : Nat → Parse Unit
  | 0 => fail
  | fuel + 1 => do
    match ← peek with
    | .versionDirective major =>
      if version || major ≠ 1 then fail
      skip
      directives true fuel
    | .tagDirective handle start =>
      if ((← get).handles.lookup handle).isSome then fail
      modify fun p => { p with handles := (handle, start) :: p.handles }
      skip
      directives version fuel
    | .otherDirective =>
      skip
      directives version fuel
    | _ =>
      modify fun p => { p with handles := p.handles ++ standardHandles }
      return ()

/-- Signs that a document has ended. -/
def documentEnds : Nat → Parse Unit
  | 0 => return ()
  | fuel + 1 => do
    let more ← accept .documentEnd
    if more then documentEnds fuel

/-- The one document of a text, if there is one. A second document is an error, as soon as the directives in front of it
have been read. -/
def document (fuel : Nat) : Parse (Option NodeId) := do
  match ← peek with
  | .streamEnd => return none
  | t =>
    let explicit := match t with
      | .versionDirective _ => true
      | .tagDirective .. => true
      | .otherDirective => true
      | .documentStart => true
      | _ => false
    directives false fuel
    if explicit then expect .documentStart
    let root ← match explicit, ← peek with
      | true, .documentEnd => emptyNode
      | true, .streamEnd => emptyNode
      | true, .documentStart => emptyNode
      | true, .versionDirective _ => emptyNode
      | true, .tagDirective .. => emptyNode
      | true, .otherDirective => emptyNode
      | _, _ => node .block fuel
    documentEnds fuel
    match ← peek with
    | .streamEnd => return some root
    | _ =>
      modify fun p => { p with handles := [] }
      directives false fuel
      fail

end Parse

/-- The nodes of a document, and the one at the top. -/
def Graph.ofTokens (ts : Lexed) : Except Error (Graph × Option NodeId) :=
  ((Parse.document (4 * ts.tokens.length + 4)).run { tokens := ts.tokens, ending := ts.ending }).map
    fun (root, p) => (p.graph, root)

end ShapeCheck.Yaml
