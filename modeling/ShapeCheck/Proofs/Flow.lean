import ShapeCheck.Yaml.Document

/-!
# Documents in flow style

A `Flow` is a document without blocks, anchors, aliases and tags: plain scalars that have a value, quoted scalars, sequences, and
mappings with quoted keys. It is known by its tokens, `Flow.tokens`. Reading these tokens gives its nodes in the order in which
they stand in the document, each collection in front of what it holds (`Flow.ofTokens_eq`).
-/

namespace ShapeCheck.Yaml

/-- A step that succeeds hands its result and its state on. -/
theorem run_bind_ok {σ α β : Type} {op : StateT σ (Except Error) α} {k : α → StateT σ (Except Error) β} {s s' : σ} {a : α}
    (h : op.run s = .ok (a, s')) : (op >>= k).run s = (k a).run s' := by
  rw [StateT.run_bind, h]
  rfl

/-- A plain scalar that has a value. -/
structure PlainScalar where
  text : String
  value : Scalar
  reads : (NodeSort.ofText text).read text = .ok (some value)

/-- A document in flow style. -/
inductive Flow where
  | plain (s : PlainScalar)
  | quoted (text : String)
  | sequence (items : List Flow)
  | mapping (entries : List (String × Flow))

/-- What a reading leaves that has taken tokens and added nodes. -/
def Parser.past (p : Parser) (rest : List Token) (new : List Node) : Parser :=
  { p with tokens := rest, graph := ⟨p.graph.nodes ++ new.toArray⟩ }

namespace Flow

/-! ## Tokens -/

/-- The sign between items, which is not there before the first one. -/
def comma (first : Bool) : List Token := if first then [] else [.flowEntry]

mutual
/-- The tokens of a document. -/
def tokens : Flow → List Token
  | .plain s => [.scalar s.text .plain]
  | .quoted t => [.scalar t .quoted]
  | .sequence xs => .flowSequenceStart :: itemTokens true xs
  | .mapping es => .flowMappingStart :: entryTokens true es
/-- The tokens of the items of a sequence, up to its end. -/
def itemTokens (first : Bool) : List Flow → List Token
  | [] => [.flowSequenceEnd]
  | x :: xs => comma first ++ (x.tokens ++ itemTokens false xs)
/-- The tokens of the entries of a mapping, up to its end. -/
def entryTokens (first : Bool) : List (String × Flow) → List Token
  | [] => [.flowMappingEnd]
  | (k, x) :: es => comma first ++ (.key :: .scalar k .quoted :: .value :: (x.tokens ++ entryTokens false es))
end

/-! ## Nodes -/

mutual
/-- The number of nodes of a document. -/
def size : Flow → Nat
  | .plain _ => 1
  | .quoted _ => 1
  | .sequence xs => itemsSize xs + 1
  | .mapping es => entriesSize es + 1
def itemsSize : List Flow → Nat
  | [] => 0
  | x :: xs => x.size + itemsSize xs
def entriesSize : List (String × Flow) → Nat
  | [] => 0
  | (_, x) :: es => 1 + x.size + entriesSize es
end

/-- The nodes of items, of which the first one has a place. -/
def itemIds (start : NodeId) : List Flow → List NodeId
  | [] => []
  | x :: xs => start :: itemIds (start + x.size) xs

/-- The nodes of keys and values, of which the first key has a place. -/
def entryIds (start : NodeId) : List (String × Flow) → List (NodeId × NodeId)
  | [] => []
  | (_, x) :: es => (start, start + 1) :: entryIds (start + (1 + x.size)) es

mutual
/-- The nodes of a document in their order, of which the first one has a place. -/
def nodes (start : NodeId) : Flow → List Node
  | .plain s => [⟨.ofText s.text, .scalar s.text⟩]
  | .quoted t => [⟨.text, .scalar t⟩]
  | .sequence xs => ⟨.list, .sequence (itemIds (start + 1) xs)⟩ :: itemNodes (start + 1) xs
  | .mapping es => ⟨.map, .mapping (entryIds (start + 1) es)⟩ :: entryNodes (start + 1) es
def itemNodes (start : NodeId) : List Flow → List Node
  | [] => []
  | x :: xs => x.nodes start ++ itemNodes (start + x.size) xs
def entryNodes (start : NodeId) : List (String × Flow) → List Node
  | [] => []
  | (k, x) :: es => ⟨.text, .scalar k⟩ :: (x.nodes (start + 1) ++ entryNodes (start + (1 + x.size)) es)
end

mutual
@[simp] theorem length_nodes (start : NodeId) : ∀ x : Flow, (x.nodes start).length = x.size
  | .plain _ => rfl
  | .quoted _ => rfl
  | .sequence xs => by rw [nodes, List.length_cons, length_itemNodes, size]
  | .mapping es => by rw [nodes, List.length_cons, length_entryNodes, size]
theorem length_itemNodes (start : NodeId) : ∀ xs : List Flow, (itemNodes start xs).length = itemsSize xs
  | [] => rfl
  | x :: xs => by rw [itemNodes, List.length_append, length_nodes, length_itemNodes, itemsSize]
theorem length_entryNodes (start : NodeId) : ∀ es : List (String × Flow), (entryNodes start es).length = entriesSize es
  | [] => rfl
  | (k, x) :: es => by
    rw [entryNodes, List.length_cons, List.length_append, length_nodes, length_entryNodes, entriesSize]
    omega
end

/-! ## Reading tokens -/

open Parse

variable {p : Parser} {t u : Token} {rest : List Token}

theorem peek_run (h : p.tokens = t :: rest) : peek.run p = .ok (t, p) := by
  unfold peek
  rw [run_bind_ok (rfl : (get : Parse Parser).run p = .ok (p, p)), h]
  rfl

theorem skip_run (h : p.tokens = t :: rest) : skip.run p = .ok ((), { p with tokens := rest }) := by
  have hdrop : p.tokens.drop 1 = rest := by rw [h, List.drop_one, List.tail_cons]
  rw [← hdrop]
  rfl

theorem accept_run (h : p.tokens = t :: rest) : (accept t).run p = .ok (true, { p with tokens := rest }) := by
  unfold accept
  rw [run_bind_ok (peek_run h), if_pos rfl, run_bind_ok (skip_run h)]
  rfl

theorem accept_run_other (h : p.tokens = u :: rest) (hne : u ≠ t) : (accept t).run p = .ok (false, p) := by
  unfold accept
  rw [run_bind_ok (peek_run h), if_neg hne]
  rfl

theorem expect_run (h : p.tokens = t :: rest) : (expect t).run p = .ok ((), { p with tokens := rest }) := by
  unfold expect
  rw [run_bind_ok (accept_run h)]
  rfl

/-- A token that begins a node without an anchor and a tag. -/
inductive Begins : Token → Prop
  | scalar (text : String) (style : ScalarStyle) : Begins (.scalar text style)
  | sequence : Begins .flowSequenceStart
  | mapping : Begins .flowMappingStart

theorem Begins.ne_flowSequenceEnd (h : Begins t) : t ≠ .flowSequenceEnd := by
  cases h <;> nofun

theorem Begins.ne_key (h : Begins t) : t ≠ .key := by
  cases h <;> nofun

theorem properties_run (h : p.tokens = t :: rest) (ht : Begins t) : properties.run p = .ok ({}, p) := by
  unfold properties
  dsimp only
  cases ht <;>
  · refine (run_bind_ok (?_ : _ = Except.ok ((none : Option String), p))).trans ?_
    · rw [run_bind_ok (peek_run h)]
      rfl
    refine (run_bind_ok (?_ : _ = Except.ok ((none : Option (Option String × String)), p))).trans ?_
    · rw [run_bind_ok (peek_run h)]
      rfl
    · rfl

theorem fill_past (p : Parser) (rest : List Token) (n : Node) (new : List Node) :
    (fill p.graph.nodes.size n).run (p.past rest (default :: new)) = .ok ((), p.past rest (n :: new)) := by
  have hset : (p.graph.nodes ++ (default :: new).toArray).setIfInBounds p.graph.nodes.size n =
      p.graph.nodes ++ (n :: new).toArray := by
    apply Array.ext'
    simp
  unfold Parser.past
  rw [← hset]
  rfl

@[simp] theorem size_past (p : Parser) (rest : List Token) (new : List Node) :
    (p.past rest new).graph.nodes.size = p.graph.nodes.size + new.length := by
  unfold Parser.past
  simp

theorem past_past (p : Parser) (rest rest' : List Token) (new new' : List Node) :
    (p.past rest new).past rest' new' = p.past rest' (new ++ new') := by
  have happend : p.graph.nodes ++ new.toArray ++ new'.toArray = p.graph.nodes ++ (new ++ new').toArray := by
    apply Array.ext'
    simp
  unfold Parser.past
  dsimp only
  rw [happend]

/-- A reading that has only taken tokens. -/
theorem past_nil (p : Parser) (rest : List Token) : p.past rest [] = { p with tokens := rest } := by
  unfold Parser.past
  rw [Array.append_empty]

/-- A collection gets its place before what it holds is read, and its content afterwards. -/
theorem collection_run {α : Type} {items : Parse α} {a : α} {new : List Node} {after : List Token}
    (hitems : items.run (p.past after [default]) = .ok (a, p.past rest (default :: new))) (h : p.tokens = t :: after)
    (n : α → Node) :
    (do
      Properties.check {}
      let i ← add default
      name none i
      let found ← skip >>= fun _ => items
      fill i (n found)
      return i : Parse NodeId).run p = .ok (p.graph.nodes.size, p.past rest (n a :: new)) := by
  let p' : Parser := { p with graph := ⟨p.graph.nodes.push default⟩ }
  have hadd : (add default).run p = .ok (p.graph.nodes.size, p') := rfl
  have hskip : (skip >>= fun _ => items).run p' = .ok (a, p.past rest (default :: new)) := by
    rw [run_bind_ok (@skip_run p' _ _ h)]
    exact hitems
  rw [run_bind_ok (rfl : (Properties.check {}).run p = .ok ((), p)), run_bind_ok hadd,
    run_bind_ok (rfl : (name none p.graph.nodes.size).run p' = .ok ((), p')), run_bind_ok hskip,
    run_bind_ok (fill_past p rest (n a) new)]
  rfl

/-- The sign between items is taken, if it is there. -/
theorem comma_run (stop : Token) {first : Bool} (h : p.tokens = comma first ++ t :: rest) (hstop : .flowEntry ≠ stop)
    (ht : t ≠ stop)
    {β : Type} {closed other : Parse β} :
    (do
      let found ← accept stop
      if found then closed
      else do
        if !first then expect .flowEntry
        let found ← accept stop
        if found then closed else other).run p = other.run { p with tokens := t :: rest } := by
  cases first with
  | true =>
    have hp : { p with tokens := t :: rest } = p := congrArg (fun ts => { p with tokens := ts }) (h : p.tokens = t :: rest).symm
    rw [hp, run_bind_ok (accept_run_other h ht)]
    change (accept stop >>= _).run p = _
    rw [run_bind_ok (accept_run_other h ht)]
    rfl
  | false =>
    rw [run_bind_ok (accept_run_other h hstop)]
    change (expect .flowEntry >>= _).run p = _
    rw [run_bind_ok (expect_run h), run_bind_ok (accept_run_other rfl ht)]
    rfl

/-- The first token of a document is not one of those that end a collection or an entry of it. -/
theorem tokens_cons (x : Flow) : ∃ t ts, x.tokens = t :: ts ∧ Begins t := by
  cases x with
  | plain s => exact ⟨_, _, rfl, .scalar ..⟩
  | quoted text => exact ⟨_, _, rfl, .scalar ..⟩
  | sequence xs => exact ⟨_, _, by rw [tokens], .sequence⟩
  | mapping es => exact ⟨_, _, by rw [tokens], .mapping⟩

/-- A document is read where something may be left out. -/
theorem nodeUnless_run (x : Flow) {stops : List Token} {place : Place} {fuel : Nat} {result : Except Error (NodeId × Parser)}
    (h : p.tokens = x.tokens ++ rest) (hstops : ∀ t, Begins t → t ∉ stops) (hnode : (node place fuel).run p = result) :
    (nodeUnless stops place (fuel + 1)).run p = result := by
  obtain ⟨t, ts, hx, ht⟩ := x.tokens_cons
  rw [hx, List.cons_append] at h
  have hat : (at? stops).run p = .ok (false, p) := by
    unfold at?
    rw [run_bind_ok (peek_run h), List.contains_eq_mem, decide_eq_false (hstops t ht)]
    rfl
  rw [nodeUnless, run_bind_ok hat]
  exact hnode

theorem length_itemTokens (first : Bool) (xs : List Flow) : 0 < (itemTokens first xs).length := by
  cases xs with
  | nil => rw [itemTokens, List.length_singleton]; exact Nat.one_pos
  | cons x xs =>
    obtain ⟨t, ts, hx, -⟩ := x.tokens_cons
    rw [itemTokens, List.length_append, List.length_append, hx, List.length_cons]
    omega

theorem length_entryTokens (first : Bool) (es : List (String × Flow)) : 0 < (entryTokens first es).length := by
  cases es with
  | nil => rw [entryTokens, List.length_singleton]; exact Nat.one_pos
  | cons e es =>
    obtain ⟨k, x⟩ := e
    rw [entryTokens, List.length_append, List.length_cons]
    omega

mutual
theorem node_run : ∀ (x : Flow) {place : Place} {fuel : Nat} {p : Parser} {rest : List Token}, p.tokens = x.tokens ++ rest →
    2 * x.tokens.length ≤ fuel →
    (node place fuel).run p = .ok (p.graph.nodes.size, p.past rest (x.nodes p.graph.nodes.size))
  | .plain s, place, fuel, p, rest, h, hfuel => by
    obtain ⟨fuel, rfl⟩ : ∃ n, fuel = n + 1 := ⟨fuel - 1, by simp [tokens] at hfuel; omega⟩
    rw [tokens] at h
    rw [node, run_bind_ok (peek_run h)]
    dsimp only
    rw [run_bind_ok (properties_run h (.scalar ..)), run_bind_ok (peek_run h)]
    dsimp only
    rw [run_bind_ok (skip_run h)]
    rfl
  | .quoted text, place, fuel, p, rest, h, hfuel => by
    obtain ⟨fuel, rfl⟩ : ∃ n, fuel = n + 1 := ⟨fuel - 1, by simp [tokens] at hfuel; omega⟩
    rw [tokens] at h
    rw [node, run_bind_ok (peek_run h)]
    dsimp only
    rw [run_bind_ok (properties_run h (.scalar ..)), run_bind_ok (peek_run h)]
    dsimp only
    rw [run_bind_ok (skip_run h)]
    rfl
  | .sequence xs, place, fuel, p, rest, h, hfuel => by
    obtain ⟨fuel, rfl⟩ : ∃ n, fuel = n + 1 := ⟨fuel - 1, by simp [tokens] at hfuel; omega⟩
    rw [tokens, List.cons_append] at h
    rw [tokens, List.length_cons] at hfuel
    have hitems := @items_run xs true fuel (p.past (itemTokens true xs ++ rest) [default]) rest rfl (by omega)
    rw [size_past, past_past] at hitems
    rw [node, run_bind_ok (peek_run h)]
    dsimp only
    rw [run_bind_ok (properties_run h .sequence), run_bind_ok (peek_run h), nodes]
    exact collection_run hitems h fun found => ⟨.list, .sequence found⟩
  | .mapping es, place, fuel, p, rest, h, hfuel => by
    obtain ⟨fuel, rfl⟩ : ∃ n, fuel = n + 1 := ⟨fuel - 1, by simp [tokens] at hfuel; omega⟩
    rw [tokens, List.cons_append] at h
    rw [tokens, List.length_cons] at hfuel
    have hentries := @entries_run es true fuel (p.past (entryTokens true es ++ rest) [default]) rest rfl (by omega)
    rw [size_past, past_past] at hentries
    rw [node, run_bind_ok (peek_run h)]
    dsimp only
    rw [run_bind_ok (properties_run h .mapping), run_bind_ok (peek_run h), nodes]
    exact collection_run hentries h fun found => ⟨.map, .mapping found⟩
theorem items_run : ∀ (xs : List Flow) {first : Bool} {fuel : Nat} {p : Parser} {rest : List Token},
    p.tokens = itemTokens first xs ++ rest → 2 * (itemTokens first xs).length ≤ fuel →
    (flowItems first fuel).run p = .ok (itemIds p.graph.nodes.size xs, p.past rest (itemNodes p.graph.nodes.size xs))
  | [], first, fuel, p, rest, h, hfuel => by
    obtain ⟨fuel, rfl⟩ : ∃ n, fuel = n + 1 := ⟨fuel - 1, by simp [itemTokens] at hfuel; omega⟩
    rw [itemTokens, List.singleton_append] at h
    rw [flowItems, run_bind_ok (accept_run h), itemNodes, past_nil]
    rfl
  | x :: xs, first, fuel, p, rest, h, hfuel => by
    rw [itemTokens, List.length_append, List.length_append] at hfuel
    obtain ⟨t, ts, hx, ht⟩ := x.tokens_cons
    have hpos : x.tokens.length = ts.length + 1 := by rw [hx, List.length_cons]
    have hbehind := length_itemTokens false xs
    obtain ⟨fuel, rfl⟩ : ∃ n, fuel = n + 1 := ⟨fuel - 1, by omega⟩
    rw [itemTokens, List.append_assoc, List.append_assoc] at h
    have hcomma : p.tokens = comma first ++ t :: (ts ++ (itemTokens false xs ++ rest)) := by rw [h, hx, List.cons_append]
    let p₁ : Parser := { p with tokens := t :: (ts ++ (itemTokens false xs ++ rest)) }
    have hx₁ : p₁.tokens = x.tokens ++ (itemTokens false xs ++ rest) := by rw [hx, List.cons_append]
    have hnode := @node_run x .flow fuel p₁ _ hx₁ (by omega)
    have hitems :=
      @items_run xs false fuel (p₁.past (itemTokens false xs ++ rest) (x.nodes p₁.graph.nodes.size)) rest rfl (by omega)
    rw [size_past, past_past, length_nodes] at hitems
    rw [flowItems, comma_run .flowSequenceEnd hcomma nofun ht.ne_flowSequenceEnd,
      run_bind_ok (@accept_run_other p₁ _ _ _ rfl ht.ne_key)]
    dsimp only
    rw [if_neg Bool.false_ne_true, run_bind_ok hnode, run_bind_ok hitems, itemIds, itemNodes]
    rfl
theorem entries_run : ∀ (es : List (String × Flow)) {first : Bool} {fuel : Nat} {p : Parser} {rest : List Token},
    p.tokens = entryTokens first es ++ rest → 2 * (entryTokens first es).length ≤ fuel →
    (flowEntries first fuel).run p = .ok (entryIds p.graph.nodes.size es, p.past rest (entryNodes p.graph.nodes.size es))
  | [], first, fuel, p, rest, h, hfuel => by
    obtain ⟨fuel, rfl⟩ : ∃ n, fuel = n + 1 := ⟨fuel - 1, by simp [entryTokens] at hfuel; omega⟩
    rw [entryTokens, List.singleton_append] at h
    rw [flowEntries, run_bind_ok (accept_run h), entryNodes, past_nil]
    rfl
  | (k, x) :: es, first, fuel, p, rest, h, hfuel => by
    rw [entryTokens, List.length_append, List.length_cons, List.length_cons, List.length_cons, List.length_append] at hfuel
    obtain ⟨t, ts, hx, ht⟩ := x.tokens_cons
    have hpos : x.tokens.length = ts.length + 1 := by rw [hx, List.length_cons]
    have hbehind := length_entryTokens false es
    obtain ⟨fuel, rfl⟩ : ∃ n, fuel = n + 2 := ⟨fuel - 2, by omega⟩
    rw [entryTokens, List.append_assoc, List.cons_append, List.cons_append, List.cons_append, List.append_assoc] at h
    let behind := entryTokens false es ++ rest
    let p₁ : Parser := { p with tokens := .scalar k .quoted :: .value :: (x.tokens ++ behind) }
    let p₂ : Parser := p₁.past (.value :: (x.tokens ++ behind)) [⟨.text, .scalar k⟩]
    let p₃ : Parser := { p₂ with tokens := x.tokens ++ behind }
    have hstart : p₃.graph.nodes.size = p.graph.nodes.size + 1 := Array.size_append
    have hkey : (node .flow fuel).run p₁ = .ok (p.graph.nodes.size, p₂) :=
      @node_run (.quoted k) .flow fuel p₁ (.value :: (x.tokens ++ behind)) (by rw [tokens]; rfl)
        (by rw [tokens, List.length_singleton]; omega)
    have hpast : ∀ new, p₃.past behind new = p.past behind (⟨.text, .scalar k⟩ :: new) :=
      past_past p₁ (.value :: (x.tokens ++ behind)) behind [⟨.text, .scalar k⟩]
    have hvalue := @node_run x .flow fuel p₃ behind rfl (by omega)
    rw [hstart, hpast] at hvalue
    have hentries := @entries_run es false (fuel + 1)
      (p.past behind (⟨.text, .scalar k⟩ :: x.nodes (p.graph.nodes.size + 1))) rest rfl (by omega)
    rw [size_past, past_past, List.length_cons, length_nodes, Nat.add_comm x.size 1] at hentries
    have hkey' : (nodeUnless [.value, .flowEntry, .flowMappingEnd] .flow (fuel + 1)).run p₁ = .ok (p.graph.nodes.size, p₂) :=
      @nodeUnless_run p₁ _ (.quoted k) _ _ _ _ (by rw [tokens]; rfl) (by rintro _ (_ | _ | _) <;> simp) hkey
    have hvalue' := @nodeUnless_run p₃ _ x [.flowEntry, .flowMappingEnd] _ _ _ rfl (by rintro _ (_ | _ | _) <;> simp) hvalue
    rw [flowEntries, comma_run .flowMappingEnd h nofun nofun,
      run_bind_ok (@accept_run { p with tokens := .key :: p₁.tokens } _ _ rfl)]
    dsimp only
    rw [if_pos rfl, run_bind_ok hkey', run_bind_ok (@accept_run p₂ _ _ rfl), if_pos rfl, run_bind_ok hvalue', pure_bind,
      run_bind_ok hentries, entryIds, entryNodes]
    rfl
end

/-- The tokens of a document in flow style give its nodes. -/
theorem ofTokens_eq (x : Flow) :
    Graph.ofTokens ⟨x.tokens ++ [.streamEnd], none⟩ = .ok (⟨(x.nodes 0).toArray⟩, some 0) := by
  obtain ⟨t, ts, hx, ht⟩ := x.tokens_cons
  let p : Parser := { tokens := x.tokens ++ [.streamEnd] }
  have hp : p.tokens = t :: (ts ++ [.streamEnd]) := by
    change x.tokens ++ [Token.streamEnd] = _
    rw [hx, List.cons_append]
  let p₁ : Parser := { p with handles := standardHandles }
  have hdirectives : ∀ fuel, (directives false (fuel + 1)).run p = .ok ((), p₁) := by
    intro fuel
    rw [directives, run_bind_ok (peek_run hp)]
    cases ht <;> rfl
  let p₂ : Parser := p₁.past [.streamEnd] (x.nodes 0)
  have hnode : (node .block (4 * (x.tokens ++ [Token.streamEnd]).length + 4)).run p₁ = .ok (0, p₂) :=
    @node_run x .block _ p₁ [.streamEnd] rfl (by rw [List.length_append]; omega)
  have hends : ∀ fuel, (documentEnds fuel).run p₂ = .ok ((), p₂) := by
    intro fuel
    cases fuel with
    | zero => rfl
    | succ fuel =>
      rw [documentEnds, run_bind_ok (@accept_run_other p₂ .documentEnd .streamEnd [] rfl nofun)]
      rfl
  have hdocument : (document (4 * (x.tokens ++ [Token.streamEnd]).length + 4)).run p = .ok (some 0, p₂) := by
    unfold document
    rw [run_bind_ok (peek_run hp)]
    cases ht <;>
    · dsimp only
      rw [run_bind_ok (hdirectives _), if_neg Bool.false_ne_true]
      rw [run_bind_ok (@peek_run p₁ _ _ hp)]
      rw [run_bind_ok hnode, run_bind_ok (hends _), run_bind_ok (@peek_run p₂ _ _ rfl)]
      rfl
  unfold Graph.ofTokens
  rw [hdocument]
  change Except.ok (Graph.mk (#[] ++ (x.nodes 0).toArray), some 0) = _
  rw [Array.empty_append]
end Flow

end ShapeCheck.Yaml
