import ShapeCheck.Proofs.Flow
import ShapeCheck.Proofs.Trees

/-!
# Composing the values of nodes

A graph is `Simple` if each of its nodes is a scalar that has a value, a sequence, or a mapping whose keys are texts. A `Builder`
of such a graph is `Sound` if nodes that have a value have the right one: a collection has a place of its own in the store, and its
content is there or still to be built. Giving a node its value (`Sound.value`) and building the content of a collection
(`Sound.complete`) keep it so, and all contents are built in the end (`Sound.completeAll`), since a collection is only to be built
after a node more has got its value.
-/

namespace ShapeCheck.Yaml

/-! ## Simple graphs -/

/-- A node that has a value: a scalar, a sequence, or a mapping with texts for keys. -/
inductive Graph.Valued (g : Graph) : Node → Prop
  | scalar {sort : NodeSort} {text : String} {a : Scalar} (reads : sort.read text = .ok (some a)) : Valued g ⟨sort, .scalar text⟩
  | sequence {items : List NodeId} (inside : ∀ i ∈ items, i < g.nodes.size) : Valued g ⟨.list, .sequence items⟩
  | mapping {entries : List (NodeId × NodeId)} (keys : ∀ e ∈ entries, e.1 < g.nodes.size ∧ ∃ s, g.node e.1 = ⟨.text, .scalar s⟩)
      (inside : ∀ e ∈ entries, e.2 < g.nodes.size) : Valued g ⟨.map, .mapping entries⟩

/-- All nodes have values. -/
def Graph.Simple (g : Graph) : Prop := ∀ i < g.nodes.size, g.Valued (g.node i)

namespace Builder

/-- A node has got a value. -/
def Settled (b : Builder) (i : NodeId) (v : Value) : Prop := b.values[i]? = some (some v)

/-- A node is a text. -/
def Named (b : Builder) (i : NodeId) (s : String) : Prop := (b.graph.node i).content = .scalar s

/-- The content of a collection is built: it has the values of the nodes in it. -/
inductive Filled (b : Builder) : Content → Address → Prop
  | sequence {items : List NodeId} {vs : List Value} {a : Address} (cell : b.store.read? a = some (.list vs))
      (settled : List.Forall₂ b.Settled items vs) : Filled b (.sequence items) a
  | mapping {entries : List (NodeId × NodeId)} {es : List (String × Value)} {a : Address}
      (cell : b.store.read? a = some (.mapping (Entries.ofList (es.map fun (s, v) => (.text s, v)))))
      (settled : List.Forall₂ (fun e kv => b.Named e.1 kv.1 ∧ b.Settled e.2 kv.2) entries es) : Filled b (.mapping entries) a

/-- How many nodes have no value yet. -/
def unsettled (b : Builder) : Nat := b.values.countP Option.isNone

/-- A builder that has got further. Values stay. -/
structure Follows (b b' : Builder) : Prop where
  graph : b'.graph = b.graph
  settled : ∀ i v, b.Settled i v → b'.Settled i v
  /-- Each collection that is to be built is a node more that has got a value. -/
  count : b'.pending.length + b'.unsettled ≤ b.pending.length + b.unsettled

/-- A builder that has got further, where contents have stayed too. -/
structure Grows (b b' : Builder) : Prop extends Follows b b' where
  cells : ∀ a < b.store.cells.size, b'.store.read? a = b.store.read? a
  size : b.store.cells.size ≤ b'.store.cells.size

/-- A value is right for a node: it is what a scalar is read as, or the place of a collection whose content is still to be built or
there. -/
inductive Right (b : Builder) (todo : List Pending) (i : NodeId) : Value → Prop
  | scalar {text : String} {a : Scalar} (content : (b.graph.node i).content = .scalar text)
      (reads : (b.graph.node i).sort.read text = .ok (some a)) : Right b todo i (.scalar a)
  | awaited {a : Address} (collection : (b.graph.node i).sort = .list ∨ (b.graph.node i).sort = .map)
      (waits : ⟨(b.graph.node i).sort, i, a⟩ ∈ todo ++ b.pending) : Right b todo i (.container a)
  | filled {a : Address} (filled : b.Filled (b.graph.node i).content a) : Right b todo i (.container a)

/-- The values of a builder are right. Beside those that it knows of, more collections may be still to be built. -/
structure Sound (b : Builder) (todo : List Pending) : Prop where
  size : b.values.size = b.graph.nodes.size
  right : ∀ i v, b.Settled i v → b.Right todo i v
  place : ∀ i a, b.Settled i (.container a) → a < b.store.cells.size
  /-- A collection has a place of its own. -/
  alone : ∀ i j a, b.Settled i (.container a) → b.Settled j (.container a) → i = j
  awaited : ∀ p ∈ todo ++ b.pending, b.Settled p.node (.container p.address) ∧ p.sort = (b.graph.node p.node).sort

theorem Follows.refl (b : Builder) : Follows b b := ⟨rfl, fun _ _ h => h, le_refl _⟩

theorem Follows.trans {b b' b'' : Builder} (h : Follows b b') (h' : Follows b' b'') : Follows b b'' where
  graph := h'.graph.trans h.graph
  settled i v hv := h'.settled i v (h.settled i v hv)
  count := h'.count.trans h.count

theorem Grows.refl (b : Builder) : Grows b b := ⟨.refl b, fun _ _ => rfl, le_refl _⟩

theorem Grows.trans {b b' b'' : Builder} (h : Grows b b') (h' : Grows b' b'') : Grows b b'' where
  toFollows := h.toFollows.trans h'.toFollows
  cells a ha := (h'.cells a (ha.trans_le h.size)).trans (h.cells a ha)
  size := h.size.trans h'.size

/-- A content that is built stays so, as long as its cell does. -/
theorem Filled.mono {b b' : Builder} {content : Content} {a : Address} (h : b.Filled content a) (hgraph : b'.graph = b.graph)
    (hsettled : ∀ i v, b.Settled i v → b'.Settled i v) (hcell : b'.store.read? a = b.store.read? a) : b'.Filled content a := by
  cases h with
  | sequence cell settled => exact .sequence (hcell.trans cell) (settled.imp hsettled)
  | mapping cell settled =>
    refine .mapping (hcell.trans cell) (settled.imp fun e kv hkv => ⟨?_, hsettled _ _ hkv.2⟩)
    unfold Named
    rw [hgraph]
    exact hkv.1

variable {b : Builder} {todo : List Pending} {i : NodeId}

open Build

/-- A node that has no value gets one, and the others keep theirs. -/
theorem settled_set {b' : Builder} {v : Value} (hnone : b.values[i]? = some none)
    (hvalues : b'.values = b.values.setIfInBounds i (some v)) (j : NodeId) (w : Value) :
    b'.Settled j w ↔ (j = i ∧ w = v) ∨ b.Settled j w := by
  have hlt : i < b.values.size := (Array.getElem?_eq_some_iff.1 hnone).1
  unfold Settled
  rw [hvalues, Array.getElem?_setIfInBounds]
  by_cases hij : i = j
  · subst hij
    rw [if_pos rfl, if_pos hlt, hnone]
    simp [eq_comm]
  · rw [if_neg hij]
    simp [Ne.symm hij]

theorem unsettled_set {b' : Builder} {v : Value} (hnone : b.values[i]? = some none)
    (hvalues : b'.values = b.values.setIfInBounds i (some v)) : b'.unsettled + 1 = b.unsettled := by
  obtain ⟨hlt, hget⟩ := Array.getElem?_eq_some_iff.1 hnone
  have hpos : 0 < b.values.countP Option.isNone := Array.countP_pos_iff.2 ⟨none, hget ▸ Array.getElem_mem hlt, rfl⟩
  unfold unsettled
  rw [hvalues, Array.setIfInBounds, dif_pos hlt, Array.countP_set hlt, hget]
  simp only [Option.isNone_none, Option.isNone_some, if_true, Bool.false_eq_true, if_false]
  omega

/-- What is right stays so while a builder gets further. -/
theorem Right.mono {b' : Builder} {v : Value} (h : b.Right todo i v) (hgrows : b.Grows b')
    (hplace : ∀ a, v = .container a → a < b.store.cells.size)
    (hpending : ∀ p ∈ b.pending, p ∈ b'.pending) : b'.Right todo i v := by
  cases h with
  | scalar content reads =>
    rw [← hgrows.graph] at content reads
    exact .scalar content reads
  | awaited collection waits =>
    rw [← hgrows.graph] at collection waits
    refine .awaited collection (List.mem_append.2 ((List.mem_append.1 waits).imp_right fun h => hpending _ h))
  | filled filled =>
    rw [← hgrows.graph] at filled
    exact .filled (filled.mono hgrows.graph hgrows.settled (hgrows.cells _ (hplace _ rfl)))

/-- A scalar gets its value. -/
theorem Sound.scalar (h : b.Sound todo) (hnone : b.values[i]? = some none) {a : Scalar} {sort : NodeSort} {text : String}
    (hnode : b.graph.node i = ⟨sort, .scalar text⟩) (hreads : sort.read text = .ok (some a)) :
    Sound { b with values := b.values.setIfInBounds i (some (.scalar a)) } todo ∧
      b.Grows { b with values := b.values.setIfInBounds i (some (.scalar a)) } := by
  let b' : Builder := { b with values := b.values.setIfInBounds i (some (.scalar a)) }
  have hset : ∀ j w, b'.Settled j w ↔ (j = i ∧ w = .scalar a) ∨ b.Settled j w := settled_set hnone rfl
  have hcount : b'.unsettled + 1 = b.unsettled := unsettled_set hnone rfl
  have hgrows : b.Grows b' := by
    refine ⟨⟨rfl, fun j w hw => (hset j w).2 (.inr hw), ?_⟩, fun _ _ => rfl, le_refl _⟩
    change b.pending.length + b'.unsettled ≤ _
    omega
  have hkept : ∀ j c, b'.Settled j (.container c) → b.Settled j (.container c) := by
    intro j c hj
    rcases (hset j _).1 hj with ⟨-, hcontainer⟩ | hj
    · cases hcontainer
    · exact hj
  refine ⟨⟨?_, fun j w hw => ?_, fun j c hc => h.place j c (hkept j c hc),
    fun j l c hj hl => h.alone j l c (hkept j c hj) (hkept l c hl),
    fun p hp => ⟨hgrows.settled _ _ (h.awaited p hp).1, (h.awaited p hp).2⟩⟩, hgrows⟩
  · exact Array.size_setIfInBounds.trans h.size
  · rcases (hset j w).1 hw with ⟨rfl, rfl⟩ | hw
    · refine @Right.scalar b' todo j text a ?_ ?_
      · change (b.graph.node j).content = _
        rw [hnode]
      · change (b.graph.node j).sort.read text = _
        rw [hnode]
        exact hreads
    · exact (h.right j w hw).mono hgrows (fun c hc => h.place j c (hc ▸ hw)) fun _ hp => hp

/-- A collection gets a place, and its content is to be built. -/
theorem Sound.collection (h : b.Sound todo) (hnone : b.values[i]? = some none) (empty : Cell)
    (hsort : (b.graph.node i).sort = .list ∨ (b.graph.node i).sort = .map) :
    let b' : Builder := { b with
      store := (b.store.alloc empty).2
      values := b.values.setIfInBounds i (some (.container b.store.cells.size))
      pending := ⟨(b.graph.node i).sort, i, b.store.cells.size⟩ :: b.pending }
    b'.Sound todo ∧ b.Grows b' := by
  intro b'
  have hset : ∀ j w, b'.Settled j w ↔ (j = i ∧ w = .container b.store.cells.size) ∨ b.Settled j w := settled_set hnone rfl
  have hcount : b'.unsettled + 1 = b.unsettled := unsettled_set hnone rfl
  have hsize : b'.store.cells.size = b.store.cells.size + 1 := Array.size_push ..
  have hgrows : b.Grows b' := by
    refine ⟨⟨rfl, fun j w hw => (hset j w).2 (.inr hw), ?_⟩, fun c hc => Store.read?_alloc_old b.store empty hc, by omega⟩
    change b.pending.length + 1 + b'.unsettled ≤ _
    omega
  refine ⟨⟨?_, fun j w hw => ?_, fun j c hc => ?_, fun j l c hj hl => ?_, fun p hp => ?_⟩, hgrows⟩
  · exact Array.size_setIfInBounds.trans h.size
  · rcases (hset j w).1 hw with ⟨rfl, rfl⟩ | hw
    · exact .awaited hsort (List.mem_append_right _ (List.mem_cons_self ..))
    · exact (h.right j w hw).mono hgrows (fun c hc => h.place j c (hc ▸ hw)) fun _ hp => List.mem_cons_of_mem _ hp
  · rw [hsize]
    rcases (hset j _).1 hc with ⟨-, hcontainer⟩ | hold
    · cases hcontainer
      exact Nat.lt_succ_self _
    · exact (h.place j c hold).trans (Nat.lt_succ_self _)
  · rcases (hset j _).1 hj with ⟨hj', hcontainer⟩ | hj' <;> rcases (hset l _).1 hl with ⟨hl', hcontainer'⟩ | hl'
    · rw [hj', hl']
    · cases hcontainer
      exact absurd (h.place l _ hl') (lt_irrefl _)
    · cases hcontainer'
      exact absurd (h.place j _ hj') (lt_irrefl _)
    · exact h.alone j l c hj' hl'
  · rcases List.mem_append.1 hp with hp | hp
    · exact ⟨hgrows.settled _ _ (h.awaited p (List.mem_append_left _ hp)).1, (h.awaited p (List.mem_append_left _ hp)).2⟩
    · rcases List.mem_cons.1 hp with rfl | hp
      · exact ⟨(hset _ _).2 (.inl ⟨rfl, rfl⟩), rfl⟩
      · exact ⟨hgrows.settled _ _ (h.awaited p (List.mem_append_right _ hp)).1, (h.awaited p (List.mem_append_right _ hp)).2⟩

/-- A step that keeps values right gets a builder further. -/
def Advances (b : Builder) (todo : List Pending) {α : Type} (op : Build α) (done : Builder → α → Prop) : Prop :=
  ∃ a b', op.run b = .ok (a, b') ∧ b'.Sound todo ∧ b.Grows b' ∧ done b' a

/-- A node gets the right value. -/
theorem Sound.value (h : b.Sound todo) (hsimple : b.graph.Simple) (hi : i < b.graph.nodes.size) :
    b.Advances todo (Build.value i) fun b' v => b'.Settled i v := by
  have hlt : i < b.values.size := h.size ▸ hi
  unfold Advances Build.value
  rw [run_bind_ok (rfl : (get : Build Builder).run b = .ok (b, b))]
  obtain ⟨found, hfound⟩ : ∃ found, b.values[i]? = some found := ⟨_, Array.getElem?_eq_getElem hlt⟩
  have hget : b.values.getD i none = found := by rw [Array.getD_eq_getD_getElem?, hfound, Option.getD_some]
  rw [hget]
  cases found with
  | some v => exact ⟨v, b, rfl, h, .refl b, hfound⟩
  | none =>
    dsimp only
    have hvalued := hsimple i hi
    generalize hnode : b.graph.node i = n at hvalued ⊢
    cases hvalued with
    | @scalar sort text a reads =>
      obtain ⟨hsound, hgrows⟩ := h.scalar hfound hnode reads
      refine ⟨.scalar a, _, ?_, hsound, hgrows, (settled_set hfound rfl _ _).2 (.inl ⟨rfl, rfl⟩)⟩
      have htext : (scalarText (b.graph.nodes.size + 1) i).run b = .ok (text, b) := by
        rw [scalarText, run_bind_ok (rfl : (get : Build Builder).run b = .ok (b, b))]
        dsimp only
        rw [hnode]
        rfl
      have hread : (liftM (sort.read text) : Build (Option Scalar)).run b = .ok (some a, b) := by
        rw [reads]
        rfl
      cases sort
      case list | orderedMap | pairs | map | set | unknown | merge | valueKey => cases reads
      all_goals
        dsimp only
        rw [if_neg (by decide), run_bind_ok htext, run_bind_ok hread]
        rfl
    | sequence inside =>
      have hsort : (b.graph.node i).sort = .list := by rw [hnode]
      obtain ⟨hsound, hgrows⟩ := h.collection hfound (.list []) (.inl hsort)
      rw [hsort] at hsound hgrows
      exact ⟨.container b.store.cells.size, _, rfl, hsound, hgrows, (settled_set hfound rfl _ _).2 (.inl ⟨rfl, rfl⟩)⟩
    | mapping keys inside =>
      have hsort : (b.graph.node i).sort = .map := by rw [hnode]
      obtain ⟨hsound, hgrows⟩ := h.collection hfound (.mapping []) (.inr hsort)
      rw [hsort] at hsound hgrows
      exact ⟨.container b.store.cells.size, _, rfl, hsound, hgrows, (settled_set hfound rfl _ _).2 (.inl ⟨rfl, rfl⟩)⟩

/-- Nodes get the right values one after the other. -/
theorem Sound.values : ∀ {items : List NodeId} {b : Builder}, b.Sound todo → b.graph.Simple →
    (∀ i ∈ items, i < b.graph.nodes.size) →
    b.Advances todo (items.mapM Build.value) fun b' vs => List.Forall₂ b'.Settled items vs
  | [], b, h, _, _ => ⟨[], b, rfl, h, .refl b, .nil⟩
  | i :: rest, b, h, hsimple, hitems => by
    obtain ⟨v, b₁, hfirst, hsound₁, hgrows₁, hv⟩ := h.value hsimple (hitems i (List.mem_cons_self ..))
    have hrest : ∀ j ∈ rest, j < b₁.graph.nodes.size := fun j hj => hgrows₁.graph ▸ hitems j (List.mem_cons_of_mem _ hj)
    obtain ⟨vs, b₂, hsecond, hsound₂, hgrows₂, hvs⟩ := Sound.values hsound₁ (hgrows₁.graph ▸ hsimple) hrest
    refine ⟨v :: vs, b₂, ?_, hsound₂, hgrows₁.trans hgrows₂, .cons (hgrows₂.settled i v hv) hvs⟩
    rw [List.mapM_cons, run_bind_ok hfirst, run_bind_ok hsecond]
    rfl

/-! ## Mappings -/

/-- Without merge keys a mapping is as it is written. -/
theorem eachMerge_run {step : NodeId → Build (List (NodeId × NodeId))} {entries : List (NodeId × NodeId)}
    (hnode : (b.graph.node i).content = .mapping entries) (hkeys : ∀ e ∈ entries, (b.graph.node e.1).sort = .text) :
    ∀ fuel seen, (eachMerge i step fuel seen).run b = .ok ([], b)
  | 0, _ => rfl
  | fuel + 1, seen => by
    have hentries : (entriesOf i).run b = .ok (entries, b) := by
      unfold entriesOf
      rw [run_bind_ok (rfl : (node i).run b = .ok (b.graph.node i, b)), hnode]
      rfl
    rw [eachMerge, run_bind_ok hentries]
    cases hseen : entries[seen]? with
    | none => rfl
    | some e =>
      obtain ⟨k, v⟩ := e
      dsimp only
      rw [run_bind_ok (rfl : (node k).run b = .ok (b.graph.node k, b)), hkeys (k, v) (List.mem_of_getElem? hseen)]
      exact eachMerge_run hnode hkeys fuel (seen + 1)

theorem entriesOf_run {entries : List (NodeId × NodeId)} (hnode : (b.graph.node i).content = .mapping entries) :
    (entriesOf i).run b = .ok (entries, b) := by
  unfold entriesOf
  rw [run_bind_ok (rfl : (node i).run b = .ok (b.graph.node i, b)), hnode]
  rfl

theorem flatten_run {entries : List (NodeId × NodeId)} (hnode : (b.graph.node i).content = .mapping entries)
    (hkeys : ∀ e ∈ entries, (b.graph.node e.1).sort = .text) (fuel : Nat) : (flatten (fuel + 1) i).run b = .ok ((), b) := by
  rw [flatten, run_bind_ok (entriesOf_run hnode), run_bind_ok (eachMerge_run hnode hkeys _ _)]
  rfl

theorem exists_flattenFuel (g : Graph) : ∃ fuel, flattenFuel g = fuel + 1 := by
  have hfold : ∀ {f : Nat → Node → Nat}, (∀ n node, n ≤ f n node) → ∀ (nodes : List Node) (n : Nat), n ≤ nodes.foldl f n := by
    intro f hf nodes
    induction nodes with
    | nil => exact fun n => le_refl n
    | cons node rest ih => exact fun n => (hf n node).trans (ih _)
  unfold flattenFuel
  rw [← Array.foldl_toList]
  refine ⟨_, (Nat.sub_add_cancel (hfold (fun n node => ?_) g.nodes.toList 1)).symm⟩
  split <;> omega

/-- Putting an entry under a text. -/
theorem putEntry_text (g : Graph) (k : NodeId) (s : String) (v : Value) (entries : List (BuiltKey × Value)) :
    (putEntry g ⟨k, .text s⟩ v entries).map (fun e => (e.1.key, e.2)) =
      Entries.put (.text s) v (entries.map fun e => (e.1.key, e.2)) := by
  induction entries with
  | nil => rfl
  | cons e rest ih =>
    obtain ⟨l, w⟩ := e
    have hsame : sameKey g l ⟨k, .text s⟩ = l.key.same (.text s) := by
      unfold sameKey
      dsimp only
      split
      · next hnan => cases hnan
      · rfl
    rw [putEntry, hsame, List.map_cons, Entries.put]
    split
    · rfl
    · rw [List.map_cons, ih]

/-- The step from the entries of a mapping that were built to one more. -/
def entryStep (entries : List (BuiltKey × Value)) (e : NodeId × NodeId) : Build (List (BuiltKey × Value)) := do
  match ← value e.1 with
  | .container _ => fail
  | .scalar a => do
    let w ← value e.2
    return putEntry (← get).graph ⟨e.1, .scalar a⟩ w entries

theorem mappingEntries_eq (i : NodeId) : mappingEntries i = (do
    match (← node i).content with
    | .mapping _ => flatten (flattenFuel (← get).graph) i
    | _ => fail
    let built ← (← entriesOf i).foldlM entryStep []
    return built.map fun e => (e.1.key, e.2)) := rfl

/-- The entries of a mapping are built one after the other, where of two with one key the later one counts. -/
theorem Sound.entries : ∀ {entries : List (NodeId × NodeId)} {b : Builder} (acc : List (BuiltKey × Value)), b.Sound todo →
    b.graph.Simple → (∀ e ∈ entries, e.1 < b.graph.nodes.size ∧ ∃ s, b.graph.node e.1 = ⟨.text, .scalar s⟩) →
    (∀ e ∈ entries, e.2 < b.graph.nodes.size) →
    b.Advances todo (entries.foldlM entryStep acc) fun b' built => ∃ es : List (String × Value),
      List.Forall₂ (fun e kv => b'.Named e.1 kv.1 ∧ b'.Settled e.2 kv.2) entries es ∧
      built.map (fun e => (e.1.key, e.2)) =
        (es.map fun (s, v) => (Key.text s, v)).foldl (fun acc (k, v) => Entries.put k v acc) (acc.map fun e => (e.1.key, e.2))
  | [], b, acc, h, _, _, _ => ⟨acc, b, rfl, h, .refl b, [], .nil, rfl⟩
  | e :: rest, b, acc, h, hsimple, hkeys, hinside => by
    obtain ⟨hk, s, hs⟩ := hkeys e (List.mem_cons_self ..)
    obtain ⟨key, b₁, hkey, hsound₁, hgrows₁, hkeyed⟩ := h.value hsimple hk
    have hname : key = .scalar (.text s) := by
      have hnode : b₁.graph.node e.1 = ⟨.text, .scalar s⟩ := hgrows₁.graph ▸ hs
      cases hsound₁.right _ _ hkeyed with
      | scalar content reads =>
        rw [hnode] at content reads
        cases content
        cases reads
        rfl
      | awaited collection => rcases hnode ▸ collection with hsort | hsort <;> cases hsort
      | filled filled => cases hnode ▸ filled
    subst hname
    obtain ⟨w, b₂, hvalue, hsound₂, hgrows₂, hw⟩ := hsound₁.value (hgrows₁.graph ▸ hsimple)
      (hgrows₁.graph ▸ hinside e (List.mem_cons_self ..))
    have hgraph₂ : b₂.graph = b.graph := hgrows₂.graph.trans hgrows₁.graph
    obtain ⟨built, b₃, hrest, hsound₃, hgrows₃, es, hes, hbuilt⟩ := Sound.entries (putEntry b₂.graph ⟨e.1, .text s⟩ w acc) hsound₂
      (hgraph₂ ▸ hsimple) (fun e' he' => hgraph₂ ▸ hkeys e' (List.mem_cons_of_mem _ he'))
      (fun e' he' => hgraph₂ ▸ hinside e' (List.mem_cons_of_mem _ he'))
    refine ⟨built, b₃, ?_, hsound₃, (hgrows₁.trans hgrows₂).trans hgrows₃, (s, w) :: es,
      .cons ⟨?_, hgrows₃.settled _ _ hw⟩ hes, ?_⟩
    · have hstep : (entryStep acc e).run b = .ok (putEntry b₂.graph ⟨e.1, .text s⟩ w acc, b₂) := by
        unfold entryStep
        rw [run_bind_ok hkey]
        dsimp only
        rw [run_bind_ok hvalue]
        rfl
      rw [List.foldlM_cons, run_bind_ok hstep, hrest]
    · unfold Named
      rw [hgrows₃.graph, hgraph₂, hs]
    · rw [hbuilt, putEntry_text]
      rfl

/-! ## Contents -/

/-- A content that is right is put in its place. -/
theorem Sound.write {p : Pending} {cell : Cell} (h : b.Sound (p :: todo))
    (hfilled : Filled { b with store := b.store.write p.address cell } (b.graph.node p.node).content p.address) :
    Sound { b with store := b.store.write p.address cell } todo := by
  have hp := h.awaited p (List.mem_cons_self ..)
  refine ⟨h.size, fun i v hv => ?_, fun i a ha => ?_, h.alone, fun q hq => h.awaited q (List.mem_cons_of_mem _ hq)⟩
  · cases h.right i v hv with
    | scalar content reads => exact .scalar content reads
    | @awaited a collection waits =>
      rcases List.mem_cons.1 waits with rfl | waits
      · exact .filled hfilled
      · exact .awaited collection waits
    | @filled a filled =>
      by_cases ha : p.address = a
      · subst ha
        cases h.alone i p.node p.address hv hp.1
        exact .filled hfilled
      · exact .filled (filled.mono rfl (fun _ _ h => h) (Store.read?_write_other b.store cell ha))
  · exact (h.place i a ha).trans_eq (Store.size_write ..).symm

/-- The content of a collection is built. -/
theorem Sound.complete {p : Pending} (h : b.Sound (p :: todo)) (hsimple : b.graph.Simple) :
    ∃ b', (Build.complete p).run b = .ok ((), b') ∧ b'.Sound todo ∧ b.Follows b' := by
  obtain ⟨hsettled, hsort⟩ := h.awaited p (List.mem_cons_self ..)
  have hlt : p.node < b.graph.nodes.size := by
    rw [← h.size]
    exact (Array.getElem?_eq_some_iff.1 hsettled).1
  have hnode : (node p.node).run b = .ok (b.graph.node p.node, b) := rfl
  have hvalued := hsimple p.node hlt
  have hright := h.right _ _ hsettled
  generalize hn : b.graph.node p.node = n at hvalued hsort hnode
  cases hvalued with
  | @scalar sort text a reads =>
    cases hright with
    | awaited collection =>
      rw [hn] at collection
      rcases collection with rfl | rfl <;> cases reads
    | filled filled =>
      rw [hn] at filled
      cases filled
  | @sequence items inside =>
    obtain ⟨vs, b₁, hrun, hsound₁, hgrows₁, hvs⟩ := h.values hsimple inside
    have hn₁ : b₁.graph.node p.node = ⟨.list, .sequence items⟩ := hgrows₁.graph ▸ hn
    have hcell := Store.read?_write_same b₁.store p.address (.list vs) (hsound₁.place _ _ (hgrows₁.settled _ _ hsettled))
    refine ⟨{ b₁ with store := b₁.store.write p.address (.list vs) }, ?_, hsound₁.write (hn₁ ▸ .sequence hcell hvs),
      ⟨hgrows₁.graph, hgrows₁.settled, hgrows₁.count⟩⟩
    unfold Build.complete
    rw [hsort]
    dsimp only
    rw [run_bind_ok hnode]
    dsimp only
    rw [run_bind_ok hrun]
    rfl
  | @mapping entries keys inside =>
    obtain ⟨built, b₁, hrun, hsound₁, hgrows₁, es, hes, hbuilt⟩ := Sound.entries [] h hsimple keys inside
    have hn₁ : b₁.graph.node p.node = ⟨.map, .mapping entries⟩ := hgrows₁.graph ▸ hn
    have hcell := Store.read?_write_same b₁.store p.address (.mapping (built.map fun e => (e.1.key, e.2)))
      (hsound₁.place _ _ (hgrows₁.settled _ _ hsettled))
    rw [hbuilt] at hcell
    have hcontent : (b.graph.node p.node).content = .mapping entries := by rw [hn]
    have hentries : (mappingEntries p.node).run b = .ok (built.map fun e => (e.1.key, e.2), b₁) := by
      have hflat : (flatten (flattenFuel b.graph) p.node).run b = .ok ((), b) := by
        obtain ⟨fuel, hfuel⟩ := exists_flattenFuel b.graph
        rw [hfuel]
        refine flatten_run hcontent (fun e he => ?_) fuel
        obtain ⟨-, s, hs⟩ := keys e he
        rw [hs]
      rw [mappingEntries_eq, run_bind_ok hnode]
      dsimp only
      rw [run_bind_ok (rfl : (get : Build Builder).run b = .ok (b, b)), run_bind_ok hflat, run_bind_ok (entriesOf_run hcontent),
        run_bind_ok hrun]
      rfl
    refine ⟨{ b₁ with store := b₁.store.write p.address (.mapping (built.map fun e => (e.1.key, e.2))) }, ?_, hsound₁.write ?_,
      ⟨hgrows₁.graph, hgrows₁.settled, hgrows₁.count⟩⟩
    · unfold Build.complete
      rw [hsort]
      dsimp only
      rw [run_bind_ok hentries]
      rfl
    · rw [hn₁, hbuilt]
      exact .mapping hcell hes

/-- The contents of collections are built one after the other. -/
theorem Sound.completes : ∀ {now : List Pending} {b : Builder}, b.Sound now → b.graph.Simple →
    ∃ b', (now.forM Build.complete).run b = .ok ((), b') ∧ b'.Sound [] ∧ b.Follows b'
  | [], b, h, _ => ⟨b, rfl, h, .refl b⟩
  | p :: rest, b, h, hsimple => by
    obtain ⟨b₁, hfirst, hsound₁, hfollows₁⟩ := h.complete hsimple
    obtain ⟨b₂, hrest, hsound₂, hfollows₂⟩ := Sound.completes hsound₁ (hfollows₁.graph ▸ hsimple)
    refine ⟨b₂, ?_, hsound₂, hfollows₁.trans hfollows₂⟩
    change (Build.complete p >>= fun _ => rest.forM Build.complete).run b = _
    rw [run_bind_ok hfirst, hrest]

/-- All contents are built in the end. The induction is on the rounds: if there is another one, then a node more has a value. -/
theorem Sound.completeAll : ∀ {rounds : Nat} {b : Builder}, b.Sound [] → b.graph.Simple → b.pending = [] ∨ b.unsettled < rounds →
    ∃ b', (Build.completeAll rounds).run b = .ok ((), b') ∧ b'.Sound [] ∧ b.Follows b' ∧ b'.pending = []
  | 0, b, h, _, hrounds => ⟨b, rfl, h, .refl b, hrounds.resolve_right (Nat.not_lt_zero _)⟩
  | rounds + 1, b, h, hsimple, hrounds => by
    rw [Build.completeAll, run_bind_ok (rfl : (get : Build Builder).run b = .ok (b, b))]
    dsimp only
    by_cases hnone : b.pending = []
    · rw [hnone]
      exact ⟨b, rfl, h, .refl b, hnone⟩
    · have hsome : b.pending.reverse.isEmpty = false := by
        rw [List.isEmpty_reverse]
        exact List.isEmpty_eq_false_iff.2 hnone
      let b₀ : Builder := { b with pending := [] }
      have hsound₀ : b₀.Sound b.pending.reverse := by
        refine ⟨h.size, fun i v hv => ?_, h.place, h.alone, fun p hp => h.awaited p ?_⟩
        · cases h.right i v hv with
          | scalar content reads => exact .scalar content reads
          | awaited collection waits => exact .awaited collection (List.mem_append_left _ (List.mem_reverse.2 waits))
          | filled filled => exact .filled (filled.mono rfl (fun _ _ h => h) rfl)
        · rcases List.mem_append.1 hp with hp | hp
          · exact List.mem_reverse.1 hp
          · cases hp
      obtain ⟨b₁, hround, hsound₁, hfollows₁⟩ := hsound₀.completes hsimple
      have hcount : b₁.pending.length + b₁.unsettled ≤ b.unsettled := by
        have := hfollows₁.count
        change _ ≤ 0 + b.unsettled at this
        omega
      have hless : b₁.pending = [] ∨ b₁.unsettled < rounds := by
        by_cases hdone : b₁.pending = []
        · exact .inl hdone
        · have hpos := List.length_pos_iff.2 hdone
          have := hrounds.resolve_left hnone
          exact .inr (by omega)
      obtain ⟨b₂, hrest, hsound₂, hfollows₂, hpending⟩ := Sound.completeAll hsound₁ (hfollows₁.graph ▸ hsimple) hless
      refine ⟨b₂, ?_, hsound₂, ?_, hpending⟩
      · rw [hsome, if_neg Bool.false_ne_true]
        change (do
          modify fun b : Builder => { b with pending := [] }
          b.pending.reverse.forM Build.complete
          Build.completeAll rounds : Build Unit).run b = _
        rw [run_bind_ok (rfl : (modify fun b : Builder => { b with pending := [] } : Build Unit).run b = .ok ((), b₀)),
          run_bind_ok hround, hrest]
      · refine ⟨hfollows₂.graph.trans hfollows₁.graph, fun i v hv => hfollows₂.settled i v (hfollows₁.settled i v hv), ?_⟩
        have := hfollows₂.count
        omega

/-- A builder that is to begin with a graph. -/
def start (g : Graph) (σ : Store) : Builder := { graph := g, store := σ, values := (List.replicate g.nodes.size none).toArray }

/-- All nodes that a node holds get the right value. -/
theorem document_run {g : Graph} (hsimple : g.Simple) (hi : i < g.nodes.size) (σ : Store) :
    ∃ v b, (Build.document i).run (start g σ) = .ok (v, b) ∧ b.graph = g ∧ b.Sound [] ∧ b.pending = [] ∧ b.Settled i v := by
  have hnone : ∀ j v, ¬ (start g σ).Settled j v := by
    intro j v hv
    unfold Settled start at hv
    rw [List.toArray_replicate, Array.getElem?_replicate] at hv
    split at hv <;> cases hv
  have hstart : (start g σ).Sound [] :=
    ⟨by simp [start], fun j v hv => absurd hv (hnone j v), fun j a hv => absurd hv (hnone j _),
      fun j l a hv => absurd hv (hnone j _), nofun⟩
  obtain ⟨v, b₁, hvalue, hsound₁, hgrows₁, hv⟩ := hstart.value hsimple hi
  have hgraph₁ : b₁.graph = g := hgrows₁.graph
  have hunsettled : (start g σ).unsettled ≤ g.nodes.size := by
    unfold unsettled start
    refine Array.countP_le_size.trans ?_
    simp
  have hcount : b₁.pending.length + b₁.unsettled ≤ g.nodes.size := by
    have := hgrows₁.count
    change _ ≤ 0 + (start g σ).unsettled at this
    omega
  have hrounds : b₁.unsettled < b₁.graph.nodes.size + 1 := by
    rw [hgraph₁]
    omega
  obtain ⟨b₂, hall, hsound₂, hfollows₂, hpending⟩ := hsound₁.completeAll (hgraph₁ ▸ hsimple) (.inr hrounds)
  refine ⟨v, b₂, ?_, hfollows₂.graph.trans hgraph₁, hsound₂, hpending, hfollows₂.settled i v hv⟩
  unfold Build.document
  rw [run_bind_ok hvalue, run_bind_ok (rfl : (get : Build Builder).run b₁ = .ok (b₁, b₁)), run_bind_ok hall]
  rfl

end Builder

end ShapeCheck.Yaml
