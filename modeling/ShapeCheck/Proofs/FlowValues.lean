import ShapeCheck.Proofs.Composing
import ShapeCheck.Proofs.Shrinking

/-!
# Values of documents in flow style

The nodes of a document in flow style make a simple graph, and the value that is composed of them is a tree: the `Flow.datum` of
the document, where of two entries with one key the later one counts. So a text with the tokens of a document is loaded as its datum
(`Flow.load_eq`), also where a tree is read as a definition, with the help of trees that are made once for all
(`Store.IsTree.definition_eq`).
-/

namespace ShapeCheck

/-! ## Trees that are made once for all -/

namespace Store

variable {σ : Store} {known : Trees}

/-- The known trees are those of finite trees. -/
def Knows (σ : Store) (known : Trees) : Prop :=
  ∀ a d, known[a]? = some (some d) → σ.IsTree (.container a) ∧ d = σ.datum (.container a)

theorem Knows.knownTree? (h : σ.Knows known) {v : Value} {d : Datum} (hd : Store.knownTree? known v = some d) :
    σ.IsTree v ∧ d = σ.datum v := by
  cases v with
  | scalar a =>
    cases hd
    exact ⟨.scalar a, (datum_scalar σ a).symm⟩
  | container a => exact h a d (Option.join_eq_some_iff.1 hd)

/-- The values of a content whose tree is known are trees, and its tree is made of theirs. -/
theorem Knows.cellTree? (h : σ.Knows known) {c : Cell} {d : Datum} (hd : Store.cellTree? known c = some d) :
    (∀ v ∈ c.values, σ.IsTree v) ∧ d = c.tree σ.datum := by
  have hitems : ∀ {xs : List Value} {ds : List Datum}, xs.mapM (Store.knownTree? known) = some ds →
      (∀ v ∈ xs, σ.IsTree v) ∧ ds = xs.map σ.datum := by
    intro xs
    induction xs with
    | nil =>
      intro ds hds
      cases hds
      exact ⟨List.forall_mem_nil _, rfl⟩
    | cons x rest ih =>
      intro ds hds
      rw [List.mapM_cons] at hds
      obtain ⟨e, he, hds⟩ := Option.bind_eq_some_iff.1 hds
      obtain ⟨es, hes, hds⟩ := Option.bind_eq_some_iff.1 hds
      cases hds
      obtain ⟨htree, rfl⟩ := h.knownTree? he
      obtain ⟨htrees, rfl⟩ := ih hes
      exact ⟨List.forall_mem_cons.2 ⟨htree, htrees⟩, rfl⟩
  have hentries : ∀ {es : List (Key × Value)} {ds : List (Key × Datum)}, es.mapM (Store.entryTree? known) = some ds →
      (∀ v ∈ es.map Prod.snd, σ.IsTree v) ∧ ds = es.map fun e => (e.1, σ.datum e.2) := by
    intro es
    induction es with
    | nil =>
      intro ds hds
      cases hds
      exact ⟨List.forall_mem_nil _, rfl⟩
    | cons e rest ih =>
      intro ds hds
      rw [List.mapM_cons] at hds
      obtain ⟨f, hf, hds⟩ := Option.bind_eq_some_iff.1 hds
      obtain ⟨fs, hfs, hds⟩ := Option.bind_eq_some_iff.1 hds
      cases hds
      obtain ⟨d, hd, rfl⟩ := Option.map_eq_some_iff.1 hf
      obtain ⟨htree, rfl⟩ := h.knownTree? hd
      obtain ⟨htrees, rfl⟩ := ih hfs
      exact ⟨List.forall_mem_cons.2 ⟨htree, htrees⟩, rfl⟩
  cases c with
  | list xs =>
    obtain ⟨ds, hds, rfl⟩ := Option.map_eq_some_iff.1 hd
    obtain ⟨htrees, rfl⟩ := hitems hds
    exact ⟨htrees, rfl⟩
  | tuple xs =>
    obtain ⟨ds, hds, rfl⟩ := Option.map_eq_some_iff.1 hd
    obtain ⟨htrees, rfl⟩ := hitems hds
    exact ⟨htrees, rfl⟩
  | set xs =>
    obtain ⟨ds, hds, rfl⟩ := Option.map_eq_some_iff.1 hd
    obtain ⟨htrees, rfl⟩ := hitems hds
    exact ⟨htrees, rfl⟩
  | mapping es =>
    obtain ⟨ds, hds, rfl⟩ := Option.map_eq_some_iff.1 hd
    obtain ⟨htrees, rfl⟩ := hentries hds
    exact ⟨htrees, rfl⟩
  | readOnly es =>
    obtain ⟨ds, hds, rfl⟩ := Option.map_eq_some_iff.1 hd
    obtain ⟨htrees, rfl⟩ := hentries hds
    exact ⟨htrees, rfl⟩
  | structured sort handle parts =>
    cases hd
    exact ⟨List.forall_mem_nil _, rfl⟩

theorem Knows.moreTrees (h : σ.Knows known) : σ.Knows (σ.moreTrees known) := by
  intro a d hd
  unfold Store.moreTrees at hd
  rw [Array.getElem?_mapIdx] at hd
  obtain ⟨c, hc, hd⟩ := Option.map_eq_some_iff.1 hd
  cases hknown : (known[a]?).join with
  | some e =>
    rw [hknown] at hd
    cases hd
    exact h a d (Option.join_eq_some_iff.1 hknown)
  | none =>
    rw [hknown, Option.none_or] at hd
    obtain ⟨hinside, rfl⟩ := h.cellTree? hd
    have htree : σ.IsTree (.container a) := .container hc hinside
    exact ⟨htree, (htree.datum_eq hc).symm⟩

/-- The trees that are made for a whole store are those of finite trees. -/
theorem knows_trees (σ : Store) : σ.Knows σ.trees := by
  have hall : ∀ rounds {known : Trees}, σ.Knows known → σ.Knows (σ.allTrees rounds known) := by
    intro rounds
    induction rounds with
    | zero => exact fun h => h
    | succ rounds ih =>
      intro known h
      unfold allTrees
      dsimp only
      split
      · exact h
      · exact ih h.moreTrees
  refine hall _ fun a d hd => ?_
  simp at hd

/-- Known trees or not, a tree is read as it is. -/
theorem IsTree.unfold_eq {v : Value} (h : σ.IsTree v) (hknown : σ.Knows known) (mark : Mark) : ∀ fuel around, around.Nodup →
    (∀ a ∈ around, a < σ.cells.size ∧ Relation.TransGen σ.Contains (.container a) v) → around.length + fuel = σ.cells.size + 1 →
      σ.unfold known mark fuel around v = σ.datum v := by
  induction h with
  | scalar a =>
    intro fuel around _ _ _
    rw [datum_scalar]
    unfold unfold
    rfl
  | @container a c cell inside ih =>
    intro fuel around hdistinct haround hfuel
    have htree : σ.IsTree (.container a) := .container cell inside
    have hlength := length_le_of_nodup hdistinct fun b hb => (haround b hb).1
    obtain ⟨fuel, rfl⟩ : ∃ n, fuel = n + 1 := ⟨fuel - 1, by omega⟩
    have hnew : a ∉ around := fun ha => htree.not_inside (haround a ha).2
    have hindex : around.findIdx? (· == a) = none := by
      rw [List.findIdx?_eq_none_iff]
      intro b hb
      rw [beq_eq_false_iff_ne]
      exact fun heq => hnew (heq ▸ hb)
    rw [unfold, hindex]
    cases htrees : (known[a]?).join with
    | some d => exact (hknown a d (Option.join_eq_some_iff.1 htrees)).2
    | none =>
      have hinner : ∀ w ∈ c.values, σ.unfold known mark fuel (a :: around) w = σ.datum w := by
        intro w hw
        have hcontains : σ.Contains (.container a) w := ⟨c, cell, hw⟩
        refine ih w hw fuel (a :: around) (List.nodup_cons.2 ⟨hnew, hdistinct⟩) (fun b hb => ?_) ?_
        · rcases List.mem_cons.1 hb with rfl | hb
          · exact ⟨lt_of_read? cell, .single hcontains⟩
          · exact ⟨(haround b hb).1, (haround b hb).2.tail hcontains⟩
        · rw [List.length_cons]
          omega
      dsimp only
      rw [cell, htree.datum_eq cell, ← Cell.tree_congr hinner]
      cases c <;> rfl

/-- A tree has no marks, whatever they would tell. -/
theorem IsTree.definition_eq {v : Value} (h : σ.IsTree v) : σ.definition v = σ.datum v :=
  h.unfold_eq (knows_trees σ) _ _ [] List.nodup_nil nofun (by rw [List.length_nil]; omega)

end Store

/-! ## Entries whose values are changed -/

namespace Entries

variable {α β : Type}

theorem put_map (f : α → β) (k : Key) (x : α) (es : List (Key × α)) :
    put k (f x) (es.map fun (l, y) => (l, f y)) = (put k x es).map fun (l, y) => (l, f y) := by
  induction es with
  | nil => rfl
  | cons e rest ih =>
    obtain ⟨l, y⟩ := e
    rw [List.map_cons]
    unfold put
    by_cases hl : l.same k = true
    · rw [if_pos hl, if_pos hl]
      rfl
    · rw [if_neg hl, if_neg hl, ih]
      rfl

theorem ofList_map (f : α → β) (es : List (Key × α)) :
    ofList (es.map fun (l, y) => (l, f y)) = (ofList es).map fun (l, y) => (l, f y) := by
  suffices h : ∀ acc : List (Key × α),
      (es.map fun (l, y) => (l, f y)).foldl (fun acc (k, v) => put k v acc) (acc.map fun (l, y) => (l, f y)) =
        (es.foldl (fun acc (k, v) => put k v acc) acc).map fun (l, y) => (l, f y) from h []
  induction es with
  | nil => exact fun _ => rfl
  | cons e rest ih =>
    intro acc
    obtain ⟨l, y⟩ := e
    rw [List.map_cons, List.foldl_cons, List.foldl_cons, ← ih]
    dsimp only
    rw [put_map]

theorem mem_ofList {es : List (String × α)} {e : Key × α} (h : e ∈ ofList (es.map fun (s, x) => (Key.text s, x))) :
    ∃ kx ∈ es, e = (.text kx.1, kx.2) := by
  suffices hall : ∀ acc : List (Key × α), e ∈ (es.map fun (s, x) => (Key.text s, x)).foldl (fun acc (k, v) => put k v acc) acc →
      e ∈ acc ∨ ∃ kx ∈ es, e = (.text kx.1, kx.2) from (hall [] h).resolve_left List.not_mem_nil
  clear h
  induction es with
  | nil => exact fun _ h => .inl h
  | cons kx rest ih =>
    intro acc h
    rw [List.map_cons, List.foldl_cons] at h
    rcases ih _ h with h | ⟨other, hother, rfl⟩
    · rcases mem_put h with rfl | h
      · exact .inr ⟨kx, List.mem_cons_self .., rfl⟩
      · exact .inl h
    · exact .inr ⟨other, List.mem_cons_of_mem _ hother, rfl⟩

end Entries

namespace Yaml

/-! ## Nodes of a document in a graph -/

/-- Nodes stand in a graph, from a place on. -/
def Graph.Holds (g : Graph) (i : NodeId) (ns : List Node) : Prop := ns <+: g.nodes.toList.drop i

namespace Graph.Holds

variable {g : Graph} {i : NodeId} {n : Node} {ns ms : List Node}

theorem tail (h : g.Holds i (n :: ns)) : g.Holds (i + 1) ns := by
  have htail := h.drop 1
  rwa [List.drop_drop, List.drop_one, List.tail_cons] at htail

theorem left (h : g.Holds i (ns ++ ms)) : g.Holds i ns := (List.prefix_append ns ms).trans h

theorem right (h : g.Holds i (ns ++ ms)) : g.Holds (i + ns.length) ms := by
  have hright := h.drop ns.length
  rwa [List.drop_drop, List.drop_left] at hright

theorem getElem? (h : g.Holds i (n :: ns)) : g.nodes[i]? = some n := by
  obtain ⟨more, hmore⟩ := h
  rw [← Array.getElem?_toList, ← Nat.add_zero i, ← List.getElem?_drop, ← hmore]
  rfl

theorem lt (h : g.Holds i (n :: ns)) : i < g.nodes.size := (Array.getElem?_eq_some_iff.1 h.getElem?).1

theorem node (h : g.Holds i (n :: ns)) : g.node i = n := by
  unfold Graph.node
  rw [Array.getD_eq_getD_getElem?, h.getElem?]
  rfl

end Graph.Holds

namespace Flow

variable {g : Graph} {i : NodeId}

/-- A document has a node of its own, in front of all others. -/
theorem nodes_cons (start : NodeId) (x : Flow) : ∃ n ns, x.nodes start = n :: ns := by
  cases x with
  | plain => exact ⟨_, _, rfl⟩
  | quoted => exact ⟨_, _, rfl⟩
  | sequence => exact ⟨_, _, by rw [nodes]⟩
  | mapping => exact ⟨_, _, by rw [nodes]⟩

/-- A document stands in a graph at a place. -/
def In (g : Graph) (i : NodeId) (x : Flow) : Prop := g.Holds i (x.nodes i)

theorem In.lt {x : Flow} (h : x.In g i) : i < g.nodes.size := by
  obtain ⟨n, ns, hx⟩ := x.nodes_cons i
  unfold In at h
  rw [hx] at h
  exact h.lt

/-- A key stands in a graph, and its value. -/
def EntryIn (g : Graph) (e : NodeId × NodeId) (kx : String × Flow) : Prop :=
  (e.1 < g.nodes.size ∧ g.node e.1 = ⟨.text, .scalar kx.1⟩) ∧ kx.2.In g e.2

theorem items_in : ∀ {xs : List Flow} {i : NodeId}, g.Holds i (itemNodes i xs) →
    List.Forall₂ (fun j x => In g j x) (itemIds i xs) xs
  | [], _, _ => .nil
  | x :: xs, i, h => by
    rw [itemNodes] at h
    have hright := h.right
    rw [length_nodes] at hright
    exact .cons h.left (items_in hright)

theorem entries_in : ∀ {es : List (String × Flow)} {i : NodeId}, g.Holds i (entryNodes i es) →
    List.Forall₂ (EntryIn g) (entryIds i es) es
  | [], _, _ => .nil
  | (k, x) :: es, i, h => by
    rw [entryNodes] at h
    have hright := h.tail.right
    rw [length_nodes, Nat.add_assoc] at hright
    exact .cons ⟨⟨h.lt, h.node⟩, h.tail.left⟩ (entries_in hright)

mutual
/-- The nodes of a document have values. -/
theorem In.valued : ∀ {x : Flow} {i : NodeId}, x.In g i → ∀ n ∈ x.nodes i, g.Valued n
  | .plain s, i, _, n, hn => by
    rw [nodes] at hn
    obtain rfl := List.mem_singleton.1 hn
    exact .scalar s.reads
  | .quoted text, i, _, n, hn => by
    rw [nodes] at hn
    obtain rfl := List.mem_singleton.1 hn
    exact .scalar (rfl : NodeSort.text.read text = .ok (some (.text text)))
  | .sequence xs, i, h, n, hn => by
    unfold In at h
    rw [nodes] at h hn
    rcases List.mem_cons.1 hn with rfl | hn
    · exact .sequence ((List.forall₂_and_left _ _).1 ((items_in h.tail).imp fun j x hx => ⟨hx.lt, hx⟩)).1
    · exact itemNodes_valued h.tail n hn
  | .mapping es, i, h, n, hn => by
    unfold In at h
    rw [nodes] at h hn
    rcases List.mem_cons.1 hn with rfl | hn
    · have hin := entries_in h.tail
      exact .mapping ((List.forall₂_and_left _ _).1 (hin.imp fun e kx he => ⟨⟨he.1.1, kx.1, he.1.2⟩, he⟩)).1
        ((List.forall₂_and_left _ _).1 (hin.imp fun e kx he => ⟨he.2.lt, he⟩)).1
    · exact entryNodes_valued h.tail n hn
theorem itemNodes_valued : ∀ {xs : List Flow} {i : NodeId}, g.Holds i (itemNodes i xs) → ∀ n ∈ itemNodes i xs, g.Valued n
  | [], i, _, n, hn => by
    rw [itemNodes] at hn
    cases hn
  | x :: xs, i, h, n, hn => by
    rw [itemNodes] at h hn
    have hright := h.right
    rw [length_nodes] at hright
    rcases List.mem_append.1 hn with hn | hn
    · exact In.valued h.left n hn
    · exact itemNodes_valued hright n hn
theorem entryNodes_valued : ∀ {es : List (String × Flow)} {i : NodeId}, g.Holds i (entryNodes i es) →
    ∀ n ∈ entryNodes i es, g.Valued n
  | [], i, _, n, hn => by
    rw [entryNodes] at hn
    cases hn
  | (k, x) :: es, i, h, n, hn => by
    rw [entryNodes] at h hn
    have hright := h.tail.right
    rw [length_nodes, Nat.add_assoc] at hright
    rcases List.mem_cons.1 hn with rfl | hn
    · exact .scalar (rfl : NodeSort.text.read k = .ok (some (.text k)))
    · rcases List.mem_append.1 hn with hn | hn
      · exact In.valued h.tail.left n hn
      · exact entryNodes_valued hright n hn
end

/-! ## The datum of a document -/

mutual
/-- What a document stands for. -/
def datum : Flow → Datum
  | .plain s => .scalar s.value
  | .quoted text => .text text
  | .sequence xs => .list (itemData xs)
  | .mapping es => .mapping (Entries.ofList (entryData es))
def itemData : List Flow → List Datum
  | [] => []
  | x :: xs => x.datum :: itemData xs
def entryData : List (String × Flow) → List (Key × Datum)
  | [] => []
  | (k, x) :: es => (.text k, x.datum) :: entryData es
end

variable {b : Builder}

/-- A value is a tree with a datum. -/
def Reads (σ : Store) (v : Value) (d : Datum) : Prop := σ.IsTree v ∧ σ.datum v = d

theorem reads_container {σ : Store} {a : Address} {c : Cell} (hcell : σ.read? a = some c) (hinside : ∀ v ∈ c.values, σ.IsTree v) :
    Reads σ (.container a) (c.tree σ.datum) :=
  ⟨.container hcell hinside, (Store.IsTree.container hcell hinside).datum_eq hcell⟩

/-- A scalar has the value that it is read as. -/
theorem settled_scalar (hsound : b.Sound []) (hpending : b.pending = []) {v : Value} (hv : b.Settled i v) {sort : NodeSort}
    {text : String}
    {a : Scalar} (hnode : b.graph.node i = ⟨sort, .scalar text⟩) (hreads : sort.read text = .ok (some a)) :
    Reads b.store v (.scalar a) := by
  have hright := hsound.right i v hv
  cases hright with
  | scalar content reads =>
    rw [hnode] at content reads
    cases content
    cases hreads.symm.trans reads
    exact ⟨.scalar a, Store.datum_scalar ..⟩
  | awaited _ waits =>
    rw [hpending] at waits
    cases waits
  | filled filled =>
    rw [hnode] at filled
    cases filled

/-- A collection has a place with its content. -/
theorem settled_filled (hsound : b.Sound []) (hpending : b.pending = []) {v : Value} (hv : b.Settled i v) {sort : NodeSort}
    {content : Content} (hnode : b.graph.node i = ⟨sort, content⟩) (hcontent : ∀ text, content ≠ .scalar text) :
    ∃ a, v = .container a ∧ b.Filled content a := by
  have hright := hsound.right i v hv
  cases hright with
  | scalar content =>
    rw [hnode] at content
    exact absurd content (hcontent _)
  | awaited _ waits =>
    rw [hpending] at waits
    cases waits
  | filled filled =>
    rw [hnode] at filled
    exact ⟨_, rfl, filled⟩

mutual
/-- When all contents are built, the value of a document is its datum. -/
theorem In.reads (hsound : b.Sound []) (hpending : b.pending = []) : ∀ {x : Flow} {i : NodeId} {v : Value}, x.In b.graph i →
    b.Settled i v → Reads b.store v x.datum
  | .plain s, i, v, h, hv => by
    unfold In at h
    rw [nodes] at h
    rw [datum]
    exact settled_scalar hsound hpending hv h.node s.reads
  | .quoted text, i, v, h, hv => by
    unfold In at h
    rw [nodes] at h
    rw [datum]
    exact settled_scalar hsound hpending hv h.node rfl
  | .sequence xs, i, v, h, hv => by
    unfold In at h
    rw [nodes] at h
    obtain ⟨a, rfl, hfilled⟩ := settled_filled hsound hpending hv h.node nofun
    cases hfilled with
    | sequence cell settled =>
      obtain ⟨htrees, hdata⟩ := items_read hsound hpending (items_in h.tail) settled
      rw [datum, ← hdata]
      exact reads_container cell htrees
  | .mapping es, i, v, h, hv => by
    unfold In at h
    rw [nodes] at h
    obtain ⟨a, rfl, hfilled⟩ := settled_filled hsound hpending hv h.node nofun
    cases hfilled with
    | @mapping _ kvs _ cell settled =>
      obtain ⟨htrees, hdata⟩ := entries_read hsound hpending (entries_in h.tail) settled
      have hinside : ∀ v ∈ (Cell.mapping (Entries.ofList (kvs.map fun (s, v) => (.text s, v)))).values, b.store.IsTree v := by
        intro v hv
        obtain ⟨e, he, rfl⟩ := List.mem_map.1 hv
        obtain ⟨kv, hkv, rfl⟩ := Entries.mem_ofList he
        exact htrees kv hkv
      have hdatum := Entries.ofList_map b.store.datum (kvs.map fun (s, v) => (Key.text s, v))
      rw [List.map_map] at hdatum
      rw [datum, ← hdata]
      change Reads _ _
        (Datum.mapping (Entries.ofList (kvs.map ((fun e => (e.1, b.store.datum e.2)) ∘ fun kv => (Key.text kv.1, kv.2)))))
      rw [hdatum]
      exact reads_container cell hinside
theorem items_read (hsound : b.Sound []) (hpending : b.pending = []) : ∀ {xs : List Flow} {ids : List NodeId} {vs : List Value},
    List.Forall₂ (fun j x => In b.graph j x) ids xs → List.Forall₂ b.Settled ids vs →
    (∀ v ∈ vs, b.store.IsTree v) ∧ vs.map b.store.datum = itemData xs
  | [], _, _, .nil, .nil => ⟨nofun, by rw [itemData]; rfl⟩
  | x :: xs, _, _, .cons hx hxs, .cons hv hvs => by
    obtain ⟨htree, hdatum⟩ := In.reads hsound hpending hx hv
    obtain ⟨htrees, hdata⟩ := items_read hsound hpending hxs hvs
    exact ⟨List.forall_mem_cons.2 ⟨htree, htrees⟩, by rw [itemData, ← hdatum, ← hdata, List.map_cons]⟩
theorem entries_read (hsound : b.Sound []) (hpending : b.pending = []) : ∀ {es : List (String × Flow)}
    {ids : List (NodeId × NodeId)} {kvs : List (String × Value)}, List.Forall₂ (EntryIn b.graph) ids es →
    List.Forall₂ (fun e kv => b.Named e.1 kv.1 ∧ b.Settled e.2 kv.2) ids kvs →
    (∀ kv ∈ kvs, b.store.IsTree kv.2) ∧ (kvs.map fun kv => (Key.text kv.1, b.store.datum kv.2)) = entryData es
  | [], _, _, .nil, .nil => ⟨nofun, by rw [entryData]; rfl⟩
  | (k, x) :: es, e :: _, kv :: _, .cons hx hxs, .cons hv hvs => by
    obtain ⟨htree, hdatum⟩ := In.reads hsound hpending hx.2 hv.2
    obtain ⟨htrees, hdata⟩ := entries_read hsound hpending hxs hvs
    have hname : kv.1 = k := by
      have hnamed : (b.graph.node e.1).content = .scalar kv.1 := hv.1
      rw [hx.1.2] at hnamed
      cases hnamed
      rfl
    refine ⟨List.forall_mem_cons.2 ⟨htree, htrees⟩, ?_⟩
    rw [entryData, List.map_cons, hname, ← hdatum, ← hdata]
end

/-- A text with the tokens of a document is loaded as its datum. -/
theorem load_eq {x : Flow} {text : String} (h : Token.scan text = ⟨x.tokens ++ [.streamEnd], none⟩) (σ : Store) :
    ∃ v τ, Yaml.load text σ = .ok (v, τ) ∧ τ.IsTree v ∧ τ.datum v = x.datum := by
  let g : Graph := ⟨(x.nodes 0).toArray⟩
  have hin : x.In g 0 := List.prefix_refl _
  have hsimple : g.Simple := by
    intro i hi
    refine hin.valued _ ?_
    unfold Graph.node
    rw [Array.getD_eq_getD_getElem?, Array.getElem?_eq_getElem hi]
    exact Array.getElem_mem_toList hi
  obtain ⟨v, b, hrun, hgraph, hsound, hpending, hv⟩ := Builder.document_run hsimple hin.lt σ
  obtain ⟨htree, hdatum⟩ := In.reads hsound hpending (hgraph ▸ hin) hv
  refine ⟨v, b.store, ?_, htree, hdatum⟩
  unfold Yaml.load
  rw [h, ofTokens_eq]
  change (Build.document 0).run (Builder.start g σ) >>= _ = _
  rw [hrun]
  rfl

end Flow

end Yaml

end ShapeCheck
