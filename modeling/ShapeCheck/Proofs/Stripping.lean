import ShapeCheck.Proofs.Complements
import ShapeCheck.Proofs.Repeating

/-!
# Stripping and allowing keys

A type that strips keys takes them out of the mapping before it looks at its properties, and one that allows them lets them stay.
`Stripped` relates the stores of the two runs: one mapping lacks the keys that are stripped, and all else is the same. Whatever a
property looks at is apart from that mapping, but for the peers that it names. So the runs go on side by side
(`Stripped.collectFields`) as long as stripping takes no peers away from a property, `PropertyChecker.Spared`, and where it does
they find different things (`PropertyChecker.spared_of_same`).
-/

namespace ShapeCheck

open Relation

/-! ## Entries that are kept -/

section Entries

variable {keep : Key × Value → Bool} {name : String} {es : List (Key × Value)}

theorem Entries.get?_filter (h : ∀ x, keep (.text name, x) = true) : get? name (es.filter keep) = get? name es := by
  induction es with
  | nil => rfl
  | cons e rest ih =>
    obtain ⟨k, w⟩ := e
    unfold get? at ih ⊢
    by_cases hk : k.same (.text name) = true
    · obtain rfl := same_text hk
      rw [List.filter_cons_of_pos (h w), find?, find?, if_pos hk, if_pos hk]
    · by_cases hkeep : keep (k, w) = true
      · rw [List.filter_cons_of_pos hkeep, find?, find?, if_neg hk, if_neg hk, ih]
      · rw [List.filter_cons_of_neg hkeep, ih, find?, if_neg hk]

/-- Putting a value under a text that is kept anyway may come before or after. -/
theorem Entries.put_filter (h : ∀ x, keep (.text name, x) = true) (x : Value) :
    put (.text name) x (es.filter keep) = (put (.text name) x es).filter keep := by
  induction es with
  | nil => rw [List.filter_nil, put, List.filter_cons_of_pos (h x), List.filter_nil]
  | cons e rest ih =>
    obtain ⟨k, w⟩ := e
    by_cases hk : k.same (.text name) = true
    · obtain rfl := same_text hk
      rw [List.filter_cons_of_pos (h w), put, put, if_pos hk, if_pos hk, List.filter_cons_of_pos (h x)]
    · by_cases hkeep : keep (k, w) = true
      · rw [List.filter_cons_of_pos hkeep, put, put, if_neg hk, if_neg hk, List.filter_cons_of_pos hkeep, ih]
      · rw [List.filter_cons_of_neg hkeep, ih, put, if_neg hk, List.filter_cons_of_neg hkeep]

/-- What stands under a key after some entries were dropped stood there before. -/
theorem Entries.find?_of_filter {k : Key} (h : (find? k (es.filter keep)).isSome = true) : (find? k es).isSome = true := by
  induction es with
  | nil => exact h
  | cons e rest ih =>
    obtain ⟨l, w⟩ := e
    unfold find?
    by_cases hl : l.same k = true
    · rw [if_pos hl]
      rfl
    · rw [if_neg hl]
      by_cases hkeep : keep (l, w) = true
      · rw [List.filter_cons_of_pos hkeep, find?, if_neg hl] at h
        exact ih h
      · rw [List.filter_cons_of_neg hkeep] at h
        exact ih h

end Entries

/-! ## Stores without some entries -/

/-- A store in which a mapping has only the entries that are kept. -/
def Store.strip (σ : Store) (a : Address) (keep : Key × Value → Bool) : Store :=
  match σ.read? a with
  | some (.mapping es) => σ.write a (.mapping (es.filter keep))
  | _ => σ

/-- Two stores that are the same but for one mapping, which in the second one has only the entries that are kept. -/
structure Stripped (a : Address) (keep : Key × Value → Bool) (keys : List Key) (ρ τ : Store) : Prop where
  size : τ.cells.size = ρ.cells.size
  elsewhere : ∀ b, b ≠ a → τ.read? b = ρ.read? b
  mapping : ∃ es, ρ.read? a = some (.mapping es) ∧ τ.read? a = some (.mapping (es.filter keep)) ∧
    (es.filter keep).map Prod.fst = keys

section Stores

variable {σ ρ τ : Store} {a : Address} {keep : Key × Value → Bool} {keys : List Key} {es : List (Key × Value)}

theorem Store.isSome_entries? (h : σ.read? a = some (.mapping es)) : (σ.entries? (.container a)).isSome = true := by
  rw [entries?_of_read h]
  rfl

theorem Store.strip_eq (h : σ.read? a = some (.mapping es)) : σ.strip a keep = σ.write a (.mapping (es.filter keep)) := by
  unfold strip
  rw [h]

theorem Store.stripped (keep : Key × Value → Bool) (h : σ.read? a = some (.mapping es)) :
    Stripped a keep ((es.filter keep).map Prod.fst) σ (σ.strip a keep) := by
  rw [strip_eq h]
  exact ⟨size_write .., fun b hb => read?_write_other _ _ hb.symm, es, h, read?_write_same _ _ _ (lt_of_read? h), rfl⟩

theorem Stripped.eq_strip (h : Stripped a keep keys ρ τ) : τ = ρ.strip a keep := by
  obtain ⟨es, hρ, hτ, -⟩ := h.mapping
  have hstrip := Store.stripped keep hρ
  refine Store.ext_read? fun b => ?_
  by_cases hb : b = a
  · obtain ⟨fs, hfs, hread, -⟩ := hstrip.mapping
    cases hρ.symm.trans hfs
    rw [hb, hτ, hread]
  · rw [h.elsewhere b hb, hstrip.elsewhere b hb]

/-- Stripping shares nothing. -/
theorem Store.strip_unshared {v : Value} (hσ : σ.Unshared v) : (σ.strip a keep).Unshared v := by
  unfold strip
  split
  · next es hes =>
    refine Thinner.unshared (fun b c hc => ?_) hσ
    rw [read?_write] at hc
    split at hc
    · next hab =>
      cases hc
      exact ⟨_, hab.1 ▸ hes, (List.filter_sublist.map Prod.snd).filter _⟩
    · exact ⟨c, hc, .refl _⟩
  · exact hσ

theorem Stripped.under? (h : Stripped a keep keys ρ τ) {name : String} (hname : ∀ x, keep (.text name, x) = true) :
    τ.under? (.container a) name = ρ.under? (.container a) name := by
  obtain ⟨es, hρ, hτ, -⟩ := h.mapping
  unfold Store.under?
  rw [Store.entries?_of_read hρ, Store.entries?_of_read hτ]
  exact Entries.get?_filter hname

/-- What a mapping answers about peers once it is stripped. -/
theorem Stripped.holds (h : Stripped a keep ((es.filter keep).map Prod.fst) ρ τ) (hσ : σ.read? a = some (.mapping es)) (d : Datum) :
    τ.holds (.container a) d = (σ.strip a keep).holds (.container a) d := by
  obtain ⟨fs, -, hτ, hkeys⟩ := h.mapping
  obtain ⟨_, hσ', hstrip, -⟩ := (Store.stripped keep hσ).mapping
  cases hσ.symm.trans hσ'
  exact Store.holds_of_keys (Store.entries?_of_read hstrip) (Store.entries?_of_read hτ) hkeys d

/-- Stripping takes keys away and brings none. -/
theorem Store.holds_strip (hσ : σ.read? a = some (.mapping es)) (d : Datum) :
    (σ.strip a keep).holds (.container a) d = σ.holds (.container a) d ∨
      σ.holds (.container a) d = .ok true ∧ (σ.strip a keep).holds (.container a) d = .ok false := by
  obtain ⟨_, hσ', hstrip, -⟩ := (Store.stripped keep hσ).mapping
  cases hσ.symm.trans hσ'
  unfold holds
  rw [entries?_of_read hσ, entries?_of_read hstrip]
  dsimp only [Cell.entries?]
  cases d.key with
  | error e => exact .inl rfl
  | ok k =>
    simp only [bind, Except.bind, pure, Except.pure]
    cases hkept : (Entries.find? k (es.filter keep)).isSome with
    | true => rw [Entries.find?_of_filter hkept]; exact .inl rfl
    | false => cases (Entries.find? k es).isSome with
      | true => exact .inr ⟨rfl, rfl⟩
      | false => exact .inl rfl

/-- A mapping of both stores is changed, and once it is stripped it has the same keys as before. -/
theorem Stripped.write (h : Stripped a keep ((es.filter keep).map Prod.fst) ρ τ) {fs : List (Key × Value)}
    (hfs : (fs.filter keep).map Prod.fst = (es.filter keep).map Prod.fst) :
    Stripped a keep ((es.filter keep).map Prod.fst) (ρ.write a (.mapping fs)) (τ.write a (.mapping (fs.filter keep))) where
  size := by rw [Store.size_write, Store.size_write, h.size]
  elsewhere b hb := by rw [Store.read?_write_other _ _ hb.symm, Store.read?_write_other _ _ hb.symm, h.elsewhere b hb]
  mapping := by
    obtain ⟨_, hρ, hτ, -⟩ := h.mapping
    exact ⟨fs, Store.read?_write_same _ _ _ (Store.lt_of_read? hρ), Store.read?_write_same _ _ _ (Store.lt_of_read? hτ), hfs⟩

end Stores

/-! ## One declared key -/

/-- Stripping takes away no peer that a property asks about, if it comes to asking. -/
def PropertyChecker.Spared (convert : Bool) (σ : Store) (a : Address) (keep : Key × Value → Bool) (p : String × PropertyChecker) :
    Prop :=
  ∀ w, p.2.early convert (Path.key {} p.1) (σ.under? (.container a) p.1).isSome σ (σ.child (.container a) p.1) = .ok (.goOn w) →
    ∀ d ∈ p.2.peersWith ++ p.2.peersWithout, (σ.strip a keep).holds (.container a) d = σ.holds (.container a) d

section Fields

variable {σ : Store} {a : Address} {keep : Key × Value → Bool} {es : List (Key × Value)} {l : Leniency} {r s : Run}
  {ends : String × PropertyChecker → FieldEnd} {done ps : List (String × PropertyChecker)} {p : String × PropertyChecker}
  {resolve : Resolver} {n : Nat} {ctx : Context}

/-- What was the same below a value, and apart from the mapping, is so after both runs changed it alike. -/
theorem Stripped.below {keys : List Key} {v : Value} {q r' s' : Run} (h : Stripped a keep keys r.store s.store)
    (ha : ¬ ReflTransGen σ.Contains v (.container a)) (hr : (Area.below σ v r.store).Runs q r')
    (hs : (Area.below σ v s.store).Runs q s') : Stripped a keep keys r'.store s'.store where
  size := hs.size.trans hr.size.symm
  elsewhere b hb := by
    by_cases hbelow : ReflTransGen σ.Contains v (.container b)
    · exact (hs.same b hbelow).trans (hr.same b hbelow).symm
    · exact (hs.right b hbelow).trans ((h.elsewhere b hb).trans (hr.right b hbelow).symm)
  mapping := by
    obtain ⟨es, hmapping, hstripped, hkeys⟩ := h.mapping
    exact ⟨es, (hr.right a ha).trans hmapping, (hs.right a ha).trans hstripped, hkeys⟩

/-- What a key counts as is saved in both mappings, if in one. -/
theorem Stripped.saveConversion {name : String} {x : Value} (h : Stripped a keep ((es.filter keep).map Prod.fst) r.store s.store)
    (hname : ∀ x, keep (.text name, x) = true) (hunder : (r.store.under? (.container a) name).isSome = true) :
    Agrees (fun r s => Stripped a keep ((es.filter keep).map Prod.fst) r.store s.store) Eq
      ((saveConversion l (.container a) name x).ending r) ((saveConversion l (.container a) name x).ending s) := by
  obtain ⟨fs, hr, hs, hkeys⟩ := h.mapping
  rw [saveConversion_settles hr hunder, saveConversion_settles hs (by rwa [h.under? hname])]
  refine .done rfl ?_
  dsimp only [Cell.settle]
  rw [Entries.get?_filter hname]
  split
  · next hsave =>
    rw [Bool.and_eq_true, Bool.and_eq_true] at hsave
    rw [Entries.put_filter hname]
    refine h.write ?_
    rw [← Entries.put_filter hname, Entries.keys_put (by rw [Entries.get?_filter hname]; exact hsave.1.2), hkeys]
  · exact h.write hkeys

/-- A declared key is checked alike in both runs, if stripping takes away none of its peers. -/
theorem Stripped.field (h : Stripped a keep ((es.filter keep).map Prod.fst) r.store s.store)
    (hafter : σ.After a l ends done r.store) (hσ : σ.Unshared (.container a)) (hes : σ.read? a = some (.mapping es))
    (hp : p.1 ∉ done.map Prod.fst) (hname : ∀ x, keep (.text p.1, x) = true)
    (hspared : PropertyChecker.Spared ctx.convert σ a keep p) :
    Agrees (fun r s => Stripped a keep ((es.filter keep).map Prod.fst) r.store s.store) Eq
      ((PropertyChecker.collectFields (follow resolve n) ctx {} l (.container a) [p]).ending r)
      ((PropertyChecker.collectFields (follow resolve n) ctx {} l (.container a) [p]).ending s) := by
  have hunder : s.store.under? (.container a) p.1 = σ.under? (.container a) p.1 := (h.under? hname).trans (hafter.under? hp)
  -- The check in the stripped store is compared with the check of the key by itself.
  have hs : Agrees (Area.below σ (σ.child (.container a) p.1) s.store).Runs Eq
      (PropertyChecker.field (follow resolve n) ctx {} σ (.container a) p)
      ((p.2.collect (follow resolve n) ctx (Path.key {} p.1) (s.store.under? (.container a) p.1).isSome (some (.container a))
        ((s.store.under? (.container a) p.1).getD default)).ending s) := by
    rw [hunder]
    refine p.2.collect_beside (fun w hw => peerFindings_congr fun v hv d hd => ?_)
      (Area.below_start (q := { store := σ }) (h.size.trans hafter.size) fun b hb => ?_)
    · obtain rfl := Option.mem_some.1 hv
      exact (h.holds hes d).trans (hspared w hw d hd)
    · have hba : b ≠ a := by
        rintro rfl
        exact hσ.not_child p.1 hb
      exact (h.elsewhere b hba).trans (hafter.read?_child hσ hp hb)
  have hr := hafter.collect resolve n ctx {} hσ (Store.isSome_entries? hes) hp
  have hboth := hr.both hs fun q r' s' hr' hs' => h.below (hσ.not_child p.1) hr' hs'
  obtain ⟨name, c⟩ := p
  rw [PropertyChecker.collectFields_singleton, Check.ending_bind_ok (Check.ending_store r), Check.ending_bind_ok (Check.ending_store s)]
  refine hboth.bind fun x y r' s' hends hxy hstripped => ?_
  subst hxy
  dsimp only
  rw [hunder, hafter.under? hp]
  split
  · next hsave =>
    rw [hends] at hr
    have hkept : r'.store.read? a = r.store.read? a := hr.runs.right a (hσ.not_child name)
    rw [Bool.and_eq_true, ← hafter.under? hp, ← Store.under?_congr hkept] at hsave
    exact (hstripped.saveConversion hname hsave.1).bind fun _ _ _ _ _ _ h => .pure rfl h
  · exact .pure rfl hstripped

/-- Declared keys are checked alike in both runs, if stripping takes away none of their peers. The induction is on the keys that
are left. -/
theorem Stripped.collectFields (hσ : σ.Unshared (.container a)) (hes : σ.read? a = some (.mapping es)) :
    ∀ {done : List (String × PropertyChecker)} {r s : Run}, ((done ++ ps).map Prod.fst).Nodup →
      σ.After a l (PropertyChecker.fieldEnd (follow resolve n) ctx {} σ (.container a)) done r.store →
      Stripped a keep ((es.filter keep).map Prod.fst) r.store s.store → (∀ p ∈ ps, ∀ x, keep (.text p.1, x) = true) →
      (∀ p ∈ ps, PropertyChecker.Spared ctx.convert σ a keep p) →
      Agrees (fun r s => Stripped a keep ((es.filter keep).map Prod.fst) r.store s.store) Eq
        ((PropertyChecker.collectFields (follow resolve n) ctx {} l (.container a) ps).ending r)
        ((PropertyChecker.collectFields (follow resolve n) ctx {} l (.container a) ps).ending s) := by
  induction ps with
  | nil =>
    intro done r s _ _ h _ _
    rw [PropertyChecker.collectFields]
    exact .pure rfl h
  | cons p rest ih =>
    intro done r s hnames hafter h hkeep hspared
    rw [List.forall_mem_cons] at hkeep hspared
    have hp : p.1 ∉ done.map Prod.fst := not_mem_done hnames
    have hsplit : p :: rest = [p] ++ rest := rfl
    rw [hsplit, PropertyChecker.collectFields_append]
    refine (h.field hafter hσ hes hp hkeep.1 hspared.1).bind fun found found' r' s' hends heq h' => ?_
    subst heq
    -- The check of the key by itself went well as it did here, so the next ones come after it.
    have hfield : ∃ y q, PropertyChecker.field (follow resolve n) ctx {} σ (.container a) p = (.ok y, q) := by
      refine Store.After.field_ok hσ (Store.isSome_entries? hes) ?_ hafter hends p (List.mem_singleton_self p)
      rw [List.append_cons, List.map_append] at hnames
      exact (List.nodup_append.1 hnames).1
    obtain ⟨y, q, hy⟩ := hfield
    obtain ⟨r'', hends', hafter'⟩ := hafter.step hσ (Store.isSome_entries? hes) hp (PropertyChecker.field_of_ok hy)
    cases hends.symm.trans hends'
    rw [List.append_cons] at hnames
    exact (ih hnames hafter' h' hkeep.2 hspared.2).bind fun others others' _ _ _ hothers h => .pure (by rw [hothers]) h

end Fields

/-! ## Types that strip and types that allow -/

/-- Keys that are not declared are allowed, and they stay. -/
def Leniency.allowing (l : Leniency) : Leniency := { l with allowExtraKeys := true, stripExtraKeys := false }

/-- Keys that are not declared are stripped. -/
def Leniency.stripping (l : Leniency) : Leniency := { l with stripExtraKeys := true }

/-- A type that is lenient in another way. -/
def TypeChecker.lenient (t : TypeChecker) (l : Leniency) : TypeChecker := { t with leniency := l }

theorem TypeChecker.lenient_self (t : TypeChecker) : t.lenient t.leniency = t := by
  cases t
  rfl

/-- The entries of a mapping that a type keeps when it strips. -/
def TypeChecker.keeps (t : TypeChecker) (e : Key × Value) : Bool := !isStray t.leniency (t.properties.map Prod.fst) e

section Types

variable {t : TypeChecker} {f : Follow} {resolve : Resolver} {n : Nat} {ctx : Context} {path : Path} {a : Address} {r : Run}
  {es : List (Key × Value)}

theorem TypeChecker.keeps_declared {p : String × PropertyChecker} (hp : p ∈ t.properties) (x : Value) :
    t.keeps (.text p.1, x) = true := by
  have hmem : (t.properties.map Prod.fst).contains p.1 = true := List.contains_iff_mem.2 (List.mem_map_of_mem hp)
  unfold keeps isStray
  simp only [Key.text?, Key.text, Option.map_some, Option.getD_some, hmem, Bool.not_true, Bool.false_and, Bool.not_false]

/-- Leniency makes no difference to the check of declared keys, but for whether conversions are saved. -/
theorem PropertyChecker.collectFields_lenient {l l' : Leniency} (h : l'.saves = l.saves) {v : Value}
    {ps : List (String × PropertyChecker)} : collectFields f ctx path l' v ps = collectFields f ctx path l v ps := by
  have hsave : saveConversion l' v = saveConversion l v := by
    unfold Leniency.saves at h
    unfold saveConversion
    rw [h]
  induction ps with
  | nil => rw [collectFields, collectFields]
  | cons p rest ih => rw [collectFields, collectFields, ih, hsave]

/-- A type that finds nothing about keys that are not declared goes on to its properties. -/
theorem TypeChecker.collect_clean {s : Run} (hes : r.store.read? a = some (.mapping es))
    (hstrays : (strays t.leniency (t.properties.map Prod.fst) path (.container a)).ending r = (.ok [], s)) :
    (t.collect f ctx path (.container a)).ending r =
      (PropertyChecker.collectFields f (ctx.inside t) path t.leniency (.container a) t.properties).ending s := by
  have hsome : ¬ (r.store.entries? (.container a)).isNone = true := by
    rw [Store.entries?_of_read hes]
    exact Bool.false_ne_true
  rw [collect_eq, Check.ending_bind_ok (Check.ending_store r), if_neg hsome, Check.ending_bind_ok hstrays]
  simp only [List.nil_append, bind_pure]

theorem TypeChecker.collect_allowing (hes : r.store.read? a = some (.mapping es)) :
    ((t.lenient t.leniency.allowing).collect f ctx path (.container a)).ending r =
      (PropertyChecker.collectFields f (ctx.inside t) path t.leniency.allowing (.container a) t.properties).ending r :=
  collect_clean hes rfl

theorem TypeChecker.collect_stripping (hes : r.store.read? a = some (.mapping es)) :
    ((t.lenient t.leniency.stripping).collect f ctx path (.container a)).ending r =
      (PropertyChecker.collectFields f (ctx.inside t) path t.leniency.allowing (.container a) t.properties).ending
        { r with store := r.store.strip a t.keeps } := by
  rw [PropertyChecker.collectFields_lenient (show t.leniency.allowing.saves = t.leniency.stripping.saves from rfl)]
  refine collect_clean hes ?_
  unfold strays
  rw [Check.ending_bind_ok (Check.ending_store r), Store.strip_eq hes, Store.entries?_of_read hes,
    show r.store.cell? (.container a) = some (.mapping es) from hes]
  rfl

/-- Both types end alike on data without shared containers, if stripping takes away no peers. -/
theorem TypeChecker.collect_strips (hnames : (t.properties.map Prod.fst).Nodup) (hv : r.store.Unshared (.container a))
    (hes : r.store.read? a = some (.mapping es))
    (hspared : ∀ p ∈ t.properties, PropertyChecker.Spared (ctx.inside t).convert r.store a t.keeps p) :
    Agrees (fun r s => s.store = r.store.strip a t.keeps) Eq
      (((t.lenient t.leniency.allowing).collect (follow resolve n) ctx {} (.container a)).ending r)
      (((t.lenient t.leniency.stripping).collect (follow resolve n) ctx {} (.container a)).ending r) := by
  rw [collect_allowing hes, collect_stripping hes]
  have hnames' : (([] ++ t.properties).map Prod.fst).Nodup := hnames
  exact (Stripped.collectFields hv hes hnames' (.nil ..) (Store.stripped _ hes) (fun p hp => keeps_declared hp) hspared).mono
    (fun _ _ h => h) fun _ _ h => h.eq_strip

end Types

/-! ## Peers that are taken away -/

section Peers

variable {σ τ : Store} {v : Value} {standing : Bool}

/-- One peer is shown before the others, if it counts. -/
theorem peersShown_cons {d : Datum} {rest : List Datum} {xs : List String} (h : peersShown σ v standing (d :: rest) = .ok xs) :
    ∃ b more, σ.holds v d = .ok b ∧ peersShown σ v standing rest = .ok more ∧
      xs.length = more.length + if b = standing then 1 else 0 := by
  unfold peersShown at h
  obtain ⟨b, hb, h⟩ := Except.bind_eq_ok.1 h
  dsimp only at h
  split at h
  · next hstanding =>
    obtain ⟨shown, hshown, h⟩ := Except.bind_eq_ok.1 h
    obtain ⟨more, hmore, h⟩ := Except.bind_eq_ok.1 h
    cases h
    cases hwritten : d.written Datum.literal with
    | error e =>
      rw [hwritten] at hshown
      cases hshown
    | ok s =>
      rw [hwritten] at hshown
      cases hshown
      exact ⟨b, more, hb, hmore, by rw [if_pos hstanding, List.singleton_append, List.length_cons]⟩
  · next hstanding =>
    obtain ⟨shown, hshown, h⟩ := Except.bind_eq_ok.1 h
    obtain ⟨more, hmore, h⟩ := Except.bind_eq_ok.1 h
    cases h
    cases hshown
    exact ⟨b, more, hb, hmore, by rw [if_neg hstanding]; rfl⟩

/-- Where no fewer peers count, no fewer are shown, and where as many are shown, the same ones count. -/
theorem peersShown_length {peers : List Datum} (h : ∀ d ∈ peers, τ.holds v d = σ.holds v d ∨
    σ.holds v d = .ok (!standing) ∧ τ.holds v d = .ok standing) : ∀ {xs ys : List String},
    peersShown σ v standing peers = .ok xs → peersShown τ v standing peers = .ok ys →
      xs.length ≤ ys.length ∧ (ys.length ≤ xs.length → ∀ d ∈ peers, τ.holds v d = σ.holds v d) := by
  induction peers with
  | nil =>
    intro xs ys hxs hys
    cases hxs
    cases hys
    exact ⟨le_rfl, fun _ _ hd => nomatch hd⟩
  | cons d rest ih =>
    intro xs ys hxs hys
    rw [List.forall_mem_cons] at h
    rw [List.forall_mem_cons]
    obtain ⟨b, more, hb, hmore, hlength⟩ := peersShown_cons hxs
    obtain ⟨b', more', hb', hmore', hlength'⟩ := peersShown_cons hys
    obtain ⟨hle, heq⟩ := ih h.2 hmore hmore'
    rcases h.1 with hsame | ⟨hless, hmore⟩
    · have hbb : b' = b := Except.ok.inj (hb'.symm.trans (hsame.trans hb))
      rw [hlength, hlength', hbb]
      exact ⟨Nat.add_le_add_right hle _, fun hlengths => ⟨hsame, heq (Nat.le_of_add_le_add_right hlengths)⟩⟩
    · -- This peer is shown in the second store alone.
      obtain rfl : b = !standing := Except.ok.inj (hb.symm.trans hless)
      obtain rfl : b' = standing := Except.ok.inj (hb'.symm.trans hmore)
      rw [if_neg (Bool.not_ne_self b')] at hlength
      rw [if_pos rfl] at hlength'
      exact ⟨by omega, fun hlengths => absurd hlengths (by omega)⟩

/-- If the same is found about peers in two stores, the second of which holds no more of them, then both hold the same of them. -/
theorem holds_eq_of_peerFindings {c : PropertyChecker} {path : Path} {u : Value} {found : Findings}
    (h : ∀ d, τ.holds v d = σ.holds v d ∨ σ.holds v d = .ok true ∧ τ.holds v d = .ok false)
    (hσ : peerFindings c path σ (some v) u = .ok found) (hτ : peerFindings c path τ (some v) u = .ok found) :
    ∀ d ∈ c.peersWith ++ c.peersWithout, τ.holds v d = σ.holds v d := by
  unfold peerFindings at hσ hτ
  obtain ⟨absent, habsent, hσ⟩ := Except.bind_eq_ok.1 hσ
  obtain ⟨there, hthere, hσ⟩ := Except.bind_eq_ok.1 hσ
  obtain ⟨absent', habsent', hτ⟩ := Except.bind_eq_ok.1 hτ
  obtain ⟨there', hthere', hτ⟩ := Except.bind_eq_ok.1 hτ
  have hfound := Except.ok.inj (hτ.trans hσ.symm)
  have habsentLength : absent'.length = absent.length := by
    simpa [finding, List.countP_map, Function.comp_def] using congrArg (List.countP fun f => f.code = .withPeer) hfound
  have hthereLength : there'.length = there.length := by
    simpa [finding, List.countP_map, Function.comp_def] using congrArg (List.countP fun f => f.code = .withoutPeer) hfound
  rw [List.forall_mem_append]
  constructor
  · exact (peersShown_length (fun d _ => h d) habsent habsent').2 habsentLength.le
  · have hless : ∀ d ∈ c.peersWithout, σ.holds v d = τ.holds v d ∨ τ.holds v d = .ok (!true) ∧ σ.holds v d = .ok true :=
      fun d _ => (h d).imp Eq.symm And.symm
    exact fun d hd => ((peersShown_length hless hthere' hthere).2 hthereLength.ge d hd).symm

end Peers

/-- Rules look at their value alone. -/
theorem Rule.runAll_local {σ τ : Store} {v w : Value} {q r : Run} (hr : (Area.below σ v τ).Runs q r) (hw : w = v ∨ w.Counted)
    (path : Path) (resolve : Resolver) (n : Nat) (ctx : Context) (rules : List Rule) :
    Agrees (Area.below σ v τ).Runs Eq ((Rule.runAll (follow resolve n) ctx path rules w).ending q)
      ((Rule.runAll (follow resolve n) ctx path rules w).ending r) := by
  have hmet : (Area.below σ v τ).met w := hw.elim (fun heq => heq ▸ .inr .refl) (Area.met_counted _)
  refine (Rule.runAll_tandem (Area.below_lawful σ v τ resolve n ctx) rules hr hmet).mono (fun x y h => ?_) fun _ _ h => h
  change List.Forall₂ Eq x y at h
  rwa [List.forall₂_eq_eq_eq] at h

section Fields

variable {σ : Store} {a : Address} {keep : Key × Value → Bool} {es : List (Key × Value)} {resolve : Resolver} {n : Nat}
  {ctx : Context} {p : String × PropertyChecker} {ps : List (String × PropertyChecker)}

/-- If a declared key by itself is found to be the same in a stripped store, then stripping took away none of its peers. -/
theorem PropertyChecker.spared_of_same (hσ : σ.Unshared (.container a)) (hes : σ.read? a = some (.mapping es))
    (hname : ∀ x, keep (.text p.1, x) = true) {found : Findings} {x y : Value} {r s : Run}
    (hr : PropertyChecker.field (follow resolve n) ctx {} σ (.container a) p = (.ok (found, x), r))
    (hs : PropertyChecker.field (follow resolve n) ctx {} (σ.strip a keep) (.container a) p = (.ok (found, y), s)) :
    PropertyChecker.Spared ctx.convert σ a keep p := by
  intro w hearly
  have hstripped := Store.stripped keep hes
  have hunder : (σ.strip a keep).under? (.container a) p.1 = σ.under? (.container a) p.1 := hstripped.under? hname
  unfold field Store.child at hs
  rw [hunder] at hs
  have hruns : (Area.below σ (σ.child (.container a) p.1) (σ.strip a keep)).Runs { store := σ } { store := σ.strip a keep } := by
    refine Area.below_start (q := { store := σ }) (r := { store := σ.strip a keep }) hstripped.size fun b hb => ?_
    refine hstripped.elsewhere b ?_
    rintro rfl
    exact hσ.not_child p.1 hb
  have hlies : (Area.below σ (σ.child (.container a) p.1) (σ.strip a keep)).Lies (σ.child (.container a) p.1) :=
    Area.lies (.inr .refl)
  have hearly' := (p.2.early_congr (hruns.cell hlies) (hruns.datum hlies) ctx.convert (Path.key {} p.1)
    (σ.under? (.container a) p.1).isSome).trans hearly
  rcases leaves_iff.1 (p.2.collect_ofStore.leaves hr) with ⟨hdone, -⟩ | ⟨peers, others, hgoOn, hpeers, hothers, hfound⟩
  · cases hearly.symm.trans hdone
  rcases leaves_iff.1 (p.2.collect_ofStore.leaves hs) with ⟨hdone, -⟩ | ⟨peers', others', hgoOn', hpeers', hothers', hfound'⟩
  · cases hearly'.symm.trans hdone
  cases hearly.symm.trans hgoOn
  cases hearly'.symm.trans hgoOn'
  -- The rules find the same, so what is found about the peers is the same too.
  have hrules := Rule.runAll_local hruns (Kind.convert_eq (early_goOn hearly)) (Path.key {} p.1) resolve n ctx p.2.rules
  obtain ⟨r', hr', -⟩ := hothers { store := σ } rfl
  obtain ⟨s', hs', -⟩ := hothers' { store := σ.strip a keep } rfl
  rw [hr', hs'] at hrules
  obtain rfl := Except.ok.inj hrules.result_eq
  obtain rfl := List.append_cancel_right (hfound'.symm.trans hfound)
  exact holds_eq_of_peerFindings (Store.holds_strip hes) hpeers hpeers'

/-- What is found about a declared key by itself is about it or about a part of it. -/
theorem PropertyChecker.fieldEnd_under (f : Follow) (hf : f.Under) (path : Path) (v : Value) :
    Findings.Under (path.key p.1) (fieldEnd f ctx path σ v p).found := by
  unfold fieldEnd
  split
  · next found x s hends => exact PropertyChecker.collect_under hf p.2 _ _ _ hends
  · exact .nil

section Findings

variable {own : String × PropertyChecker → Findings} {path : Path} (hunder : ∀ p, Findings.Under (path.key p.1) (own p))

include hunder

theorem Findings.below_flatMap_nil {name : String} (hname : name ∉ ps.map Prod.fst) :
    Findings.below (path.key name) (ps.flatMap own) = [] := by
  refine List.filter_eq_nil_iff.2 fun f hf hleads => hname ?_
  obtain ⟨q, hq, hf⟩ := List.mem_flatMap.1 hf
  rw [Path.key_eq_of_leads (of_decide_eq_true hleads) (hunder q f hf)]
  exact List.mem_map_of_mem hq

/-- Of what is found about declared keys with different names, what is below one of them is what is found about it. -/
theorem Findings.below_flatMap (hnames : (ps.map Prod.fst).Nodup) (hp : p ∈ ps) :
    Findings.below (path.key p.1) (ps.flatMap own) = own p := by
  obtain ⟨before, after, rfl⟩ := List.append_of_mem hp
  rw [List.map_append, List.map_cons, List.nodup_middle, List.nodup_cons, List.mem_append, not_or] at hnames
  rw [List.flatMap_append, List.flatMap_cons, Findings.below_append, Findings.below_append, below_flatMap_nil hunder hnames.1.1,
    below_flatMap_nil hunder hnames.1.2, (hunder p).below_eq, List.nil_append, List.append_nil]

end Findings

/-- Where both types find the same on data without shared containers, stripping took away no peers. -/
theorem TypeChecker.spared_of_same {t : TypeChecker} (hnames : (t.properties.map Prod.fst).Nodup) (hσ : σ.Unshared (.container a))
    (hes : σ.read? a = some (.mapping es)) {found : Findings} {r s : Run}
    (hr : ((t.lenient t.leniency.allowing).collect (follow resolve n) ctx {} (.container a)).ending { store := σ } = (.ok found, r))
    (hs : ((t.lenient t.leniency.stripping).collect (follow resolve n) ctx {} (.container a)).ending { store := σ } =
      (.ok found, s)) : ∀ p ∈ t.properties, PropertyChecker.Spared (ctx.inside t).convert σ a t.keeps p := by
  intro p hp
  have hes' : ({ store := σ } : Run).store.read? a = some (.mapping es) := hes
  rw [TypeChecker.collect_allowing hes'] at hr
  rw [TypeChecker.collect_stripping hes'] at hs
  obtain ⟨_, -, hstrip, -⟩ := (Store.stripped t.keeps hes).mapping
  obtain ⟨hends, hfound, -⟩ := PropertyChecker.collectFields_after hσ (Store.isSome_entries? hes) hnames rfl hr
  obtain ⟨hends', hfound', -⟩ := PropertyChecker.collectFields_after (Store.strip_unshared hσ) (Store.isSome_entries? hstrip)
    hnames rfl hs
  have hunder : ∀ (ρ : Store) (p : String × PropertyChecker), Findings.Under (Path.key {} p.1)
      (PropertyChecker.fieldEnd (follow resolve n) (ctx.inside t) {} ρ (.container a) p).found :=
    fun ρ p => PropertyChecker.fieldEnd_under _ (follow_under resolve n) {} (.container a)
  have hown := Findings.below_flatMap (hunder σ) hnames hp
  have hown' := Findings.below_flatMap (hunder (σ.strip a t.keeps)) hnames hp
  rw [← hfound] at hown
  rw [← hfound', hown] at hown'
  have hfield := hends' p hp
  rw [← hown'] at hfield
  exact PropertyChecker.spared_of_same hσ hes (TypeChecker.keeps_declared hp) (hends p hp) hfield

end Fields

/-! ## Built types -/

section Built

variable {legal legal' : Capabilities → Prop}

/-- A definition that is lenient in another way. -/
def TypeDef.lenient (t : TypeDef) (l : Leniency) : TypeDef := { t with leniency := l }

/-- The entries of a mapping that stay when a type strips it: those of declared keys and, if they are to be skipped, functions. -/
def TypeDef.keeps (t : TypeDef) (e : Key × Value) : Bool := !isStray t.leniency (t.properties.map Prod.fst) e

theorem TypeDef.Compiles.lenient {d : TypeDef} {t : TypeChecker} (h : d.Compiles legal t) (l : Leniency) :
    (d.lenient l).Compiles legal (t.lenient l) := by
  obtain ⟨name, description, leniency, properties⟩ := d
  rw [TypeDef.Compiles] at h
  rw [TypeDef.lenient, TypeDef.Compiles]
  exact ⟨rfl, h.2⟩

theorem TypeDef.Compiles.names_eq {d : TypeDef} {t : TypeChecker} (h : d.Compiles legal t) :
    t.properties.map Prod.fst = d.properties.map Prod.fst := by
  obtain ⟨name, description, leniency, properties⟩ := d
  rw [TypeDef.Compiles] at h
  exact PropertyDef.names_eq h.2.forall₂

/-- **Stripping keys and allowing them come to the same, but for peers.** Let two types be built from one definition, of which the
one allows keys that are not declared and the other one strips them, and let a candidate be a mapping that holds no container twice
and no container inside of itself. If stripping takes away no peer that a property comes to ask about, then both runs end alike,
also in faults, and what they leave differs only in the entries that are stripped. Where both runs find the same, stripping took
away no such peer. -/
theorem ObjectType.validate_stripping {t : TypeDef} {u w : ObjectType} (hu : u.Built legal) (hw : w.Built legal')
    (hallowing : u.definition = t.lenient t.leniency.allowing) (hstripping : w.definition = t.lenient t.leniency.stripping)
    (resolve : Resolver) (maxDepth : Int) {σ : Store} {a : Address} {es : List (Key × Value)} (hσ : σ.Unshared (.container a))
    (hes : σ.read? a = some (.mapping es)) :
    let allowing := u.checker.validate resolve maxDepth (.container a) σ
    let stripping := w.checker.validate resolve maxDepth (.container a) σ
    let Spared := PropertyChecker.Spared (!t.leniency.skipConversions) σ a t.keeps
    ((∀ p ∈ u.checker.properties, Spared p) →
      stripping.result = allowing.result ∧ stripping.run.store = allowing.run.store.strip a t.keeps) ∧
    ∀ found, allowing.result = .ok found → stripping.result = .ok found → ∀ p ∈ u.checker.properties, Spared p := by
  intro allowing stripping Spared
  -- Both checkers are that of the definition, lenient in their ways.
  let c := u.checker.lenient t.leniency
  have hcompiles : (t.lenient t.leniency.allowing).Compiles legal u.checker := hallowing ▸ hu.compiles
  have hcu : u.checker = c.lenient c.leniency.allowing := by
    change u.checker = u.checker.lenient t.leniency.allowing
    rw [show t.leniency.allowing = u.checker.leniency from hcompiles.leniency_eq, TypeChecker.lenient_self]
  have hcw : w.checker = c.lenient c.leniency.stripping := by
    have hcompiles' : (t.lenient t.leniency.stripping).Compiles legal' w.checker := hstripping ▸ hw.compiles
    exact (hcompiles.lenient t.leniency.stripping).determined hcompiles'
  have hkeeps : c.keeps = t.keeps := by
    funext e
    change (!isStray t.leniency (u.checker.properties.map Prod.fst) e) = _
    rw [hcompiles.names_eq]
    rfl
  have hnames : (c.properties.map Prod.fst).Nodup := hu.named.own
  constructor
  · intro hspared
    have hends : Agrees (fun r s => s.store = r.store.strip a t.keeps) Eq
        ((u.checker.collect (follow resolve maxDepth.toNat) { maxDepth := maxDepth } {} (.container a)).ending { store := σ })
        ((w.checker.collect (follow resolve maxDepth.toNat) { maxDepth := maxDepth } {} (.container a)).ending { store := σ }) := by
      rw [hcu, hcw, ← hkeeps]
      exact c.collect_strips hnames hσ hes (hkeeps ▸ hspared)
    exact ⟨hends.result_eq, hends.runs⟩
  · intro found hfound hfound' p hp
    have hr : ((c.lenient c.leniency.allowing).collect (follow resolve maxDepth.toNat) { maxDepth := maxDepth } {}
        (.container a)).ending { store := σ } = (.ok found, allowing.run) := hcu ▸ Prod.ext hfound rfl
    have hs : ((c.lenient c.leniency.stripping).collect (follow resolve maxDepth.toNat) { maxDepth := maxDepth } {}
        (.container a)).ending { store := σ } = (.ok found, stripping.run) := hcw ▸ Prod.ext hfound' rfl
    have hspared := TypeChecker.spared_of_same hnames hσ hes hr hs p hp
    rw [hkeeps] at hspared
    exact hspared

end Built

/-! A size asks for a key beside it, which is declared or not. -/

def pairedData (strips : Bool) (peer : String) : Datum :=
  .record [("allowExtraKeys", .bool true), ("saveConversions", .bool true), ("skipFunctions", .bool true),
    ("stripExtraKeys", .bool strips), ("properties", .record
      [("size", Probe.part "Number" [("with", [.text peer])]), ("unit", Probe.part "String" [])])]

def pairedType (strips : Bool) (peer : String) (h : (ObjectType.ofDatum? (pairedData strips peer)).isSome = true) : ObjectType :=
  (ObjectType.ofDatum? (pairedData strips peer)).get h

def unitType (strips : Bool) : ObjectType := pairedType strips "unit" (by cases strips <;> decide +kernel)

def colourType (strips : Bool) : ObjectType := pairedType strips "colour" (by cases strips <;> decide +kernel)

/-- A numeral with a unit, and beside them a colour and a function. -/
def pairedStore : Store :=
  ⟨#[.mapping [(.text "size", .scalar (.text "5")), (.text "unit", .scalar (.text "cm")), (.text "colour", .scalar (.text "red")),
    (.text "draw", .scalar (.function "draw"))]]⟩

theorem pairedType_built (strips : Bool) (peer : String) (h : (ObjectType.ofDatum? (pairedData strips peer)).isSome = true) :
    (pairedType strips peer h).Built (· = .standard) := ObjectType.ofDatum?_built (Option.some_get _).symm

/-- The unit is declared, so stripping the colour makes no difference: a number is saved, and the function stays. -/
theorem unitType_stripping :
    let allowing := (unitType false).checker.validate (fun _ => none) 4 (.container 0) pairedStore
    let stripping := (unitType true).checker.validate (fun _ => none) 4 (.container 0) pairedStore
    stripping.result = allowing.result ∧
      stripping.run.store = allowing.run.store.strip 0 (unitType false).definition.keeps ∧
      stripping.run.store.under? (.container 0) "size" = some (.scalar (.int 5)) ∧
      stripping.run.store.under? (.container 0) "colour" = none ∧
      stripping.run.store.under? (.container 0) "draw" = some (.scalar (.function "draw")) := by
  intro allowing stripping
  have hallowing : (unitType false).definition =
      (unitType false).definition.lenient (unitType false).definition.leniency.allowing := by with_unfolding_all rfl
  have hstripping : (unitType true).definition =
      (unitType false).definition.lenient (unitType false).definition.leniency.stripping := by with_unfolding_all rfl
  have hpeers : ((unitType false).checker.properties.all fun p => (p.2.peersWith ++ p.2.peersWithout).all fun d =>
      decide ((pairedStore.strip 0 (unitType false).definition.keeps).holds (.container 0) d =
        pairedStore.holds (.container 0) d)) = true := by decide +kernel
  have hrun := (ObjectType.validate_stripping (pairedType_built ..) (pairedType_built ..) hallowing hstripping (fun _ => none) 4
    (Store.IsChain.unshared (by decide +kernel) _) rfl).1 fun p hp w _ d hd =>
      of_decide_eq_true (List.all_eq_true.1 (List.all_eq_true.1 hpeers p hp) d hd)
  exact ⟨hrun.1, hrun.2, by decide +kernel, by decide +kernel, by decide +kernel⟩

/-- The colour is not declared. The type that allows it finds it beside the size, and the type that strips it does not. -/
theorem colourType_stripping :
    (∀ strips, (colourType strips).Built (· = .standard)) ∧
    (colourType false).definition = (colourType false).definition.lenient (colourType false).definition.leniency.allowing ∧
    (colourType true).definition = (colourType false).definition.lenient (colourType false).definition.leniency.stripping ∧
    pairedStore.Unshared (.container 0) ∧
    ((colourType false).checker.validate (fun _ => none) 4 (.container 0) pairedStore).result.map (List.map Violation.text) = .ok [] ∧
    ((colourType true).checker.validate (fun _ => none) 4 (.container 0) pairedStore).result.map (List.map Violation.text) =
      .ok ["size: requires peer 'colour'"] := by
  refine ⟨fun _ => pairedType_built .., ?_, ?_, Store.IsChain.unshared (by decide +kernel) _, by decide +kernel, by decide +kernel⟩
  · with_unfolding_all rfl
  · with_unfolding_all rfl

end ShapeCheck
