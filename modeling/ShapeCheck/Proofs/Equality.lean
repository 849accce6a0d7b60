import Mathlib.Data.List.Forall2
import ShapeCheck.Definition.Basic
import ShapeCheck.Value.Store

/-!
# Equality by meaning

`Scalar.equals` compares what two scalars mean, `Scalar.sense?`; what means nothing, as `nan`, equals nothing. So equality is
symmetric and transitive, though not reflexive, and the same goes for keys and, where no set and no mapping holds one thing
twice and a type has one description, for data. `Datum.Proper` says so much of a datum. Symmetry and transitivity of data
need each other, since two sets of one size are equal if each member of the first has an equal one in the second.
-/

namespace ShapeCheck

/-! ## Scalars -/

/-- What a number means: its value, or an infinity by its sign. -/
def Number.sense? : Number → Option (Dyadic ⊕ Bool)
  | .float (.infinite negative) => some (.inr negative)
  | n => n.dyadic?.map .inl

/-- What a moment means: a local time or an instant. -/
def Moment.sense (t : Moment) : Int ⊕ Int :=
  match t.offset with
  | none => .inl t.localMicros
  | some x => .inr (t.localMicros - x * 1000000)

/-- What a scalar means. -/
inductive Sense where
  | null
  | number (x : Dyadic ⊕ Bool)
  | text (s : String)
  | function (name : String)
  | reference (r : TypeRef)
  | date (d : Date)
  | moment (t : Int ⊕ Int)
  | bytes (bs : List UInt8)

def Scalar.sense? : Scalar → Option Sense
  | .null => some .null
  | .bool b => (Number.int (if b then 1 else 0)).sense?.map .number
  | .number n => n.sense?.map .number
  | .text s => some (.text s)
  | .function f => some (.function f)
  | .reference r => some (.reference r)
  | .date d => some (.date d)
  | .moment t => some (.moment t.sense)
  | .bytes bs => some (.bytes bs)

theorem Number.equals_iff {a b : Number} : a.equals b = true ↔ a.sense?.isSome = true ∧ a.sense? = b.sense? := by
  unfold equals sense?
  rcases a with m | (⟨_, _, _⟩ | s | _) <;> rcases b with n | (⟨_, _, _⟩ | t | _) <;> simp [dyadic?, Binary64.toDyadic?]

theorem Moment.same_iff {t u : Moment} : t.same u = true ↔ t.sense = u.sense := by
  unfold same sense
  cases t.offset <;> cases u.offset <;> simp

/-- Two scalars are equal if they mean one thing. -/
theorem Scalar.equals_iff {a b : Scalar} : a.equals b = true ↔ a.sense?.isSome = true ∧ a.sense? = b.sense? := by
  have hinj : ∀ {x y : Option (Dyadic ⊕ Bool)}, x.map Sense.number = y.map Sense.number ↔ x = y :=
    (Option.map_injective fun _ _ h => Sense.number.inj h).eq_iff
  have hne : ∀ {s : Sense} {x : Option (Dyadic ⊕ Bool)}, (∀ y, s ≠ .number y) → some s ≠ x.map Sense.number := by
    intro s x h
    cases x with
    | none => nofun
    | some y => exact fun heq => h y (Option.some.inj heq)
  cases a with
  | null | text | function | reference | date | moment | bytes =>
      cases b <;> simp [equals, sense?, number?, Moment.same_iff, hne]
  | bool | number => cases b <;> simp [equals, sense?, number?, Number.equals_iff, hinj, hne, Ne.symm]

theorem Scalar.equals_symm {a b : Scalar} (h : a.equals b = true) : b.equals a = true := by
  obtain ⟨hsome, heq⟩ := equals_iff.1 h
  exact equals_iff.2 ⟨heq ▸ hsome, heq.symm⟩

theorem Scalar.equals_trans {a b c : Scalar} (h : a.equals b = true) (h' : b.equals c = true) : a.equals c = true := by
  obtain ⟨hsome, heq⟩ := equals_iff.1 h
  exact equals_iff.2 ⟨hsome, heq.trans (equals_iff.1 h').2⟩

/-! ## Keys -/

mutual
theorem Key.same_symm : ∀ {k l : Key}, k.same l = true → l.same k = true
  | .scalar _, .scalar _, h => Scalar.equals_symm h
  | .tuple _, .tuple _, h => Key.sameItems_symm h
theorem Key.sameItems_symm : ∀ {ks ls : List Key}, Key.sameItems ks ls = true → Key.sameItems ls ks = true
  | [], [], _ => rfl
  | k :: ks, l :: ls, h => by
      rw [Key.sameItems, Bool.and_eq_true] at h ⊢
      exact ⟨Key.same_symm h.1, Key.sameItems_symm h.2⟩
end

mutual
theorem Key.same_trans : ∀ {k l m : Key}, k.same l = true → l.same m = true → k.same m = true
  | .scalar _, .scalar _, .scalar _, h, h' => Scalar.equals_trans h h'
  | .tuple _, .tuple _, .tuple _, h, h' => Key.sameItems_trans h h'
theorem Key.sameItems_trans : ∀ {ks ls ms : List Key}, Key.sameItems ks ls = true → Key.sameItems ls ms = true →
    Key.sameItems ks ms = true
  | [], [], [], _, _ => rfl
  | k :: ks, l :: ls, m :: ms, h, h' => by
      rw [Key.sameItems, Bool.and_eq_true] at h h' ⊢
      exact ⟨Key.same_trans h.1 h'.1, Key.sameItems_trans h.2 h'.2⟩
end

/-- Keys that are one key find the same. -/
theorem Entries.find?_congr {α : Type} {k l : Key} (h : k.same l = true) (es : List (Key × α)) : find? k es = find? l es := by
  induction es with
  | nil => rfl
  | cons e rest ih =>
      obtain ⟨m, x⟩ := e
      have hsame : m.same k = m.same l := by
        rw [Bool.eq_iff_iff]
        exact ⟨fun hk => Key.same_trans hk h, fun hl => Key.same_trans hl (Key.same_symm h)⟩
      unfold find?
      rw [hsame, ih]

/-- What stands in an entry is found under a key that is the one of the entry. -/
theorem Entries.find?_of_mem {α : Type} {es : List (Key × α)} (hdistinct : es.Pairwise fun a b => a.1.same b.1 = false)
    {e : Key × α} (he : e ∈ es) {k : Key} (hk : e.1.same k = true) : find? k es = some e.2 := by
  induction es with
  | nil => cases he
  | cons f rest ih =>
      obtain ⟨hfirst, hrest⟩ := List.pairwise_cons.1 hdistinct
      unfold find?
      rcases List.mem_cons.1 he with rfl | he
      · rw [if_pos hk]
      · have hother : ¬ f.1.same k = true := by
          intro hf
          have hsame := Key.same_trans hf (Key.same_symm hk)
          rw [hfirst e he] at hsame
          cases hsame
        rw [if_neg hother]
        exact ih hrest he

theorem Entries.mem_of_find? {α : Type} {k : Key} {es : List (Key × α)} {x : α} (h : find? k es = some x) :
    ∃ l, l.same k = true ∧ (l, x) ∈ es := by
  induction es with
  | nil => cases h
  | cons e rest ih =>
      obtain ⟨l, y⟩ := e
      unfold find? at h
      split at h
      · next hl =>
        cases h
        exact ⟨l, hl, List.mem_cons_self ..⟩
      · obtain ⟨m, hm, hmem⟩ := ih h
        exact ⟨m, hm, List.mem_cons_of_mem _ hmem⟩

/-! ## Data -/

/-- The descriptions of types that were built before, by their places, and of their properties. -/
abbrev Descriptions := Nat × Option String → Option Datum

mutual
/-- Sets and mappings hold nothing twice, and types that were built before have one description each, as have their properties.
This goes for the containers around as well, where their trees are known. -/
def Datum.Proper (described : Descriptions) : Datum → Prop
  | .scalar _ => True
  | .list xs => Datum.AllProper described xs
  | .tuple xs => Datum.AllProper described xs
  | .set xs => Datum.AllProper described xs ∧ xs.Pairwise fun x y => x.equals y = false
  | .mapping es => Datum.EntriesProper described es ∧ es.Pairwise fun a b => a.1.same b.1 = false
  | .readOnly es => Datum.EntriesProper described es ∧ es.Pairwise fun a b => a.1.same b.1 = false
  | .structured sort handle parts =>
    (∀ h ∈ handle, described (h.index, h.part) = some (.structured sort handle parts)) ∧ Datum.PartsProper described parts
  | @Datum.back _ trees _ => Datum.AllProper described trees
def Datum.AllProper (described : Descriptions) : List Datum → Prop
  | [] => True
  | x :: xs => x.Proper described ∧ Datum.AllProper described xs
def Datum.EntriesProper (described : Descriptions) : List (Key × Datum) → Prop
  | [] => True
  | (_, d) :: rest => d.Proper described ∧ Datum.EntriesProper described rest
def Datum.PartsProper (described : Descriptions) : List (String × Datum) → Prop
  | [] => True
  | (_, d) :: rest => d.Proper described ∧ Datum.PartsProper described rest
end

namespace Datum

variable {described : Descriptions}

theorem allProper_iff {xs : List Datum} : AllProper described xs ↔ ∀ x ∈ xs, x.Proper described := by
  induction xs with
  | nil =>
      rw [AllProper]
      exact ⟨fun _ _ h => (nomatch h), fun _ => trivial⟩
  | cons x rest ih => rw [AllProper, List.forall_mem_cons, ih]

theorem entriesProper_iff {es : List (Key × Datum)} : EntriesProper described es ↔ ∀ e ∈ es, e.2.Proper described := by
  induction es with
  | nil =>
      rw [EntriesProper]
      exact ⟨fun _ _ h => (nomatch h), fun _ => trivial⟩
  | cons e rest ih =>
      obtain ⟨k, d⟩ := e
      rw [EntriesProper, List.forall_mem_cons, ih]

theorem partsProper_iff {ps : List (String × Datum)} : PartsProper described ps ↔ ∀ p ∈ ps, p.2.Proper described := by
  induction ps with
  | nil =>
      rw [PartsProper]
      exact ⟨fun _ _ h => (nomatch h), fun _ => trivial⟩
  | cons p rest ih =>
      obtain ⟨n, d⟩ := p
      rw [PartsProper, List.forall_mem_cons, ih]

theorem proper_scalar (a : Scalar) : (scalar a).Proper described := by
  rw [Proper]
  trivial

theorem proper_pair {described : Descriptions} {m n : String} {x y : Datum} (hmn : m ≠ n) (hx : x.Proper described)
    (hy : y.Proper described) : (record [(m, x), (n, y)]).Proper described := by
  unfold Datum.record
  rw [Proper, entriesProper_iff]
  refine ⟨List.forall_mem_cons.2 ⟨hx, List.forall_mem_singleton.2 hy⟩, List.pairwise_pair.2 ?_⟩
  exact decide_eq_false hmn

/-- The members of a proper list, tuple or set are proper. -/
theorem Proper.member {d x : Datum} {xs : List Datum} (h : d.Proper described) (hm : d.members? = some xs) (hx : x ∈ xs) :
    x.Proper described := by
  cases d with
  | list | tuple =>
      cases hm
      rw [Proper, allProper_iff] at h
      exact h x hx
  | set =>
      cases hm
      rw [Proper, allProper_iff] at h
      exact h.1 x hx
  | _ => cases hm

/-- What a mark in proper data stands for is proper. -/
theorem Proper.target {d : Datum} (h : d.Proper described) : d.target.Proper described := by
  cases d with
  | @back names trees level =>
      change (trees[level]?.getD (@back names trees level)).Proper described
      cases htree : trees[level]? with
      | none => exact h
      | some t =>
          rw [Proper, allProper_iff] at h
          exact h t (List.mem_of_getElem? htree)
  | _ => exact h

theorem Proper.entries {d : Datum} {es : List (Key × Datum)} (h : d.Proper described) (he : d.entries? = some es) :
    (∀ e ∈ es, e.2.Proper described) ∧ es.Pairwise fun a b => a.1.same b.1 = false := by
  cases d with
  | mapping | readOnly =>
      cases he
      rwa [Proper, entriesProper_iff] at h
  | _ => cases he

theorem equalItems_iff {xs ys : List Datum} : equalItems xs ys = true ↔ List.Forall₂ (fun x y => x.equals y = true) xs ys := by
  induction xs generalizing ys with
  | nil => cases ys <;> simp [equalItems]
  | cons x rest ih => cases ys <;> simp [equalItems, ih]

theorem equalMembers_iff {xs ys : List Datum} :
    equalMembers xs ys = true ↔ ∀ x ∈ xs, ∃ y ∈ ys, x.equals y = true := by
  induction xs with
  | nil => simp [equalMembers]
  | cons x rest ih => simp [equalMembers, ih]

theorem equalParts_iff {ps qs : List (String × Datum)} :
    equalParts ps qs = true ↔ List.Forall₂ (fun p q => p.1 = q.1 ∧ p.2.equals q.2 = true) ps qs := by
  induction ps generalizing qs with
  | nil => cases qs <;> simp [equalParts]
  | cons p rest ih =>
      obtain ⟨n, d⟩ := p
      rcases qs with _ | ⟨⟨m, e⟩, qs⟩ <;> simp [equalParts, ih]

theorem equalEntries_iff {es fs : List (Key × Datum)} :
    equalEntries es fs = true ↔ ∀ e ∈ es, ∃ d, Entries.find? e.1 fs = some d ∧ e.2.equals d = true := by
  induction es with
  | nil => simp [equalEntries]
  | cons e rest ih =>
      obtain ⟨k, d⟩ := e
      rw [equalEntries, Bool.and_eq_true, List.forall_mem_cons, ih]
      refine and_congr_left fun _ => ?_
      cases Entries.find? k fs <;> simp

/-- A mapping of either sort equals the mappings of either sort with as many entries and the same content. -/
theorem equals_of_entries {d e : Datum} {es : List (Key × Datum)} (h : d.entries? = some es) :
    d.equals e = true ↔ ∃ fs, e.entries? = some fs ∧ es.length = fs.length ∧ equalEntries es fs = true := by
  cases d <;> cases h <;> cases e <;> simp [equals, entries?]

/-- A relation between two lists of which the second is no longer reaches all of the second, where each member of the first
has a partner and no two of them share one. -/
theorem exists_partner {α β : Type} {R : α → β → Prop} {xs : List α} {ys : List β} (hlength : ys.length ≤ xs.length)
    (hpartner : ∀ x ∈ xs, ∃ y ∈ ys, R x y) (hshare : xs.Pairwise fun a b => ∀ y, R a y → ¬ R b y) :
    ∀ y ∈ ys, ∃ x ∈ xs, R x y := by
  induction xs generalizing ys with
  | nil =>
      intro y hy
      rw [List.length_nil, Nat.le_zero, List.length_eq_zero_iff] at hlength
      rw [hlength] at hy
      cases hy
  | cons x rest ih =>
      obtain ⟨hfirst, hrest⟩ := List.pairwise_cons.1 hshare
      obtain ⟨z, hz, hxz⟩ := hpartner x (List.mem_cons_self ..)
      obtain ⟨before, after, rfl⟩ := List.append_of_mem hz
      have hothers : ∀ w ∈ rest, ∃ y ∈ before ++ after, R w y := by
        intro w hw
        obtain ⟨y, hy, hwy⟩ := hpartner w (List.mem_cons_of_mem _ hw)
        refine ⟨y, ?_, hwy⟩
        rcases List.mem_append.1 hy with hy | hy
        · exact List.mem_append_left _ hy
        · rcases List.mem_cons.1 hy with rfl | hy
          · exact absurd hwy (hfirst w hw y hxz)
          · exact List.mem_append_right _ hy
      have hshorter : (before ++ after).length ≤ rest.length := by
        simp only [List.length_append, List.length_cons] at hlength ⊢
        omega
      intro y hy
      rcases List.mem_append.1 hy with hy | hy
      · obtain ⟨w, hw, hwy⟩ := ih hshorter hothers hrest y (List.mem_append_left _ hy)
        exact ⟨w, List.mem_cons_of_mem _ hw, hwy⟩
      · rcases List.mem_cons.1 hy with rfl | hy
        · exact ⟨x, List.mem_cons_self .., hxz⟩
        · obtain ⟨w, hw, hwy⟩ := ih hshorter hothers hrest y (List.mem_append_right _ hy)
          exact ⟨w, List.mem_cons_of_mem _ hw, hwy⟩

/-- Equality behaves well from some data on: it goes back, and it goes on. -/
structure Fair (described : Descriptions) (x : Datum) : Prop where
  symm : ∀ y, y.Proper described → x.equals y = true → y.equals x = true
  trans : ∀ y z, y.Proper described → z.Proper described → x.equals y = true → y.equals z = true → x.equals z = true

section Parts

variable {xs ys zs : List Datum} {es fs gs : List (Key × Datum)}

theorem equalItems_symm (hx : ∀ x ∈ xs, Fair described x) (hy : ∀ y ∈ ys, y.Proper described)
    (h : equalItems xs ys = true) : equalItems ys xs = true := by
  rw [equalItems_iff] at h ⊢
  induction h with
  | nil => exact .nil
  | @cons x y xs ys hxy _ ih =>
      obtain ⟨hx, hxs⟩ := List.forall_mem_cons.1 hx
      obtain ⟨hy, hys⟩ := List.forall_mem_cons.1 hy
      exact .cons (hx.symm y hy hxy) (ih hxs hys)

theorem equalItems_trans (hx : ∀ x ∈ xs, Fair described x) (hy : ∀ y ∈ ys, y.Proper described)
    (hz : ∀ z ∈ zs, z.Proper described) (h : equalItems xs ys = true) (h' : equalItems ys zs = true) :
    equalItems xs zs = true := by
  rw [equalItems_iff] at h h' ⊢
  induction h generalizing zs with
  | nil => exact h'
  | @cons x y xs ys hxy _ ih =>
      obtain ⟨hx, hxs⟩ := List.forall_mem_cons.1 hx
      obtain ⟨hy, hys⟩ := List.forall_mem_cons.1 hy
      cases h' with
      | @cons _ z _ zs hyz hrest =>
          obtain ⟨hz, hzs⟩ := List.forall_mem_cons.1 hz
          exact .cons (hx.trans y z hy hz hxy hyz) (ih hxs hys hzs hrest)

theorem equalMembers_symm (hx : ∀ x ∈ xs, Fair described x) (hxp : ∀ x ∈ xs, x.Proper described)
    (hy : ∀ y ∈ ys, y.Proper described) (hdistinct : xs.Pairwise fun x y => x.equals y = false)
    (hlength : xs.length = ys.length) (h : equalMembers xs ys = true) : equalMembers ys xs = true := by
  rw [equalMembers_iff] at h ⊢
  have hshare : xs.Pairwise fun a b => ∀ y, (y ∈ ys ∧ a.equals y = true) → ¬ (y ∈ ys ∧ b.equals y = true) := by
    refine hdistinct.imp_of_mem ?_
    rintro a b ha hb hab y ⟨hys, hay⟩ ⟨_, hby⟩
    have hsame := (hx a ha).trans y b (hy y hys) (hxp b hb) hay ((hx b hb).symm y (hy y hys) hby)
    rw [hab] at hsame
    cases hsame
  have hpartner : ∀ x ∈ xs, ∃ y ∈ ys, y ∈ ys ∧ x.equals y = true := fun x hxs =>
    (h x hxs).imp fun y hys => ⟨hys.1, hys⟩
  intro y hys
  obtain ⟨x, hxs, _, hxy⟩ := exists_partner (Nat.le_of_eq hlength.symm) hpartner hshare y hys
  exact ⟨x, hxs, (hx x hxs).symm y (hy y hys) hxy⟩

theorem equalMembers_trans (hx : ∀ x ∈ xs, Fair described x) (hy : ∀ y ∈ ys, y.Proper described)
    (hz : ∀ z ∈ zs, z.Proper described) (h : equalMembers xs ys = true) (h' : equalMembers ys zs = true) :
    equalMembers xs zs = true := by
  rw [equalMembers_iff] at h h' ⊢
  intro x hxs
  obtain ⟨y, hys, hxy⟩ := h x hxs
  obtain ⟨z, hzs, hyz⟩ := h' y hys
  exact ⟨z, hzs, (hx x hxs).trans y z (hy y hys) (hz z hzs) hxy hyz⟩

theorem equalEntries_symm (hx : ∀ e ∈ es, Fair described e.2) (hy : ∀ f ∈ fs, f.2.Proper described)
    (hdistinct : es.Pairwise fun a b => a.1.same b.1 = false) (hlength : es.length = fs.length)
    (h : equalEntries es fs = true) : equalEntries fs es = true := by
  rw [equalEntries_iff] at h ⊢
  have hshare : es.Pairwise fun a b => ∀ f : Key × Datum, (f.1.same a.1 = true ∧ a.2.equals f.2 = true) →
      ¬ (f.1.same b.1 = true ∧ b.2.equals f.2 = true) := by
    refine hdistinct.imp ?_
    rintro a b hab f ⟨hfa, _⟩ ⟨hfb, _⟩
    have hsame := Key.same_trans (Key.same_symm hfa) hfb
    rw [hab] at hsame
    cases hsame
  have hpartner : ∀ e ∈ es, ∃ f ∈ fs, f.1.same e.1 = true ∧ e.2.equals f.2 = true := by
    intro e he
    obtain ⟨d, hd, hed⟩ := h e he
    obtain ⟨l, hl, hmem⟩ := Entries.mem_of_find? hd
    exact ⟨(l, d), hmem, hl, hed⟩
  intro f hf
  obtain ⟨e, he, hfe, hef⟩ := exists_partner (Nat.le_of_eq hlength.symm) hpartner hshare f hf
  exact ⟨e.2, Entries.find?_of_mem hdistinct he (Key.same_symm hfe), (hx e he).symm f.2 (hy f hf) hef⟩

theorem equalEntries_trans (hx : ∀ e ∈ es, Fair described e.2) (hy : ∀ f ∈ fs, f.2.Proper described)
    (hz : ∀ g ∈ gs, g.2.Proper described) (h : equalEntries es fs = true) (h' : equalEntries fs gs = true) :
    equalEntries es gs = true := by
  rw [equalEntries_iff] at h h' ⊢
  intro e he
  obtain ⟨d, hd, hed⟩ := h e he
  obtain ⟨l, hl, hmem⟩ := Entries.mem_of_find? hd
  obtain ⟨x, hfound, hdx⟩ := h' (l, d) hmem
  obtain ⟨m, _, hm⟩ := Entries.mem_of_find? hfound
  refine ⟨x, (Entries.find?_congr hl gs) ▸ hfound, ?_⟩
  exact (hx e he).trans d x (hy (l, d) hmem) (hz (m, x) hm) hed hdx

theorem equalParts_symm {ps qs : List (String × Datum)} (hp : ∀ p ∈ ps, Fair described p.2)
    (hq : ∀ q ∈ qs, q.2.Proper described) (h : equalParts ps qs = true) : equalParts qs ps = true := by
  rw [equalParts_iff] at h ⊢
  induction h with
  | nil => exact .nil
  | @cons p q ps qs hpq _ ih =>
      obtain ⟨hp, hps⟩ := List.forall_mem_cons.1 hp
      obtain ⟨hq, hqs⟩ := List.forall_mem_cons.1 hq
      exact .cons ⟨hpq.1.symm, hp.symm q.2 hq hpq.2⟩ (ih hps hqs)

theorem equalParts_trans {ps qs rs : List (String × Datum)} (hp : ∀ p ∈ ps, Fair described p.2)
    (hq : ∀ q ∈ qs, q.2.Proper described) (hr : ∀ r ∈ rs, r.2.Proper described) (h : equalParts ps qs = true)
    (h' : equalParts qs rs = true) : equalParts ps rs = true := by
  rw [equalParts_iff] at h h' ⊢
  induction h generalizing rs with
  | nil => exact h'
  | @cons p q ps qs hpq _ ih =>
      obtain ⟨hp, hps⟩ := List.forall_mem_cons.1 hp
      obtain ⟨hq, hqs⟩ := List.forall_mem_cons.1 hq
      cases h' with
      | @cons _ r _ rs hqr hrest =>
          obtain ⟨hr, hrs⟩ := List.forall_mem_cons.1 hr
          exact .cons ⟨hpq.1.trans hqr.1, hp.trans q.2 r.2 hq hr hpq.2 hqr.2⟩ (ih hps hqs hrs hrest)

end Parts

theorem sameHandle_iff {h i : Option TypeHandle} :
    sameHandle h i = true ↔ ∃ a b, h = some a ∧ i = some b ∧ a.index = b.index ∧ a.part = b.part := by
  cases h <;> cases i <;> simp [sameHandle]

/-- Two places of one type, or of one property of it, hold one datum. -/
theorem Proper.structured_eq {s t : String} {h i : Option TypeHandle} {ps qs : List (String × Datum)}
    (hx : (structured s h ps).Proper described) (hy : (structured t i qs).Proper described) (hsame : sameHandle h i = true) :
    structured s h ps = structured t i qs := by
  obtain ⟨a, b, rfl, rfl, hindex, hpart⟩ := sameHandle_iff.1 hsame
  rw [Proper] at hx hy
  have ha := hx.1 a rfl
  have hb := hy.1 b rfl
  rw [hindex, hpart, hb] at ha
  exact (Option.some.inj ha).symm

/-! What each sort of datum equals. -/

theorem equals_scalar_iff {a : Scalar} {y : Datum} : (scalar a).equals y = true ↔ ∃ b, y = scalar b ∧ a.equals b = true := by
  cases y <;> simp [equals]

theorem equals_list_iff {xs : List Datum} {y : Datum} :
    (list xs).equals y = true ↔ ∃ ys, y = list ys ∧ equalItems xs ys = true := by
  cases y <;> simp [equals]

theorem equals_tuple_iff {xs : List Datum} {y : Datum} :
    (tuple xs).equals y = true ↔ ∃ ys, y = tuple ys ∧ equalItems xs ys = true := by
  cases y <;> simp [equals]

theorem equals_set_iff {xs : List Datum} {y : Datum} :
    (set xs).equals y = true ↔ ∃ ys, y = set ys ∧ xs.length = ys.length ∧ equalMembers xs ys = true := by
  cases y <;> simp [equals]

theorem equals_structured_iff {s : String} {h : Option TypeHandle} {ps : List (String × Datum)} {y : Datum} :
    (structured s h ps).equals y = true ↔ ∃ i qs, y = structured s i qs ∧
      (sameHandle h i = true ∨ hasRules h = false ∧ hasRules i = false ∧ equalParts ps qs = true) := by
  cases y with
  | structured t i qs =>
      simp only [equals, Bool.and_eq_true, Bool.or_eq_true, Bool.not_eq_true', beq_iff_eq, structured.injEq, and_assoc]
      constructor
      · rintro ⟨rfl, h⟩
        exact ⟨i, qs, rfl, rfl, rfl, h⟩
      · rintro ⟨_, _, rfl, rfl, rfl, h⟩
        exact ⟨rfl, h⟩
  | _ => simp [equals]

/-- Types are equal if they are one type, or none of them has rules and their parts are equal. -/
theorem fair_structured {s : String} {h : Option TypeHandle} {ps : List (String × Datum)}
    (hx : (structured s h ps).Proper described) (hparts : ∀ p ∈ ps, Fair described p.2) :
    Fair described (structured s h ps) := by
  have hproper : ∀ {t : String} {i : Option TypeHandle} {qs : List (String × Datum)}, (structured t i qs).Proper described →
      ∀ q ∈ qs, q.2.Proper described := by
    intro t i qs hy
    rw [Proper, partsProper_iff] at hy
    exact hy.2
  constructor
  · intro y hy hxy
    obtain ⟨i, qs, rfl, hsame | ⟨hrules, hrules', hpq⟩⟩ := equals_structured_iff.1 hxy
    · cases hx.structured_eq hy hsame
      exact hxy
    · have hback := equalParts_symm hparts (hproper hy) hpq
      exact equals_structured_iff.2 ⟨h, ps, rfl, .inr ⟨hrules', hrules, hback⟩⟩
  · intro y z hy hz hxy hyz
    obtain ⟨i, qs, rfl, hsame | ⟨hrules, _, hpq⟩⟩ := equals_structured_iff.1 hxy
    · rw [hx.structured_eq hy hsame]
      exact hyz
    · obtain ⟨j, rs, rfl, hsame | ⟨_, hrules', hqr⟩⟩ := equals_structured_iff.1 hyz
      · rw [← hy.structured_eq hz hsame]
        exact hxy
      · have hon := equalParts_trans hparts (hproper hy) (hproper hz) hpq hqr
        exact equals_structured_iff.2 ⟨j, rs, rfl, .inr ⟨hrules, hrules', hon⟩⟩

theorem fair_entries {x : Datum} {es : List (Key × Datum)} (he : x.entries? = some es) (hx : x.Proper described)
    (hparts : ∀ e ∈ es, Fair described e.2) : Fair described x := by
  obtain ⟨_, hdistinct⟩ := hx.entries he
  constructor
  · intro y hy hxy
    obtain ⟨fs, hf, hlength, hsame⟩ := (equals_of_entries he).1 hxy
    have hback := equalEntries_symm hparts (hy.entries hf).1 hdistinct hlength hsame
    exact (equals_of_entries hf).2 ⟨es, he, hlength.symm, hback⟩
  · intro y z hy hz hxy hyz
    obtain ⟨fs, hf, hlength, hsame⟩ := (equals_of_entries he).1 hxy
    obtain ⟨gs, hg, hlength', hsame'⟩ := (equals_of_entries hf).1 hyz
    have hon := equalEntries_trans hparts (hy.entries hf).1 (hz.entries hg).1 hsame hsame'
    exact (equals_of_entries he).2 ⟨gs, hg, hlength.trans hlength', hon⟩

theorem fair_list {xs : List Datum} (hparts : ∀ x ∈ xs, Fair described x) : Fair described (list xs) := by
  constructor
  · intro y hy hxy
    obtain ⟨ys, rfl, hitems⟩ := equals_list_iff.1 hxy
    exact equals_list_iff.2 ⟨xs, rfl, equalItems_symm hparts (fun y h => hy.member rfl h) hitems⟩
  · intro y z hy hz hxy hyz
    obtain ⟨ys, rfl, hitems⟩ := equals_list_iff.1 hxy
    obtain ⟨zs, rfl, hitems'⟩ := equals_list_iff.1 hyz
    have hon := equalItems_trans hparts (fun y h => hy.member rfl h) (fun z h => hz.member rfl h) hitems hitems'
    exact equals_list_iff.2 ⟨zs, rfl, hon⟩

theorem fair_tuple {xs : List Datum} (hparts : ∀ x ∈ xs, Fair described x) : Fair described (tuple xs) := by
  constructor
  · intro y hy hxy
    obtain ⟨ys, rfl, hitems⟩ := equals_tuple_iff.1 hxy
    exact equals_tuple_iff.2 ⟨xs, rfl, equalItems_symm hparts (fun y h => hy.member rfl h) hitems⟩
  · intro y z hy hz hxy hyz
    obtain ⟨ys, rfl, hitems⟩ := equals_tuple_iff.1 hxy
    obtain ⟨zs, rfl, hitems'⟩ := equals_tuple_iff.1 hyz
    have hon := equalItems_trans hparts (fun y h => hy.member rfl h) (fun z h => hz.member rfl h) hitems hitems'
    exact equals_tuple_iff.2 ⟨zs, rfl, hon⟩

theorem fair_set {xs : List Datum} (hx : (set xs).Proper described) (hparts : ∀ x ∈ xs, Fair described x) :
    Fair described (set xs) := by
  have hdistinct : xs.Pairwise fun x y => x.equals y = false := by
    rw [Proper] at hx
    exact hx.2
  constructor
  · intro y hy hxy
    obtain ⟨ys, rfl, hlength, hxy⟩ := equals_set_iff.1 hxy
    have hback := equalMembers_symm hparts (fun x h => hx.member rfl h) (fun y h => hy.member rfl h) hdistinct hlength hxy
    exact equals_set_iff.2 ⟨xs, rfl, hlength.symm, hback⟩
  · intro y z hy hz hxy hyz
    obtain ⟨ys, rfl, hlength, hxy⟩ := equals_set_iff.1 hxy
    obtain ⟨zs, rfl, hlength', hyz⟩ := equals_set_iff.1 hyz
    have hon := equalMembers_trans hparts (fun y h => hy.member rfl h) (fun z h => hz.member rfl h) hxy hyz
    exact equals_set_iff.2 ⟨zs, rfl, hlength.trans hlength', hon⟩

theorem fair_scalar (a : Scalar) : Fair described (scalar a) := by
  constructor
  · intro y _ hxy
    obtain ⟨b, rfl, hab⟩ := equals_scalar_iff.1 hxy
    exact equals_scalar_iff.2 ⟨a, rfl, Scalar.equals_symm hab⟩
  · intro y z _ _ hxy hyz
    obtain ⟨b, rfl, hab⟩ := equals_scalar_iff.1 hxy
    obtain ⟨c, rfl, hbc⟩ := equals_scalar_iff.1 hyz
    exact equals_scalar_iff.2 ⟨c, rfl, Scalar.equals_trans hab hbc⟩

theorem sameName_iff {a b : Option Nat} : sameName a b = true ↔ a.isSome = true ∧ a = b := by
  cases a <;> cases b <;> simp [sameName]

theorem equals_back_iff {names : List Nat} {trees : List Datum} {level : Nat} {y : Datum} :
    (@back names trees level).equals y = true ↔ ∃ others known place, y = @back others known place ∧
      names[level]?.isSome = true ∧ names[level]? = others[place]? := by
  cases y with
  | back place =>
      rw [equals, sameName_iff]
      constructor
      · exact fun h => ⟨_, _, _, rfl, h⟩
      · rintro ⟨_, _, _, heq, h⟩
        cases heq
        exact h
  | _ => simp [equals]

/-- Marks are equal if they name one container. -/
theorem fair_back (names : List Nat) (trees : List Datum) (level : Nat) : Fair described (@back names trees level) := by
  constructor
  · intro y _ hxy
    obtain ⟨others, known, place, rfl, hsome, hname⟩ := equals_back_iff.1 hxy
    exact equals_back_iff.2 ⟨names, trees, level, rfl, hname ▸ hsome, hname.symm⟩
  · intro y z _ _ hxy hyz
    obtain ⟨others, known, place, rfl, hsome, hname⟩ := equals_back_iff.1 hxy
    obtain ⟨_, _, _, rfl, _, hname'⟩ := equals_back_iff.1 hyz
    exact equals_back_iff.2 ⟨_, _, _, rfl, hsome, hname.trans hname'⟩

/-- Equality goes back and on from proper data. The induction is on the size of the datum, since its parts need both. -/
theorem Proper.fair {x : Datum} (h : x.Proper described) : Fair described x := by
  generalize hn : sizeOf x = n
  induction n using Nat.strongRecOn generalizing x with
  | ind n ih =>
      subst hn
      cases x with
      | scalar a => exact fair_scalar a
      | list xs => exact fair_list fun x hx => ih _ (sizeOf_member rfl hx) (h.member rfl hx) rfl
      | tuple xs => exact fair_tuple fun x hx => ih _ (sizeOf_member rfl hx) (h.member rfl hx) rfl
      | set xs => exact fair_set h fun x hx => ih _ (sizeOf_member rfl hx) (h.member rfl hx) rfl
      | mapping es => exact fair_entries rfl h fun e he => ih _ (sizeOf_entry rfl he) ((h.entries rfl).1 e he) rfl
      | readOnly es => exact fair_entries rfl h fun e he => ih _ (sizeOf_entry rfl he) ((h.entries rfl).1 e he) rfl
      | structured s handle ps =>
          have hproper := h
          rw [Proper, partsProper_iff] at hproper
          refine fair_structured h fun p hp => ih _ ?_ (hproper.2 p hp) rfl
          obtain ⟨n, d⟩ := p
          have hsize := List.sizeOf_lt_of_mem hp
          simp only [Prod.mk.sizeOf_spec, structured.sizeOf_spec] at hsize ⊢
          omega
      | back level => exact fair_back _ _ level

/-- What two proper data are both equal to they are equal by. -/
theorem Proper.same_of_same {x y z : Datum} (hx : x.Proper described) (hy : y.Proper described) (hz : z.Proper described)
    (hxz : x.same z = true) (hyz : y.same z = true) : x.same y = true := by
  unfold same at hxz hyz ⊢
  rw [Bool.and_eq_true, beq_iff_eq] at hxz hyz ⊢
  exact ⟨hxz.1.trans hyz.1.symm, hx.fair.trans z y hz hy hxz.2 (hy.fair.symm z hz hyz.2)⟩

theorem Proper.same_trans {x y z : Datum} (hx : x.Proper described) (hy : y.Proper described) (hz : z.Proper described)
    (hxy : x.same y = true) (hyz : y.same z = true) : x.same z = true := by
  unfold same at hxy hyz ⊢
  rw [Bool.and_eq_true, beq_iff_eq] at hxy hyz ⊢
  exact ⟨hxy.1.trans hyz.1, hx.fair.trans y z hy hz hxy.2 hyz.2⟩

theorem Proper.same_symm {x y : Datum} (hx : x.Proper described) (hy : y.Proper described) (h : x.same y = true) :
    y.same x = true := by
  unfold same at h ⊢
  rw [Bool.and_eq_true, beq_iff_eq] at h ⊢
  exact ⟨h.1.symm, hx.fair.symm y hy h.2⟩

end Datum

end ShapeCheck
