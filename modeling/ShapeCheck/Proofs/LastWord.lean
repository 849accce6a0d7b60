import Mathlib.Data.List.Pairwise
import ShapeCheck.Proofs.Demands

/-!
# The last word on a value

Equality is no equivalence in general, since `nan` does not equal itself and a mark without a name equals nothing.
`Datum.Definite` leaves both out, and on proper data that are definite `Datum.same` is an equivalence. The values that stand
as allowed or as denied are then the values of which the last mention says so: each mention takes a value out of the one list
and puts it into the other, unless it is there, so no list comes to hold a value twice.
-/

namespace ShapeCheck

/-! ## Definite data -/

def Scalar.isNan : Scalar → Bool
  | .number (.float .nan) => true
  | _ => false

mutual
/-- No part of a key is `nan`. -/
def Key.Definite : Key → Prop
  | .scalar a => a.isNan = false
  | .tuple ks => Key.AllDefinite ks
def Key.AllDefinite : List Key → Prop
  | [] => True
  | k :: ks => k.Definite ∧ Key.AllDefinite ks
end

mutual
/-- No part of a datum is `nan`, and none is a container around it. -/
def Datum.Definite : Datum → Prop
  | .scalar a => a.isNan = false
  | .list xs => Datum.AllDefinite xs
  | .tuple xs => Datum.AllDefinite xs
  | .set xs => Datum.AllDefinite xs
  | .mapping es => Datum.EntriesDefinite es
  | .readOnly es => Datum.EntriesDefinite es
  | .structured _ _ parts => Datum.PartsDefinite parts
  | .back _ => False
def Datum.AllDefinite : List Datum → Prop
  | [] => True
  | x :: xs => x.Definite ∧ Datum.AllDefinite xs
def Datum.EntriesDefinite : List (Key × Datum) → Prop
  | [] => True
  | (k, d) :: rest => (k.Definite ∧ d.Definite) ∧ Datum.EntriesDefinite rest
def Datum.PartsDefinite : List (String × Datum) → Prop
  | [] => True
  | (_, d) :: rest => d.Definite ∧ Datum.PartsDefinite rest
end

theorem Scalar.equals_self {a : Scalar} (h : a.isNan = false) : a.equals a = true := by
  rw [equals_iff]
  refine ⟨?_, rfl⟩
  rcases a with _ | _ | (n | (⟨_, _, _⟩ | _ | _)) | _ | _ | _ | _ | _ | _
  case number.float.nan => cases h
  all_goals rfl

mutual
theorem Key.same_self : ∀ {k : Key}, k.Definite → k.same k = true
  | .scalar _, h => by
      rw [Key.Definite] at h
      exact Scalar.equals_self h
  | .tuple _, h => by
      rw [Key.Definite] at h
      exact Key.sameItems_self h
theorem Key.sameItems_self : ∀ {ks : List Key}, Key.AllDefinite ks → Key.sameItems ks ks = true
  | [], _ => rfl
  | k :: ks, h => by
      rw [Key.AllDefinite] at h
      rw [Key.sameItems, Bool.and_eq_true]
      exact ⟨Key.same_self h.1, Key.sameItems_self h.2⟩
end

namespace Datum

variable {described : Descriptions}

theorem equalItems_self {xs : List Datum} (h : ∀ x ∈ xs, x.equals x = true) : equalItems xs xs = true := by
  rw [equalItems_iff, List.forall₂_same]
  exact h

theorem equalMembers_self {xs : List Datum} (h : ∀ x ∈ xs, x.equals x = true) : equalMembers xs xs = true := by
  rw [equalMembers_iff]
  exact fun x hx => ⟨x, hx, h x hx⟩

theorem equalParts_self {ps : List (String × Datum)} (h : ∀ p ∈ ps, p.2.equals p.2 = true) : equalParts ps ps = true := by
  rw [equalParts_iff, List.forall₂_same]
  exact fun p hp => ⟨rfl, h p hp⟩

/-- Each entry is found again under its key, which no other entry has. -/
theorem equalEntries_self {es : List (Key × Datum)} (hdistinct : es.Pairwise fun a b => a.1.same b.1 = false)
    (h : ∀ e ∈ es, e.1.same e.1 = true ∧ e.2.equals e.2 = true) : equalEntries es es = true := by
  rw [equalEntries_iff]
  intro e he
  exact ⟨e.2, Entries.find?_of_mem hdistinct he (h e he).1, (h e he).2⟩

mutual
theorem Definite.equals_self : ∀ {d : Datum}, d.Definite → d.Proper described → d.equals d = true
  | .scalar _, h, _ => by
      rw [Definite] at h
      exact equals_scalar_iff.2 ⟨_, rfl, Scalar.equals_self h⟩
  | .list xs, h, hd => by
      rw [Definite] at h
      rw [Proper] at hd
      exact equals_list_iff.2 ⟨xs, rfl, equalItems_self (members_equal_self h hd)⟩
  | .tuple xs, h, hd => by
      rw [Definite] at h
      rw [Proper] at hd
      exact equals_tuple_iff.2 ⟨xs, rfl, equalItems_self (members_equal_self h hd)⟩
  | .set xs, h, hd => by
      rw [Definite] at h
      rw [Proper] at hd
      exact equals_set_iff.2 ⟨xs, rfl, rfl, equalMembers_self (members_equal_self h hd.1)⟩
  | .mapping es, h, hd => by
      rw [Definite] at h
      rw [Proper] at hd
      exact (equals_of_entries rfl).2 ⟨es, rfl, rfl, equalEntries_self hd.2 (entries_equal_self h hd.1)⟩
  | .readOnly es, h, hd => by
      rw [Definite] at h
      rw [Proper] at hd
      exact (equals_of_entries rfl).2 ⟨es, rfl, rfl, equalEntries_self hd.2 (entries_equal_self h hd.1)⟩
  | .structured _ none ps, h, hd => by
      rw [Definite] at h
      rw [Proper] at hd
      exact equals_structured_iff.2 ⟨none, ps, rfl, .inr ⟨rfl, rfl, equalParts_self (parts_equal_self h hd.2)⟩⟩
  | .structured _ (some i) ps, _, _ =>
      equals_structured_iff.2 ⟨some i, ps, rfl, .inl (sameHandle_iff.2 ⟨i, i, rfl, rfl, rfl, rfl⟩)⟩
  | .back _, h, _ => by
      rw [Definite] at h
      exact h.elim
theorem members_equal_self : ∀ {xs : List Datum}, AllDefinite xs → AllProper described xs → ∀ x ∈ xs, x.equals x = true
  | [], _, _ => List.forall_mem_nil _
  | x :: xs, h, hd => by
      rw [AllDefinite] at h
      rw [AllProper] at hd
      exact List.forall_mem_cons.2 ⟨h.1.equals_self hd.1, members_equal_self h.2 hd.2⟩
theorem entries_equal_self : ∀ {es : List (Key × Datum)}, EntriesDefinite es → EntriesProper described es →
    ∀ e ∈ es, e.1.same e.1 = true ∧ e.2.equals e.2 = true
  | [], _, _ => List.forall_mem_nil _
  | (k, d) :: es, h, hd => by
      rw [EntriesDefinite] at h
      rw [EntriesProper] at hd
      have hself : d.equals d = true := h.1.2.equals_self hd.1
      exact List.forall_mem_cons.2 ⟨⟨Key.same_self h.1.1, hself⟩, entries_equal_self h.2 hd.2⟩
theorem parts_equal_self : ∀ {ps : List (String × Datum)}, PartsDefinite ps → PartsProper described ps →
    ∀ p ∈ ps, p.2.equals p.2 = true
  | [], _, _ => List.forall_mem_nil _
  | (_, d) :: ps, h, hd => by
      rw [PartsDefinite] at h
      rw [PartsProper] at hd
      have hself : d.equals d = true := h.1.equals_self hd.1
      exact List.forall_mem_cons.2 ⟨hself, parts_equal_self h.2 hd.2⟩
end

theorem isBool_eq_of_same {x y : Datum} (h : x.same y = true) : x.isBool = y.isBool := by
  unfold same at h
  rw [Bool.and_eq_true, beq_iff_eq] at h
  exact h.1

/-- Being the same is an equivalence between proper data that are definite. -/
theorem same_equivalence (described : Descriptions) :
    Equivalence fun x y : {d : Datum // d.Proper described ∧ d.Definite} => x.1.same y.1 = true where
  refl x := by
    unfold same
    rw [Bool.and_eq_true]
    exact ⟨beq_self_eq_true _, x.2.2.equals_self x.2.1⟩
  symm {x y} h := x.2.1.same_symm y.2.1 h
  trans {x y z} h h' := x.2.1.same_trans y.2.1 z.2.1 h h'

end Datum

/-! ## Nothing stands twice -/

namespace Demand

open PropertyChecker

variable {described : Descriptions}

/-- No value stands before another one that it is the same as. The induction takes the mentions from the last one on. -/
theorem standing_pairwise (sense : Bool) (ms : List (Datum × Bool)) :
    (standing sense ms).Pairwise fun a b => a.same b = false := by
  induction ms using List.reverseRecOn with
  | nil => exact .nil
  | append_singleton ms m ih =>
      obtain ⟨a, s⟩ := m
      rw [standing_append]
      split
      · unfold including
        split
        · exact ih
        · next hnew =>
          rw [List.pairwise_append]
          refine ⟨ih, List.pairwise_singleton _ _, fun v hv b hb => ?_⟩
          rw [List.mem_singleton.1 hb, Bool.eq_false_iff]
          exact fun hva => hnew (holds_iff.2 ⟨v, hv, hva⟩)
      · exact ih.filter _

/-- Values are told apart: none of them is the same as another, from either side. -/
def Apart (values : List Datum) : Prop := values.Pairwise fun a b => a.same b = false ∧ b.same a = false

theorem standing_apart {sense : Bool} {ms : List (Datum × Bool)} (hms : ∀ m ∈ ms, m.1.Proper described) :
    Apart (standing sense ms) := by
  have hproper : ∀ v ∈ standing sense ms, v.Proper described := standing_proper hms
  refine (standing_pairwise sense ms).imp_of_mem fun {a b} ha hb hab => ⟨hab, ?_⟩
  rw [Bool.eq_false_iff] at hab ⊢
  exact fun hba => hab ((hproper b hb).same_symm (hproper a ha) hba)

/-- What constraints mention are arguments of theirs. -/
theorem mentions_proper {q : Demand} (hargs : ∀ x ∈ q.constraints, ∀ a ∈ x.args, a.Proper described) :
    ∀ m ∈ q.mentions, m.1.Proper described := by
  intro m hm
  unfold mentions at hm
  obtain ⟨x, hx, hm⟩ := List.mem_flatMap.1 hm
  cases hsense : (q.method? x).bind Method.sense? with
  | none =>
      rw [hsense] at hm
      cases hm
  | some sense =>
      rw [hsense] at hm
      obtain ⟨a, ha, rfl⟩ := List.mem_map.1 hm
      exact hargs x hx a ha

end Demand

/-! ## What a checker holds after its constraints -/

open PropertyChecker in
/-- After any constraints, a checker allows and denies the values of which the last mention says so. This is so up to an
equivalence that tells truth values from others, nothing is both, nothing stands twice, and only allowed values pass if some
constraint of `valid` says that. -/
theorem Capabilities.compileConstraints_lastMention {caps : Capabilities} {described : Descriptions} {q : Demand} {kind : Kind}
    {c : PropertyChecker} (hkind : q.kind? = some kind)
    (hcompile : caps.compileConstraints kind q.constraints (fun m a _ => caps.compileElement m a) (.ofKind kind) = .ok c)
    (hargs : ∀ x ∈ q.constraints, ∀ a ∈ x.args, a.Proper described) :
    (Equivalence fun x y : {d : Datum // d.Proper described ∧ d.Definite} => x.1.same y.1 = true) ∧
    (∀ x y : Datum, x.same y = true → x.isBool = y.isBool) ∧
    (∀ x : Datum, x.Proper described →
      (holds c.allowed x = true ↔ q.lastMention x = some true) ∧
      (holds c.denied x = true ↔ q.lastMention x = some false) ∧
      ¬ (holds c.allowed x = true ∧ holds c.denied x = true)) ∧
    Demand.Apart c.allowed ∧ Demand.Apart c.denied ∧
    (c.onlyValid = true ↔ q.Asks .valid) := by
  have hmeets : q.Meets caps c := Demand.Meets.compile hkind hcompile
  have hmentions : ∀ m ∈ q.mentions, m.1.Proper described := Demand.mentions_proper hargs
  refine ⟨Datum.same_equivalence described, fun x y => Datum.isBool_eq_of_same, fun x hx => ?_, ?_, ?_, hmeets.onlyValid⟩
  · have hallowed := hmeets.holds_allowed hmentions hx
    have hdenied := hmeets.holds_denied hmentions hx
    refine ⟨hallowed, hdenied, ?_⟩
    rintro ⟨ha, hd⟩
    have hboth := (hallowed.1 ha).symm.trans (hdenied.1 hd)
    cases hboth
  · rw [hmeets.allowed]
    exact Demand.standing_apart hmentions
  · rw [hmeets.denied]
    exact Demand.standing_apart hmentions

/-- A list of one is allowed and then denied as a list of true, while one itself stays allowed though true is denied. -/
def wavering : Demand where
  kindName := "Any"
  constraints := [⟨"allow", [.list [.int 1], .int 1]⟩, ⟨"required", []⟩, ⟨"deny", [.int 2, .bool true]⟩,
    ⟨"invalid", [.tuple [.int 3], .list [.bool true]]⟩, ⟨"valid", [.null]⟩]

theorem wavering_lastMention : ∃ c : PropertyChecker,
    Capabilities.standard.compileConstraints .any wavering.constraints
      (fun m a _ => Capabilities.standard.compileElement m a) (.ofKind .any) = .ok c ∧
    (PropertyChecker.holds c.allowed (.int 1) = true ∧ PropertyChecker.holds c.denied (.list [.int 1]) = true) ∧
    PropertyChecker.holds c.denied (.int 1) = false ∧ Demand.Apart c.allowed ∧ Demand.Apart c.denied ∧ c.onlyValid = true := by
  have hargs : ∀ x ∈ wavering.constraints, ∀ a ∈ x.args, a.Proper fun _ => none := by
    simp [wavering, Datum.int, Datum.null, Datum.bool, Datum.Proper, Datum.AllProper]
  obtain ⟨c, hc⟩ : ∃ c, Capabilities.standard.compileConstraints .any wavering.constraints
      (fun m a _ => Capabilities.standard.compileElement m a) (.ofKind .any) = .ok c :=
    ⟨_, by with_unfolding_all rfl⟩
  obtain ⟨_, _, hheld, hallowed, hdenied, honly⟩ := Capabilities.compileConstraints_lastMention rfl hc hargs
  have hone := hheld (.int 1) (Datum.proper_scalar _)
  have hlist := hheld (.list [.int 1]) (by simp [Datum.int, Datum.Proper, Datum.AllProper])
  refine ⟨c, hc, ⟨hone.1.2 (by decide +kernel), hlist.2.1.2 (by decide +kernel)⟩, ?_, hallowed, hdenied, honly.2 ?_⟩
  · rw [Bool.eq_false_iff]
    intro h
    have hnone := hone.2.1.1 h
    revert hnone
    decide +kernel
  · exact ⟨⟨"valid", [.null]⟩, by simp [wavering], rfl⟩

end ShapeCheck
