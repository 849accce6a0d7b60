/-!
# Lists of names with values

`Assoc α` is a list of names with values in which order counts; the names are texts, if nothing else is said. `put` replaces
a value in its place and puts a new name at the end; `erase` takes a name out. `get?` after either is as expected, and the
names change by at most one: `names_put`, `names_erase`.
-/

namespace ShapeCheck

/-- Names with values, in order. -/
abbrev Assoc (α : Type) (κ : Type := String) := List (κ × α)

namespace Assoc

variable {α κ : Type}

def names (a : Assoc α κ) : List κ := a.map Prod.fst

variable [DecidableEq κ]

/-- What stands under a name. -/
def get? (name : κ) : Assoc α κ → Option α
  | [] => none
  | (n, v) :: rest => if n = name then some v else get? name rest

def has (name : κ) (a : Assoc α κ) : Bool := (a.get? name).isSome

/-- Puts a value under a name. -/
def put (name : κ) (v : α) : Assoc α κ → Assoc α κ
  | [] => [(name, v)]
  | (n, w) :: rest => if n = name then (n, v) :: rest else (n, w) :: put name v rest

/-- Takes a name out. -/
def erase (name : κ) : Assoc α κ → Assoc α κ
  | [] => []
  | (n, w) :: rest => if n = name then rest else (n, w) :: erase name rest

/-- Puts the values of one list into another, one after the other. -/
def update (a b : Assoc α κ) : Assoc α κ := b.foldl (fun acc (n, v) => acc.put n v) a

/-- A list in which later values of a name replace earlier ones. -/
def ofList (xs : List (κ × α)) : Assoc α κ := update [] xs

@[simp] theorem get?_put_self (name : κ) (v : α) (a : Assoc α κ) : (a.put name v).get? name = some v := by
  induction a with
  | nil => simp [put, get?]
  | cons p rest ih =>
    obtain ⟨n, w⟩ := p
    by_cases h : n = name <;> simp [put, get?, h, ih]

theorem get?_put_other {name other : κ} (v : α) (a : Assoc α κ) (h : name ≠ other) :
    (a.put name v).get? other = a.get? other := by
  induction a with
  | nil => simp [put, get?, h]
  | cons p rest ih =>
    obtain ⟨n, w⟩ := p
    by_cases hn : n = name
    · subst hn; simp [put, get?, h]
    · simp only [put, hn, if_false, get?]; rw [ih]

theorem names_put (name : κ) (v : α) (a : Assoc α κ) :
    (a.put name v).names = if name ∈ a.names then a.names else a.names ++ [name] := by
  induction a with
  | nil => simp [put, names]
  | cons p rest ih =>
    obtain ⟨n, w⟩ := p
    simp only [names] at ih
    by_cases h : n = name
    · simp [put, names, h]
    · have h' : ¬ name = n := fun e => h e.symm
      by_cases hm : name ∈ rest.map Prod.fst
      · simp only [put, names, h, if_false, List.map_cons, ih, hm, if_true, List.mem_cons, or_true]
      · simp only [put, names, h, if_false, List.map_cons, ih, hm, List.mem_cons, h', or_self, List.cons_append]

theorem names_put_of_mem {name : κ} {a : Assoc α κ} (h : name ∈ a.names) (v : α) : (a.put name v).names = a.names :=
  (names_put ..).trans (if_pos h)

theorem names_put_of_not_mem {name : κ} {a : Assoc α κ} (h : name ∉ a.names) (v : α) :
    (a.put name v).names = a.names ++ [name] := (names_put ..).trans (if_neg h)

theorem names_erase [BEq κ] [LawfulBEq κ] (name : κ) (a : Assoc α κ) : (a.erase name).names = a.names.erase name := by
  induction a with
  | nil => rfl
  | cons p rest ih =>
    obtain ⟨n, w⟩ := p
    change _ = (n :: names rest).erase name
    rw [List.erase_cons]
    by_cases h : n = name
    · rw [if_pos (beq_iff_eq.2 h), erase, if_pos h]
    · rw [if_neg (mt beq_iff_eq.1 h), erase, if_neg h, ← ih]
      rfl

theorem mem_of_mem_erase {name : κ} {p : κ × α} : ∀ {a : Assoc α κ}, p ∈ a.erase name → p ∈ a
  | (n, w) :: rest, h => by
    unfold erase at h
    split at h
    · exact List.mem_cons_of_mem _ h
    · rcases List.mem_cons.1 h with rfl | h
      · exact List.mem_cons_self ..
      · exact List.mem_cons_of_mem _ (mem_of_mem_erase h)

theorem get?_eq_none_iff {name : κ} {a : Assoc α κ} : a.get? name = none ↔ name ∉ a.names := by
  induction a with
  | nil => exact ⟨fun _ => List.not_mem_nil, fun _ => rfl⟩
  | cons p rest ih =>
    obtain ⟨n, w⟩ := p
    change (if n = name then some w else get? name rest) = none ↔ name ∉ n :: names rest
    by_cases h : n = name
    · simp [h]
    · simp [h, ih, Ne.symm h]

theorem mem_of_get? {name : κ} {v : α} : ∀ {a : Assoc α κ}, a.get? name = some v → (name, v) ∈ a
  | (n, w) :: rest, h => by
    unfold get? at h
    split at h
    · next hn =>
      cases h
      exact hn ▸ List.mem_cons_self ..
    · exact List.mem_cons_of_mem _ (mem_of_get? h)

theorem get?_erase_self {name : κ} {a : Assoc α κ} (h : a.names.Nodup) : (a.erase name).get? name = none := by
  rw [get?_eq_none_iff, names_erase]
  exact h.not_mem_erase

theorem get?_erase_other {name other : κ} (h : name ≠ other) : ∀ a : Assoc α κ, (a.erase name).get? other = a.get? other
  | [] => rfl
  | (n, w) :: rest => by
    unfold erase
    split
    · next hn =>
      subst hn
      exact (if_neg h).symm
    · unfold get?
      rw [get?_erase_other h rest]

end Assoc

end ShapeCheck
