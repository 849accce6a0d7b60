import ShapeCheck.Proofs.Keeping
import ShapeCheck.Proofs.Nesting

/-!
# Stores that only shrink

A validation changes a store in two ways: it takes entries out of a mapping, and it puts a scalar that it made itself, or
what stood in the mapping before, under a text. So no container ever holds anything else that it did not hold at first:
the store stays `Within` the one that the run started from. What is known of the first store, above all that it has no
cycles, is then known of each later one.
-/

namespace ShapeCheck

/-- Whether a value may have been put into a mapping: a scalar that a checker brings in, or what stood under a text there. -/
def Entries.Known (before : List (Key × Value)) (x : Value) : Prop :=
  x.Counted ∨ ∃ name, (.text name, x) ∈ before

/-- An entry of a mapping now was there before, or is a known value under a text. -/
def Entries.Within (now before : List (Key × Value)) : Prop :=
  ∀ e ∈ now, e ∈ before ∨ (∃ name, e.1 = .text name) ∧ Known before e.2

namespace Entries

theorem Within.refl (es : List (Key × Value)) : Within es es := fun _ he => .inl he

theorem Within.filter {now before : List (Key × Value)} (h : Within now before) (p : Key × Value → Bool) :
    Within (now.filter p) before := fun e he => h e (List.mem_filter.1 he).1

theorem text_same (name : String) : (Key.text name).same (.text name) = true := by
  simp [Key.text, Key.same, Scalar.equals]

theorem same_text {k : Key} {name : String} (h : k.same (.text name) = true) : k = .text name := by
  unfold Key.text Key.same at h
  match k, h with
  | .scalar (.text s), h =>
      have hs : s = name := by simpa [Scalar.equals] using h
      rw [hs]
      rfl

/-- What stands under a text stands there in an entry. -/
theorem mem_of_get? {α : Type} {name : String} {es : List (Key × α)} {x : α} (h : get? name es = some x) :
    (.text name, x) ∈ es := by
  unfold get? at h
  induction es with
  | nil => cases h
  | cons e rest ih =>
      obtain ⟨k, w⟩ := e
      unfold find? at h
      split at h
      · next hk =>
        cases h
        rw [same_text hk]
        exact List.mem_cons_self ..
      · exact List.mem_cons_of_mem _ (ih h)

/-- What stands in a mapping after a value was put under a text. -/
theorem mem_put {α : Type} {name : String} {x : α} {es : List (Key × α)} {e : Key × α} (h : e ∈ put (.text name) x es) :
    e = (.text name, x) ∨ e ∈ es := by
  induction es with
  | nil =>
      unfold put at h
      exact .inl (List.mem_singleton.1 h)
  | cons f rest ih =>
      unfold put at h
      split at h
      · next hk =>
        rcases List.mem_cons.1 h with rfl | h
        · rw [same_text hk]
          exact .inl rfl
        · exact .inr (List.mem_cons_of_mem _ h)
      · rcases List.mem_cons.1 h with rfl | h
        · exact .inr (List.mem_cons_self ..)
        · exact (ih h).imp_right (List.mem_cons_of_mem _)

theorem Within.put {now before : List (Key × Value)} (h : Within now before) {name : String} {x : Value}
    (hx : Known before x) : Within (put (.text name) x now) before := by
  intro e he
  rcases mem_put he with rfl | he
  · exact .inr ⟨⟨name, rfl⟩, hx⟩
  · exact h e he

end Entries

/-- A content now and before: the same, or a mapping with no more in it than before. -/
inductive Cell.Within : Cell → Cell → Prop
  | same (c : Cell) : Within c c
  | mapping {now before : List (Key × Value)} (h : Entries.Within now before) : Within (.mapping now) (.mapping before)

namespace Store

/-- A store now and before: no container holds more than before. -/
def Within (now before : Store) : Prop := ∀ a, Option.Rel Cell.Within (now.read? a) (before.read? a)

theorem Within.refl (σ : Store) : σ.Within σ := by
  intro a
  cases σ.read? a with
  | none => exact .none
  | some c => exact .some (.same c)

namespace Within

variable {now before : Store} (h : now.Within before)

include h

theorem read? {a : Address} {c : Cell} (hc : now.read? a = some c) : ∃ d, before.read? a = some d ∧ c.Within d := by
  have ha := h a
  rw [hc] at ha
  cases hb : before.read? a with
  | none =>
      rw [hb] at ha
      cases ha
  | some d =>
      rw [hb] at ha
      cases ha with
      | some hcd => exact ⟨d, rfl, hcd⟩

theorem isMapping_eq (v : Value) : now.isMapping v = before.isMapping v := by
  cases v with
  | scalar a => rfl
  | container a =>
      have ha := h a
      unfold isMapping entries? cell?
      dsimp only
      cases hn : now.read? a with
      | none =>
          rw [hn] at ha
          cases hb : before.read? a with
          | none => rfl
          | some d =>
              rw [hb] at ha
              cases ha
      | some c =>
          obtain ⟨d, hd, hcd⟩ := h.read? hn
          rw [hd]
          cases hcd with
          | same => rfl
          | mapping => rfl

/-- What an array holds now it held before. -/
theorem item {v x : Value} {xs : List Value} (hi : now.items? v = some xs) (hx : x ∈ xs) : before.Leads v x := by
  obtain ⟨c, hc, -⟩ := contains_item hi hx
  cases v with
  | scalar a => cases hc
  | container a =>
      obtain ⟨d, hd, hcd⟩ := h.read? hc
      cases hcd with
      | same =>
          refine .inl ⟨xs, ?_, hx⟩
          unfold items? at hi ⊢
          rw [hc] at hi
          rw [show before.cell? (.container a) = some c from hd]
          exact hi
      | mapping =>
          unfold items? at hi
          rw [hc] at hi
          cases hi

/-- The entries of a mapping now are entries of before, or known values under texts. -/
theorem entries? {v : Value} {es : List (Key × Value)} (he : now.entries? v = some es) :
    ∃ fs, before.entries? v = some fs ∧ Entries.Within es fs := by
  cases v with
  | scalar a => cases he
  | container a =>
      cases hc : now.cell? (.container a) with
      | none =>
          unfold Store.entries? at he
          rw [hc] at he
          cases he
      | some c =>
          obtain ⟨d, hd, hcd⟩ := h.read? hc
          unfold Store.entries? at he ⊢
          rw [hc] at he
          rw [show before.cell? (.container a) = some d from hd]
          cases hcd with
          | same => exact ⟨es, he, .refl es⟩
          | mapping hwithin =>
              cases he
              exact ⟨_, rfl, hwithin⟩

/-- What stands under a text now is a scalar that a checker brought in, or stood under a text before. -/
theorem entry {v x : Value} {es : List (Key × Value)} {name : String} (he : now.entries? v = some es)
    (hx : Entries.get? name es = some x) : x.Counted ∨ before.Leads v x := by
  obtain ⟨fs, hfs, hwithin⟩ := h.entries? he
  rcases hwithin _ (Entries.mem_of_get? hx) with hold | ⟨_, hcounted | ⟨other, hold⟩⟩
  · exact .inr (.inr ⟨fs, name, hfs, hold⟩)
  · exact .inl hcounted
  · exact .inr (.inr ⟨fs, other, hfs, hold⟩)

/-- A key of a mapping now is a text, or the mapping had it before. -/
theorem key {v : Value} {es : List (Key × Value)} {e : Key × Value} (he : now.entries? v = some es) (hm : e ∈ es) :
    (∃ name, e.1 = .text name) ∨ ∃ fs, before.entries? v = some fs ∧ e ∈ fs := by
  obtain ⟨fs, hfs, hwithin⟩ := h.entries? he
  rcases hwithin e hm with hold | ⟨htext, _⟩
  · exact .inr ⟨fs, hfs, hold⟩
  · exact .inl htext

/-- Writing a mapping that holds no more than before. -/
theorem write {a : Address} {es : List (Key × Value)} (ha : now.read? a = some (.mapping es)) {fs : List (Key × Value)}
    (hfs : ∀ bs, before.read? a = some (.mapping bs) → Entries.Within es bs → Entries.Within fs bs) :
    (now.write a (.mapping fs)).Within before := by
  intro b
  by_cases hab : a = b
  · subst hab
    rw [read?_write_same now a _ (lt_of_read? ha)]
    obtain ⟨d, hd, hcd⟩ := h.read? ha
    rw [hd]
    cases hcd with
    | same => exact .some (.mapping (hfs es hd (.refl es)))
    | mapping hwithin => exact .some (.mapping (hfs _ hd hwithin))
  · rw [read?_write_other now _ hab]
    exact h b

theorem strip {a : Address} {es : List (Key × Value)} (ha : now.read? a = some (.mapping es))
    (p : Key × Value → Bool) : (now.write a (.mapping (es.filter p))).Within before :=
  h.write ha fun _ _ hes => hes.filter p

theorem save {a : Address} {es : List (Key × Value)} (ha : now.read? a = some (.mapping es)) (name : String) {x : Value}
    (hx : x.Counted ∨ before.Leads (.container a) x) :
    (now.write a (.mapping (Entries.put (.text name) x es))).Within before := by
  refine h.write ha fun bs hbs hes => hes.put ?_
  have hentries : before.entries? (.container a) = some bs := by
    unfold Store.entries?
    rw [show before.cell? (.container a) = some (.mapping bs) from hbs]
  rcases hx with hx | ⟨xs, hi, _⟩ | ⟨fs, other, hfs, hx⟩
  · exact .inl hx
  · unfold items? at hi
    rw [show before.cell? (.container a) = some (.mapping bs) from hbs] at hi
    cases hi
  · rw [hentries] at hfs
    cases hfs
    exact .inr ⟨other, hx⟩

end Within

end Store

end ShapeCheck
