import ShapeCheck.Proofs.Collecting
import ShapeCheck.Proofs.Constraints
import ShapeCheck.Proofs.Shrinking

/-!
# What a run looks at and changes

`Keeping.below` is the keeping of a single run below a value: it looks at what the value holds, at any depth, and changes
nothing else. What is known of the store has to survive such changes alone (`follow_below`). One use is the frame of a run:
`PropertyChecker.collect_frame` says that containers which a value does not reach are left as they are.
-/

namespace ShapeCheck

open Relation

/-- References are followed at mappings only. -/
def PropertyChecker.FollowsObjects (c : PropertyChecker) : Prop := ∀ ref, .reference ref ∈ c.rules → c.kind = .object

/-- The method of references belongs to the kind of objects. -/
theorem Method.kind_of_reference {kind : Kind} {name : String} (h : Method.ofName? kind name = some .reference) :
    kind = .object := by
  have hmem := Method.ofName?_mem h
  cases kind with
  | object => rfl
  | _ => simp [Method.own, Method.base] at hmem

theorem PropertyChecker.followsObjects_settles (legal : Capabilities → Prop) :
    Settles legal PropertyChecker.FollowsObjects where
  ofKind _ _ h := nomatch h
  constraint _ _ hm hkind happly hc := by
    intro ref href
    rcases Method.apply_cases happly with ⟨_, rfl⟩ | ⟨r, hr, rfl⟩
    · rw [Method.adjust_rules] at href
      rw [Method.adjust_kind]
      exact hc ref href
    · rw [PropertyChecker.addRule_rules] at href
      rw [PropertyChecker.addRule_kind]
      rcases List.mem_append.1 href with href | href
      · exact hc ref href
      · obtain rfl := List.mem_singleton.1 href
        cases hr
        rw [hkind]
        exact Method.kind_of_reference hm
  inlineType hobject _ _ _ := hobject

/-- Built types follow references at mappings only. -/
theorem ObjectType.Built.followsObjects {legal : Capabilities → Prop} {t : ObjectType} (h : t.Built legal) :
    t.checker.Every PropertyChecker.FollowsObjects :=
  h.compiles.every (PropertyChecker.followsObjects_settles legal)

section Below

/-- What a run below a value meets: what the value holds, at any depth, and the scalars that checkers bring in. -/
def Below (σ : Store) (root v : Value) : Prop := v.Counted ∨ ReflTransGen σ.Leads root v

theorem Below.reaches {σ : Store} {root : Value} {a : Address} (h : Below σ root (.container a)) :
    ReflTransGen σ.Leads root (.container a) := by
  rcases h with h | h
  · cases h
  · exact h

variable (σ : Store) (root : Value) (f : Follow) (ctx : Context) (Φ : PropertyChecker → Prop) (Λ : Leniency → Prop)
  (I : Store → Prop) (F : Fault → Prop)

/-- One run below a value of the store `σ` that it started from. -/
def Keeping.below : Keeping where
  first := f
  second := f
  here := ctx
  there := ctx
  runs r s := s = r ∧ r.store.Within σ ∧ I r.store
  faults e _ _ := F e
  held a x := x.Counted ∨ σ.Leads (.container a) x
  opened := Below σ root
  met := Below σ root
  followed v := σ.isMapping v = true
  checker := Φ
  lenient := Λ
  finds _ := True

/-- What is known of a store survives the changes that types may make below a value. -/
structure Store.Survives : Prop where
  strip : ∀ {ρ a es leniency} (p : Key × Value → Bool), Λ leniency → leniency.stripExtraKeys = true → I ρ →
    ReflTransGen σ.Leads root (.container a) → ρ.read? a = some (.mapping es) → I (ρ.write a (.mapping (es.filter p)))
  save : ∀ {ρ a es leniency} (name : String) (x : Value), Λ leniency → leniency.saveConversions = true → I ρ →
    ReflTransGen σ.Leads root (.container a) → ρ.read? a = some (.mapping es) →
    I (ρ.write a (.mapping (Entries.put (.text name) x es)))

/-- What is known of the parts of types: references are followed at mappings only, and inline types are as lenient as
types may be. -/
structure Placed : Prop where
  followsObjects : ∀ c, Φ c → c.FollowsObjects
  inlineType : ∀ {c t}, Φ c → .inlineType t ∈ c.rules → Λ t.leniency

/-- What is known of a type and its parts. -/
structure TypeChecker.Known (t : TypeChecker) : Prop where
  every : t.Every Φ
  leniency : Λ t.leniency

variable {σ root f ctx Φ Λ I F}

theorem Keeping.below_lawful (hplaced : Placed Φ Λ) (hwrite : σ.Survives root Λ I)
    (hfaults : (Keeping.below σ root f ctx Φ Λ I F).KnownFaults)
    (hfollow : ∀ {r convert path ref v}, r.store.Within σ → I r.store → ReflTransGen σ.Leads root v →
      σ.isMapping v = true → (Keeping.below σ root f ctx Φ Λ I F).Ends (fun _ => True)
        ((f { ctx with convert := convert } path ref v).ending r)
        ((f { ctx with convert := convert } path ref v).ending r)) :
    (Keeping.below σ root f ctx Φ Λ I F).Lawful := by
  constructor
  case toKnownFaults => exact hfaults
  case store_eq => exact fun hr => congrArg Run.store hr.1
  case item =>
    intro r s v xs x hr hv hi hx
    have hc := hr.2.1.item hi hx
    rcases hv with hv | hv
    · cases v with
      | scalar a => exact absurd hc.contains Store.not_contains_scalar
      | container a => cases hv
    · exact .inr (hv.tail hc)
  case entry => exact fun hr hes he => hr.2.1.entry hes he
  case held_counted => exact fun h => .inl h
  case met_held => exact fun ha hx => hx.imp_right fun hx => ha.reaches.tail hx
  case met_counted => exact fun h => .inl h
  case opened => exact fun h => h
  case followed =>
    intro r s v hr h
    change σ.isMapping v = true
    rw [← hr.2.1.isMapping_eq]
    exact h
  case references => exact fun hc href => .inl (hplaced.followsObjects _ hc _ href)
  case inlineType => exact fun hc ht => hplaced.inlineType hc ht
  case plain => exact fun _ => trivial
  case strip =>
    intro r s leniency a es p hl hstrip hr ha hes
    exact ⟨by rw [hr.1], hr.2.1.strip hes p, hwrite.strip p hl hstrip hr.2.2 ha.reaches hes⟩
  case save =>
    intro r s leniency a es name x hl hsave hr ha hes hx
    exact ⟨by rw [hr.1], hr.2.1.save hes name hx, hwrite.save name x hl hsave hr.2.2 ha.reaches hes⟩
  case follow =>
    intro r s convert path ref v hr hv hf
    obtain rfl := hr.1
    rcases hv with hv | hv
    · cases v with
      | scalar a => cases hf
      | container a => cases hv
    · exact (hfollow hr.2.1 hr.2.2 hv hf).mono (fun _ _ _ _ => trivial) fun _ _ h => h

/-- A type at a value below, from a run whose store has only shrunk. -/
theorem TypeChecker.collect_below (hk : (Keeping.below σ root f ctx Φ Λ I F).Lawful) {t : TypeChecker}
    (ht : t.Known Φ Λ) {path : Path} {v : Value} {r : Run} (hr : r.store.Within σ) (hI : I r.store)
    (hv : ReflTransGen σ.Leads root v) :
    Ends (fun r s => s = r ∧ r.store.Within σ ∧ I r.store) (fun e _ _ => F e) (fun _ => True)
      ((t.collect f ctx path v).ending r) ((t.collect f ctx path v).ending r) :=
  (TypeChecker.collect_ends hk t ht.every ht.leniency ⟨rfl, hr, hI⟩ (.inr hv)).mono (fun _ _ => trivial) fun _ _ h => h

/-- A property or an element at a value below, with the result that it gave. -/
theorem PropertyChecker.collect_below (hk : (Keeping.below σ root f ctx Φ Λ I F).Lawful) {c : PropertyChecker}
    (hc : c.Every Φ) {path : Path} {present : Bool} {parent : Option Value}
    (hparent : ∀ p ∈ parent, σ.isMapping p = true) {v : Value} {r r' : Run} {x : Findings × Value}
    (hr : r.store.Within σ) (hI : I r.store) (hv : Below σ root v)
    (h : (c.collect f ctx path present parent v).ending r = (.ok x, r')) : r'.store.Within σ ∧ I r'.store := by
  have hends : Ends (Keeping.below σ root f ctx Φ Λ I F).runs (fun e _ _ => F e) (fun _ => True)
      ((c.collect f ctx path present parent v).ending r) ((c.collect f ctx path present parent v).ending r) :=
    (PropertyChecker.collect_ends hk c hc ⟨rfl, hr, hI⟩ hv hparent).mono (fun _ _ => trivial) fun _ _ h => h
  have hok := (hends.of_ok (congrArg Prod.fst h)).2.2
  rw [h] at hok
  exact hok

/-- Following references below a value, where each budget and context has the known faults. -/
theorem follow_below {resolve : Resolver} (hplaced : Placed Φ Λ) (hresolve : ∀ ref t, resolve ref = some t → t.Known Φ Λ)
    (hwrite : σ.Survives root Λ I)
    (hfaults : ∀ n ctx, (Keeping.below σ root (follow resolve n) ctx Φ Λ I F).KnownFaults) (n : Nat) :
    ∀ {ctx : Context} {path : Path} {ref : TypeRef} {v : Value} {r : Run}, r.store.Within σ → I r.store →
      ReflTransGen σ.Leads root v →
      Ends (fun r s => s = r ∧ r.store.Within σ ∧ I r.store) (fun e _ _ => F e) (fun _ => True)
        ((follow resolve n ctx path ref v).ending r) ((follow resolve n ctx path ref v).ending r) := by
  induction n with
  | zero =>
      intro ctx path ref v r hr hI hv
      unfold follow
      cases resolve ref with
      | none => exact .done trivial ⟨rfl, hr, hI⟩
      | some t =>
          dsimp only
          split
          · exact .done trivial ⟨rfl, hr, hI⟩
          · exact .done trivial ⟨rfl, hr, hI⟩
  | succ n ih =>
      intro ctx path ref v r hr hI hv
      unfold follow
      cases hres : resolve ref with
      | none => exact .done trivial ⟨rfl, hr, hI⟩
      | some t =>
          dsimp only
          split
          · exact .done trivial ⟨rfl, hr, hI⟩
          · have hlawful := Keeping.below_lawful hplaced hwrite (hfaults n (ctx.enter ref v)) fun hr hI hw _ => ih hr hI hw
            rw [Check.ending_bind_ok (Check.ending_record ..)]
            refine Ends.bind (P := fun _ => True) (J := fun r s => s = r ∧ r.store.Within σ ∧ I r.store) ?_
              fun found r s _ _ hr => ?_
            · exact TypeChecker.collect_below hlawful (hresolve ref t hres) hr hI hv
            · obtain ⟨rfl, hr, hI⟩ := hr
              exact .done trivial ⟨rfl, hr, hI⟩

/-- The keeping below a value is lawful when its references are followed as `follow` does. -/
theorem Keeping.below_follow {resolve : Resolver} (hplaced : Placed Φ Λ)
    (hresolve : ∀ ref t, resolve ref = some t → t.Known Φ Λ) (hwrite : σ.Survives root Λ I)
    (hfaults : ∀ n ctx, (Keeping.below σ root (follow resolve n) ctx Φ Λ I F).KnownFaults) (n : Nat) (ctx : Context) :
    (Keeping.below σ root (follow resolve n) ctx Φ Λ I F).Lawful :=
  Keeping.below_lawful hplaced hwrite (hfaults n ctx) fun hr hI hv _ =>
    follow_below hplaced hresolve hwrite hfaults n hr hI hv

end Below

section Frame

variable {σ : Store} {resolve : Resolver} {Φ : PropertyChecker → Prop} {Λ : Leniency → Prop}

/-- What survives the changes below a value holds of the store after a property or an element is checked for the value. -/
theorem PropertyChecker.collect_survives (hplaced : Placed Φ Λ) (hresolve : ∀ ref t, resolve ref = some t → t.Known Φ Λ)
    {c : PropertyChecker} (hc : c.Every Φ) {n : Nat} {ctx : Context} {path : Path} {present : Bool} {parent : Option Value}
    (hparent : ∀ p ∈ parent, σ.isMapping p = true) {v : Value} {r r' : Run} {x : Findings × Value}
    (hr : r.store.Within σ) (h : (c.collect (follow resolve n) ctx path present parent v).ending r = (.ok x, r'))
    {I : Store → Prop} (hI : I r.store) (hwrite : σ.Survives v Λ I) : I r'.store :=
  have hlawful := Keeping.below_follow (F := fun _ => True) hplaced hresolve hwrite
    (fun _ _ => .of_runs fun _ => trivial) n ctx
  (PropertyChecker.collect_below hlawful hc hparent hr hI (.inr .refl) h).2

/-- **What a value does not reach stays as it is** while a property or an element is checked for the value. -/
theorem PropertyChecker.collect_frame (hplaced : Placed Φ Λ) (hresolve : ∀ ref t, resolve ref = some t → t.Known Φ Λ)
    {c : PropertyChecker} (hc : c.Every Φ) {n : Nat} {ctx : Context} {path : Path} {present : Bool} {parent : Option Value}
    (hparent : ∀ p ∈ parent, σ.isMapping p = true) {v : Value} {r r' : Run} {x : Findings × Value}
    (hr : r.store.Within σ) (h : (c.collect (follow resolve n) ctx path present parent v).ending r = (.ok x, r'))
    {a : Address} (ha : ¬ ReflTransGen σ.Leads v (.container a)) : r'.store.read? a = r.store.read? a := by
  have hother : ∀ {ρ : Store} {b : Address} {d : Cell}, ρ.read? a = r.store.read? a →
      ReflTransGen σ.Leads v (.container b) → (ρ.write b d).read? a = r.store.read? a := by
    intro ρ b d hρ hb
    have hba : b ≠ a := fun hba => ha (hba ▸ hb)
    rw [Store.read?_write_other ρ d hba]
    exact hρ
  exact PropertyChecker.collect_survives hplaced hresolve hc hparent hr h (I := fun ρ => ρ.read? a = r.store.read? a) rfl
    ⟨fun _ _ _ hρ hb _ => hother hρ hb, fun _ _ _ _ hρ hb _ => hother hρ hb⟩

theorem Entries.get?_put_isSome {α : Type} {name other : String} {x : α} {es : List (Key × α)}
    (h : (Entries.get? name es).isSome = true) : (Entries.get? name (Entries.put (.text other) x es)).isSome = true := by
  induction es with
  | nil => cases h
  | cons e rest ih =>
      obtain ⟨k, w⟩ := e
      unfold put
      unfold get? find? at h ⊢
      by_cases hother : k.same (.text other) = true
      · rw [if_pos hother]
        dsimp only
        split
        · rfl
        · next hk =>
          rw [if_neg hk] at h
          exact h
      · rw [if_neg hother]
        dsimp only
        split
        · rfl
        · next hk =>
          rw [if_neg hk] at h
          exact ih h

/-- Where no type strips keys, a mapping keeps the keys that it has. -/
theorem PropertyChecker.collect_keeps_key (hplaced : Placed Φ Λ) (hresolve : ∀ ref t, resolve ref = some t → t.Known Φ Λ)
    (hstrip : ∀ leniency, Λ leniency → leniency.stripExtraKeys = false) {c : PropertyChecker} (hc : c.Every Φ) {n : Nat}
    {ctx : Context} {path : Path} {present : Bool} {parent : Option Value} (hparent : ∀ p ∈ parent, σ.isMapping p = true)
    {v : Value} {r r' : Run} {x : Findings × Value} (hr : r.store.Within σ)
    (h : (c.collect (follow resolve n) ctx path present parent v).ending r = (.ok x, r')) {a : Address} {name : String}
    (ha : ∀ es, r.store.read? a = some (.mapping es) → (Entries.get? name es).isSome = true) :
    ∀ es, r'.store.read? a = some (.mapping es) → (Entries.get? name es).isSome = true := by
  refine PropertyChecker.collect_survives hplaced hresolve hc hparent hr h
    (I := fun ρ => ∀ es, ρ.read? a = some (.mapping es) → (Entries.get? name es).isSome = true) ha ?_
  constructor
  case strip =>
    intro ρ b es leniency p hl hasks
    rw [hstrip leniency hl] at hasks
    cases hasks
  case save =>
    intro ρ b es _ other x _ _ hρ _ hes fs hfs
    by_cases hab : b = a
    · subst hab
      rw [Store.read?_write_same ρ b _ (Store.lt_of_read? hes)] at hfs
      cases hfs
      exact Entries.get?_put_isSome (hρ es hes)
    · rw [Store.read?_write_other ρ _ hab] at hfs
      exact hρ fs hfs

end Frame

end ShapeCheck
