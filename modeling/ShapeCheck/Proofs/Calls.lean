import ShapeCheck.Proofs.Steps

/-!
# The calls of a run

A run checks a type at a value, and on the way properties, elements and rules at other values, and types again behind
references. A `Point` is one such check. `Call` goes from a point to one that it calls, each with the run at that moment:
what the caller has done before the call is said by running the parts before it. Calls for elements that are only tried,
whose findings are not passed on as they are, are marked as trials. `Reached` are the points that a run comes to, and since
calls go down in budget or in size (`Call.descends`) there is an induction along them, `Point.induction`.
-/

namespace ShapeCheck

/-! ## Points -/

/-- What stands under a text in a mapping. -/
def Store.under? (σ : Store) (v : Value) (name : String) : Option Value := (σ.entries? v).bind (Entries.get? name)

/-- The context inside of a type, which may switch conversions. -/
def Context.inside (ctx : Context) (t : TypeChecker) : Context := { ctx with convert := !t.leniency.skipConversions }

/-- A check that a run comes to, with the budget that is left for references inside of each other. -/
inductive Point where
  | type (budget : Nat) (ctx : Context) (path : Path) (t : TypeChecker) (v : Value)
  | property (budget : Nat) (ctx : Context) (path : Path) (present : Bool) (parent : Option Value) (c : PropertyChecker)
    (v : Value)
  | rule (budget : Nat) (ctx : Context) (path : Path) (rule : Rule) (v : Value)

namespace Point

def budget : Point → Nat
  | .type n .. => n
  | .property n .. => n
  | .rule n .. => n

def context : Point → Context
  | .type _ ctx .. => ctx
  | .property _ ctx .. => ctx
  | .rule _ ctx .. => ctx

def path : Point → Path
  | .type _ _ path .. => path
  | .property _ _ path .. => path
  | .rule _ _ path .. => path

def value : Point → Value
  | .type _ _ _ _ v => v
  | .property _ _ _ _ _ _ v => v
  | .rule _ _ _ _ v => v

/-- The size of what is checked. -/
noncomputable def size : Point → Nat
  | .type _ _ _ t _ => sizeOf t
  | .property _ _ _ _ _ c _ => sizeOf c
  | .rule _ _ _ x _ => sizeOf x

/-- What is found at a point. -/
def check (resolve : Resolver) : Point → Check Findings
  | .type n ctx path t v => t.collect (follow resolve n) ctx path v
  | .property n ctx path present parent c v => do return (← c.collect (follow resolve n) ctx path present parent v).1
  | .rule n ctx path x v => x.run (follow resolve n) ctx path v

/-- The check of a property leaves the run that its collecting leaves. -/
theorem check_property_run (resolve : Resolver) (n : Nat) (ctx : Context) (path : Path) (present : Bool) (parent : Option Value)
    (c : PropertyChecker) (v : Value) (r : Run) :
    ((check resolve (.property n ctx path present parent c v)).ending r).2 =
      ((c.collect (follow resolve n) ctx path present parent v).ending r).2 := by
  rw [check, Check.ending_bind]
  rcases (c.collect (follow resolve n) ctx path present parent v).ending r with ⟨e | x, s⟩ <;> rfl

end Point

/-! ## Parts in order -/

section Parts

variable {f : Follow} {ctx : Context} {path : Path}

/-- What an array that has to include some elements asks of an item. -/
def Rule.includesItem (f : Follow) (ctx : Context) (elements : List PropertyChecker) (p : Path) (item : Value) :
    Check Findings := do
  let attempts ← PropertyChecker.attempts f ctx p elements item
  return if attempts.any List.isEmpty then [] else noMatch p item attempts

/-- What an array that has to exclude some elements asks of an item. -/
def Rule.excludesItem (f : Follow) (ctx : Context) (elements : List PropertyChecker) (p : Path) (item : Value) :
    Check Findings := do
  let matched ← PropertyChecker.someAccepts f ctx p elements item
  return if matched then [finding p .excludes "excludes" "matches an excluded element type" item] else []

theorem Rule.run_includes (elements : List PropertyChecker) (v : Value) :
    (Rule.includes elements).run f ctx path v =
      (do eachItem path (Rule.includesItem f ctx elements) 0 (((← Check.store).items? v).getD [])) := by
  unfold Rule.run
  rfl

theorem Rule.run_excludes (elements : List PropertyChecker) (v : Value) :
    (Rule.excludes elements).run f ctx path v =
      (do eachItem path (Rule.excludesItem f ctx elements) 0 (((← Check.store).items? v).getD [])) := by
  unfold Rule.run
  rfl

theorem PropertyChecker.collect_eq (c : PropertyChecker) (present : Bool) (parent : Option Value) (v : Value) :
    c.collect f ctx path present parent v = (do
      match ← Check.ofExcept (c.early ctx.convert path present (← Check.store) v) with
      | .done found converted => return (found, converted)
      | .goOn converted =>
        let peers ← Check.ofExcept (peerFindings c path (← Check.store) parent v)
        return (peers ++ (← Rule.runAll f ctx path c.rules converted), converted)) := by
  obtain ⟨_, _, _, _, _, _, _, _, _, rules⟩ := c
  unfold PropertyChecker.collect
  rfl

theorem TypeChecker.collect_eq (t : TypeChecker) (v : Value) :
    t.collect f ctx path v = (do
      if ((← Check.store).entries? v).isNone then
        return [finding path .kind Kind.object.name "must be an object" v]
      let extra ← strays t.leniency (t.properties.map Prod.fst) path v
      return extra ++ (← PropertyChecker.collectFields f (ctx.inside t) path t.leniency v t.properties)) := by
  obtain ⟨properties, leniency⟩ := t
  unfold TypeChecker.collect
  rfl

theorem Rule.runAll_append (rules others : List Rule) (v : Value) :
    Rule.runAll f ctx path (rules ++ others) v = (do
      let found ← Rule.runAll f ctx path rules v
      return found ++ (← Rule.runAll f ctx path others v)) := by
  induction rules with
  | nil => simp [Rule.runAll]
  | cons rule rest ih => simp only [List.cons_append, Rule.runAll, ih, bind_assoc, pure_bind, List.append_assoc]

theorem eachItem_append (check : Path → Value → Check Findings) (i : Nat) (xs ys : List Value) :
    eachItem path check i (xs ++ ys) = (do
      let found ← eachItem path check i xs
      return found ++ (← eachItem path check (i + xs.length) ys)) := by
  induction xs generalizing i with
  | nil => simp [eachItem]
  | cons x rest ih =>
      simp only [List.cons_append, eachItem, ih, bind_assoc, pure_bind, List.append_assoc, List.length_cons, Nat.add_assoc,
        Nat.add_comm 1]

theorem PropertyChecker.attempts_append (cs ds : List PropertyChecker) (v : Value) :
    PropertyChecker.attempts f ctx path (cs ++ ds) v = (do
      let attempts ← PropertyChecker.attempts f ctx path cs v
      return attempts ++ (← PropertyChecker.attempts f ctx path ds v)) := by
  induction cs with
  | nil => simp [PropertyChecker.attempts]
  | cons c rest ih => simp [PropertyChecker.attempts, ih]

theorem PropertyChecker.someAccepts_append (cs ds : List PropertyChecker) (v : Value) :
    PropertyChecker.someAccepts f ctx path (cs ++ ds) v = (do
      if ← PropertyChecker.someAccepts f ctx path cs v then return true
      else PropertyChecker.someAccepts f ctx path ds v) := by
  induction cs with
  | nil => simp [PropertyChecker.someAccepts]
  | cons c rest ih =>
      simp only [PropertyChecker.someAccepts, List.cons_append, ih, bind_assoc]
      refine bind_congr fun x => ?_
      split <;> simp

theorem PropertyChecker.collectFields_append (leniency : Leniency) (v : Value) (ps qs : List (String × PropertyChecker)) :
    PropertyChecker.collectFields f ctx path leniency v (ps ++ qs) = (do
      let found ← PropertyChecker.collectFields f ctx path leniency v ps
      return found ++ (← PropertyChecker.collectFields f ctx path leniency v qs)) := by
  induction ps with
  | nil => simp [PropertyChecker.collectFields]
  | cons p rest ih =>
      simp only [List.cons_append, PropertyChecker.collectFields, ih, bind_assoc, pure_bind]
      refine bind_congr fun σ => bind_congr fun x => ?_
      split <;> simp only [bind_assoc, pure_bind, List.append_assoc]

theorem Rule.runAll_singleton (x : Rule) (v : Value) : Rule.runAll f ctx path [x] v = x.run f ctx path v := by
  simp [Rule.runAll]

theorem eachItem_singleton (check : Path → Value → Check Findings) (i : Nat) (x : Value) :
    eachItem path check i [x] = check (path.index i) x := by
  simp [eachItem]

theorem PropertyChecker.attempts_singleton (c : PropertyChecker) (v : Value) :
    PropertyChecker.attempts f ctx path [c] v = (do return [(← c.collect f ctx path true none v).1]) := by
  simp [PropertyChecker.attempts]

theorem PropertyChecker.someAccepts_singleton (c : PropertyChecker) (v : Value) :
    PropertyChecker.someAccepts f ctx path [c] v = (do return (← c.collect f ctx path true none v).1.isEmpty) := by
  simp only [PropertyChecker.someAccepts]
  refine bind_congr fun x => ?_
  cases x.1.isEmpty <;> rfl

theorem PropertyChecker.collectFields_singleton (leniency : Leniency) (v : Value) (name : String) (c : PropertyChecker) :
    PropertyChecker.collectFields f ctx path leniency v [(name, c)] = (do
      let current := (← Check.store).under? v name
      let (found, converted) ← c.collect f ctx (path.key name) current.isSome (some v) (current.getD default)
      if current.isSome && found.isEmpty then saveConversion leniency v name converted
      return found) := by
  simp only [PropertyChecker.collectFields, pure_bind, List.append_nil]
  rfl

end Parts

/-! ## Calls -/

/-- A point of a run calls another one. What the caller does before is run, from its own start, and gives its result. -/
inductive Call (resolve : Resolver) : (trial : Bool) → Point → Run → Point → Run → Prop
  | field {n : Nat} {ctx : Context} {path : Path} {t : TypeChecker} {v : Value} {before after : List (String × PropertyChecker)}
      {name : String} {c : PropertyChecker} {r s s' : Run} {extra found : Findings}
      (mapping : (r.store.entries? v).isSome = true) (properties : t.properties = before ++ (name, c) :: after)
      (stray : (strays t.leniency (t.properties.map Prod.fst) path v).ending r = (.ok extra, s))
      (earlier : (PropertyChecker.collectFields (follow resolve n) (ctx.inside t) path t.leniency v before).ending s =
        (.ok found, s')) :
      Call resolve false (.type n ctx path t v) r
        (.property n (ctx.inside t) (path.key name) (s'.store.under? v name).isSome (some v) c
          ((s'.store.under? v name).getD default)) s'
  | rule {n : Nat} {ctx : Context} {path : Path} {present : Bool} {parent : Option Value} {c : PropertyChecker} {v w : Value}
      {before after : List Rule} {x : Rule} {r s : Run} {peers found : Findings}
      (early : c.early ctx.convert path present r.store v = .ok (.goOn w))
      (beside : peerFindings c path r.store parent v = .ok peers) (rules : c.rules = before ++ x :: after)
      (earlier : (Rule.runAll (follow resolve n) ctx path before w).ending r = (.ok found, s)) :
      Call resolve false (.property n ctx path present parent c v) r (.rule n ctx path x w) s
  | included {n : Nat} {ctx : Context} {path : Path} {elements tried untried : List PropertyChecker} {c : PropertyChecker}
      {v item : Value} {before after : List Value} {r s s' : Run} {found : Findings} {attempts : List Findings}
      (items : (r.store.items? v).getD [] = before ++ item :: after)
      (earlier : (eachItem path (Rule.includesItem (follow resolve n) ctx elements) 0 before).ending r = (.ok found, s))
      (split : elements = tried ++ c :: untried)
      (tries : (PropertyChecker.attempts (follow resolve n) ctx (path.index before.length) tried item).ending s =
        (.ok attempts, s')) :
      Call resolve (elements.length != 1) (.rule n ctx path (.includes elements) v) r
        (.property n ctx (path.index before.length) true none c item) s'
  | excluded {n : Nat} {ctx : Context} {path : Path} {elements tried untried : List PropertyChecker} {c : PropertyChecker}
      {v item : Value} {before after : List Value} {r s s' : Run} {found : Findings}
      (items : (r.store.items? v).getD [] = before ++ item :: after)
      (earlier : (eachItem path (Rule.excludesItem (follow resolve n) ctx elements) 0 before).ending r = (.ok found, s))
      (split : elements = tried ++ c :: untried)
      (tries : (PropertyChecker.someAccepts (follow resolve n) ctx (path.index before.length) tried item).ending s =
        (.ok false, s')) :
      Call resolve true (.rule n ctx path (.excludes elements) v) r
        (.property n ctx (path.index before.length) true none c item) s'
  | reference {n : Nat} {ctx : Context} {path : Path} {ref : TypeRef} {t : TypeChecker} {v : Value} {r : Run}
      (found : resolve ref = some t) (fresh : (ref, v) ∉ ctx.inFlight) :
      Call resolve false (.rule (n + 1) ctx path (.reference ref) v) r (.type n (ctx.enter ref v) path t v)
        { r with events := r.events ++ [.met ⟨ref, v, path, ctx, .entered⟩] }
  | inlineType {n : Nat} {ctx : Context} {path : Path} {t : TypeChecker} {v : Value} {r : Run} :
      Call resolve false (.rule n ctx path (.inlineType t) v) r (.type n ctx path t v) r

/-- The points that a run from a point comes to, and whether a trial is around them. -/
inductive Reached (resolve : Resolver) (p : Point) (r : Run) : (tried : Bool) → Point → Run → Prop
  | start : Reached resolve p r false p r
  | call {tried trial : Bool} {q u : Point} {s s' : Run} (reached : Reached resolve p r tried q s)
      (called : Call resolve trial q s u s') : Reached resolve p r (tried || trial) u s'

section Descent

variable {resolve : Resolver}

theorem TypeChecker.sizeOf_property {t : TypeChecker} {name : String} {c : PropertyChecker} (h : (name, c) ∈ t.properties) :
    sizeOf c < sizeOf t := by
  obtain ⟨properties, leniency⟩ := t
  have hlt := List.sizeOf_lt_of_mem h
  simp only [TypeChecker.mk.sizeOf_spec, Prod.mk.sizeOf_spec] at *
  omega

theorem PropertyChecker.sizeOf_rule {c : PropertyChecker} {x : Rule} (h : x ∈ c.rules) : sizeOf x < sizeOf c := by
  obtain ⟨_, _, _, _, _, _, _, _, _, rules⟩ := c
  have hlt := List.sizeOf_lt_of_mem h
  simp only [PropertyChecker.mk.sizeOf_spec] at *
  omega

/-- A call goes down in budget, or within one budget in size. -/
theorem Call.descends {trial : Bool} {p q : Point} {r s : Run} (h : Call resolve trial p r q s) :
    q.budget < p.budget ∨ q.budget = p.budget ∧ q.size < p.size := by
  cases h with
  | field _ hproperties _ _ =>
      exact .inr ⟨rfl, TypeChecker.sizeOf_property (hproperties ▸ List.mem_append_cons_self)⟩
  | rule _ _ hrules _ => exact .inr ⟨rfl, PropertyChecker.sizeOf_rule (hrules ▸ List.mem_append_cons_self)⟩
  | @included _ _ _ elements _ _ c _ _ _ _ _ _ _ _ _ _ _ hsplit _ =>
      refine .inr ⟨rfl, ?_⟩
      have hlt : sizeOf c < sizeOf elements := List.sizeOf_lt_of_mem (hsplit ▸ List.mem_append_cons_self)
      simp only [Point.size, Rule.includes.sizeOf_spec]
      omega
  | @excluded _ _ _ elements _ _ c _ _ _ _ _ _ _ _ _ _ hsplit _ =>
      refine .inr ⟨rfl, ?_⟩
      have hlt : sizeOf c < sizeOf elements := List.sizeOf_lt_of_mem (hsplit ▸ List.mem_append_cons_self)
      simp only [Point.size, Rule.excludes.sizeOf_spec]
      omega
  | reference => exact .inl (Nat.lt_succ_self _)
  | inlineType =>
      refine .inr ⟨rfl, ?_⟩
      simp only [Point.size, Rule.inlineType.sizeOf_spec]
      omega

/-- Induction along calls: what holds at a point and a run if it holds at all calls from there holds everywhere. -/
theorem Point.induction (resolve : Resolver) {holds : Point → Run → Prop}
    (step : ∀ p r, (∀ trial q s, Call resolve trial p r q s → holds q s) → holds p r) (p : Point) (r : Run) : holds p r :=
  step p r fun _ q s _ => Point.induction resolve step q s
termination_by (p.budget, p.size)
decreasing_by exact Prod.lex_def.2 (Call.descends ‹_›)

end Descent

end ShapeCheck
