import ShapeCheck.Proofs.Repeating

/-!
# What rules run on

A rule takes the length of a value, compares it, divides it, searches it or goes through what is in it. `Rule.Defined` says
that the value has what is asked for, and that the run works with this and not with a stand-in: `lengthOf`, `textOf` and
`numberOf` have an answer for each value. Two facts make it so. A rule that the standard capabilities let pass is `Registered`
for the kind of its property, so that its limit is a number and the kind is one that its method is about. And what goes on to
the rules is of that kind, `Kind.Holds`, also after the rules before have changed the store.

`Rule.Registered.defined` puts the two together for one rule. Along the calls of a run, into elements, types in place and types
behind references, rules stay registered (`Call.described`), so `PropertyChecker.rule_defined` says it of all of them.
-/

namespace ShapeCheck

/-! ## Values of a kind -/

/-- A value is a text, a finite number, a truth value, a list or a tuple, a mapping of either sort, a function, or anything. -/
def Kind.Holds (k : Kind) (σ : Store) (v : Value) : Prop :=
  match k with
  | .string => ∃ s, v = .scalar (.text s)
  | .number => ∃ n, v = .scalar (.number n) ∧ n.isFinite? = some true
  | .boolean => ∃ b, v = .scalar (.bool b)
  | .array => ∃ xs, σ.cell? v = some (.list xs) ∨ σ.cell? v = some (.tuple xs)
  | .object => ∃ es, σ.cell? v = some (.mapping es) ∨ σ.cell? v = some (.readOnly es)
  | .function => ∃ name, v = .scalar (.function name)
  | .any => True

section Kinds

variable {σ : Store} {v w : Value}

theorem Store.items?_eq_some_iff {xs : List Value} :
    σ.items? v = some xs ↔ σ.cell? v = some (.list xs) ∨ σ.cell? v = some (.tuple xs) := by
  unfold items?
  cases σ.cell? v with
  | none => simp
  | some c => cases c <;> simp

theorem Store.entries?_eq_some_iff {es : List (Key × Value)} :
    σ.entries? v = some es ↔ σ.cell? v = some (.mapping es) ∨ σ.cell? v = some (.readOnly es) := by
  unfold entries?
  cases σ.cell? v with
  | none => simp
  | some c => cases c <;> simp

/-- What a value counts as for a kind is of that kind. -/
theorem Kind.holds_of_convert {k : Kind} {convert : Bool} (h : k.convert convert σ v = .ok (some w)) : k.Holds σ w := by
  have hfinite : ∀ {n}, finite? n = .ok (some w) → Kind.number.Holds σ w := fun h => ⟨_, finite?_eq h⟩
  unfold Kind.convert at h
  split at h
  · split at h <;> cases h
    exact ⟨_, rfl⟩
  · split at h
    · exact hfinite h
    · split at h
      · split at h
        · exact hfinite h
        · cases h
      · cases h
    · cases h
  · split at h
    · cases h
      exact ⟨_, rfl⟩
    · next s =>
      split at h
      · cases ht : truth? s <;> rw [ht] at h <;> cases h
        exact ⟨_, rfl⟩
      · cases h
    · cases h
  · cases hi : σ.items? v <;> rw [hi] at h <;> cases h
    exact ⟨_, Store.items?_eq_some_iff.1 hi⟩
  · cases he : σ.entries? v <;> rw [he] at h <;> cases h
    exact ⟨_, Store.entries?_eq_some_iff.1 he⟩
  · split at h <;> cases h
    exact ⟨_, rfl⟩
  · trivial

end Kinds

/-! ## Where rules come from -/

/-- A type is what some definition compiles to under the standard capabilities. -/
def TypeChecker.Described (t : TypeChecker) : Prop := ∃ d : TypeDef, d.Compiles (· = .standard) t

/-- A checker is what the description of a property, or of an element, compiles to under the standard capabilities. -/
inductive PropertyChecker.Described (c : PropertyChecker) : Prop
  | property {d : PropertyDef} (compiled : d.Compiles (· = .standard) c)
  | element {method : String} {d : Datum} (compiled : Capabilities.standard.compileElement method d = .ok c)

/-- A rule is made by a method of a kind, from arguments of the form that is registered for the method; or it is for the type
that a property of objects has in place. -/
inductive Rule.Registered (kind : Kind) : Rule → Prop
  | constraint {name : String} {args : List Datum} {form : ArgumentForm} {m : Method} {x : Rule}
    (lookup : Capabilities.standard.lookup (.text kind.name) name = .ok form) (fits : form.fit args = .fits)
    (method : Method.ofName? kind name = some m) (adds : m.Adds (Capabilities.standard.compileElement name) args x) :
    x.Registered kind
  | inlineType {t : TypeChecker} (object : kind = .object) (described : t.Described) : (Rule.inlineType t).Registered kind

/-- The rules of constraints that are compiled are registered. -/
theorem Capabilities.compileConstraints_registered {kind : Kind} {cs : List Constraint} {c : PropertyChecker}
    (h : standard.compileConstraints kind cs (fun m a _ => standard.compileElement m a) (.ofKind kind) = .ok c) :
    c.kind = kind ∧ ∀ x ∈ c.rules, x.Registered kind := by
  refine compileConstraints_induct (I := fun c => c.kind = kind ∧ ∀ x ∈ c.rules, x.Registered kind) ?_ h
    ⟨rfl, fun _ hx => nomatch hx⟩
  rintro k - form m checker checker' hcheck hm happly ⟨hkind, hrules⟩
  obtain ⟨hlookup, hfits⟩ := check_eq_ok.1 hcheck
  rcases Method.apply_cases happly with ⟨_, rfl⟩ | ⟨x, hadds, rfl⟩
  · rw [Method.adjust_kind, Method.adjust_rules]
    exact ⟨hkind, hrules⟩
  · rw [PropertyChecker.addRule_kind, PropertyChecker.addRule_rules, List.forall_mem_append]
    refine ⟨hkind, hrules, fun y hy => ?_⟩
    obtain rfl := List.mem_singleton.1 hy
    exact .constraint hlookup hfits hm hadds

theorem TypeDef.described_of_compilesAll {ds : List TypeDef} {ts : List TypeChecker}
    (h : TypeDef.CompilesAll (· = .standard) ds ts) : ∀ t ∈ ts, t.Described := by
  induction ds generalizing ts with
  | nil =>
      cases ts with
      | nil => exact fun _ ht => absurd ht List.not_mem_nil
      | cons t ts =>
          unfold TypeDef.CompilesAll at h
          exact h.elim
  | cons d ds ih =>
      cases ts with
      | nil => exact fun _ ht => absurd ht List.not_mem_nil
      | cons t ts =>
          rw [TypeDef.CompilesAll] at h
          exact List.forall_mem_cons.2 ⟨⟨d, h.1⟩, ih h.2⟩

theorem Capabilities.compileProperty_registered {kindName : String} {cs : List Constraint}
    {inlineTypes : Option (List TypeChecker)} {c : PropertyChecker} (htypes : ∀ ts ∈ inlineTypes, ∀ t ∈ ts, t.Described)
    (h : standard.compileProperty kindName cs inlineTypes = .ok c) : ∀ x ∈ c.rules, x.Registered c.kind := by
  obtain ⟨kind, checker, _, hcs, hc⟩ := compileProperty_eq_ok h
  obtain ⟨rfl, hrules⟩ := compileConstraints_registered hcs
  rcases hc with ⟨_, rfl⟩ | ⟨t, rfl, hobject, _, rfl⟩
  · exact hrules
  · rw [PropertyChecker.addRule_kind, PropertyChecker.addRule_rules, List.forall_mem_append]
    refine ⟨hrules, fun x hx => ?_⟩
    obtain rfl := List.mem_singleton.1 hx
    exact .inlineType hobject (htypes [t] rfl t (List.mem_singleton_self t))

/-- All rules of a described checker are registered for its kind. -/
theorem PropertyChecker.Described.registered {c : PropertyChecker} (h : c.Described) : ∀ x ∈ c.rules, x.Registered c.kind := by
  cases h with
  | @property d hcompiled =>
      obtain ⟨_, kind, constraints, typeArgs⟩ := d
      cases typeArgs with
      | none =>
          rw [PropertyDef.Compiles] at hcompiled
          obtain ⟨_, rfl, hcompile⟩ := hcompiled
          exact Capabilities.compileProperty_registered (fun _ hts => by cases hts) hcompile
      | some types =>
          rw [PropertyDef.Compiles] at hcompiled
          obtain ⟨_, checkers, rfl, hall, hcompile⟩ := hcompiled
          refine Capabilities.compileProperty_registered (fun ts hts => ?_) hcompile
          obtain rfl := Option.mem_some.1 hts
          exact TypeDef.described_of_compilesAll hall
  | element hcompiled =>
      obtain ⟨e, kind, _, _, hcs⟩ := Capabilities.compileElement_eq_ok hcompiled
      obtain ⟨rfl, hrules⟩ := Capabilities.compileConstraints_registered hcs
      exact hrules

/-- The properties of a described type are described. -/
theorem TypeChecker.Described.property {t : TypeChecker} (h : t.Described) {name : String} {c : PropertyChecker}
    (hc : (name, c) ∈ t.properties) : c.Described := by
  obtain ⟨⟨_, _, leniency, properties⟩, hcompiles⟩ := h
  rw [TypeDef.Compiles] at hcompiles
  obtain ⟨d, _, _, hd⟩ := List.Forall₂.exists_of_mem_right hcompiles.2.forall₂ hc
  exact .property hd

namespace Rule.Registered

variable {kind : Kind} {elements : List PropertyChecker} {c : PropertyChecker} {x : Rule}

/-- The elements that an array has to include, or to exclude, are described. -/
theorem element (h : x.Registered kind) (hx : x = .includes elements ∨ x = .excludes elements) (hc : c ∈ elements) :
    c.Described := by
  cases h with
  | inlineType _ _ => rcases hx with hx | hx <;> cases hx
  | @constraint name args _ _ _ _ _ _ hadds =>
      have hcompiled : List.Forall₂ (fun d c => Capabilities.standard.compileElement name d = .ok c) args elements := by
        rcases hx with rfl | rfl <;>
        · cases hadds
          assumption
      obtain ⟨d, _, hd⟩ := List.Forall₂.exists_of_mem_right hcompiled hc
      exact .element hd

theorem inPlace {t : TypeChecker} (h : (Rule.inlineType t).Registered kind) : t.Described := by
  cases h with
  | constraint _ _ _ adds => cases adds
  | inlineType _ hdescribed => exact hdescribed

end Rule.Registered

/-! ## What rules ask of values -/

/-- The number of items of a container that has one. -/
def Cell.length? : Cell → Option Nat
  | .list xs => some xs.length
  | .tuple xs => some xs.length
  | .set xs => some xs.length
  | .mapping es => some es.length
  | .readOnly es => some es.length
  | .structured .. => none

/-- The length of a value that has one: texts have characters, and containers have items. -/
def Store.length? (σ : Store) : Value → Option Nat
  | .scalar (.text s) => some (Text.size s)
  | .scalar (.bytes bs) => some bs.length
  | .scalar _ => none
  | .container a => (σ.read? a).bind Cell.length?

def Value.text? : Value → Option String
  | .scalar (.text s) => some s
  | _ => none

/-- The number that a value counts as where it is compared or divided. -/
def Value.number? : Value → Option Number
  | .scalar a => a.number?
  | .container _ => none

/-- What a rule does with a value is defined: the value has a length, a text, a number, items or entries, which is what the
run takes for it, and a limit can be compared with it. -/
def Rule.Defined (σ : Store) (v : Value) : Rule → Prop
  | .length bound _ limit => σ.length? v = some (lengthOf σ v) ∧ ∃ allowed, bound.allows limit (lengthOf σ v) = .ok allowed
  | .pattern .. | .alphanumeric _ | .email | .date => v.text? = some (textOf v)
  | .whole | .fraction => v.number? = some (numberOf v)
  | .atLeast limit => v.number? = some (numberOf v) ∧ ∃ allowed, limitAtMost limit (numberOf v) = .ok allowed
  | .atMost limit => v.number? = some (numberOf v) ∧ ∃ allowed, atMostLimit (numberOf v) limit = .ok allowed
  | .includes _ | .excludes _ => (σ.items? v).isSome = true
  | .reference _ | .inlineType _ => (σ.entries? v).isSome = true

/-- The kind that a method belongs to, if it is not one of every kind. -/
def Method.kind? : Method → Option Kind
  | .emptyOk | .length _ .characters | .pattern | .alphanumeric | .email | .date => some .string
  | .whole | .fraction | .atLeast | .atMost => some .number
  | .length _ .items | .includes | .excludes => some .array
  | .reference => some .object
  | .required | .nullOk | .allow | .deny | .valid | .withPeers | .withoutPeers => none

theorem Method.kind_of_ofName? {kind k : Kind} {name : String} {m : Method} (h : ofName? kind name = some m)
    (hk : m.kind? = some k) : kind = k := by
  have hall : ∀ p ∈ own kind ++ base, ∀ k ∈ p.2.kind?, kind = k := by cases kind <;> decide
  exact hall _ (ofName?_mem h) k hk

section Operations

variable {σ : Store} {v : Value} {kind : Kind}

theorem Kind.Holds.text (h : Kind.string.Holds σ v) : v.text? = some (textOf v) := by
  obtain ⟨s, rfl⟩ := h
  rfl

theorem Kind.Holds.number (h : Kind.number.Holds σ v) : v.number? = some (numberOf v) := by
  obtain ⟨n, rfl, _⟩ := h
  rfl

theorem Kind.Holds.items (h : Kind.array.Holds σ v) : (σ.items? v).isSome = true := by
  obtain ⟨xs, hc⟩ := h
  exact Option.isSome_iff_exists.2 ⟨xs, Store.items?_eq_some_iff.2 hc⟩

theorem Kind.Holds.entries (h : Kind.object.Holds σ v) : (σ.entries? v).isSome = true := by
  obtain ⟨es, hc⟩ := h
  exact Option.isSome_iff_exists.2 ⟨es, Store.entries?_eq_some_iff.2 hc⟩

theorem Kind.Holds.length_text (h : Kind.string.Holds σ v) : σ.length? v = some (lengthOf σ v) := by
  obtain ⟨s, rfl⟩ := h
  rfl

theorem Kind.Holds.length_items (h : Kind.array.Holds σ v) : σ.length? v = some (lengthOf σ v) := by
  cases v with
  | scalar a =>
      obtain ⟨xs, hc | hc⟩ := h <;> cases hc
  | container a =>
      obtain ⟨xs, hc | hc⟩ := h <;>
      · unfold Store.length? lengthOf Store.items?
        dsimp only
        rw [hc, show σ.read? a = _ from hc]
        rfl

/-- A rule that is registered for a kind is defined for the values of that kind. -/
theorem Rule.Registered.defined {x : Rule} (hx : x.Registered kind) (hv : kind.Holds σ v) : x.Defined σ v := by
  cases hx with
  | inlineType hobject _ =>
      subst hobject
      exact hv.entries
  | @constraint name args form m x hlookup hfits hm hadds =>
      have hform : m.form.fit args = .fits :=
        Capabilities.standard_check (Capabilities.check_eq_ok.2 ⟨hlookup, hfits⟩) hm
      have hlimit : ∀ {limit}, limit ∈ x.limit? → ∃ n, limit = .scalar (.number n) := hadds.limit_number hform
      cases hadds with
      | @length bound unit limit =>
          obtain ⟨n, rfl⟩ := hlimit rfl
          have hlength : σ.length? v = some (lengthOf σ v) := by
            cases unit with
            | characters =>
                obtain rfl := Method.kind_of_ofName? hm rfl
                exact hv.length_text
            | items =>
                obtain rfl := Method.kind_of_ofName? hm rfl
                exact hv.length_items
          exact ⟨hlength, bound.allows_number n _⟩
      | atLeast =>
          obtain ⟨n, rfl⟩ := hlimit rfl
          obtain rfl := Method.kind_of_ofName? hm rfl
          exact ⟨hv.number, _, limitAtMost_number n _⟩
      | atMost =>
          obtain ⟨n, rfl⟩ := hlimit rfl
          obtain rfl := Method.kind_of_ofName? hm rfl
          exact ⟨hv.number, _, atMostLimit_number n _⟩
      | whole | fraction =>
          obtain rfl := Method.kind_of_ofName? hm rfl
          exact hv.number
      | pattern | alphanumeric | email | date =>
          obtain rfl := Method.kind_of_ofName? hm rfl
          exact hv.text
      | includes | excludes =>
          obtain rfl := Method.kind_of_ofName? hm rfl
          exact hv.items
      | reference =>
          obtain rfl := Method.kind_of_ofName? hm rfl
          exact hv.entries

/-- A defined test ends without a fault, and leaves the run as it is. -/
theorem Rule.Defined.ending {x : Rule} {r : Run} (h : x.Defined r.store v) (htest : x.looksInside = false) (f : Follow)
    (ctx : Context) (path : Path) : ∃ found, (x.run f ctx path v).ending r = (.ok found, r) := by
  cases x with
  | includes | excludes | reference | inlineType => cases htest
  | length bound unit limit =>
      obtain ⟨_, allowed, hallowed⟩ := h
      rw [Rule.run, Check.ending_bind_ok (Check.ending_store r)]
      dsimp only
      rw [hallowed]
      exact ⟨_, rfl⟩
  | atLeast =>
      obtain ⟨_, allowed, hallowed⟩ := h
      rw [Rule.run, hallowed]
      exact ⟨_, rfl⟩
  | atMost =>
      obtain ⟨_, allowed, hallowed⟩ := h
      rw [Rule.run, hallowed]
      exact ⟨_, rfl⟩
  | pattern source program =>
      rw [Rule.run]
      cases program.search (textOf v) with
      | found | missing => exact ⟨_, rfl⟩
  | alphanumeric | email | date | whole | fraction =>
      rw [Rule.run]
      exact ⟨_, rfl⟩

end Operations

/-! ## Along a run -/

/-- The references that are followed now, and were not before, lead to described types. -/
def Context.EntersDescribed (resolve : Resolver) (before now : Context) : Prop :=
  ∀ y ∈ now.inFlight, y ∉ before.inFlight → ∀ t, resolve y.1 = some t → t.Described

/-- What is checked at a point comes from a description. -/
def Point.Described : Point → Prop
  | .type _ _ _ t _ => t.Described
  | .property _ _ _ _ _ c _ => c.Described
  | .rule _ _ _ x _ => ∃ kind, x.Registered kind

section Calls

variable {resolve : Resolver} {b : Bool} {p q start : Point} {first r s : Run}

theorem Call.inFlight_subset (h : Call resolve b p r q s) : p.context.inFlight ⊆ q.context.inFlight := by
  cases h with
  | reference => exact List.subset_cons_self _ _
  | field | rule | included | excluded | inlineType => exact List.Subset.refl _

/-- A call stays with what comes from descriptions: only one that enters a reference could leave it. -/
theorem Call.described {before : Context} (h : Call resolve b p r q s) (hp : p.Described)
    (hbefore : before.inFlight ⊆ p.context.inFlight) (hbehind : before.EntersDescribed resolve q.context) : q.Described := by
  cases h with
  | field _ hproperties _ _ => exact TypeChecker.Described.property hp (hproperties ▸ List.mem_append_cons_self)
  | rule _ _ hrules _ => exact ⟨_, PropertyChecker.Described.registered hp _ (hrules ▸ List.mem_append_cons_self)⟩
  | included _ _ hsplit _ =>
      obtain ⟨_, hregistered⟩ := hp
      exact hregistered.element (.inl rfl) (hsplit ▸ List.mem_append_cons_self)
  | excluded _ _ hsplit _ =>
      obtain ⟨_, hregistered⟩ := hp
      exact hregistered.element (.inr rfl) (hsplit ▸ List.mem_append_cons_self)
  | reference hresolve hfresh =>
      exact hbehind _ (List.mem_cons_self ..) (fun hmem => hfresh (hbefore hmem)) _ hresolve
  | inlineType =>
      obtain ⟨_, hregistered⟩ := hp
      exact hregistered.inPlace

theorem Reached.inFlight_subset (h : Reached resolve start first b q s) : start.context.inFlight ⊆ q.context.inFlight := by
  induction h with
  | start => exact List.Subset.refl _
  | call _ hcall ih => exact List.Subset.trans ih hcall.inFlight_subset

/-- A run that starts with a description stays with them. -/
theorem Reached.described (h : Reached resolve start first b q s) (hstart : start.Described)
    (hbehind : start.context.EntersDescribed resolve q.context) : q.Described := by
  induction h with
  | start => exact hstart
  | call hreached hcall ih =>
      have hfewer : start.context.EntersDescribed resolve _ := fun y hy => hbehind y (hcall.inFlight_subset hy)
      exact hcall.described (ih hfewer) hreached.inFlight_subset hbehind

/-- What goes on to a rule is what the value counts as, and is still of the kind when the rules before have run. -/
theorem Call.rule_holds {n : Nat} {ctx : Context} {path : Path} {present : Bool} {parent : Option Value} {c : PropertyChecker}
    {v w : Value} {x : Rule} (h : Call resolve b (.property n ctx path present parent c v) r (.rule n ctx path x w) s) :
    x ∈ c.rules ∧ c.kind.convert ctx.convert r.store v = .ok (some w) ∧ c.kind.Holds s.store w := by
  have hwithin : s.store.Within r.store := (Reached.start.call h).within (.refl r.store)
  cases h with
  | rule hearly _ hrules _ =>
      have hconvert := PropertyChecker.early_goOn hearly
      have hafter : c.kind.convert ctx.convert s.store v = .ok (some w) := by
        rw [Kind.convert_within hwithin]
        exact hconvert
      exact ⟨hrules ▸ List.mem_append_cons_self, hconvert, Kind.holds_of_convert hafter⟩

/-- Only properties and elements call rules. -/
theorem Call.rule_caller {n : Nat} {ctx : Context} {path : Path} {x : Rule} {w : Value}
    (h : Call resolve b p r (.rule n ctx path x w) s) :
    ∃ present parent c v, b = false ∧ p = .property n ctx path present parent c v := by
  cases h
  exact ⟨_, _, _, _, rfl, rfl⟩

end Calls

/-- **Rules run on what they are made for.** Take what the description of a property or of an element compiles to under the
standard capabilities, and any run of it: with any way to resolve references, in any context, on any value, in any store.
Each rule that the run comes to, also of elements and of types in place, is called by a property or an element that it is a
rule of. It gets what the value there counts as, which is of the kind of that property, and it is registered for that kind.
What it does with the value is defined, and if it is a test it ends without a fault. Behind references the same holds if they
lead to described types. -/
theorem PropertyChecker.rule_defined {c : PropertyChecker} (hc : c.Described) {resolve : Resolver} {n m : Nat}
    {ctx dtx : Context} {path place : Path} {present : Bool} {parent : Option Value} {v w : Value} {x : Rule} {tried : Bool}
    {r s : Run} (hreached : Reached resolve (.property n ctx path present parent c v) r tried (.rule m dtx place x w) s)
    (hbehind : ctx.EntersDescribed resolve dtx) :
    (∃ b here around d u t, Reached resolve (.property n ctx path present parent c v) r b
        (.property m dtx place here around d u) t ∧
      Call resolve false (.property m dtx place here around d u) t (.rule m dtx place x w) s ∧ x ∈ d.rules ∧
      d.kind.convert dtx.convert t.store u = .ok (some w) ∧ d.kind.Holds s.store w ∧ x.Registered d.kind) ∧
    x.Defined s.store w ∧
    (x.looksInside = false → ∃ found, (x.run (follow resolve m) dtx place w).ending s = (.ok found, s)) := by
  cases hreached with
  | @call b trial q _ t _ hproperty hcall =>
  obtain ⟨here, around, d, u, rfl, rfl⟩ := hcall.rule_caller
  have hd : d.Described := hproperty.described hc fun y hy => hbehind y (hcall.inFlight_subset hy)
  obtain ⟨hx, hconvert, hholds⟩ := hcall.rule_holds
  have hregistered := hd.registered x hx
  have hdefined := hregistered.defined hholds
  exact ⟨⟨b, here, around, d, u, t, hproperty, hcall, hx, hconvert, hholds, hregistered⟩, hdefined,
    fun htest => hdefined.ending htest _ _ _⟩

/-! An array of mappings, each of a type behind a reference that has a number; there it is a text, which counts as one. -/

def tally : TypeRef := (TypeRef.make? "ns://parts" "1.0.0" "Tally").get (by decide +kernel)

def countData : Datum := Probe.part "Number" [("min", [.int 2])]

def countChecker : PropertyChecker := Probe.bare .number [.atLeast (.int 2)]

def tallyChecker : TypeChecker := Probe.keyChecker false "count" countChecker

def tallies : Resolver := fun _ => some tallyChecker

def tallyElement : PropertyChecker := Probe.bare .object [.reference tally]

def talliesChecker : PropertyChecker := Probe.bare .array [.includes [tallyElement]]

def tallyList : Run := { store := ⟨#[.list [.container 1], .mapping [(.text "count", .scalar (.text "5"))]]⟩ }

theorem describes_count : Probe.Describes countData countChecker := by
  have hshort : (Datum.int 2).isTooLong = false := by decide +kernel
  have hlimit : limitArgument [.int 2] = .ok (.int 2) :=
    Except.bind_eq_ok.2 ⟨_, rfl, if_neg (by rw [hshort]; exact Bool.false_ne_true)⟩
  have hconstraint : Capabilities.standard.compileConstraint .number ⟨"min", [.int 2]⟩
      (fun a _ => Capabilities.standard.compileElement "min" a) (.ofKind .number) = .ok countChecker :=
    Except.bind_eq_ok.2 ⟨_, rfl, Except.bind_eq_ok.2 ⟨_, hlimit, rfl⟩⟩
  exact .of_part rfl rfl (Except.bind_eq_ok.2 ⟨_, hconstraint, rfl⟩)

theorem tallyChecker_described : tallyChecker.Described := by
  obtain ⟨t, hbuilt, ht⟩ := describes_count.type false "count"
  have hcompiles := hbuilt.compiles
  rw [ht] at hcompiles
  exact ⟨t.definition, hcompiles⟩

theorem talliesChecker_described : talliesChecker.Described :=
  .element ((Probe.describes_items (Probe.describes_reference tally)).element "includes")

/-- The context behind the reference. -/
def tallyContext : Context := ({ maxDepth := 1 } : Context).enter tally (.container 1)

def tallyRun : Run := { tallyList with
  events := [.met ⟨tally, .container 1, Path.index {} 0, { maxDepth := 1 }, .entered⟩] }

/-- The points that the run of the list comes to. -/
def TalliesReach (p : Point) (s : Run) : Prop :=
  Reached tallies (.property 1 { maxDepth := 1 } {} true none talliesChecker (.container 0)) tallyList false p s

theorem tallies_reach_count : TalliesReach
    (.rule 0 (tallyContext.inside tallyChecker) ((Path.index {} 0).key "count") (.atLeast (.int 2)) (.scalar (.int 5))) tallyRun := by
  have hincludes : TalliesReach (.rule 1 { maxDepth := 1 } {} (.includes [tallyElement]) (.container 0)) tallyList :=
    .call .start (.rule rfl rfl (List.nil_append _).symm rfl)
  have hitems : (tallyList.store.items? (.container 0)).getD [] = [] ++ .container 1 :: [] := rfl
  have hitem : Call tallies ([tallyElement].length != 1) (.rule 1 { maxDepth := 1 } {} (.includes [tallyElement]) (.container 0))
      tallyList (.property 1 { maxDepth := 1 } (Path.index {} 0) true none tallyElement (.container 1)) tallyList :=
    .included hitems rfl (List.nil_append _).symm rfl
  have helement : TalliesReach (.property 1 { maxDepth := 1 } (Path.index {} 0) true none tallyElement (.container 1)) tallyList :=
    Reached.call hincludes hitem
  have hreference : TalliesReach (.rule 1 { maxDepth := 1 } (Path.index {} 0) (.reference tally) (.container 1)) tallyList :=
    Reached.call helement (.rule rfl rfl (List.nil_append _).symm rfl)
  have htype : TalliesReach (.type 0 tallyContext (Path.index {} 0) tallyChecker (.container 1)) tallyRun :=
    Reached.call hreference (.reference rfl (List.not_mem_nil))
  have hearlier : (PropertyChecker.collectFields (follow tallies 0) (tallyContext.inside tallyChecker) (Path.index {} 0)
      tallyChecker.leniency (.container 1) []).ending tallyRun = (.ok [], tallyRun) := rfl
  have hfield := Call.field (r := tallyRun) rfl (List.nil_append _).symm rfl hearlier
  have hcount : TalliesReach (.property 0 (tallyContext.inside tallyChecker) ((Path.index {} 0).key "count") true
      (some (.container 1)) countChecker (.scalar (.text "5"))) tallyRun :=
    Reached.call htype hfield
  exact Reached.call hcount (.rule rfl rfl (List.nil_append _).symm rfl)

/-- The limit behind the reference is compared with the number that the text counts as. -/
theorem count_compared : talliesChecker.Described ∧
    TalliesReach (.rule 0 (tallyContext.inside tallyChecker) ((Path.index {} 0).key "count") (.atLeast (.int 2)) (.scalar (.int 5)))
      tallyRun ∧
    Context.EntersDescribed tallies { maxDepth := 1 } (tallyContext.inside tallyChecker) ∧
    (Rule.atLeast (.int 2)).Defined tallyRun.store (.scalar (.int 5)) := by
  have hbehind : Context.EntersDescribed tallies { maxDepth := 1 } (tallyContext.inside tallyChecker) := by
    intro y _ _ t ht
    cases ht
    exact tallyChecker_described
  obtain ⟨_, hdefined, _⟩ := PropertyChecker.rule_defined talliesChecker_described tallies_reach_count hbehind
  exact ⟨talliesChecker_described, tallies_reach_count, hbehind, hdefined⟩

end ShapeCheck
