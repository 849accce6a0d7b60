import ShapeCheck.Definition.References
import ShapeCheck.Validation.Collect

/-!
# What definitions mean

`TypeDef.Conforms` says what it is to be of a type, by the definition alone and without checkers: each declared property
accepts what stands under its key, and nothing else is there. `Demand.Accepts` says it for a property or for an element of an
array. Types, properties and the data that they are about call for each other, so both are defined by recursion on data.

Conforming is a yes or a no, but looking for the answer in order may come to a point where no answer is given: a message has
to be written with a constant that is too long for one. `TypeDef.Stumbles` and `Demand.Stumbles` say when that is so, by the
definition alone as well.
-/

namespace ShapeCheck

/-! ## Parts of data -/

namespace Datum

/-- What stands under a text in a mapping. -/
def get? (name : String) (d : Datum) : Option Datum := d.entries?.bind (Entries.get? name)

/-- The items of a list or a tuple. -/
def items (d : Datum) : List Datum := d.items?.getD []

/-- The text of a datum that is one. -/
def content (d : Datum) : String := d.text?.getD ""

/-- The number of a datum that is one. -/
def number : Datum → Number
  | .scalar (.number n) => n
  | _ => .int 0

/-- The length of a text, a list or a tuple. -/
def length : Datum → Nat
  | .scalar (.text s) => Text.size s
  | d => d.items.length

def isFunction : Datum → Bool
  | .scalar (.function _) => true
  | _ => false

/-- A text is a key of a mapping. -/
def HasKey (d key : Datum) : Prop := ∃ s, key = .text s ∧ (d.get? s).isSome = true

theorem sizeOf_get? {d w : Datum} {name : String} (h : d.get? name = some w) : sizeOf w < sizeOf d := by
  obtain ⟨es, he, hw⟩ := Option.bind_eq_some_iff.1 h
  obtain ⟨k, hk⟩ := Entries.find?_mem hw
  exact sizeOf_entry he hk

theorem sizeOf_item {d x : Datum} (h : x ∈ d.items) : sizeOf x < sizeOf d := by
  unfold items at h
  cases d with
  | list xs => exact sizeOf_member (d := .list xs) rfl h
  | tuple xs => exact sizeOf_member (d := .tuple xs) rfl h
  | _ => cases h

end Datum

/-! ## Kinds -/

namespace Kind

/-- Whether a datum is of a kind as it stands. -/
def isOf : Kind → Datum → Bool
  | .string, d => d.text?.isSome
  | .number, .scalar (.number n) => n.isFinite? == some true
  | .boolean, d => d.isBool
  | .array, d => d.items?.isSome
  | .object, d => d.entries?.isSome
  | .function, d => d.isFunction
  | .any, _ => true
  | _, _ => false

/-- What a text stands for where a number or a truth value is wanted. -/
def conversion? : Kind → Datum → Option Datum
  | .number, .scalar (.text s) =>
    ((Number.ofText? s).filter fun n => n.isFinite? == some true).map fun n => .scalar (.number n)
  | .boolean, .scalar (.text s) => (truth? s).map .bool
  | _, _ => none

/-- What a datum may count as: itself, and what it stands for if conversions are on. -/
def candidates (k : Kind) (convert : Bool) (d : Datum) : List Datum :=
  d :: if convert then (k.conversion? d).toList else []

end Kind

namespace Method

/-- Whether a method mentions its arguments as values that are allowed or as ones that are not. -/
def sense? : Method → Option Bool
  | .allow => some true
  | .valid => some true
  | .deny => some false
  | _ => none

/-- What a method with some arguments asks of a datum of the right kind, where no other definition is asked. -/
def Admits (m : Method) (args : List Datum) (x : Datum) : Prop :=
  match m with
  | .length bound _ => ∃ limit, args.head? = some limit ∧ bound.allows limit x.length = .ok true
  | .pattern => ∃ s program, args.head? = some (.text s) ∧ Pattern.read s = .ok program ∧ program.search x.content = .found
  | .alphanumeric => Text.isAlphanumeric ((args.head?.map Datum.isTruthy).getD false) x.content = true
  | .email => Text.isEmail x.content = true
  | .date => (Moment.ofIso? x.content).isSome = true
  | .whole => x.number.isWhole = true
  | .fraction => x.number.isWhole = false
  | .atLeast => ∃ limit, args.head? = some limit ∧ limitAtMost limit x.number = .ok true
  | .atMost => ∃ limit, args.head? = some limit ∧ atMostLimit x.number limit = .ok true
  | _ => True

end Method

/-! ## Demands -/

/-- What a property, or an element of an array, asks of a value. -/
structure Demand where
  kindName : String
  constraints : List Constraint
  types : List TypeDef := []

def PropertyDef.demand (p : PropertyDef) : Demand := ⟨p.kind, p.constraints, p.inlineTypes.getD []⟩

def ElementDef.demand (e : ElementDef) : Demand := ⟨e.kind, e.constraints, []⟩

namespace Demand

def kind? (q : Demand) : Option Kind := Kind.ofName? q.kindName

/-- The method of a constraint. -/
def method? (q : Demand) (c : Constraint) : Option Method := q.kind?.bind fun k => Method.ofName? k c.method

/-- A demand has a constraint of a method. -/
def Asks (q : Demand) (m : Method) : Prop := ∃ c ∈ q.constraints, q.method? c = some m

/-- The values that constraints mention, in order, each with whether it is allowed there. -/
def mentions (q : Demand) : List (Datum × Bool) :=
  q.constraints.flatMap fun c => ((q.method? c).bind Method.sense?).elim [] fun sense => c.args.map (·, sense)

/-- Whether the last of some mentions of a value allows it. -/
def lastOf (mentions : List (Datum × Bool)) (x : Datum) : Option Bool :=
  (mentions.reverse.find? fun m => m.1.same x).map Prod.snd

def lastMention (q : Demand) (x : Datum) : Option Bool := lastOf q.mentions x

/-- The values that stand as mentioned in one sense, with those first that were mentioned first. -/
def standing (sense : Bool) (mentions : List (Datum × Bool)) : List Datum :=
  mentions.foldl (fun values m => if m.2 = sense then PropertyChecker.including values m.1
    else PropertyChecker.without values m.1) []

def candidates (q : Demand) (convert : Bool) (w : Datum) : List Datum :=
  q.kind?.elim [] fun k => k.candidates convert w

/-- A datum is of the kind that a demand names, and is no empty text where that is not allowed. -/
def Suits (q : Demand) (x : Datum) : Prop :=
  ∃ k, q.kind? = some k ∧ k.isOf x = true ∧ (k = .string → x.content = "" → q.Asks .emptyOk)

/-- Null, allowed and denied values, and the kind, in this order; what has not been decided then is left to the rest. -/
def Passes (q : Demand) (convert : Bool) (w : Datum) (rest : Datum → Prop) : Prop :=
  if w.isNull then q.Asks .nullOk ∨ q.lastMention .null = some true
  else (∃ x ∈ q.candidates convert w, q.lastMention x = some true) ∨
    (∀ x ∈ q.candidates convert w, q.lastMention x ≠ some false) ∧ ¬ q.Asks .valid ∧
      ∃ x ∈ q.candidates convert w, q.Suits x ∧ rest x

/-- What is not null passes by the values that are mentioned, or else by its kind. -/
theorem passes_iff {q : Demand} {convert : Bool} {w : Datum} {rest : Datum → Prop} (hw : w.isNull = false) :
    q.Passes convert w rest ↔ (∃ x ∈ q.candidates convert w, q.lastMention x = some true) ∨
      (∀ x ∈ q.candidates convert w, q.lastMention x ≠ some false) ∧ ¬ q.Asks .valid ∧
        ∃ x ∈ q.candidates convert w, q.Suits x ∧ rest x := by
  unfold Passes
  rw [if_neg (Bool.eq_false_iff.1 hw)]

/-- A message has to be written with a denied value or with all allowed ones, or it is left to the rest to trip. -/
def Trips (q : Demand) (convert : Bool) (w : Datum) (rest : Datum → Prop) : Prop :=
  w.isNull = false ∧ (∀ x ∈ q.candidates convert w, q.lastMention x ≠ some true) ∧
    ((∃ x ∈ q.candidates convert w, q.lastMention x = some false) ∧ w.isTooLong = true ∨
      (∀ x ∈ q.candidates convert w, q.lastMention x ≠ some false) ∧
        (q.Asks .valid ∧ (Datum.list (standing true q.mentions)).isTooLong = true ∨
          ¬ q.Asks .valid ∧ ∃ x ∈ q.candidates convert w, q.Suits x ∧ rest x))

/-- The keys beside a value are those that have to be there, and none that must not. -/
def FitsBeside (q : Demand) (beside : Option Datum) : Prop :=
  ∀ p ∈ beside, ∀ c ∈ q.constraints, (q.method? c = some .withPeers → ∀ a ∈ c.args, p.HasKey a) ∧
    (q.method? c = some .withoutPeers → ∀ a ∈ c.args, ¬ p.HasKey a)

end Demand

/-- An entry of a mapping is declared, or need not be. -/
def TypeDef.Tolerates (t : TypeDef) (e : Key × Datum) : Prop :=
  (∃ p ∈ t.properties, e.1.text? = some p.1) ∨ t.leniency.allowExtraKeys = true ∨
    t.leniency.skipFunctions = true ∧ e.2.isFunction = true

/-- In order, one of some things is bad before any is good. -/
inductive BadFirst {α : Type} (good bad : α → Prop) : List α → Prop
  | here {x : α} {rest : List α} (h : bad x) : BadFirst good bad (x :: rest)
  | later {x : α} {rest : List α} (hx : ¬ good x) (hrest : BadFirst good bad rest) : BadFirst good bad (x :: rest)

/-- What is so of the demand that an argument describes. -/
def ArgumentIs (is : Demand → Prop) (a : Datum) : Prop := ∃ e, ElementDef.read a = .ok e ∧ is e.demand

section

variable (registry : TypeRef → Option TypeDef)

/-- What is so of the type that a reference leads to. -/
def ReferentIs (is : TypeDef → Prop) (args : List Datum) : Prop :=
  ∃ a ref t, args.head? = some a ∧ TypeRef.read a = .ok ref ∧ registry ref = some t ∧ is t

/-- What a method with some arguments asks of a datum `w` that counts as `x`: `element` says which items a demand accepts,
and `type` of which types the datum is. -/
def Method.Asks (m : Method) (args : List Datum) (w x : Datum) (element : (i : Datum) → i ∈ w.items → Demand → Prop)
    (type : TypeDef → Prop) : Prop :=
  match m with
  | .includes => ∀ i hi, ∃ a ∈ args, ArgumentIs (element i hi) a
  | .excludes => ∀ i hi, ∀ a ∈ args, ¬ ArgumentIs (element i hi) a
  | .reference => ReferentIs registry type args
  | m => m.Admits args x

/-- When a method with some arguments comes to no answer, given when it does not for items and for types. All elements are
tried where an array has to include some, and those up to the first that accepts where it excludes some. -/
def Method.Stalls (m : Method) (args : List Datum) (w : Datum)
    (element stumbles : (i : Datum) → i ∈ w.items → Demand → Prop) (type : TypeDef → Prop) : Prop :=
  match m with
  | .includes => ∃ i hi, ∃ a ∈ args, ArgumentIs (stumbles i hi) a
  | .excludes => ∃ i hi, BadFirst (ArgumentIs (element i hi)) (ArgumentIs (stumbles i hi)) args
  | .reference => ReferentIs registry type args
  | _ => False

/-! ## Conforming and stumbling -/

mutual
/-- A datum is of a type. -/
def TypeDef.Conforms (t : TypeDef) (d : Datum) : Prop :=
  ∃ es, d.entries? = some es ∧ (∀ e ∈ es, t.Tolerates e) ∧ ∀ p ∈ t.properties,
    match _h : d.get? p.1 with
    | none => ¬ p.2.demand.Asks .required
    | some w => p.2.demand.Accepts (!t.leniency.skipConversions) (some d) w
termination_by (sizeOf d, 0)
decreasing_by exact .left _ _ (Datum.sizeOf_get? ‹_›)
/-- A datum is what a property or an element asks for, beside others in a mapping if there is one. -/
def Demand.Accepts (q : Demand) (convert : Bool) (beside : Option Datum) (w : Datum) : Prop :=
  q.Passes convert w fun x =>
    q.FitsBeside beside ∧ (∀ c ∈ q.constraints, ∀ m, q.method? c = some m →
      m.Asks registry c.args w x (fun i _ e => e.Accepts convert none i) fun t => t.Conforms w) ∧
    ∀ t ∈ q.types, t.Conforms w
termination_by (sizeOf w, 1)
decreasing_by
  · exact .left _ _ (Datum.sizeOf_item ‹_›)
  · exact .right _ Nat.one_pos
  · exact .right _ Nat.one_pos
end

mutual
/-- Whether a datum is of a type is not answered. -/
def TypeDef.Stumbles (t : TypeDef) (d : Datum) : Prop :=
  ∃ p ∈ t.properties, ∃ w, ∃ _ : d.get? p.1 = some w, p.2.demand.Stumbles (!t.leniency.skipConversions) w
termination_by (sizeOf d, 0)
decreasing_by exact .left _ _ (Datum.sizeOf_get? ‹_›)
/-- Whether a datum is what a property or an element asks for is not answered. -/
def Demand.Stumbles (q : Demand) (convert : Bool) (w : Datum) : Prop :=
  q.Trips convert w fun _ =>
    (∃ c ∈ q.constraints, ∃ m, q.method? c = some m ∧ m.Stalls registry c.args w
      (fun i _ e => e.Accepts registry convert none i) (fun i _ e => e.Stumbles convert i) fun t => t.Stumbles w) ∨
    ∃ t ∈ q.types, t.Stumbles w
termination_by (sizeOf w, 1)
decreasing_by
  · exact .left _ _ (Datum.sizeOf_item ‹_›)
  · exact .right _ Nat.one_pos
  · exact .right _ Nat.one_pos
end

theorem TypeDef.conforms_iff {t : TypeDef} {d : Datum} :
    t.Conforms registry d ↔ ∃ es, d.entries? = some es ∧ (∀ e ∈ es, t.Tolerates e) ∧ ∀ p ∈ t.properties,
      (d.get? p.1 = none → ¬ p.2.demand.Asks .required) ∧
        ∀ w, d.get? p.1 = some w → p.2.demand.Accepts registry (!t.leniency.skipConversions) (some d) w := by
  rw [TypeDef.Conforms]
  refine exists_congr fun es => and_congr_right fun _ => and_congr_right fun _ => forall₂_congr fun p _ => ?_
  split
  · next hget =>
    rw [hget]
    exact ⟨fun h => ⟨fun _ => h, nofun⟩, fun h => h.1 rfl⟩
  · next w hget =>
    rw [hget]
    exact ⟨fun h => ⟨nofun, fun w' hw' => Option.some.inj hw' ▸ h⟩, fun h => h.2 w rfl⟩

theorem TypeDef.stumbles_iff {t : TypeDef} {d : Datum} :
    t.Stumbles registry d ↔ ∃ p ∈ t.properties, ∃ w, d.get? p.1 = some w ∧
      p.2.demand.Stumbles registry (!t.leniency.skipConversions) w := by
  rw [TypeDef.Stumbles]
  simp only [exists_prop]

/-- What a constraint of a method asks of a datum `w` that counts as `x`. -/
def Constraint.Holds (convert : Bool) (w x : Datum) (c : Constraint) (m : Method) : Prop :=
  m.Asks registry c.args w x (fun i _ e => e.Accepts registry convert none i) fun t => t.Conforms registry w

/-- A constraint of a method comes to no answer about a datum. -/
def Constraint.Stalls (convert : Bool) (w : Datum) (c : Constraint) (m : Method) : Prop :=
  m.Stalls registry c.args w (fun i _ e => e.Accepts registry convert none i) (fun i _ e => e.Stumbles registry convert i)
    fun t => t.Stumbles registry w

theorem Demand.accepts_iff {q : Demand} {convert : Bool} {beside : Option Datum} {w : Datum} :
    q.Accepts registry convert beside w ↔ q.Passes convert w fun x => q.FitsBeside beside ∧
      (∀ c ∈ q.constraints, ∀ m, q.method? c = some m → c.Holds registry convert w x m) ∧
      ∀ t ∈ q.types, t.Conforms registry w := by
  rw [Demand.Accepts]
  rfl

theorem Demand.stumbles_iff {q : Demand} {convert : Bool} {w : Datum} :
    q.Stumbles registry convert w ↔ q.Trips convert w fun _ =>
      (∃ c ∈ q.constraints, ∃ m, q.method? c = some m ∧ c.Stalls registry convert w m) ∨
      ∃ t ∈ q.types, t.Stumbles registry w := by
  rw [Demand.Stumbles]
  rfl

/-- The types that a definition leads to: itself, those given in place, and those that references name. -/
inductive TypeDef.Reaches (t : TypeDef) : TypeDef → Prop
  | refl : t.Reaches t
  | inside {u w : TypeDef} {p : String × PropertyDef} (reached : t.Reaches u) (property : p ∈ u.properties)
    (type : w ∈ p.2.demand.types) : t.Reaches w
  | named {u w : TypeDef} {ref : TypeRef} (reached : t.Reaches u) (reference : ref ∈ u.references)
    (found : registry ref = some w) : t.Reaches w

end

end ShapeCheck
