import ShapeCheck.Calendar.Iso
import ShapeCheck.Checker.Basic
import ShapeCheck.Pattern.Search
import ShapeCheck.Text.Form
import ShapeCheck.Validation.Conversion

/-!
# Collecting violations

`TypeChecker.collect` runs the checkers of a type on a value and collects all violations, `PropertyChecker.collect` does
so for one property or element and also gives the value that the checked one counts as, and `Rule.run` is one rule. How a
reference is followed is an argument, `Follow`, so these functions recurse on the checkers alone.
-/

namespace ShapeCheck

/-- Violations whose values may still change. -/
abbrev Findings := List (Violation Value)

/-- How to follow a reference for a value. -/
abbrev Follow := Context → Path → TypeRef → Value → Check Findings

/-- A violation of one constraint of a value. -/
def finding (path : Path) (code : Code) (constraint message : String) (v : Value) : Violation Value :=
  { path := path, message := message, code := code, value := v, constraint := some constraint }

/-- The outcome of a test that needs nothing but the value. -/
def judged (passes : Bool) (path : Path) (method message : String) (v : Value) : Findings :=
  if passes then [] else [finding path .constraint method message v]

/-- The length of a text, a list or a tuple. -/
def lengthOf (σ : Store) : Value → Nat
  | .scalar (.text s) => Text.size s
  | v => ((σ.items? v).getD []).length

/-- The text of a value that is one. -/
def textOf : Value → String
  | .scalar (.text s) => s
  | _ => ""

/-- The number of a value that is one. -/
def numberOf : Value → Number
  | .scalar (.number n) => n
  | _ => .int 0

/-- A limit as a number, where it counts as one. -/
def limitNumber? : Datum → Option Number
  | .scalar a => a.number?
  | _ => none

/-- A number and a limit have no order. A read-only mapping is asked first, as the mapping that it shows. -/
def unorderedLimit (sign mirrored : String) (n : Number) : Datum → Fault
  | .readOnly _ => .unordered mirrored "dict" (Scalar.number n).sortName
  | limit => .unordered sign (Scalar.number n).sortName limit.sortName

/-- Whether a limit is at most a number; only numbers have an order. -/
def limitAtMost (limit : Datum) (n : Number) : Except Fault Bool :=
  match limitNumber? limit with
  | some m => .ok (m.atMost n)
  | none => .error (unorderedLimit ">=" "<=" n limit)

/-- Whether a number is at most a limit. -/
def atMostLimit (n : Number) (limit : Datum) : Except Fault Bool :=
  match limitNumber? limit with
  | some m => .ok (n.atMost m)
  | none => .error (unorderedLimit "<=" ">=" n limit)

namespace LengthBound

def allows (b : LengthBound) (limit : Datum) (n : Nat) : Except Fault Bool :=
  match b with
  | .atLeast => limitAtMost limit (.int n)
  | .atMost => atMostLimit (.int n) limit
  | .exactly => .ok (limit.equals (.int n))

def message (b : LengthBound) (unit : LengthUnit) (limit : Datum) : String :=
  match b with
  | .atLeast => "length must be at least " ++ limit.plain ++ " " ++ unit.text
  | .atMost => "length must be at most " ++ limit.plain ++ " " ++ unit.text
  | .exactly => "length must be " ++ limit.plain ++ " " ++ unit.text

end LengthBound

/-- What is found about an item that passes none of several checkers: all violations if there is one checker, and
otherwise the first violation of each in one. -/
def noMatch (path : Path) (item : Value) : List Findings → Findings
  | [found] => found
  | attempts =>
    let reasons := attempts.flatMap fun found => (found.take 1).map Violation.message
    [finding path .includes "includes"
      ("does not match any allowed element type (" ++ "; ".intercalate reasons ++ ")") item]

/-- Runs a check on each item of an array. -/
def eachItem (path : Path) (check : Path → Value → Check Findings) : Nat → List Value → Check Findings
  | _, [] => return []
  | i, item :: rest => do
    let found ← check (path.index i) item
    return found ++ (← eachItem path check (i + 1) rest)

def isFunction : Value → Bool
  | .scalar (.function _) => true
  | _ => false

/-- Whether an entry of a mapping is not declared. Functions may be skipped. -/
def isStray (leniency : Leniency) (names : List String) (entry : Key × Value) : Bool :=
  !((entry.1.text?.map names.contains).getD false) && !(leniency.skipFunctions && isFunction entry.2)

/-- What is found about the keys that are not declared, where they stay. -/
def strayFindings (leniency : Leniency) (names : List String) (path : Path) (es : List (Key × Value)) :
    Except Fault Findings :=
  let stray := es.filter (isStray leniency names)
  if leniency.allowExtraKeys then .ok []
  else if stray.any fun e => e.1.isTooLong then .error .integerTooLong
  else .ok (stray.map fun (k, w) => finding (path.key k.plain) .extraKey "allowExtraKeys" "is not allowed" w)

/-- What is found about the keys that are not declared. Where they are stripped they are taken out instead. -/
def strays (leniency : Leniency) (names : List String) (path : Path) (v : Value) : Check Findings := do
  let σ ← Check.store
  let es := (σ.entries? v).getD []
  match leniency.stripExtraKeys, v, σ.cell? v with
  | true, .container a, some (.mapping _) =>
    Check.write a (.mapping (es.filter fun e => !isStray leniency names e))
    return []
  | _, _, _ => Check.ofExcept (strayFindings leniency names path es)

/-- Saves what a value under a key counts as, where that is asked for. -/
def saveConversion (leniency : Leniency) (v : Value) (name : String) (converted : Value) : Check Unit := do
  if leniency.saveConversions && !leniency.skipConversions then
    match v, (← Check.store).cell? v with
    | .container a, some (.mapping es) =>
      match Entries.get? name es with
      | none => throw (.missingKey name)
      | some current => if current ≠ converted then Check.write a (.mapping (Entries.put (.text name) converted es))
    | _, _ => pure ()

/-- Whether a value holds a datum: under a key, if it is a mapping. -/
def Store.holds (σ : Store) (v : Value) (d : Datum) : Except Fault Bool :=
  match σ.entries? v with
  | some es => do return (Entries.find? (← d.key) es).isSome
  | none => (σ.datum v).holds d

/-- Those of some data that a value holds, or those that it does not, each as a message shows it. -/
def peersShown (σ : Store) (parent : Value) (standing : Bool) : List Datum → Except Fault (List String)
  | [] => .ok []
  | peer :: rest => do
    let shown ← if (← σ.holds parent peer) = standing then (peer.written Datum.literal).map ([·]) else .ok []
    return shown ++ (← peersShown σ parent standing rest)

/-- What is found about the keys beside a value. -/
def peerFindings (c : PropertyChecker) (path : Path) (σ : Store) (parent : Option Value) (v : Value) :
    Except Fault Findings := do
  match parent with
  | none => return []
  | some p =>
    let absent ← peersShown σ p false c.peersWith
    let present ← peersShown σ p true c.peersWithout
    return absent.map (fun s => finding path .withPeer "with" ("requires peer " ++ s) v) ++
      present.map (fun s => finding path .withoutPeer "without" ("conflicts with peer " ++ s) v)

/-- Whether one of some data is the same as a value. A container is read as a tree only for data that are no scalars. -/
def Store.isAmong (σ : Store) (data : List Datum) (v : Value) : Bool :=
  data.any fun d => d.isScalar == v.isScalar && d.same (σ.datum v)

/-- Whether looking for a value among some data has no end. No container of the data is part of the value. -/
def Store.seeksOn (σ : Store) (data : List Datum) (v : Value) : Bool :=
  data.any Datum.isKnotted && PropertyChecker.seeksOn data (σ.datum v)

/-- Whether comparing a value with the allowed and the denied data of a checker has no end. A value that contains itself is
never converted, so it is compared as it stands. -/
def PropertyChecker.comparesOn (c : PropertyChecker) (σ : Store) (v : Value) : Bool :=
  σ.seeksOn c.allowed v || (!σ.isAmong c.allowed v && σ.seeksOn c.denied v)

/-- What is decided about a value before the rules run: what is found and what the value counts as. Without a decision
the converted value goes on to the rules. -/
inductive Early where
  | done (found : Findings) (converted : Value)
  | goOn (converted : Value)

/-- A value as it stands and, where that is another one, the value that it counts as. -/
def readings (v converted : Value) : List Value := if converted = v then [v] else [v, converted]

/-- Presence, null, allowed and denied values, the kind, and emptiness, in this order. -/
def PropertyChecker.early (c : PropertyChecker) (convert : Bool) (path : Path) (present : Bool) (σ : Store)
    (v : Value) : Except Fault Early := do
  if !present then
    return .done (if c.required then [finding path .required "required" "is required" default] else []) v
  if v = .scalar .null then
    return .done (if c.nullOk || holds c.allowed .null then []
      else [finding path .null "nullOk" "must not be null" default]) v
  let counted ← c.kind.convert convert σ v
  let converted := counted.getD v
  if c.comparesOn σ v then throw .endless
  if (readings v converted).any (σ.isAmong c.allowed) then return .done [] converted
  if (readings v converted).any (σ.isAmong c.denied) then
    let shown ← (σ.datum v).written Datum.literal
    return .done [finding path .denied "deny" ("value " ++ shown ++ " is not allowed") v] v
  if c.onlyValid then
    let shown ← (Datum.list c.allowed).written Datum.literal
    return .done [finding path .notValid "valid" ("must be one of " ++ shown) v] v
  match counted with
  | none => return .done [finding path .kind c.kind.name ("must be of type " ++ c.kind.name) v] v
  | some w =>
    if c.kind = .string && w = .scalar (.text "") && !c.emptyOk then
      return .done [finding path .empty "emptyOk" "must not be empty" v] v
    return .goOn w

mutual
/-- One rule on a value of the right kind. -/
def Rule.run (follow : Follow) (ctx : Context) (path : Path) : Rule → Value → Check Findings
  | .length bound unit limit, v => do
    let n := lengthOf (← Check.store) v
    let allowed ← Check.ofExcept (bound.allows limit n)
    return judged allowed path (Rule.length bound unit limit).method (bound.message unit limit) v
  | .pattern source program, v => do
    let message := "must match pattern " ++ Text.quoted source
    match program.search (textOf v) with
    | .found => return []
    | .missing => return judged false path "regex" message v
  | .alphanumeric spaces, v =>
    return judged (Text.isAlphanumeric spaces (textOf v)) path "alphanum" "must only contain alpha-numeric characters" v
  | .email, v => return judged (Text.isEmail (textOf v)) path "email" "must be a valid email" v
  | .date, v => return judged (Moment.ofIso? (textOf v)).isSome path "date" "must be a valid ISO 8601 date" v
  | .whole, v => return judged (numberOf v).isWhole path "integer" "must be an integer" v
  | .fraction, v => return judged (!(numberOf v).isWhole) path "float" "must be a float" v
  | .atLeast limit, v => do
    let allowed ← Check.ofExcept (limitAtMost limit (numberOf v))
    return judged allowed path "min" ("must be greater than or equal to " ++ limit.plain) v
  | .atMost limit, v => do
    let allowed ← Check.ofExcept (atMostLimit (numberOf v) limit)
    return judged allowed path "max" ("must be less than or equal to " ++ limit.plain) v
  | .includes elements, v => do
    let items := ((← Check.store).items? v).getD []
    eachItem path (fun p item => do
      let attempts ← PropertyChecker.attempts follow ctx p elements item
      return if attempts.any List.isEmpty then [] else noMatch p item attempts) 0 items
  | .excludes elements, v => do
    let items := ((← Check.store).items? v).getD []
    eachItem path (fun p item => do
      let matched ← PropertyChecker.someAccepts follow ctx p elements item
      return if matched then [finding p .excludes "excludes" "matches an excluded element type" item] else []) 0 items
  | .reference ref, v => follow ctx path ref v
  | .inlineType t, v => TypeChecker.collect follow ctx path t v
/-- Rules in order. -/
def Rule.runAll (follow : Follow) (ctx : Context) (path : Path) : List Rule → Value → Check Findings
  | [], _ => return []
  | r :: rest, v => do
    let found ← r.run follow ctx path v
    return found ++ (← Rule.runAll follow ctx path rest v)
/-- What is found about a value that may be missing, beside others in a mapping that is its parent, and what the value
counts as. -/
def PropertyChecker.collect (follow : Follow) (ctx : Context) (path : Path) (present : Bool) (parent : Option Value) :
    PropertyChecker → Value → Check (Findings × Value)
  | c@⟨_, _, _, _, _, _, _, _, _, rules⟩, v => do
    match ← Check.ofExcept (c.early ctx.convert path present (← Check.store) v) with
    | .done found converted => return (found, converted)
    | .goOn converted =>
      let peers ← Check.ofExcept (peerFindings c path (← Check.store) parent v)
      return (peers ++ (← Rule.runAll follow ctx path rules converted), converted)
/-- What each of several checkers finds about an item. -/
def PropertyChecker.attempts (follow : Follow) (ctx : Context) (path : Path) :
    List PropertyChecker → Value → Check (List Findings)
  | [], _ => return []
  | c :: rest, v => do
    let (found, _) ← c.collect follow ctx path true none v
    return found :: (← PropertyChecker.attempts follow ctx path rest v)
/-- Whether one of several checkers finds nothing about an item; those after it do not run. -/
def PropertyChecker.someAccepts (follow : Follow) (ctx : Context) (path : Path) :
    List PropertyChecker → Value → Check Bool
  | [], _ => return false
  | c :: rest, v => do
    let (found, _) ← c.collect follow ctx path true none v
    if found.isEmpty then return true else PropertyChecker.someAccepts follow ctx path rest v
/-- What is found about a value that should be a mapping of a type. -/
def TypeChecker.collect (follow : Follow) (ctx : Context) (path : Path) : TypeChecker → Value → Check Findings
  | ⟨properties, leniency⟩, v => do
    if ((← Check.store).entries? v).isNone then
      return [finding path .kind Kind.object.name "must be an object" v]
    let extra ← strays leniency (properties.map Prod.fst) path v
    let ctx := { ctx with convert := !leniency.skipConversions }
    return extra ++ (← PropertyChecker.collectFields follow ctx path leniency v properties)
/-- What is found about the declared keys of a mapping. -/
def PropertyChecker.collectFields (follow : Follow) (ctx : Context) (path : Path) (leniency : Leniency) (v : Value) :
    List (String × PropertyChecker) → Check Findings
  | [] => return []
  | (name, c) :: rest => do
    let current := ((← Check.store).entries? v).bind (Entries.get? name)
    let (found, converted) ← c.collect follow ctx (path.key name) current.isSome (some v) (current.getD default)
    if current.isSome && found.isEmpty then saveConversion leniency v name converted
    return found ++ (← PropertyChecker.collectFields follow ctx path leniency v rest)
end

end ShapeCheck
