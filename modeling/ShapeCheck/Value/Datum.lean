import ShapeCheck.Value.Fault
import ShapeCheck.Value.Scalar

/-!
# Data

A `Datum` is a value as a tree: lists, tuples, sets, mappings that keep the order of their entries, and read-only mappings.
A type that was built before may be part of one. A value that contains itself is a tree with `back` nodes, each standing for
one of the containers around it, `Datum.target`. `Datum.equals` is equality by meaning; a mapping equals a read-only mapping
with equal content, in any order, and a `back` node equals those that stand for the same container. `Datum.literal` shows a
datum inside a message.
-/

namespace ShapeCheck

/-- A type that was built before, by its place in the table of such types, or a property of one. -/
structure TypeHandle where
  name : Option String
  index : Nat
  /-- The properties of the type that have rules, which equal those of no other type. -/
  ruled : List String
  /-- The property that is meant, if not the type itself. -/
  part : Option String := none
deriving DecidableEq, Repr

namespace TypeHandle

/-- A property of a type that was built before. -/
def ofProperty (h : TypeHandle) (name : String) : TypeHandle := { h with part := some name }

/-- Whether there are rules in what was built before. -/
def hasRules (h : TypeHandle) : Bool :=
  match h.part with
  | none => !h.ruled.isEmpty
  | some name => h.ruled.contains name

end TypeHandle

/-- A value as a tree. -/
inductive Datum where
  | scalar (a : Scalar)
  | list (items : List Datum)
  | tuple (items : List Datum)
  | set (items : List Datum)
  | mapping (entries : List (Key × Datum))
  | readOnly (entries : List (Key × Datum))
  /-- Something with named parts of a sort: a type that was built before, a property of one, or another part. -/
  | structured (sort : String) (handle : Option TypeHandle) (parts : List (String × Datum))
  /-- The container that stands so many levels up, counted from zero for the nearest one. Where containers are told apart,
  the ones around have names, and where they are known, each is a tree of its own. Both lists have the nearest one first. -/
  | back {names : List Nat} {trees : List Datum} (level : Nat)

namespace Datum

instance : Inhabited Datum := ⟨.scalar .null⟩

def null : Datum := .scalar .null
def text (s : String) : Datum := .scalar (.text s)
def int (n : Int) : Datum := .scalar (.int n)
def bool (b : Bool) : Datum := .scalar (.bool b)

/-- A text that may be left out. -/
def textOrNull (s : Option String) : Datum := s.elim null text

/-- A mapping whose keys are texts. -/
def record (fields : List (String × Datum)) : Datum := .mapping (fields.map fun (k, d) => (Key.text k, d))

/-- The entries of a mapping of either sort. -/
def entries? : Datum → Option (List (Key × Datum))
  | .mapping es => some es
  | .readOnly es => some es
  | _ => none

/-- The items of a list or a tuple. -/
def items? : Datum → Option (List Datum)
  | .list xs => some xs
  | .tuple xs => some xs
  | _ => none

/-- The items of a list, a tuple or a set. -/
def members? : Datum → Option (List Datum)
  | .list xs => some xs
  | .tuple xs => some xs
  | .set xs => some xs
  | _ => none

def text? : Datum → Option String
  | .scalar (.text s) => some s
  | _ => none

def isNull : Datum → Bool
  | .scalar .null => true
  | _ => false

def isScalar : Datum → Bool
  | .scalar _ => true
  | _ => false

def isBool : Datum → Bool
  | .scalar a => a.isBool
  | _ => false

/-- The container that a `back` node stands for, where its tree is known; anything else stands for itself. -/
def target : Datum → Datum
  | @back names trees level => trees[level]?.getD (@back names trees level)
  | d => d

/-- Whether a datum is a `back` node that does not know what it stands for. -/
def isTurn (d : Datum) : Bool :=
  match d.target with
  | .back _ => true
  | _ => false

mutual
/-- Whether some container inside a datum, or the datum itself, contains itself. What was built before counts as a whole. -/
def isKnotted : Datum → Bool
  | .scalar _ => false
  | .list xs => anyKnotted xs
  | .tuple xs => anyKnotted xs
  | .set xs => anyKnotted xs
  | .mapping es => anyEntryKnotted es
  | .readOnly es => anyEntryKnotted es
  | .structured .. => false
  | .back _ => true
def anyKnotted : List Datum → Bool
  | [] => false
  | x :: xs => x.isKnotted || anyKnotted xs
def anyEntryKnotted : List (Key × Datum) → Bool
  | [] => false
  | (_, d) :: rest => d.isKnotted || anyEntryKnotted rest
end

end Datum

mutual
/-- A key as a value of its own. -/
def Key.datum : Key → Datum
  | .scalar a => .scalar a
  | .tuple ks => .tuple (Key.datumItems ks)
def Key.datumItems : List Key → List Datum
  | [] => []
  | k :: ks => k.datum :: Key.datumItems ks
end

namespace Entries

/-- What stands under a key. -/
def find? {α : Type} (k : Key) : List (Key × α) → Option α
  | [] => none
  | (k', v) :: rest => if k'.same k then some v else find? k rest

/-- What stands under a text. -/
def get? {α : Type} (name : String) (es : List (Key × α)) : Option α := find? (.text name) es

def has {α : Type} (name : String) (es : List (Key × α)) : Bool := (get? name es).isSome

/-- Puts a value under a key: in the place of the old one, or at the end. -/
def put {α : Type} (k : Key) (v : α) : List (Key × α) → List (Key × α)
  | [] => [(k, v)]
  | (k', w) :: rest => if k'.same k then (k', v) :: rest else (k', w) :: put k v rest

/-- The entries without the first one under a key. -/
def erase {α : Type} (k : Key) : List (Key × α) → List (Key × α)
  | [] => []
  | (k', w) :: rest => if k'.same k then rest else (k', w) :: erase k rest

/-- The entries put one after the other into an empty mapping. -/
def ofList {α : Type} (es : List (Key × α)) : List (Key × α) :=
  es.foldl (fun acc (k, v) => put k v acc) []

end Entries

namespace Datum

/-- Whether two things are one type, or one property of a type. -/
def sameHandle : Option TypeHandle → Option TypeHandle → Bool
  | some h, some i => h.index == i.index && h.part == i.part
  | _, _ => false

/-- Whether two containers, each given by its name where it has one, are one container. -/
def sameName : Option Nat → Option Nat → Bool
  | some a, some b => a == b
  | _, _ => false

/-- Whether something is a type or a property with rules. -/
def hasRules (h : Option TypeHandle) : Bool := (h.map TypeHandle.hasRules).getD false

mutual
/-- Equality by meaning. -/
def equals : Datum → Datum → Bool
  | .scalar a, .scalar b => a.equals b
  | .list xs, .list ys => equalItems xs ys
  | .tuple xs, .tuple ys => equalItems xs ys
  | .set xs, .set ys => xs.length == ys.length && equalMembers xs ys
  | .structured s h ps, .structured t i qs =>
    s == t && (sameHandle h i || (!hasRules h && !hasRules i && equalParts ps qs))
  | .mapping es, .mapping fs => es.length == fs.length && equalEntries es fs
  | .mapping es, .readOnly fs => es.length == fs.length && equalEntries es fs
  | .readOnly es, .mapping fs => es.length == fs.length && equalEntries es fs
  | .readOnly es, .readOnly fs => es.length == fs.length && equalEntries es fs
  | @back names _ i, @back others _ j => sameName names[i]? others[j]?
  | _, _ => false
def equalItems : List Datum → List Datum → Bool
  | [], [] => true
  | x :: xs, y :: ys => x.equals y && equalItems xs ys
  | _, _ => false
def equalMembers : List Datum → List Datum → Bool
  | [], _ => true
  | x :: xs, ys => ys.any (x.equals ·) && equalMembers xs ys
def equalParts : List (String × Datum) → List (String × Datum) → Bool
  | [], [] => true
  | (a, x) :: xs, (b, y) :: ys => a == b && x.equals y && equalParts xs ys
  | _, _ => false
def equalEntries : List (Key × Datum) → List (Key × Datum) → Bool
  | [], _ => true
  | (k, d) :: rest, fs =>
    (match Entries.find? k fs with
      | some e => d.equals e
      | none => false) && equalEntries rest fs
end

/-- Equality that also tells a truth value from a number. -/
def same (a b : Datum) : Bool := a.isBool == b.isBool && a.equals b

mutual
/-- A datum inside a message. The outlines of the containers around it, the nearest first, stand for `back`. -/
def literalIn (around : List String) : Datum → String
  | .scalar a => a.literal
  | .list xs => "[" ++ ", ".intercalate (literalItems ("[...]" :: around) xs) ++ "]"
  | .tuple xs =>
    match literalItems ("(...)" :: around) xs with
    | [x] => "(" ++ x ++ ",)"
    | shown => "(" ++ ", ".intercalate shown ++ ")"
  | .set [] => "set()"
  | .set (x :: xs) => "\x7b" ++ ", ".intercalate (literalItems ("\x7b...\x7d" :: around) (x :: xs)) ++ "\x7d"
  | .mapping es => "\x7b" ++ ", ".intercalate (literalEntries ("\x7b...\x7d" :: around) es) ++ "\x7d"
  | .readOnly es =>
    "mappingproxy(\x7b" ++ ", ".intercalate (literalEntries ("mappingproxy(\x7b...\x7d)" :: around) es) ++ "\x7d)"
  | .structured sort _ parts => sort ++ "(" ++ ", ".intercalate (literalParts ("..." :: around) parts) ++ ")"
  | .back level => around.getD level "..."
def literalParts (around : List String) : List (String × Datum) → List String
  | [] => []
  | (name, d) :: rest => (name ++ "=" ++ d.literalIn around) :: literalParts around rest
def literalItems (around : List String) : List Datum → List String
  | [] => []
  | x :: xs => x.literalIn around :: literalItems around xs
def literalEntries (around : List String) : List (Key × Datum) → List String
  | [] => []
  | (k, d) :: rest => (k.literal ++ ": " ++ d.literalIn around) :: literalEntries around rest
end

/-- A datum inside a message. -/
def literal (d : Datum) : String := d.literalIn []

/-- A datum as a text of its own. -/
def plain : Datum → String
  | .scalar a => a.plain
  | .readOnly es => (Datum.mapping es).literal
  | .structured _ _ parts => " ".intercalate (literalParts [] parts)
  | d => d.literal

mutual
/-- Whether a datum holds an integer with too many digits to be written. -/
def isTooLong : Datum → Bool
  | .scalar a => a.isTooLong
  | .list xs => anyTooLong xs
  | .tuple xs => anyTooLong xs
  | .set xs => anyTooLong xs
  | .mapping es => anyEntryTooLong es
  | .readOnly es => anyEntryTooLong es
  | .structured _ _ parts => anyPartTooLong parts
  | .back _ => false
def anyTooLong : List Datum → Bool
  | [] => false
  | x :: xs => x.isTooLong || anyTooLong xs
def anyEntryTooLong : List (Key × Datum) → Bool
  | [] => false
  | (k, d) :: rest => k.isTooLong || d.isTooLong || anyEntryTooLong rest
def anyPartTooLong : List (String × Datum) → Bool
  | [] => false
  | (_, d) :: rest => d.isTooLong || anyPartTooLong rest
end

/-- The text that `write` gives for a datum, unless the datum cannot be written. -/
def written (write : Datum → String) (d : Datum) : Except Fault String :=
  if d.isTooLong then .error .integerTooLong else .ok (write d)

/-- The name of the sort of a datum with the family that it belongs to. -/
def sortName : Datum → String
  | .scalar a => a.fullSortName
  | .list _ => "list"
  | .tuple _ => "tuple"
  | .set _ => "set"
  | .mapping _ => "dict"
  | .readOnly _ => "mappingproxy"
  | .structured sort _ _ => sort
  | .back _ => "dict"

/-- Whether a datum counts as true: it is neither empty nor zero. -/
def isTruthy : Datum → Bool
  | .scalar a => a.isTruthy
  | .list xs => !xs.isEmpty
  | .tuple xs => !xs.isEmpty
  | .set xs => !xs.isEmpty
  | .mapping es => !es.isEmpty
  | .readOnly es => !es.isEmpty
  | .structured .. => true
  | .back _ => true

mutual
/-- A datum as a key. -/
def key : Datum → Except Fault Key
  | .scalar a => .ok (.scalar a)
  | .tuple xs => do return .tuple (← keys xs)
  | .structured .. => .error (.unhashable "dict")
  | d => .error (.unhashable d.sortName)
def keys : List Datum → Except Fault (List Key)
  | [] => .ok []
  | x :: xs => do
    let k ← x.key
    return k :: (← keys xs)
end

/-- The items of a datum that has a number of them: texts are of characters, and mappings of keys. -/
def counted? : Datum → Option (List Datum)
  | .scalar (.text s) => some ((Text.points s).map fun p => .text (Text.ofPoints [p]))
  | .scalar (.bytes bs) => some (bs.map fun b => .int b.toNat)
  | .list xs => some xs
  | .tuple xs => some xs
  | .set xs => some xs
  | .mapping es => some (es.map fun e => e.1.datum)
  | .readOnly es => some (es.map fun e => e.1.datum)
  | _ => none

/-- The items of a datum that has some; those of something with named parts are its parts, each with its name. -/
def iterated? : Datum → Option (List Datum)
  | .scalar (.reference r) =>
    some ([("namespace", r.namespaceName), ("version", r.version), ("type_name", r.name)].map fun (name, s) =>
      .tuple [.text name, .text s])
  | .structured _ _ parts => some (parts.map fun (name, d) => .tuple [.text name, d])
  | d => d.counted?

/-- Whether characters are part of others. -/
def isPart (part : List Char) : List Char → Bool
  | [] => part.isEmpty
  | c :: cs => part.isPrefixOf (c :: cs) || isPart part cs

/-- Whether a datum that is no mapping holds another one: as a part of a text, or as an item. -/
def holds (d x : Datum) : Except Fault Bool :=
  match d with
  | .scalar (.text s) => x.text?.elim (.error (.noPartOfText x.sortName)) fun t => .ok (isPart t.toList s.toList)
  | d => d.iterated?.elim (.error (.unsearchable d.sortName)) fun xs => .ok (xs.any (·.equals x))

/-- Pairs from an index on as entries, put into others. -/
def pairEntries (i : Nat) (es : List (Key × Datum)) : List Datum → Except Fault (List (Key × Datum))
  | [] => .ok es
  | x :: xs =>
    match x.iterated? with
    | none => .error (.notSequence i)
    | some [k, v] => do pairEntries (i + 1) (Entries.put (← k.key) v es) xs
    | some ys => .error (.notPair i ys.length)

/-- The entries of a mapping that is made of a datum: another mapping, or pairs. -/
def asEntries (d : Datum) : Except Fault (List (Key × Datum)) :=
  match d.entries?, d.iterated? with
  | some es, _ => .ok es
  | none, some xs => pairEntries 0 [] xs
  | none, none => .error (.notIterable d.sortName)

end Datum

end ShapeCheck
