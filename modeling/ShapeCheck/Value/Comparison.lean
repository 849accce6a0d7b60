import ShapeCheck.Value.Datum

/-!
# Comparisons without an end

Two data are compared part by part, in order, up to the first two parts that differ. Where both contain themselves this may
lead back to two parts that are being compared already, and then it has no end: `Datum.runsOn`. `Nested.meets` follows a
comparison through all `back` nodes. Items and values that are one container are not looked into; which ones are is told by
the names that `back` nodes give to the containers around them.
-/

namespace ShapeCheck

namespace Datum

mutual
/-- The name of the container that stands so many levels above a datum, as the first `back` node inside tells it. -/
def nameAbove (level : Nat) : Datum → Option Nat
  | @back names _ _ => names[level]?
  | .list xs => nameAboveAll (level + 1) xs
  | .tuple xs => nameAboveAll (level + 1) xs
  | .mapping es => nameAboveEntries (level + 1) es
  | .readOnly es => nameAboveEntries (level + 1) es
  | _ => none
def nameAboveAll (level : Nat) : List Datum → Option Nat
  | [] => none
  | x :: xs => (x.nameAbove level).or (nameAboveAll level xs)
def nameAboveEntries (level : Nat) : List (Key × Datum) → Option Nat
  | [] => none
  | (_, d) :: rest => (d.nameAbove level).or (nameAboveEntries level rest)
end

/-- The name of a container that contains itself. -/
def name? : Datum → Option Nat
  | @back names _ level => names[level]?
  | .list xs => nameAboveAll 0 xs
  | .tuple xs => nameAboveAll 0 xs
  | .mapping es => nameAboveEntries 0 es
  | .readOnly es => nameAboveEntries 0 es
  | _ => none

mutual
/-- How many parts a datum has, those of the containers that its `back` nodes stand for included. -/
def extent : Datum → Nat
  | .scalar _ => 1
  | .list xs => extentOfAll xs + 1
  | .tuple xs => extentOfAll xs + 1
  | .set xs => extentOfAll xs + 1
  | .mapping es => extentOfEntries es + 1
  | .readOnly es => extentOfEntries es + 1
  | .structured .. => 1
  | @back _ trees _ => extentOfAll trees + 1
def extentOfAll : List Datum → Nat
  | [] => 0
  | x :: xs => x.extent + extentOfAll xs
def extentOfEntries : List (Key × Datum) → Nat
  | [] => 0
  | (_, d) :: rest => d.extent + extentOfEntries rest
end

end Datum

/-- A datum inside of others, with the containers around it, the nearest first. -/
structure Nested where
  datum : Datum
  around : List Datum

/-- How two parts are compared: the parts of theirs that are compared first, in order, and what holds if these are all equal. -/
structure Comparison where
  pairs : List (Nested × Nested)
  verdict : Bool

namespace Comparison

/-- The comparison of what is found piece by piece, up to what is missing. -/
def ofFound (found : List (Option (Nested × Nested))) : Comparison :=
  ⟨(found.takeWhile Option.isSome).filterMap id, found.all Option.isSome⟩

end Comparison

namespace Nested

/-- A part of a part. -/
def inside (p : Nested) (d : Datum) : Nested := ⟨d, p.datum :: p.around⟩

/-- The container that a `back` node stands for; anything else stands for itself. -/
def opened (p : Nested) : Nested :=
  match p.datum with
  | .back level =>
    match p.around.drop level with
    | d :: around => ⟨d, around⟩
    | [] => ⟨p.datum.target, []⟩
  | _ => p

/-- Whether two parts are one container. -/
def isSame (p q : Nested) : Bool := Datum.sameName p.datum.name? q.datum.name?

/-- Items side by side, as far as there are two. -/
def sideBySide (p q : Nested) (xs ys : List Datum) : List (Nested × Nested) :=
  (xs.zip ys).map fun (x, y) => (p.inside x, q.inside y)

/-- The entries of a mapping, each with what stands under its key in another one. -/
def againstEntries (p q : Nested) (es fs : List (Key × Datum)) : Comparison :=
  if es.length = fs.length then
    .ofFound (es.map fun (k, d) => (Entries.find? k fs).map fun e => (p.inside d, q.inside e))
  else ⟨[], false⟩

/-- How two parts are compared. Of two mappings the entries of the first one are gone through, unless the second one, and not
only the first one, is read-only. Keys, the members of sets and what was built before contain nothing that contains itself. -/
def against (p q : Nested) : Comparison :=
  match p.datum, q.datum with
  | .list xs, .list ys => if xs.length = ys.length then ⟨p.sideBySide q xs ys, true⟩ else ⟨[], false⟩
  | .tuple xs, .tuple ys => ⟨p.sideBySide q xs ys, xs.length = ys.length⟩
  | .mapping es, .mapping fs => p.againstEntries q es fs
  | .mapping es, .readOnly fs => q.againstEntries p fs es
  | .readOnly es, .mapping fs => p.againstEntries q es fs
  | .readOnly es, .readOnly fs => q.againstEntries p fs es
  | d, e => ⟨[], d.equals e⟩

/-- Whether two parts are equal, if that is found out with so much fuel. One container equals itself as an item or a value. -/
def meets : (fuel : Nat) → Nested → Nested → Option Bool
  | 0, _, _ => none
  | fuel + 1, p, q => do
    let comparison := p.opened.against q.opened
    let all ← comparison.pairs.allM fun (x, y) => if x.isSame y then some true else meets fuel x y
    return all && comparison.verdict

end Nested

/-- Whether comparing two data has no end. A comparison that goes deeper than there are pairs of parts comes to some pair
again. -/
def Datum.runsOn (d e : Datum) : Bool :=
  d.isKnotted && e.isKnotted && (Nested.meets (d.extent * e.extent + 1) ⟨d, []⟩ ⟨e, []⟩).isNone

end ShapeCheck
