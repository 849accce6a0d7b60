import ShapeCheck.Pattern.Basic

/-!
# Syntax of patterns

A pattern is a sequence of `Item`s, which hold sequences of their own. What an item asks for may depend on the flags in
force, which are known only once the whole pattern is read: `Flags` are those in force at a place, and `FlagNames` those
named in a group. `Item.width` bounds the number of characters that an item matches.
-/

namespace ShapeCheck.Pattern

/-! ## Flags -/

/-- The flags in force at some place. -/
structure Flags where
  ignoreCase : Bool := false
  lines : Bool := false
  dotAll : Bool := false
  verbose : Bool := false
  ascii : Bool := false
deriving DecidableEq, Repr

/-- The flags named between `(?` and `:` or `)`. -/
structure FlagNames where
  ignoreCase : Bool := false
  lines : Bool := false
  dotAll : Bool := false
  verbose : Bool := false
  ascii : Bool := false
  unicode : Bool := false
  template : Bool := false
deriving DecidableEq, Repr

namespace FlagNames

def add? (f : FlagNames) : Char → Option FlagNames
  | 'i' => some { f with ignoreCase := true }
  | 'm' => some { f with lines := true }
  | 's' => some { f with dotAll := true }
  | 'x' => some { f with verbose := true }
  | 'a' => some { f with ascii := true }
  | 'u' => some { f with unicode := true }
  | 't' => some { f with template := true }
  | _ => none

/-- Whether some flag that a group may clear is named twice. -/
def overlaps (f g : FlagNames) : Bool :=
  f.ignoreCase && g.ignoreCase || f.lines && g.lines || f.dotAll && g.dotAll || f.verbose && g.verbose

/-- The flags named here or there. -/
def union (f g : FlagNames) : FlagNames where
  ignoreCase := f.ignoreCase || g.ignoreCase
  lines := f.lines || g.lines
  dotAll := f.dotAll || g.dotAll
  verbose := f.verbose || g.verbose
  ascii := f.ascii || g.ascii
  unicode := f.unicode || g.unicode
  template := f.template || g.template

/-- The flags in force where these are named for the whole pattern. -/
def inForce (f : FlagNames) : Flags where
  ignoreCase := f.ignoreCase
  lines := f.lines
  dotAll := f.dotAll
  verbose := f.verbose
  ascii := f.ascii

end FlagNames

namespace Flags

def caseRule (f : Flags) : CaseRule :=
  if f.ignoreCase then if f.ascii then .ascii else .unicode else .exact

/-- The flags inside a group that sets some and clears some. -/
def within (f : Flags) (on off : FlagNames) : Flags where
  ignoreCase := (f.ignoreCase || on.ignoreCase) && !off.ignoreCase
  lines := (f.lines || on.lines) && !off.lines
  dotAll := (f.dotAll || on.dotAll) && !off.dotAll
  verbose := (f.verbose || on.verbose) && !off.verbose
  ascii := if on.ascii then true else if on.unicode then false else f.ascii

end Flags

/-! ## Items -/

/-- A place between two characters, as it is written. -/
inductive Edge where
  | start
  | finish
  | textStart
  | textEnd
  | word
  | notWord
deriving DecidableEq, Repr

inductive Item where
  | literal (code : Nat)
  | notLiteral (code : Nat)
  | any
  | set (negated : Bool) (items : List SetItem)
  | at (edge : Edge)
  | branch (branches : List (List Item))
  | repeats (greed : Greed) (least : Nat) (most : Option Nat) (body : List Item)
  /-- A group, which captures if it has a number. -/
  | group (index : Option Nat) (on off : FlagNames) (body : List Item)
  | atomic (body : List Item)
  | look (behind negated : Bool) (body : List Item)
  /-- What a group has matched. -/
  | again (index : Nat)
  /-- One of two sequences, as a group has matched or not. -/
  | ifGroup (index : Nat) (yes no : List Item)

namespace Item

/-- Whether two items that hold no sequences are the same. Items with sequences are never taken for the same. -/
def sameLeaf : Item → Item → Bool
  | .literal c, .literal d => c == d
  | .notLiteral c, .notLiteral d => c == d
  | .any, .any => true
  | .set n xs, .set m ys => n == m && xs == ys
  | .at e, .at f => e == f
  | .again i, .again j => i == j
  | _, _ => false

/-- The sequence in a group that neither captures nor changes flags. -/
def plainBody? : Item → Option (List Item)
  | .group none on off body => if on = {} && off = {} then some body else none
  | _ => none

/-- The items of a set that may take the place of a sequence. -/
def setItems? : List Item → Option (List SetItem)
  | [.literal c] => some [.code c]
  | [.set false items] => some items
  | _ => none

end Item

/-- A sequence with its plain groups opened. -/
def opened (items : List Item) : List Item := items.flatMap fun i => i.plainBody?.getD [i]

/-- The leaves that all branches begin with, and what is left of the branches. -/
def factored (first : List Item) (others : List (List Item)) : List Item × List (List Item) :=
  match first with
  | [] => ([], [] :: others)
  | i :: rest =>
    if others.all fun b => (b.head?.map i.sameLeaf).getD false then
      let (common, left) := factored rest (others.map List.tail)
      (i :: common, left)
    else ([], first :: others)

/-- The sequence that stands for several branches. What they begin with comes first, and a set takes the place of branches
of one character each. -/
def alternation (first : List Item) (others : List (List Item)) : List Item :=
  match others with
  | [] => first
  | _ =>
    let (common, left) := factored first others
    match left.mapM Item.setItems? with
    | some sets => common ++ [.set false sets.flatten.eraseDups]
    | none => common ++ [.branch left]

/-! ## Widths -/

/-- Bounds of a repetition are below this number. -/
def repeatLimit : Nat := 4294967295

/-- The least and the largest number of characters that something matches. -/
structure Width where
  least : Nat
  most : Nat
deriving DecidableEq, Repr

namespace Width

def none : Width := ⟨0, 0⟩

def one : Width := ⟨1, 1⟩

/-- Counts are kept within bounds that tell a width without limit from others. -/
def capped (w : Width) : Width := ⟨min w.least (repeatLimit - 1), min w.most repeatLimit⟩

def plus (v w : Width) : Width := capped ⟨v.least + w.least, v.most + w.most⟩

def either (v w : Width) : Width := ⟨min v.least w.least, max v.most w.most⟩

/-- The width of a repetition. -/
def times (w : Width) (least : Nat) (most : Option Nat) : Width :=
  ⟨w.least * least, w.most * most.getD repeatLimit⟩

end Width

mutual
/-- The width of an item, given those of the groups. -/
def Item.width (groups : Nat → Width) : Item → Width
  | .literal _ | .notLiteral _ | .any | .set .. => .one
  | .at _ | .look .. => .none
  | .branch branches => branchesWidth groups branches
  | .repeats _ least most body => (sequenceWidth groups body).times least most
  | .group _ _ _ body | .atomic body => sequenceWidth groups body
  | .again i => groups i
  | .ifGroup _ yes no => (sequenceWidth groups yes).either (sequenceWidth groups no)
def sequenceWidth (groups : Nat → Width) : List Item → Width
  | [] => .none
  | i :: rest => (i.width groups).plus (sequenceWidth groups rest)
def branchesWidth (groups : Nat → Width) : List (List Item) → Width
  | [] => .none
  | [b] => sequenceWidth groups b
  | b :: rest => (sequenceWidth groups b).either (branchesWidth groups rest)
end

end ShapeCheck.Pattern
