import ShapeCheck.Value.Store
import ShapeCheck.Violation

/-!
# Runs

A validation reads a candidate in a `Store`, may change it, and follows references. A `Run` is what it has done so far:
the store as it is now, and a `RunEvent` for each reference that was met and for each one whose following has ended. The
`Context` says what holds at one place of the run: how many references are being followed, and which ones for which values.
-/

namespace ShapeCheck

/-- References with values are compared lawfully. -/
instance : LawfulBEq (TypeRef × Value) := inferInstance

/-- What holds at a place of a run. -/
structure Context where
  maxDepth : Int
  /-- Whether texts may stand for numbers and truth values. -/
  convert : Bool := true
  /-- How many references are being followed. -/
  depth : Nat := 0
  /-- The references that are being followed, each with the value that it is followed for. -/
  inFlight : List (TypeRef × Value) := []

namespace Context

/-- The context behind a reference. -/
def enter (ctx : Context) (ref : TypeRef) (v : Value) : Context :=
  { ctx with depth := ctx.depth + 1, inFlight := (ref, v) :: ctx.inFlight }

end Context

/-- How a visit to a reference went. -/
inductive VisitOutcome where
  | unresolved
  | cyclic
  | tooDeep
  | entered
deriving DecidableEq, Repr

/-- A reference that was met: for which value, where and in which context. -/
structure Visit where
  ref : TypeRef
  value : Value
  path : Path
  context : Context
  outcome : VisitOutcome

/-- What a run keeps of the following of references. -/
inductive RunEvent where
  /-- A reference was met. -/
  | met (visit : Visit)
  /-- What an entered reference leads to has been checked to its end. -/
  | left (ref : TypeRef) (value : Value)

/-- The visit that an event is about. -/
def RunEvent.visit? : RunEvent → Option Visit
  | .met visit => some visit
  | .left .. => none

/-- What has happened so far. -/
structure Run where
  store : Store
  events : List RunEvent := []

/-- The references that were met so far. -/
def Run.visits (r : Run) : List Visit := r.events.filterMap RunEvent.visit?

/-- A step of a run, which may end in a fault. -/
abbrev Check := ExceptT Fault (StateM Run)

namespace Check

/-- A step that only computes. -/
def ofExcept {α : Type} : Except Fault α → Check α
  | .ok a => pure a
  | .error e => throw e

def store : Check Store := return (← get).store

def write (a : Address) (c : Cell) : Check Unit := modify fun r => { r with store := r.store.write a c }

def record (e : RunEvent) : Check Unit := modify fun r => { r with events := r.events ++ [e] }

end Check

end ShapeCheck
