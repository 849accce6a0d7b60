import ShapeCheck.Assoc
import ShapeCheck.Reference

/-!
# Registries

A `Registry` knows schemas by their keys. It holds handles and not the schemas themselves, so a schema that changes after
it was registered is found as it is now. The last schema that was registered under a key is the one that is found:
`find?_register` says so.
-/

namespace ShapeCheck

/-- A schema, by its place in the table of schemas. -/
abbrev SchemaHandle := Nat

/-- What keeps the schemas of a registry. -/
inductive Backing where
  /-- The usual one, which also tells when a schema is replaced. -/
  | memory
  /-- One that somebody else wrote, with the operations that it has. -/
  | supplied (implementation : String) (operations : List String)
deriving DecidableEq, Repr

namespace Backing

/-- What a backing has to be able to do. -/
def operations : List String := ["get_schema_type", "register_schema"]

/-- The operations that a backing lacks. -/
def missing : Backing → List String
  | .memory => []
  | .supplied _ has => operations.filter fun op => !has.contains op

end Backing

structure Registry where
  backing : Backing
  schemas : Assoc SchemaHandle := []
deriving DecidableEq, Repr

namespace Registry

/-- A registry on a backing that lacks nothing. -/
def make? (b : Backing) : Option Registry := if b.missing.isEmpty then some { backing := b } else none

/-- Registers a schema under a key. -/
def register (r : Registry) (key : String) (h : SchemaHandle) : Registry := { r with schemas := r.schemas.put key h }

def find? (r : Registry) (key : String) : Option SchemaHandle := r.schemas.get? key

/-- Whether registering under a key replaces a schema and is to be told. -/
def tellsReplacing (r : Registry) (key : String) : Bool := r.backing == .memory && r.schemas.has key

@[simp] theorem find?_register_self (r : Registry) (key : String) (h : SchemaHandle) :
    (r.register key h).find? key = some h := by
  simp [register, find?]

end Registry

/-- What is said of a backing that lacks operations. -/
def missingOperationsMessage (implementation : String) (missing : List String) : String :=
  implementation ++ " does not implement the schema store interface; missing callable(s): " ++
    ", ".intercalate missing

end ShapeCheck
