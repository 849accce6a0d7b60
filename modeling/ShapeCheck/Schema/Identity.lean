import ShapeCheck.Shape.TimeStamp

/-!
# Identities

Each schema has an `Identity`: an id, and the moments at which it was created and last changed. A schema that is read
from data keeps the id and moments that the data has; one without an id is new and gets an identity from a factory.
-/

namespace ShapeCheck

open Shape

structure Identity where
  id : String
  entityType : String
  createdOn : Moment
  updatedOn : Moment
deriving DecidableEq

/-- What makes the identity of a new thing of a type. -/
abbrev IdentityFactory := String → Reading Identity

/-- The source of present moments and fresh ids. -/
structure Clock where
  now : Moment
  freshId : String

namespace Field

def id : Field := { name := "id" }
def entityType : Field := { name := "entityType", second := some "entity_type" }
def createdOn : Field := { name := "createdOn", second := some "created_on" }
def updatedOn : Field := { name := "updatedOn", second := some "updated_on" }

end Field

namespace Identity

/-- The identity of a new thing. -/
def fresh (clock : Clock) (entityType : String) : Identity := ⟨clock.freshId, entityType, clock.now, clock.now⟩

/-- The identity of something that is read from data, as far as the data says. -/
def restored (clock : Clock) (entityType id : String) (createdOn updatedOn : Option Moment) : Identity :=
  let created := createdOn.getD clock.now
  ⟨id, entityType, created, updatedOn.getD created⟩

/-- The identity of something that has just changed. -/
def touched (clock : Clock) (i : Identity) : Identity := { i with updatedOn := clock.now }

/-- An identity from a record in which every field stands. -/
def ofRecord (r : Record) : Reading Identity :=
  (r.closing [.id, .entityType, .createdOn, .updatedOn] ((r.required .id Reading.someText).both
    ((r.required .entityType Reading.someText).both ((r.required .createdOn Reading.timeStamp).both
    (r.required .updatedOn Reading.timeStamp))))).map fun ((id, entityType, createdOn, updatedOn), _) =>
      ⟨id, entityType, createdOn, updatedOn⟩

/-- A factory that gives the same data to everything but the type. -/
def factoryOf (data : List (Key × Datum)) : IdentityFactory := fun entityType =>
  let es := Entries.put (.text "entityType") (.text entityType) data
  ofRecord ⟨.mapping es, es⟩

def entries (i : Identity) : List (String × Datum) :=
  [("id", .text i.id), ("entityType", .text i.entityType), ("createdOn", .text i.createdOn.stamp),
   ("updatedOn", .text i.updatedOn.stamp)]

end Identity

end ShapeCheck
