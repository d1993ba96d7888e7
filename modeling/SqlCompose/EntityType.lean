import SqlCompose.Row
import SqlCompose.Run.Error

/-!
# Types of entities

The objects that rows become belong to the application, and so does the code that a scan calls on
them. An `EntityType` names what that code has to offer and promises nothing about what it does: any
entity may fail where others do not, because of what is in it or of the rows it is handed.
-/

namespace SqlCompose

/-- Code that changes an entity, and may fail however far it has come with the change. -/
abbrev Hook (ε : Type) : Type :=
  ε → ε × Option RunError

/-- The entities `ε` of an application, which reads them from rows as models `μ` say. Entities of
different kinds that hold each other are the variants of one such type. -/
class EntityType (ε : Type) (μ : outParam Type) where
  /-- The entity that a row becomes. Models of related tables are found by their number. -/
  read (models : Nat → μ) (m : μ) (row : Row) : Except RunError ε
  value (e : ε) (field : String) : Value
  /-- The entity inside `e` that belongs to a to-one relation. -/
  related? (e : ε) (relation : String) : Option ε
  /-- The entity `e` after the one inside it that belongs to a relation has changed. -/
  withRelated (e : ε) (relation : String) (inner : ε) : ε
  /-- Takes the rows of a to-many relation. -/
  attach (relation : String) (rows : List Row) : Hook ε
  /-- Hears that the entity was selected. -/
  select : Hook ε

namespace EntityType

variable {ε μ : Type} [EntityType ε μ]

/-- The entity that a path of relations leads to. -/
def at? : List String → ε → Option ε
  | [], e => some e
  | relation :: path, e => (related? e relation).bind (at? path)

/-- The entity after the one that a path of relations leads to has changed. -/
def putAt (new : ε) : List String → ε → ε
  | [], _ => new
  | relation :: path, e =>
    match related? e relation with
    | some inner => withRelated e relation (putAt new path inner)
    | none => e

/-- Changes the entity that a path of relations leads to, if it leads to one. -/
def changeAt (f : Hook ε) (path : List String) : Hook ε := fun e =>
  match at? path e with
  | some inner =>
    let (changed, error) := f inner
    (putAt changed path e, error)
  | none => (e, none)

theorem changeAt_of_at? {path : List String} {e inner : ε} (found : at? path e = some inner)
    (f : Hook ε) : changeAt f path e = (putAt (f inner).1 path e, (f inner).2) := by
  rw [changeAt, found]

end EntityType

end SqlCompose
