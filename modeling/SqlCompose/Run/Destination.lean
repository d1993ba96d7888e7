import SqlCompose.Entity

/-!
# Destinations

Where the rows of a query go: into dynamic rows, or into entities of a model. Plain entities are
those of an application without code for related entities and for what happens to them: they show
none of the entities inside them, and hear nothing of related rows or of being selected.
-/

namespace SqlCompose

inductive Destination (μ : Type := Model) (ε : Type := Entity) where
  | maps (rows : List ValueMap)
  | entities (model : μ) (plain : Bool) (items : List ε)

namespace Destination

variable {μ ε : Type} [EntityType ε μ]

/-- The entities read from rows, and the error of the first row that cannot be read. -/
def readAll (models : Nat → μ) (m : μ) : List Row → List ε × Option RunError
  | [] => ([], none)
  | row :: rest =>
    match EntityType.read models m row with
    | .ok e =>
      let (es, error) := readAll models m rest
      (e :: es, error)
    | .error e => ([], some e)

/-- Replaces the contents by rows. When a row cannot be read, the ones before it stay. -/
def fill (models : Nat → μ) (rows : List Row) :
    Destination μ ε → Destination μ ε × Option RunError
  | .maps _ => (.maps (rows.map Row.toMap), none)
  | .entities m plain _ =>
    let (es, error) := readAll models m rows
    (.entities m plain es, error)

/-- The entities, in row order. -/
def items : Destination μ ε → List ε
  | .maps _ => []
  | .entities _ _ es => es

/-- The number of things held. -/
def size : Destination μ ε → Nat
  | .maps rows => rows.length
  | .entities _ _ es => es.length

/-- The entity inside the entity `e` that a path of relations leads to. Plain entities show none of
the entities inside them. -/
def inside? (d : Destination μ ε) (path : List String) (e : ε) : Option ε :=
  match d with
  | .maps _ => none
  | .entities _ plain _ => if plain ∧ path ≠ [] then none else EntityType.at? path e

/-- Changes the entity at a position; plain entities do not change. -/
def change (f : Hook ε) (position : Nat) : Destination μ ε → Destination μ ε × Option RunError
  | .maps rows => (.maps rows, none)
  | .entities m plain es =>
    if plain then (.entities m plain es, none)
    else
      match es[position]? with
      | some e =>
        let (changed, error) := f e
        (.entities m plain (es.set position changed), error)
      | none => (.entities m plain es, none)

end Destination

end SqlCompose
