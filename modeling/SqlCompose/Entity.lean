import SqlCompose.EntityType
import SqlCompose.Schema

/-!
# Entities of tables that are described by data

A type of entities for tables that are not known before the program runs. A `Model` says how rows of
one table are read: the types of its fields, and under which alias the columns of a related entity
stand. Such an entity remembers what it was handed and told, unless its model says that it refuses.
-/

namespace SqlCompose

/-- What the entities of a model refuse. -/
structure Hooks where
  /-- The errors with which rows of a relation are refused. -/
  refusals : List (String × String) := []
  /-- The error with which being selected is answered. -/
  selectionError : Option String := none
deriving DecidableEq, Repr

/-- How rows become entities of a table. A field without a type takes any value, and null when the
column is missing. -/
structure Model where
  table : Table
  fields : List (Field × Option ColumnType) := []
  /-- Relations whose entities are read from the columns behind an alias. -/
  nested : List (Relation × String) := []
  hooks : Hooks := {}
deriving Inhabited

/-- An entity: its values by field name, the entities inside it by relation, the rows it was handed,
in order, and how often it was selected. -/
inductive Entity where
  | mk (hooks : Hooks) (values : ValueMap) (nested : List (String × Entity))
      (attached : List (String × List Row)) (selections : Nat)

namespace Entity

def values : Entity → ValueMap
  | .mk _ vs _ _ _ => vs

def nested : Entity → List (String × Entity)
  | .mk _ _ ns _ _ => ns

def attached : Entity → List (String × List Row)
  | .mk _ _ _ rows _ => rows

def selections : Entity → Nat
  | .mk _ _ _ _ n => n

/-- Takes rows of a relation, unless they are refused. -/
def attach (relation : String) (rows : List Row) : Hook Entity
  | .mk hooks values nested attached selections =>
    match hooks.refusals.lookup relation with
    | some message => (.mk hooks values nested attached selections, some (.other message))
    | none => (.mk hooks values nested (attached ++ [(relation, rows)]) selections, none)

/-- Counts being selected, unless that is refused. -/
def select : Hook Entity
  | .mk hooks values nested attached selections =>
    match hooks.selectionError with
    | some message => (.mk hooks values nested attached selections, some (.other message))
    | none => (.mk hooks values nested attached (selections + 1), none)

/-- Puts an entity under a name. -/
def putNested (name : String) (e : Entity) : List (String × Entity) → List (String × Entity)
  | [] => [(name, e)]
  | (k, old) :: rest => if k = name then (name, e) :: rest else (k, old) :: putNested name e rest

/-- The entity with another one inside it. -/
def withNested (e : Entity) (name : String) (inner : Entity) : Entity :=
  match e with
  | .mk hooks values nested attached selections =>
    .mk hooks values (putNested name inner nested) attached selections

/-! ### Reading rows -/

/-- The value of a field in a row. -/
def readField (row : Row) (f : Field) (type : Option ColumnType) : Except DecodeError Value :=
  match type with
  | some t => row.get t f.column
  | none => .ok ((row.value? f.column).getD .null)

/-- The values of fields, from the first one on that cannot be read the error. -/
def readFields (row : Row) : List (Field × Option ColumnType) → ValueMap →
    Except DecodeError ValueMap
  | [], values => .ok values
  | (f, type) :: rest, values =>
    match readField row f type with
    | .ok v => readFields row rest (values.insert f.name v)
    | .error e => .error e

/-- The entities of relations, read by `read` from the columns behind their aliases. A row that has
no such columns, or nothing but null in them, has no such entity. -/
def readNested (read : Relation → Row → Except DecodeError Entity) (row : Row) :
    List (Relation × String) → List (String × Entity) → Except DecodeError (List (String × Entity))
  | [], nested => .ok nested
  | (r, aliasName) :: rest, nested =>
    let part := row.prefixed aliasName
    if part.values.isEmpty || part.isAllNull then readNested read row rest nested
    else
      match read r part with
      | .ok e => readNested read row rest (putNested r.name e nested)
      | .error e => .error e

/-- An entity read from a row, with at most `depth` entities inside each other. -/
def readWithin (models : Nat → Model) : (depth : Nat) → Model → Row → Except DecodeError Entity
  | 0, m, row => (readFields row m.fields []).map fun values => .mk m.hooks values [] [] 0
  | depth + 1, m, row =>
    match readFields row m.fields [] with
    | .error e => .error e
    | .ok values =>
      let read (r : Relation) (part : Row) := readWithin models depth (models r.target) part
      (readNested read row m.nested []).map fun nested => .mk m.hooks values nested [] 0

/-- An entity read from a row. Going down to a related entity takes two characters off every column
name, so that no row can hold more entities inside each other than its names have characters. -/
def ofRow (models : Nat → Model) (m : Model) (row : Row) : Except DecodeError Entity :=
  readWithin models (String.join row.columns).length m row

instance : EntityType Entity Model where
  read models m row := (ofRow models m row).mapError .decode
  value e := e.values.get
  related? e relation := e.nested.lookup relation
  withRelated := withNested
  attach := attach
  select := select

end Entity

end SqlCompose
