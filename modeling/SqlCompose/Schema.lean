/-!
# Tables

What is known about the tables of a database: their columns, and the relations between them. Tables
refer to each other by position in a `Schema`, so that they may refer to themselves and to each
other in circles.
-/

namespace SqlCompose

/-- A field of a model and the column that stores it. -/
structure Field where
  name : String
  column : String
  /-- The declared SQL type, to which values are cast. -/
  sqlType : Option String := none
  /-- Part of the primary key. -/
  isKey : Bool := false
  /-- Not null in rows that count as deleted. -/
  marksDeletion : Bool := false
deriving DecidableEq, Repr

/-- How many related rows a row has, and which side holds the reference. -/
inductive RelationKind where
  | hasOne
  | belongsTo
  | hasMany
  | manyToMany
deriving DecidableEq, Repr

/-- At most one related row. -/
def RelationKind.isToOne : RelationKind → Bool
  | .hasOne => true
  | .belongsTo => true
  | .hasMany => false
  | .manyToMany => false

/-- The table between the two sides of a many-to-many relation. -/
structure Junction where
  table : String
  /-- The column that points at the owning row. -/
  baseColumn : String
  /-- The column that points at the related row. -/
  joinColumn : String
deriving DecidableEq, Repr

/-- A relation to the table at a position of the schema. Rows are related when the fields
`joinFields` of the related row equal the fields `baseFields` of the owning row, one by one. -/
structure Relation where
  name : String
  kind : RelationKind
  target : Nat
  baseFields : List String
  joinFields : List String
  junction : Option Junction := none
deriving DecidableEq, Repr

structure Table where
  name : String
  aliasName : String
  fields : List Field := []
  relations : List Relation := []
deriving DecidableEq, Repr

instance : Inhabited Table := ⟨{ name := "", aliasName := "" }⟩

namespace Field

/-- Whether a field goes by a name, its own or that of its column. -/
def answersTo (f : Field) (name : String) : Bool :=
  f.name == name || f.column == name

end Field

namespace Table

/-- The first field that goes by a name. -/
def field? (t : Table) (name : String) : Option Field :=
  t.fields.find? (·.answersTo name)

def hasField (t : Table) (name : String) : Bool :=
  (t.field? name).isSome

/-- The column behind a field name; names of no field stand for themselves. -/
def columnOf (t : Table) (name : String) : String :=
  match t.field? name with
  | some f => f.column
  | none => name

/-- The fields of the primary key, in declaration order. -/
def keys (t : Table) : List Field :=
  t.fields.filter (·.isKey)

def deletionMark? (t : Table) : Option Field :=
  t.fields.find? (·.marksDeletion)

/-- The first relation of a name. -/
def relation? (t : Table) (name : String) : Option Relation :=
  t.relations.find? (·.name == name)

end Table

/-- The tables of a database. -/
structure Schema where
  tables : List Table := []
deriving DecidableEq, Repr

/-- The table at a position; the empty table beyond the end. -/
def Schema.table (s : Schema) (position : Nat) : Table :=
  s.tables.getD position default

end SqlCompose
