import SqlCompose.Clause
import SqlCompose.Schema
import SqlCompose.Value.Map

/-!
# VALUES lists

Rows written out in SQL. They come from entities of a table, one tuple for each with the table's
columns, or from dynamic rows, which bring their own keys: the first row with keys fixes the
columns, in order, and every later row must have the same ones. A field of typed rows can be
overridden by a template.
-/

namespace SqlCompose

/-- The rows of a VALUES list, each with one value for each column. There is at least one row. -/
inductive RowSource where
  | typed (table : Table) (first : List Value) (further : List (List Value))
  | dynamic (columns : List String) (first : List Value) (further : List (List Value))

namespace RowSource

/-- The bound table of typed rows. -/
def table? : RowSource → Option Table
  | .typed table .. => some table
  | .dynamic .. => none

def rows : RowSource → List (List Value)
  | .typed _ first further => first :: further
  | .dynamic _ first further => first :: further

/-- The column names in the order in which they are written. -/
def columnNames : RowSource → List String
  | .typed table .. => table.fields.map (·.column)
  | .dynamic columns .. => columns

/-- The values of dynamic rows, from the row at `position` on, which must all have the keys
`columns`. -/
def rowsOfMaps (columns : List String) (position : Nat) :
    List ValueMap → Except BuildError (List (List Value))
  | [] => .ok []
  | m :: rest =>
    if m.hasKeys columns then
      match rowsOfMaps columns (position + 1) rest with
      | .ok rows => .ok (columns.map m.get :: rows)
      | .error e => .error e
    else .error (.mismatchedKeys position columns m.sortedKeys)

/-- Dynamic rows without the empty ones that come first. -/
def ofMaps (maps : List ValueMap) : Except BuildError RowSource :=
  match maps.dropWhile List.isEmpty with
  | [] => .error .emptyInput
  | first :: rest =>
    let columns := ValueMap.sortedKeys first
    match rowsOfMaps columns ((maps.takeWhile List.isEmpty).length + 1) rest with
    | .ok further => .ok (.dynamic columns (columns.map (ValueMap.get first)) further)
    | .error e => .error e

end RowSource

/-- Written in place of the field that goes by `field`. -/
structure Override where
  field : String
  node : Node

/-- A VALUES list as it was built. `refused` holds the first builder call that made no sense. -/
structure Values where
  source : Except BuildError RowSource
  withOrder : Bool := false
  overrides : List Override := []
  refused : Option BuildError := none

namespace Values

/-- Typed rows; none are no input. -/
def ofRows (table : Table) : List (List Value) → Values
  | [] => { source := .error .emptyInput }
  | first :: further => { source := .ok (.typed table first further) }

/-- Dynamic rows. -/
def ofMaps (maps : List ValueMap) : Values :=
  { source := RowSource.ofMaps maps }

/-- The first builder error. -/
def error? (v : Values) : Option BuildError :=
  match v.source with
  | .error e => some e
  | .ok _ => v.refused

/-- The rows, whether or not a later builder call was refused. -/
def source? (v : Values) : Option RowSource :=
  v.source.toOption

/-- A builder call. -/
inductive Call where
  /-- A last column that counts the rows from zero. -/
  | withOrder
  /-- A field written as a template in every row. Only typed rows have fields. -/
  | value (field template : String) (args : List Value)

/-- A VALUES list after a builder call. -/
def call (v : Values) : Call → Values
  | .withOrder => { v with withOrder := true }
  | .value field template args =>
    match v.error? with
    | some _ => v
    | none =>
      match v.source? with
      | some (.typed ..) =>
        { v with overrides := v.overrides ++ [⟨field, .template template args⟩] }
      | _ => { v with refused := some (.modelRequired "value") }

/-- A VALUES list after builder calls. -/
def calls (v : Values) (cs : List Call) : Values :=
  cs.foldl call v

/-- The name of the column that counts the rows. -/
def orderColumn : String := "_order"

/-- The column list of rows. -/
def columnsText (d : Dialect) (withOrder : Bool) (source : RowSource) : String :=
  ", ".intercalate (source.columnNames.map d.ident) ++
    if withOrder then ", " ++ orderColumn else ""

/-- The column list; a template of a VALUES list knows it as `?Columns`. -/
def columns (d : Dialect) (v : Values) : Fragment :=
  match v.error?, v.source with
  | some e, _ => .fail (.build e)
  | none, .error e => .fail (.build e)
  | none, .ok source => .text (columnsText d v.withOrder source)

def names (d : Dialect) (v : Values) : Template.Names := fun name =>
  if name = "Columns" then some (v.columns d) else none

/-- A value, cast to the declared type of its field. -/
def typedValue (t : Target) (f : Field) (value : Value) : Fragment :=
  match f.sqlType with
  | none => .arg value
  | some sqlType =>
    if t.features.has .castOperator then .arg value ++ .text ("::" ++ sqlType)
    else .text "CAST(" ++ .arg value ++ .text (" AS " ++ sqlType ++ ")")

/-- The override of a field, the earliest one that names it. -/
def overrideOf? (overrides : List Override) (f : Field) : Option Override :=
  overrides.find? fun o => f.answersTo o.field

/-- The field at a position of a row. -/
def cell (t : Target) (names : Template.Names) (overrides : List Override) (row : List Value)
    (f : Field) (position : Nat) : Fragment :=
  match overrideOf? overrides f with
  | some o => o.node.fragment t.dialect names
  | none => typedValue t f (row.getD position .null)

/-- The cells of a row; positions that the row lacks are null. -/
def cells (t : Target) (v : Values) (row : List Value) : RowSource → List Fragment
  | .typed table .. =>
    table.fields.mapIdx fun i f => cell t (v.names t.dialect) v.overrides row f i
  | .dynamic columns .. => columns.mapIdx fun i _ => .arg (row.getD i .null)

/-- One row between parentheses, with its number when rows are counted. -/
def tuple (t : Target) (v : Values) (source : RowSource) (row : List Value) (number : Nat) :
    Fragment :=
  .text (if t.features.has .valuesRow then "ROW(" else "(") ++
    .join ", " (v.cells t row source) ++
    .text (if v.withOrder then ", " ++ Nat.repr number ++ ")" else ")")

/-- The rows that are written. The shape of a VALUES list is one row without data. -/
def writtenRows (t : Target) (source : RowSource) : List (List Value) :=
  if t.shapeOnly then [[]] else source.rows

/-- The whole list. -/
def fragment (t : Target) (v : Values) : Fragment :=
  match v.error?, v.source with
  | some e, _ => .fail (.build e)
  | none, .error e => .fail (.build e)
  | none, .ok source =>
    .text "VALUES " ++
      .join ", " ((writtenRows t source).mapIdx fun i row => v.tuple t source row i)

end Values

end SqlCompose
