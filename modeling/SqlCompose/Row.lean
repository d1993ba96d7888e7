import SqlCompose.Value.Decode
import SqlCompose.Value.Map

/-!
# Rows

A result row: column names and values. The names may repeat, and there may be more or fewer of them
than values. A column is found by its first name; a value by its position.
-/

namespace SqlCompose

structure Row where
  columns : List String
  values : List Value

namespace Row

def ofPairs (pairs : List (String × Value)) : Row :=
  ⟨pairs.map Prod.fst, pairs.map Prod.snd⟩

/-- The value in the place of the first column of a name. -/
def value? (r : Row) (column : String) : Option Value :=
  (r.columns.idxOf? column).bind (r.values[·]?)

/-- A column read as a type. -/
def get (r : Row) (t : ColumnType) (column : String) : Except DecodeError Value :=
  match r.value? column with
  | some v => v.decode t column
  | none => .error ⟨column, .columnNotFound⟩

/-- A position read as a type. Positions without a column name are called `?`. -/
def getAt (r : Row) (t : ColumnType) (position : Nat) : Except DecodeError Value :=
  let column := r.columns.getD position "?"
  match r.values[position]? with
  | some v => v.decode t column
  | none => .error ⟨column, .noColumnAt position⟩

/-- What follows a beginning of a text. -/
def dropBeginning? (beginning s : List Char) : Option (List Char) :=
  if beginning.isPrefixOf s then some (s.drop beginning.length) else none

/-- The column of a nested row that a flattened column stands for. -/
def nestedColumn? (aliasName column : String) : Option String :=
  let rest := (dropBeginning? aliasName.toList column.toList).bind (dropBeginning? ['_', '_'])
  rest.map String.ofList

/-- The columns named by an alias and two underscores, without them. -/
def prefixed (r : Row) (aliasName : String) : Row :=
  ofPairs ((r.columns.zip r.values).filterMap fun (column, value) =>
    (nestedColumn? aliasName column).map (·, value))

def isAllNull (r : Row) : Bool :=
  r.values.all Value.isNull

/-- The values by column; of columns with one name the last counts. -/
def toMap (r : Row) : ValueMap :=
  .ofPairs (r.columns.zip r.values)

end Row

end SqlCompose
