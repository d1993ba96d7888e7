import SqlCompose.Relation.Flatten
import SqlCompose.Select.Basic

/-!
# The clauses of a SELECT as SQL

One function for each clause, in the order in which they are written. A clause that is not used is
the empty fragment.
-/

namespace SqlCompose

/-- What a query is rendered for: its rows, or their number. -/
inductive Form where
  | rows
  | count
deriving DecidableEq, Repr

/-- The number of rows, in place of a column list. -/
def rowCount : Fragment := .text "count(*)"

namespace Select

/-! ### Named references -/

/-- Columns of a table, each behind the table's alias. -/
def qualifiedColumns (d : Dialect) (t : Table) (columns : List String) : String :=
  ", ".intercalate (columns.map (d.qualified t.aliasName))

/-- What the templates of a SELECT can refer to. All of it needs a bound table. -/
def names (d : Dialect) (s : Select) : Template.Names := fun name =>
  let ofTable (f : Table → String) : Option Fragment :=
    match s.table with
    | some t => some (.text (f t))
    | none => some (.fail (.build (.modelRequired ("?" ++ name))))
  if name = "TableName" then ofTable fun t => d.ident t.name
  else if name = "TableAlias" then ofTable fun t => d.ident t.aliasName
  else if name = "TableColumns" then
    ofTable fun t => qualifiedColumns d t (t.fields.map (·.column))
  else if name = "PKs" then ofTable fun t => qualifiedColumns d t (t.keys.map (·.column))
  else if name = "Columns" then ofTable fun t => qualifiedColumns d t (s.modelColumns t)
  else none

def node (t : Target) (s : Select) (n : Node) : Fragment :=
  n.fragment t.dialect (s.names t.dialect)

/-- Nodes with commas between them. -/
def nodes (t : Target) (s : Select) (ns : List Node) : Fragment :=
  .join ", " (ns.map (s.node t))

/-! ### Columns -/

/-- Tables with more fields than this show only their number of columns in a shape. -/
def widestTable : Nat := 10

/-- A requested column. The name of a field of the bound table stands behind the table's alias. -/
def column (t : Target) (s : Select) (n : Node) : Fragment :=
  match n, s.table with
  | .ident name, some table =>
    match table.field? name with
    | some f => .text (t.dialect.qualified table.aliasName f.column)
    | none => s.node t n
  | _, _ => s.node t n

/-- The requested columns that are not excluded by name. -/
def requestedColumns (s : Select) : List Node :=
  s.columns.filter fun
    | .ident name => !s.isExcluded name
    | .template .. => true

/-- The column list without the columns of relations: the requested columns, else those of the bound
table, else a star. -/
def baseColumns (t : Target) (s : Select) : Fragment :=
  if s.columns.isEmpty then
    match s.table with
    | some table =>
      if t.shapeOnly ∧ widestTable < table.fields.length then
        .text (t.dialect.ident table.aliasName ++ "." ++
          t.dialect.stringLiteral (Nat.repr table.fields.length ++ " columns"))
      else .text (qualifiedColumns t.dialect table (s.modelColumns table))
    | none => .text "*"
  else .join ", " (s.requestedColumns.map (s.column t))

/-- The walk through the flattened relations. -/
def visits (s : Select) : List JoinTree.Visit :=
  JoinTree.visitsAll 0 s.relations

/-- The whole column list. -/
def columnList (t : Target) (s : Select) : Fragment :=
  let base := s.baseColumns t
  base ++ JoinTree.columnItems t.dialect (!base.isBlank t.shapeOnly) s.visits

def distinctClause (t : Target) (s : Select) : Fragment :=
  if s.distinctOn.isEmpty then
    if s.distinct then .text "DISTINCT " else .empty
  else
    t.require .distinctOn ++ .text "DISTINCT ON (" ++ s.nodes t s.distinctOn ++ .text ") "

/-- What is selected: the column list, or the number of rows. -/
def selection (t : Target) (s : Select) (form : Form) : Fragment :=
  if form = .count ∧ !s.needsCountWrapper then rowCount else s.columnList t

/-! ### Tables -/

/-- Fragments with commas between them; none stands before the first one that adds text. -/
def listed (shapeOnly started : Bool) : List Fragment → Fragment
  | [] => .empty
  | f :: rest =>
    .text (if started then ", " else "") ++ f ++
      listed shapeOnly (started || !f.isBlank shapeOnly) rest

/-- The bound table, in the caller's words if there are any. -/
def boundTable (t : Target) (s : Select) : Fragment :=
  match s.modelTable, s.table with
  | some n, _ => s.node t n
  | none, some table =>
    .text (t.dialect.ident table.name ++
      if table.aliasName = table.name then "" else " AS " ++ t.dialect.ident table.aliasName)
  | none, none => .empty

def fromClause (t : Target) (s : Select) : Fragment :=
  if s.table.isNone ∧ s.modelTable.isNone ∧ s.tables.isEmpty then .empty
  else
    .text " FROM " ++ listed t.shapeOnly false (s.boundTable t :: s.tables.map (s.node t))

def manualJoin (t : Target) (s : Select) (j : ManualJoin) : Fragment :=
  .text " " ++ s.node t j.join ++
    if j.on.isEmpty then .empty
    else .text " ON " ++ Condition.row t.dialect (s.names t.dialect) j.on

def joinClauses (t : Target) (s : Select) : Fragment :=
  JoinTree.leftJoins t.dialect (s.names t.dialect) s.visits ++
    .concat (s.joins.map (s.manualJoin t))

/-! ### Conditions -/

mutual

/-- An item between parentheses. -/
def whereItem (t : Target) (s : Select) : WhereItem → Fragment
  | .cond c => .parens (s.node t c.node)
  | .group _ items => .parens (whereItems t s items)

/-- Items in a row; the connective of the first one is not written. -/
def whereItems (t : Target) (s : Select) : List WhereItem → Fragment
  | [] => .empty
  | i :: rest => whereItem t s i ++ tiedItems t s rest

/-- Items, each behind its connective. -/
def tiedItems (t : Target) (s : Select) : List WhereItem → Fragment
  | [] => .empty
  | i :: rest => .text i.connective.text ++ whereItem t s i ++ tiedItems t s rest

end

/-- The test of the deletion mark, unless all rows are seen. -/
def deletionTest? (d : Dialect) (s : Select) : Option String :=
  match s.table with
  | none => none
  | some table =>
    match table.deletionMark?, s.deleted with
    | some f, .hidden => some (d.qualified table.aliasName f.column ++ " IS NULL")
    | some f, .only => some (d.qualified table.aliasName f.column ++ " IS NOT NULL")
    | _, _ => none

/-- The conditions, in one pair of parentheses if there are several and a deletion test follows. -/
def whereClause (t : Target) (s : Select) : Fragment :=
  match s.wheres, s.deletionTest? t.dialect with
  | [], none => .empty
  | [], some test => .text (" WHERE " ++ test)
  | items, none => .text " WHERE " ++ whereItems t s items
  | [i], some test => .text " WHERE " ++ whereItem t s i ++ .text (" AND " ++ test)
  | items, some test =>
    .text " WHERE " ++ .parens (whereItems t s items) ++ .text (" AND " ++ test)

/-! ### Grouping, order and the rest -/

/-- Nodes with commas between them behind a keyword. -/
def keywordList (t : Target) (s : Select) (keyword : String) (ns : List Node) : Fragment :=
  if ns.isEmpty then .empty else .text keyword ++ s.nodes t ns

def havingClause (t : Target) (s : Select) : Fragment :=
  if s.having.isEmpty then .empty
  else .text " HAVING " ++ .join " AND " (s.having.map fun n => .parens (s.node t n))

/-- A negative limit is no limit. -/
def limitClause (s : Select) : Fragment :=
  match s.limit with
  | some n => if 0 ≤ n then .text (" LIMIT " ++ Int.repr n) else .empty
  | none => .empty

def offsetClause (s : Select) : Fragment :=
  match s.offset with
  | some n => if 0 < n then .text (" OFFSET " ++ Int.repr n) else .empty
  | none => .empty

def lockClause (t : Target) (s : Select) : Fragment :=
  match s.lock with
  | some n => t.require .selectFor ++ .text " FOR " ++ s.node t n
  | none => .empty

/-- Order, limits and lock. Counting needs none of them. -/
def tail (t : Target) (s : Select) (form : Form) : Fragment :=
  match form with
  | .count => .empty
  | .rows =>
    s.keywordList t " ORDER BY " s.order ++ s.limitClause ++ s.offsetClause ++ s.lockClause t

/-- The statement. -/
def fragment (t : Target) (s : Select) (form : Form) : Fragment :=
  .text "SELECT " ++ s.distinctClause t ++ s.selection t form ++ s.fromClause t ++
    s.joinClauses t ++ s.whereClause t ++ s.keywordList t " GROUP BY " s.group ++
    s.havingClause t ++ s.tail t form

end Select

end SqlCompose
