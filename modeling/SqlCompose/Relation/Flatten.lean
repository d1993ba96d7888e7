import SqlCompose.Relation.Join

/-!
# Flattened relations

Relations to at most one row are joined into the SELECT itself: their columns stand after the base
columns, named by alias and column, and their tables are joined with `LEFT JOIN`, parents before
children. Relations to many rows, and everything below them, are left out here; `JoinTree.toMany`
lists them for loading.
-/

namespace SqlCompose

namespace JoinTree

/-- The path of the first node of a level. -/
def firstPath : List JoinTree → String
  | [] => ""
  | t :: _ => t.join.pathText

/-- A node of the walk through the to-one joins, or the point where the walk got too deep. -/
abbrev Visit := Except BuildError Join

mutual

/-- The walk through a tree whose root is `depth` relations away from the bound table. -/
def visits (depth : Nat) : JoinTree → List Visit
  | .node j children =>
    if j.relation.kind.isToOne then
      .ok j ::
        if greatestPathLength ≤ depth + 1 then [.error (.pathTooLong (firstPath children))]
        else visitsAll (depth + 1) children
    else []

/-- The walk through a level, each tree to its end before the next. -/
def visitsAll (depth : Nat) : List JoinTree → List Visit
  | [] => []
  | t :: rest => t.visits depth ++ visitsAll depth rest

end

mutual

/-- The to-many relations that a tree reaches through to-one joins, in walking order. -/
def toMany : JoinTree → List JoinTree
  | .node j children =>
    if j.relation.kind.isToOne then toManyAll children else [.node j children]

/-- The to-many relations of a level. -/
def toManyAll : List JoinTree → List JoinTree
  | [] => []
  | t :: rest => t.toMany ++ toManyAll rest

end

mutual

/-- Requests a to-one join and those below it again, leaving out the first `skip` names of their
paths. -/
def rerootInto (schema : Schema) (skip : Nat) (table : Table) :
    JoinTree → List JoinTree → Except BuildError (List JoinTree)
  | .node j children, forest =>
    if j.relation.kind.isToOne then
      match requestPath schema table (".".intercalate (j.path.drop skip)) j.scope forest with
      | (forest, none) => rerootAllInto schema skip table children forest
      | (_, some e) => .error e
    else .ok forest

def rerootAllInto (schema : Schema) (skip : Nat) (table : Table) :
    List JoinTree → List JoinTree → Except BuildError (List JoinTree)
  | [], forest => .ok forest
  | t :: rest, forest =>
    match rerootInto schema skip table t forest with
    | .ok forest => rerootAllInto schema skip table rest forest
    | .error e => .error e

end

/-- The to-one joins below a node, requested from the node's own table. -/
def reroot (schema : Schema) (t : JoinTree) : Except BuildError (List JoinTree) :=
  rerootAllInto schema t.join.path.length t.join.target t.children []

end JoinTree

namespace Join

/-- The key comparisons of a join. -/
def keyTests (d : Dialect) (j : Join) : List String :=
  (j.relation.joinFields.zip j.relation.baseFields).map fun (joinField, baseField) =>
    d.qualified j.aliasName (j.target.columnOf joinField) ++ " = " ++
      d.qualified j.baseAlias (j.base.columnOf baseField)

/-- The join as part of a FROM clause. -/
def leftJoin (d : Dialect) (names : Template.Names) (j : Join) : Fragment :=
  .text ("LEFT JOIN " ++ d.ident j.target.name ++ " AS " ++ d.ident j.aliasName ++
      " ON (" ++ " AND ".intercalate (j.keyTests d) ++ ")") ++
    .concat (j.on.map (Condition.tied d names))

/-- The columns that the join selects, by their names in SQL. -/
def selectedColumns (j : Join) : List String :=
  match j.columns with
  | some names => names.map j.target.columnOf
  | none => j.target.fields.map (·.column)

/-- A column of the join in a SELECT list. -/
def columnItem (d : Dialect) (j : Join) (column : String) : String :=
  d.qualified j.aliasName column ++ " AS " ++ d.ident (j.aliasName ++ "__" ++ column)

/-- The columns of the join in a SELECT list. -/
def columnItems (d : Dialect) (j : Join) : List String :=
  j.selectedColumns.map (j.columnItem d)

end Join

namespace JoinTree

/-- The joins of a walk, each behind a space. -/
def leftJoins (d : Dialect) (names : Template.Names) : List Visit → Fragment
  | [] => .empty
  | .error e :: _ => .fail (.build e)
  | .ok j :: rest => .text " " ++ j.leftJoin d names ++ leftJoins d names rest

/-- The columns of a walk; a comma stands before them once anything has been written. -/
def columnItems (d : Dialect) (started : Bool) : List Visit → Fragment
  | [] => .empty
  | .error e :: _ => .fail (.build e)
  | .ok j :: rest =>
    match j.columnItems d with
    | [] => columnItems d started rest
    | items =>
      .text ((if started then ", " else "") ++ ", ".intercalate items) ++ columnItems d true rest

end JoinTree

end SqlCompose
