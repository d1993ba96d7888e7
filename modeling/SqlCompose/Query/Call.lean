import SqlCompose.Query.Basic

/-!
# Builder calls

A query is built by a list of calls, each of which changes one clause. A call that makes no sense
where it stands records an error and changes nothing else; the first such error is kept, and later
calls go on as if nothing had happened.
-/

namespace SqlCompose

namespace Node

/-- The words that may follow a name in an ORDER BY item. -/
def directions : List String :=
  ["ASC", "DESC", "ASC NULLS FIRST", "DESC NULLS FIRST", "ASC NULLS LAST", "DESC NULLS LAST"]

/-- An ORDER BY item: the part up to the first space is a name if a direction is all that follows,
and otherwise the whole text is one. -/
def ofOrder (item : String) : Node :=
  let name := item.toList.takeWhile (· ≠ ' ')
  match item.toList.dropWhile (· ≠ ' ') with
  | [] => .ident item
  | _ :: rest =>
    let direction := Text.trim rest
    if String.ofList (direction.map Char.toUpper) ∈ directions then
      .template "? ?" [.ident (String.ofList name), .safe (String.ofList direction)]
    else .ident item

end Node

namespace Select

/-- Needs a bound table. -/
def withTable (s : Select) (operation : String) (f : Table → Select) : Select :=
  match s.table with
  | some t => f t
  | none => s.fail (.modelRequired operation)

def addWhere (s : Select) (item : WhereItem) : Select :=
  { s with wheres := s.wheres ++ [item] }

/-- Excludes columns from the default column list. -/
def exclude (s : Select) (names : List String) : Select :=
  s.withTable "exclude_column" fun _ => { s with excluded := s.excluded ++ names }

/-- The arguments that match an entity by the fields of a key: each column and its value. -/
def keyArguments (t : Table) (entity : ValueMap) : List Value :=
  t.keys.flatMap fun f => [.ident (t.aliasName ++ "." ++ f.column), entity.get f.name]

/-- Matches an entity by primary key. -/
def whereKey (s : Select) (entity : ValueMap) : Select :=
  s.withTable "where_pk" fun t =>
    if t.keys.isEmpty then s.fail (.noPrimaryKey t.name)
    else
      s.addWhere (.cond ⟨.and, .template (" AND ".intercalate (t.keys.map fun _ => "? = ?"))
        (keyArguments t entity)⟩)

/-- Decides which rows of a table with a deletion mark are seen. -/
def seeDeleted (s : Select) (operation : String) (rows : DeletedRows) : Select :=
  s.withTable operation fun t =>
    if t.deletionMark?.isNone then s.fail (.softDeleteUnsupported t.name)
    else { s with deleted := rows }

/-- Adds a condition to the last join. -/
def addJoinCondition (s : Select) (c : Condition) : Select :=
  match s.joins.getLast? with
  | some j => { s with joins := s.joins.dropLast ++ [{ j with on := j.on ++ [c] }] }
  | none => s.fail .noJoins

/-- Requests a relation. What an unknown path has in common with the schema stays requested. -/
def request (schema : Schema) (s : Select) (path : String) (scope : JoinScope) : Select :=
  s.withTable "relation" fun t =>
    match JoinTree.requestPath schema t path scope s.relations with
    | (relations, none) => { s with relations }
    | (relations, some e) => { s with relations }.fail e

end Select

namespace Query

/-- A builder call. -/
inductive Call where
  /-- Binds a table. -/
  | model (t : Table)
  | withQuery (name : String) (q : Query)
  | withValues (name : String) (v : Values)
  | distinct
  | distinctOn (template : String) (args : List Value)
  | table (names : List String)
  | tableExpr (template : String) (args : List Value)
  | modelTableExpr (template : String) (args : List Value)
  | column (names : List String)
  | columnExpr (template : String) (args : List Value)
  | excludeColumn (names : List String)
  | where (connective : Connective) (template : String) (args : List Value)
  | whereKey (entity : ValueMap)
  | whereDeleted
  | whereAllWithDeleted
  | whereGroup (separator : String) (calls : List WhereItem.Call)
  | group (names : List String)
  | groupExpr (template : String) (args : List Value)
  | having (template : String) (args : List Value)
  | order (items : List String)
  | orderExpr (template : String) (args : List Value)
  | limit (n : Int)
  | offset (n : Int)
  | lockFor (template : String) (args : List Value)
  | member (operator : SetOperator) (q : Query)
  | join (template : String) (args : List Value)
  | joinOn (connective : Connective) (template : String) (args : List Value)
  | relation (path : String) (scope : List JoinScope.Call)
  | apply (calls : List Call)

/-- The clauses of a query after a call that concerns them alone. -/
def callSelect (schema : Schema) (s : Select) : Call → Select
  | .model t => { s with table := some t }
  | .distinct => { s with distinct := true }
  | .distinctOn template args => { s with distinctOn := s.distinctOn ++ [.template template args] }
  | .table names => { s with tables := s.tables ++ names.map .ident }
  | .tableExpr template args => { s with tables := s.tables ++ [.template template args] }
  | .modelTableExpr template args => { s with modelTable := some (.template template args) }
  | .column names => { s with columns := s.columns ++ names.map .ident }
  | .columnExpr template args => { s with columns := s.columns ++ [.template template args] }
  | .excludeColumn names => s.exclude names
  | .where connective template args => s.addWhere (.cond ⟨connective, .template template args⟩)
  | .whereKey entity => s.whereKey entity
  | .whereDeleted => s.seeDeleted "where_deleted" .only
  | .whereAllWithDeleted => s.seeDeleted "where_all_with_deleted" .shown
  | .whereGroup separator calls =>
    { s with wheres := s.wheres ++ WhereItem.ofCall (.group separator calls) }
  | .group names => { s with group := s.group ++ names.map .ident }
  | .groupExpr template args => { s with group := s.group ++ [.template template args] }
  | .having template args => { s with having := s.having ++ [.template template args] }
  | .order items => { s with order := s.order ++ items.map .ofOrder }
  | .orderExpr template args => { s with order := s.order ++ [.template template args] }
  | .limit n => { s with limit := some n }
  | .offset n => { s with offset := some n }
  | .lockFor template args => { s with lock := some (.template template args) }
  | .join template args => { s with joins := s.joins ++ [{ join := .template template args }] }
  | .joinOn connective template args =>
    s.addJoinCondition ⟨connective, .template template args⟩
  | .relation path scope => s.request schema path (.ofCalls scope)
  | .withQuery .. => s
  | .withValues .. => s
  | .member .. => s
  | .apply _ => s

mutual

/-- A query after a call. -/
def call (schema : Schema) (q : Query) : Call → Query
  | .withQuery name body => .mk q.select (q.ctes ++ [.query name body]) q.members
  | .withValues name v => .mk q.select (q.ctes ++ [.values name v]) q.members
  | .member operator body => .mk q.select q.ctes (q.members ++ [.mk operator body])
  | .apply cs => calls schema q cs
  | c => q.mapSelect (callSelect schema · c)

/-- A query after calls, one after the other. -/
def calls (schema : Schema) (q : Query) : List Call → Query
  | [] => q
  | c :: rest => calls schema (call schema q c) rest

end

/-- The query that calls build. -/
def ofCalls (schema : Schema) (cs : List Call) : Query :=
  calls schema empty cs

end Query

end SqlCompose
