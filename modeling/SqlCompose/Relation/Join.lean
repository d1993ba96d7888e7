import SqlCompose.Clause
import SqlCompose.Schema
import SqlCompose.Text.SnakeCase

/-!
# Requested relations

Relations are requested by dotted paths from the bound table, such as `Author.Profile`. The requests
form a forest, one node for each prefix of a requested path: requesting a path again reuses its
nodes. `requestPath` adds a path; where a segment is not declared, the nodes before it stay.
-/

namespace SqlCompose

/-- What a request asks of the last relation of its path: some columns of the related table only,
and further join conditions. -/
structure JoinScope where
  columns : Option (List String) := none
  on : List Condition := []

namespace JoinScope

/-- A call that narrows a scope. -/
inductive Call where
  | columns (names : List String)
  | on (connective : Connective) (template : String) (args : List Value)

def call (s : JoinScope) : Call → JoinScope
  | .columns names => { s with columns := some (s.columns.getD [] ++ names) }
  | .on connective template args =>
    { s with on := s.on ++ [⟨connective, .template template args⟩] }

/-- The scope that calls describe. -/
def ofCalls (cs : List Call) : JoinScope :=
  cs.foldl call {}

end JoinScope

/-- One requested relation: from the table `base`, known as `baseAlias`, to the table `target`,
known as `aliasName`. `path` holds the relation names from the bound table on. -/
structure Join where
  relation : Relation
  base : Table
  baseAlias : String
  target : Table
  aliasName : String
  path : List String
  columns : Option (List String) := none
  on : List Condition := []

namespace Join

def pathText (j : Join) : String :=
  ".".intercalate j.path

/-- The join as a scope asks for it. Columns of a later scope replace those of an earlier one;
conditions add up. -/
def narrowed (j : Join) (s : JoinScope) : Join :=
  { j with columns := s.columns.orElse (fun _ => j.columns), on := j.on ++ s.on }

/-- What the join was asked for. -/
def scope (j : Join) : JoinScope :=
  ⟨j.columns, j.on⟩

end Join

/-- A requested relation and the requests below it. -/
inductive JoinTree where
  | node (join : Join) (children : List JoinTree)

namespace JoinTree

def join : JoinTree → Join
  | .node j _ => j

def children : JoinTree → List JoinTree
  | .node _ cs => cs

/-- Changes the node of an alias, which is put at the end when there is none yet. -/
def change {ε : Type} (fresh : Join) (f : JoinTree → JoinTree × Option ε) :
    List JoinTree → List JoinTree × Option ε
  | [] =>
    let (t, e) := f (.node fresh [])
    ([t], e)
  | t :: rest =>
    if t.join.aliasName = fresh.aliasName then
      let (t, e) := f t
      (t :: rest, e)
    else
      let (rest, e) := change fresh f rest
      (t :: rest, e)

/-- The alias of a relation below a parent, or of a relation of the bound table. -/
def aliasOf (parent : Option String) (relation : String) : String :=
  match parent with
  | none => Text.snakeCase relation
  | some aliasName => aliasName ++ "__" ++ Text.snakeCase relation

/-- Adds the rest of a path below a table. `parent` is the alias of the join that leads there, and
`above` are the relation names on the way. -/
def request (schema : Schema) (scope : JoinScope) (base : Table) (parent : Option String)
    (above : List String) : List String → List JoinTree → List JoinTree × Option BuildError
  | [], level => (level, none)
  | segment :: rest, level =>
    match base.relation? segment with
    | none => (level, some (.relationNotFound base.name segment))
    | some relation =>
      let target := schema.table relation.target
      let fresh : Join :=
        { relation, base, target
          baseAlias := parent.getD base.aliasName
          aliasName := aliasOf parent relation.name
          path := above ++ [relation.name] }
      change fresh (fun t =>
        let (children, e) :=
          request schema scope target (some fresh.aliasName) fresh.path rest t.children
        (.node (if rest = [] then t.join.narrowed scope else t.join) children, e)) level

/-- The segments of a path. -/
def segments (path : String) : List String :=
  (path.toList.splitOn '.').map String.ofList

/-- Adds a path below a bound table. -/
def requestPath (schema : Schema) (table : Table) (path : String) (scope : JoinScope)
    (forest : List JoinTree) : List JoinTree × Option BuildError :=
  if greatestPathLength < (segments path).length then (forest, some (.pathTooLong path))
  else request schema scope table none [] (segments path) forest

end JoinTree

end SqlCompose
