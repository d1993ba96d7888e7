import SqlCompose.Query.Call
import SqlCompose.Query.Render
import SqlCompose.Run.Destination
import SqlCompose.Run.Session

/-!
# Loading to-many relations

After the rows of a query have become entities, each requested to-many relation is loaded with one
statement of its own, which asks for the rows of all owners at once by their keys. The rows are then
handed to the owners whose key they carry, to every owner once.
-/

namespace SqlCompose

/-- The column that carries the owner's key in rows that come through a junction table. -/
def ownerKeyColumn : String := "__querykit_parent_id"

/-- The key of an owner: the text it is compared by, and the values it is asked for by. -/
structure OwnerKey where
  text : String
  values : List Value

namespace OwnerKey

/-- One text for several, kept apart by a separator; nothing when one of them is missing. -/
def joined? (parts : List (Option String)) : Option String :=
  (parts.mapM id).map ("\x1f".intercalate ·)

/-- The key of an entity, unless one of its fields is null. -/
def ofEntity? {ε μ : Type} [EntityType ε μ] (fields : List String) (e : ε) : Option OwnerKey :=
  let values := fields.map (EntityType.value e)
  (joined? (values.map Value.key?)).map (⟨·, values⟩)

/-- The key text that a row carries in its key columns. -/
def ofRow? (columns : List String) (row : Row) : Option String :=
  joined? (columns.map fun c => (row.value? c).bind Value.key?)

/-- The first key of each text, in order. -/
def distinct (seen : List String) : List OwnerKey → List OwnerKey
  | [] => []
  | k :: rest =>
    if k.text ∈ seen then distinct seen rest else k :: distinct (k.text :: seen) rest

end OwnerKey

namespace JoinTree

/-- The calls that ask for the rows behind a junction table. -/
def junctionCalls (j : Join) (through : Junction) (keys : List OwnerKey) : List Query.Call :=
  [ .columnExpr "? AS ?"
      [.ident (through.table ++ "." ++ through.baseColumn), .ident ownerKeyColumn],
    match j.columns with
    | some names => .column names
    | none => .columnExpr "?TableColumns" [],
    .join "JOIN ?" [.ident through.table],
    .joinOn .and "? = ?TableAlias.?"
      [.ident (through.table ++ "." ++ through.joinColumn),
        .ident (j.target.columnOf (j.relation.joinFields.headD "id"))],
    .where .and "? IN (?)"
      [.ident (through.table ++ "." ++ through.baseColumn), .list (keys.flatMap (·.values))] ]

/-- The columns of the related table that carry the owner's key. -/
def keyColumns (j : Join) : List String :=
  j.relation.joinFields.map j.target.columnOf

/-- The calls that ask for rows by the columns of the related table. When only some columns are
wanted, the key columns are added to them. -/
def directCalls (j : Join) (keys : List OwnerKey) : List Query.Call :=
  let columns := keyColumns j
  let selection := match j.columns with
    | some names =>
      let missing := columns.filter fun k => !names.any fun c => j.target.columnOf c == k
      [.column names, .column missing]
    | none => []
  let condition := match columns with
    | [column] =>
      .where .and "?TableAlias.? IN (?)" [.ident column, .list (keys.flatMap (·.values))]
    | _ =>
      let template := " AND ".intercalate (columns.map fun _ => "?TableAlias.? = ?")
      .whereGroup "AND" (keys.map fun k =>
        .cond .or template ((columns.zip k.values).flatMap fun (c, v) => [.ident c, v]))
  selection ++ [condition]

/-- The query for the related rows of owners, and the result columns that carry an owner's key. -/
def relatedQuery (schema : Schema) (t : JoinTree) (keys : List OwnerKey) :
    Except BuildError (Query × List String) :=
  match t.reroot schema with
  | .error e => .error e
  | .ok relations =>
    let j := t.join
    let (calls, columns) := match j.relation.kind, j.relation.junction with
      | .manyToMany, some through => (junctionCalls j through keys, [ownerKeyColumn])
      | _, _ => (directCalls j keys, keyColumns j)
    let q : Query := .mk { table := some j.target, relations } [] []
    .ok ((q.calls schema calls).mapSelect fun s =>
      { s with wheres := s.wheres ++ j.on.map .cond }, columns)

end JoinTree

/-- An owner: the position of the entity that holds it, and its key. -/
structure Owner where
  position : Nat
  key : Option OwnerKey

section

variable {μ ε : Type} [EntityType ε μ]

/-- The owners of a relation among entities, in order. Entities without one are passed over. -/
def ownersOf (d : Destination μ ε) (path fields : List String) : List Owner :=
  d.items.zipIdx.filterMap fun (e, position) =>
    (d.inside? path e).map fun owner => ⟨position, OwnerKey.ofEntity? fields owner⟩

/-- The rows that carry a key, in order. -/
def rowsOf (columns : List String) (rows : List Row) (key : Option OwnerKey) : List Row :=
  match key with
  | some k => rows.filter fun row => OwnerKey.ofRow? columns row == some k.text
  | none => []

/-- Hands each owner its rows, until one fails to take them. -/
def attachAll (path : List String) (relation : String) (columns : List String) (rows : List Row) :
    List Owner → Destination μ ε → Conversation (Destination μ ε × Option RunError)
  | [], d => .done (d, none)
  | o :: rest, d =>
    let own := rowsOf columns rows o.key
    .effect (.attach o.position path relation own)
      (match d.change (EntityType.changeAt (EntityType.attach relation own) path) o.position with
      | (d, none) => attachAll path relation columns rows rest d
      | (d, some e) => .done (d, some e))

/-- The rows of a relation, and the columns that carry an owner's key. Without keys nothing is
sent. -/
def fetchRelated (schema : Schema) (session : Session) (t : JoinTree) (keys : List OwnerKey) :
    Conversation (Except RunError (List Row × List String)) :=
  match keys with
  | [] => .done (.ok ([], []))
  | _ =>
    match t.relatedQuery schema keys with
    | .error e => .done (.error (.render (.build e)))
    | .ok (q, columns) =>
      match q.sql session.dialect .rows with
      | .error e => .done (.error (.render e))
      | .ok sql => (session.query sql).bind fun r => .done (r.map (·, columns))

/-- Loads a to-many relation. -/
def loadRelation (schema : Schema) (session : Session) (t : JoinTree) (d : Destination μ ε) :
    Conversation (Destination μ ε × Option RunError) :=
  let j := t.join
  match JoinTree.toManyAll t.children with
  | _ :: _ =>
    .done (d, some (.render (.unsupported session.dialect (.nestedToMany j.pathText))))
  | [] =>
    let path := j.path.dropLast
    let owners := ownersOf d path j.relation.baseFields
    let keys := OwnerKey.distinct [] (owners.filterMap (·.key))
    .effect (.log (.loading j.pathText owners.length keys.length))
      ((fetchRelated schema session t keys).bind fun
        | .error e => .done (d, some e)
        | .ok (rows, columns) => attachAll path j.relation.name columns rows owners d)

/-- Loads to-many relations one after the other, until one fails. -/
def loadRelations (schema : Schema) (session : Session) :
    List JoinTree → Destination μ ε → Conversation (Destination μ ε × Option RunError)
  | [], d => .done (d, none)
  | t :: rest, d =>
    (loadRelation schema session t d).bind fun
      | (d, none) => loadRelations schema session rest d
      | (d, some e) => .done (d, some e)

end

end SqlCompose
