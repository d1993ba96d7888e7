import SqlCompose.Run.Relations

/-!
# Running queries

Scanning a query into a destination, counting its rows, and executing it as a statement.
-/

namespace SqlCompose

section

variable {μ ε : Type} [EntityType ε μ]

/-- Tells the entities, from a position on, that they were selected, until one fails. -/
def selectAll (position : Nat) : (count : Nat) → Destination μ ε →
    Conversation (Destination μ ε × Option RunError)
  | 0, d => .done (d, none)
  | count + 1, d =>
    .effect (.selected position)
      (match d.change EntityType.select position with
      | (d, none) => selectAll (position + 1) count d
      | (d, some e) => .done (d, some e))

namespace Query

/-- What follows once the rows are in the destination: relations are loaded, and the entities are
told that they were selected. Without a bound table neither happens. -/
def afterFill (schema : Schema) (session : Session) (q : Query) (rows : Nat)
    (d : Destination μ ε) : Conversation (Destination μ ε × Except RunError Nat) :=
  if q.select.table.isNone then .done (d, .ok rows)
  else
    let relations := if rows = 0 then [] else JoinTree.toManyAll q.select.relations
    (loadRelations schema session relations d).bind fun
      | (d, some e) => .done (d, .error e)
      | (d, none) =>
        (selectAll 0 d.items.length d).bind fun
          | (d, some e) => .done (d, .error e)
          | (d, none) => .done (d, .ok rows)

/-- Fills a destination with the rows of the query and gives their number. -/
def scan (schema : Schema) (models : Nat → μ) (session : Session) (q : Query)
    (d : Destination μ ε) : Conversation (Destination μ ε × Except RunError Nat) :=
  match q.sql session.dialect .rows with
  | .error e => .done (d, .error (.render e))
  | .ok sql =>
    (session.query sql).bind fun
      | .error e => .done (d, .error e)
      | .ok rows =>
        match d.fill models rows with
        | (d, some e) => .done (d, .error e)
        | (d, none) => afterFill schema session q d.size d

end Query

end

namespace Query

/-- The number in the first column of a row. -/
def countOf (row : Row) : Except RunError Int :=
  match row.getAt ⟨.integer .i64, false⟩ 0 with
  | .ok (.int n) => .ok n.toInt
  | .ok _ => .ok 0
  | .error e => .error (.decode e)

/-- The number of the query's rows. -/
def count (session : Session) (q : Query) : Conversation (Except RunError Int) :=
  match q.sql session.dialect .count with
  | .error e => .done (.error (.render e))
  | .ok sql =>
    (session.queryOne sql).bind fun
      | .error e => .done (.error e)
      | .ok row => .done (countOf row)

/-- Sends the query as a statement and gives the number of affected rows. -/
def execute (session : Session) (q : Query) : Conversation (Except RunError Nat) :=
  match q.sql session.dialect .rows with
  | .error e => .done (.error (.render e))
  | .ok sql => session.execute sql

end Query

end SqlCompose
