import SqlCompose.Dialect
import SqlCompose.Run.Conversation

/-!
# Sessions

A dialect and settings, with which statements are sent. Every statement is logged: at the level of
the settings, or as a warning when it was slow or failed.
-/

namespace SqlCompose

structure Session where
  dialect : Dialect := .postgres
  config : Config := {}
deriving DecidableEq, Repr

namespace Session

/-- The log entry of a statement, or none if there is no text to log. `size` is how many rows a reply
counts. -/
def report? (s : Session) (sql : String) (size : Reply → Nat) (a : Answer) : Option Event :=
  (s.config.truncate? sql).map fun sql =>
    match a.result with
    | .ok reply =>
      if s.config.slowThreshold.any (· ≤ a.elapsed) then .slowStatement sql (size reply)
      else .statement s.config.logLevel sql (size reply)
    | .error e => .failedStatement sql e.message

theorem report?_isSome (s : Session) (sql : String) (size : Reply → Nat) (a : Answer) :
    (s.report? sql size a).isSome := by
  rw [report?, Option.isSome_map, Config.truncate?_isSome]

/-- The log entry of a statement. There is one whatever the greatest length. -/
def report (s : Session) (sql : String) (size : Reply → Nat) (a : Answer) : Event :=
  (s.report? sql size a).get (s.report?_isSome sql size a)

/-- Sends a statement, logs it, and gives its result. -/
def statement (s : Session) (sql : String) (size : Reply → Nat) :
    Conversation (Except RunError Reply) :=
  .send sql s.config.queryTimeout fun a =>
    .effect (.log (s.report sql size a)) (.done a.result)

/-- The rows that a statement gives. -/
def query (s : Session) (sql : String) : Conversation (Except RunError (List Row)) :=
  (s.statement sql (·.rows.length)).bind fun r => .done (r.map (·.rows))

/-- The first of some rows. -/
def firstRow : Except RunError (List Row) → Except RunError Row
  | .ok (row :: _) => .ok row
  | .ok [] => .error .noRow
  | .error e => .error e

/-- The first row that a statement gives. -/
def queryOne (s : Session) (sql : String) : Conversation (Except RunError Row) :=
  (s.query sql).bind fun r => .done (firstRow r)

/-- The number of rows that a statement affects. -/
def execute (s : Session) (sql : String) : Conversation (Except RunError Nat) :=
  (s.statement sql (·.affected)).bind fun r => .done (r.map (·.affected))

/-- The first row of a statement that is neither logged nor limited in time. -/
def queryOneUnlogged (sql : String) : Conversation (Except RunError Row) :=
  .send sql none fun a => .done (firstRow (a.result.map (·.rows)))

end Session

end SqlCompose
