import SqlCompose.Calendar.Duration
import SqlCompose.Error
import SqlCompose.Value.Decode

/-!
# Errors of execution

Everything that running a query can fail with: the query itself, the connection, the database, a
column that cannot be read, an answer that takes too long.
-/

namespace SqlCompose

/-- Why a pool has no connection to give. -/
inductive PoolError where
  | closed
  | unreachable
deriving DecidableEq, Repr

def PoolError.message : PoolError → String
  | .closed => "Pool has been closed"
  | .unreachable => "Error occurred while creating a new object: error connecting to server"

inductive RunError where
  | render (e : RenderError)
  | connection (message : String)
  /-- The database refused a statement. -/
  | query (message : String)
  | notFound (message : String)
  | decode (e : DecodeError)
  | pool (e : PoolError)
  /-- No answer within so many milliseconds. -/
  | timeout (milliseconds : Nat)
  | other (message : String)

namespace RunError

/-- A query that was to give one row gave none. -/
def noRow : RunError := .notFound "Expected one row, got none"

def message : RunError → String
  | .render e => e.message
  | .connection message => "Connection error: " ++ message
  | .query message => "Query error: " ++ message
  | .notFound message => "Not found: " ++ message
  | .decode e => e.message
  | .pool e => "Pool error: " ++ e.message
  | .timeout milliseconds => "Query timeout after " ++ durationText milliseconds
  | .other message => message

end RunError

end SqlCompose
