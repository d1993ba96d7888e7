import SqlCompose.Backend.ConnectionString
import SqlCompose.Run.Error

/-!
# Connection pools

A pool of connections to one database. Creating a pool checks the connection string and connects to
nothing; connections are made when they are asked for.
-/

namespace SqlCompose

structure Pool where
  settings : List ConnectionSetting
  maxSize : Nat
  closed : Bool := false

namespace Pool

/-- How many connections a pool holds at most, unless it is told otherwise. -/
def defaultSize : Nat := 16

/-- A pool for a database. -/
def create (url : String) (maxSize : Nat) : Except RunError Pool :=
  match ConnectionString.settings? url with
  | some settings => .ok { settings, maxSize }
  | none => .error (.connection "invalid connection string")

def close (p : Pool) : Pool :=
  { p with closed := true }

/-- A connection from the pool: `connect` makes one, and says so if it could. A closed pool does not
try. -/
def checkout {γ : Type} (p : Pool) (connect : List ConnectionSetting → Option γ) :
    Except RunError γ :=
  if p.closed then .error (.pool .closed)
  else
    match connect p.settings with
    | some c => .ok c
    | none => .error (.pool .unreachable)

end Pool

end SqlCompose
