import SqlCompose.Calendar.Timestamp
import SqlCompose.Json.Basic
import SqlCompose.Uuid

/-!
# Values

What a query takes as arguments and what a row holds. Names and trusted SQL travel among the
arguments too: they belong to the shape of a query and not to its data.
-/

namespace SqlCompose

inductive Value where
  | null
  | bool (b : Bool)
  | int (n : Int64)
  | float (x : Binary64)
  | text (s : String)
  | bytes (bytes : List UInt8)
  | json (j : Json)
  | uuid (u : Uuid)
  | timestamp (t : Timestamp)
  /-- Several values in one place, as in `id IN (?)`. -/
  | list (items : List Value)
  /-- A name, quoted and never escaped as a value. -/
  | ident (name : String)
  /-- Trusted SQL, written as it is. -/
  | safe (sql : String)

namespace Value

instance : Inhabited Value := ⟨.null⟩

def isNull : Value → Bool
  | .null => true
  | _ => false

/-- Names and trusted SQL are part of a query's shape. -/
def isStructural : Value → Bool
  | .ident _ => true
  | .safe _ => true
  | _ => false

end Value

end SqlCompose
