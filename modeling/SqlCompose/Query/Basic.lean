import SqlCompose.Select.Basic
import SqlCompose.Values

/-!
# Queries

A query is a SELECT with common table expressions before it and members of set operations behind it,
all of which are queries or VALUES lists themselves.
-/

namespace SqlCompose

/-- The operators between the members of a set operation. -/
inductive SetOperator where
  | union
  | unionAll
  | intersect
  | intersectAll
  | except
  | exceptAll
deriving DecidableEq, Repr

def SetOperator.text : SetOperator → String
  | .union => " UNION "
  | .unionAll => " UNION ALL "
  | .intersect => " INTERSECT "
  | .intersectAll => " INTERSECT ALL "
  | .except => " EXCEPT "
  | .exceptAll => " EXCEPT ALL "

mutual

inductive Query where
  | mk (select : Select) (ctes : List Cte) (members : List Member)

/-- A common table expression. -/
inductive Cte where
  | query (name : String) (q : Query)
  | values (name : String) (v : Values)

/-- A further member of a set operation, with the operator before it. -/
inductive Member where
  | mk (operator : SetOperator) (q : Query)

end

namespace Query

/-- The query without any clause. -/
def empty : Query := .mk {} [] []

instance : Inhabited Query := ⟨empty⟩

def select : Query → Select
  | .mk s _ _ => s

def ctes : Query → List Cte
  | .mk _ cs _ => cs

def members : Query → List Member
  | .mk _ _ ms => ms

/-- Changes the query's own clauses. -/
def mapSelect (f : Select → Select) : Query → Query
  | .mk s cs ms => .mk (f s) cs ms

/-- The first builder error. -/
def error? (q : Query) : Option BuildError := q.select.error

@[simp] theorem select_mapSelect (f : Select → Select) (q : Query) :
    (q.mapSelect f).select = f q.select := by
  cases q; rfl

end Query

end SqlCompose
