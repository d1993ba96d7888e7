import SqlCompose.Relation.Join
import SqlCompose.Text.Blank

/-!
# SELECT statements

The clauses of one SELECT, as builder calls leave them. Nothing is rendered yet, and nothing refers
to other queries: common table expressions and set operations are parts of the `Query` around it.
-/

namespace SqlCompose

/-- A condition, or several in parentheses. -/
inductive WhereItem where
  | cond (c : Condition)
  | group (connective : Connective) (items : List WhereItem)

namespace WhereItem

def connective : WhereItem → Connective
  | .cond c => c.connective
  | .group c _ => c

/-- A call inside a group of conditions. -/
inductive Call where
  | cond (connective : Connective) (template : String) (args : List Value)
  | group (separator : String) (calls : List Call)

end WhereItem

/-- The connective a word asks for: `or` in any case between any blanks, and otherwise `and`. -/
def Connective.ofWord (word : String) : Connective :=
  if (Text.trim word.toList).map Char.toLower = ['o', 'r'] then .or else .and

namespace WhereItem

mutual

/-- The item of a call. A group without items leaves none. -/
def ofCall : Call → List WhereItem
  | .cond connective template args => [.cond ⟨connective, .template template args⟩]
  | .group separator calls =>
    match ofCalls calls with
    | [] => []
    | items => [.group (.ofWord separator) items]

/-- The items of calls, in order. -/
def ofCalls : List Call → List WhereItem
  | [] => []
  | c :: rest => ofCall c ++ ofCalls rest

end

end WhereItem

/-- Which rows of a table with a deletion mark are seen. -/
inductive DeletedRows where
  | hidden
  | only
  | shown
deriving DecidableEq, Repr

/-- A join in the caller's own words. -/
structure ManualJoin where
  join : Node
  on : List Condition := []

/-- The clauses of one SELECT. `error` holds the first builder call that made no sense. -/
structure Select where
  table : Option Table := none
  distinct : Bool := false
  distinctOn : List Node := []
  /-- Written in place of the bound table. -/
  modelTable : Option Node := none
  tables : List Node := []
  columns : List Node := []
  excluded : List String := []
  wheres : List WhereItem := []
  deleted : DeletedRows := .hidden
  joins : List ManualJoin := []
  relations : List JoinTree := []
  group : List Node := []
  having : List Node := []
  order : List Node := []
  limit : Option Int := none
  offset : Option Int := none
  lock : Option Node := none
  error : Option BuildError := none

namespace Select

/-- Keeps the first error. -/
def fail (s : Select) (e : BuildError) : Select :=
  { s with error := s.error.orElse fun _ => some e }

def isExcluded (s : Select) (name : String) : Bool :=
  s.excluded.contains name

/-- The columns of the bound table that are not excluded, by field or by column name. -/
def modelColumns (s : Select) (t : Table) : List String :=
  (t.fields.filter fun f => !s.isExcluded f.name && !s.isExcluded f.column).map (·.column)

/-- Whether the rows of the statement cannot be counted by its column list alone. -/
def needsCountWrapper (s : Select) : Bool :=
  !s.group.isEmpty || s.distinct || !s.distinctOn.isEmpty

end Select

end SqlCompose
