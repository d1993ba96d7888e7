import SqlCompose.Query.Basic
import SqlCompose.Select.Clauses

/-!
# Rendering queries

The whole query as a fragment, and the fragment as SQL. To count the rows of a query, its column
list is replaced by `count(*)`; where that would count something else, because rows are grouped or
made distinct, the query becomes a table whose rows are counted.
-/

namespace SqlCompose

/-- Puts the query whose rows are counted into a counting query. -/
def countWrapper (t : Target) (f : Fragment) : Fragment :=
  if t.features.has .cte then
    .text "WITH _count_wrapper AS " ++ .parens f ++ .text " SELECT " ++ rowCount ++
      .text " FROM _count_wrapper"
  else .text "SELECT " ++ rowCount ++ .text " FROM " ++ .parens f ++ .text " AS _count_wrapper"

mutual

/-- A query. Of a query with members the first SELECT stands in parentheses, like the others. -/
def Query.fragment (t : Target) (form : Form) : Query → Fragment
  | .mk s ctes members =>
    match s.error with
    | some e => .fail (.build e)
    | none =>
      let first := withClause t ctes ++ s.fragment t form
      let whole := match members with
        | [] => first
        | _ => .parens first ++ memberFragments t members
      if form = .count ∧ s.needsCountWrapper then countWrapper t whole else whole

/-- The common table expressions before a SELECT. -/
def withClause (t : Target) : List Cte → Fragment
  | [] => .empty
  | c :: rest =>
    t.require .cte ++ .text "WITH " ++ c.fragment t ++ furtherCtes t rest ++ .text " "

/-- Common table expressions, each behind a comma. -/
def furtherCtes (t : Target) : List Cte → Fragment
  | [] => .empty
  | c :: rest => .text ", " ++ c.fragment t ++ furtherCtes t rest

/-- A common table expression. VALUES lists name their columns. -/
def Cte.fragment (t : Target) : Cte → Fragment
  | .query name q =>
    .text (t.dialect.ident name ++ " AS ") ++ .parens (q.fragment t .rows)
  | .values name v =>
    .text (t.dialect.ident name ++ " ") ++ .parens (v.columns t.dialect) ++ .text " AS " ++
      .parens (v.fragment t)

/-- The members of a set operation, each behind its operator. -/
def memberFragments (t : Target) : List Member → Fragment
  | [] => .empty
  | .mk operator q :: rest =>
    .text operator.text ++ .parens (q.fragment t .rows) ++ memberFragments t rest

end

/-- A query as SQL of a dialect. -/
def Query.render (d : Dialect) (m : Mode) (form : Form) (q : Query) :
    Except RenderError Rendered :=
  (q.fragment (d.target m) form).write d m

/-- The SQL of a query with its arguments as literals. -/
def Query.sql (d : Dialect) (form : Form) (q : Query) : Except RenderError String :=
  (q.render d .literal form).map (·.sql)

/-- A VALUES list as SQL of a dialect. -/
def Values.render (d : Dialect) (m : Mode) (v : Values) : Except RenderError Rendered :=
  (v.fragment (d.target m)).write d m

end SqlCompose
