import SqlCompose.Query.Call
import SqlCompose.Query.Render

/-!
# What a counting query counts

An outline is the text of a query with its parentheses as a tree, so that it shows at which level a
`count(*)` and a set operator stand. A counting query counts the rows of the whole query when its
outermost statement is a single `count(*)` with all set operators in the parentheses below it. That
is so for queries that are wrapped to be counted, and for those without a set operation: of other
set operations only the first member is counted, and its number becomes a row among the rows of the
other members.
-/

namespace SqlCompose

/-- The operator before a member. -/
def Member.operator : Member → SetOperator
  | .mk operator _ => operator

/-- The set operators of a query itself. -/
def Query.operators (q : Query) : List SetOperator :=
  q.members.map Member.operator

/-! ## Outlines -/

/-- A part of the text of a query. -/
inductive Outline where
  /-- A text without set operators of its own. -/
  | sql (f : Fragment)
  | rowCount
  | operator (o : SetOperator)
  | parens (inside : List Outline)

namespace Outline

mutual

/-- The text of a part. -/
def fragment : Outline → Fragment
  | .sql f => f
  | .rowCount => SqlCompose.rowCount
  | .operator o => .text o.text
  | .parens inside => .parens (fragments inside)

/-- The text of parts in a row. -/
def fragments : List Outline → Fragment
  | [] => .empty
  | x :: rest => x.fragment ++ fragments rest

end

@[simp] theorem fragments_nil : fragments [] = .empty := by
  rw [fragments]

@[simp] theorem fragments_cons (x : Outline) (xs : List Outline) :
    fragments (x :: xs) = x.fragment ++ fragments xs := by
  rw [fragments]

@[simp] theorem fragments_append (xs ys : List Outline) :
    fragments (xs ++ ys) = fragments xs ++ fragments ys := by
  induction xs with
  | nil => simp
  | cons x xs ih => simp [ih, Fragment.append_assoc]

mutual

/-- How often a part says `count(*)`, at any level. -/
def rowCounts : Outline → Nat
  | .sql _ => 0
  | .rowCount => 1
  | .operator _ => 0
  | .parens inside => rowCountsAll inside

def rowCountsAll : List Outline → Nat
  | [] => 0
  | x :: rest => x.rowCounts + rowCountsAll rest

end

@[simp] theorem rowCountsAll_nil : rowCountsAll [] = 0 := by
  rw [rowCountsAll]

@[simp] theorem rowCountsAll_cons (x : Outline) (xs : List Outline) :
    rowCountsAll (x :: xs) = x.rowCounts + rowCountsAll xs := by
  rw [rowCountsAll]

@[simp] theorem rowCountsAll_append (xs ys : List Outline) :
    rowCountsAll (xs ++ ys) = rowCountsAll xs + rowCountsAll ys := by
  induction xs with
  | nil => simp
  | cons x xs ih => simp [ih, Nat.add_assoc]

@[simp] def isRowCount : Outline → Bool
  | .rowCount => true
  | _ => false

@[simp] def operator? : Outline → Option SetOperator
  | .operator o => some o
  | _ => none

@[simp] def body? : Outline → Option (List Outline)
  | .parens inside => some inside
  | _ => none

/-- The set operators at the outermost level. -/
def operators (xs : List Outline) : List SetOperator :=
  xs.filterMap operator?

/-- What stands in the parentheses of the outermost level. -/
def bodies (xs : List Outline) : List (List Outline) :=
  xs.filterMap body?

/-- How many numbers of rows are selected at the outermost level. -/
def selectedCounts (xs : List Outline) : Nat :=
  xs.countP isRowCount

@[simp] theorem operators_nil : operators [] = [] := rfl

@[simp] theorem operators_cons (x : Outline) (xs : List Outline) :
    operators (x :: xs) = x.operator?.toList ++ operators xs := by
  cases x <;> rfl

@[simp] theorem bodies_nil : bodies [] = [] := rfl

@[simp] theorem bodies_cons (x : Outline) (xs : List Outline) :
    bodies (x :: xs) = x.body?.toList ++ bodies xs := by
  cases x <;> rfl

@[simp] theorem selectedCounts_nil : selectedCounts [] = 0 := rfl

@[simp] theorem selectedCounts_cons (x : Outline) (xs : List Outline) :
    selectedCounts (x :: xs) = selectedCounts xs + if x.isRowCount then 1 else 0 :=
  List.countP_cons

@[simp] theorem operators_append (xs ys : List Outline) :
    operators (xs ++ ys) = operators xs ++ operators ys :=
  List.filterMap_append

@[simp] theorem selectedCounts_append (xs ys : List Outline) :
    selectedCounts (xs ++ ys) = selectedCounts xs + selectedCounts ys :=
  List.countP_append

/-- A text that counts the rows of a whole query with some set operators: one `count(*)`, at the
outermost level, and the set operators in the only parentheses below it. -/
structure CountsWhole (own : List SetOperator) (xs : List Outline) : Prop where
  outermost : selectedCounts xs = 1
  nowhere_else : rowCountsAll xs = 1
  uncombined : operators xs = []
  inside : own ≠ [] → ∃ body, bodies xs = [body] ∧ operators body = own

/-- A text that counts the rows of the first member of a set operation. The set operators stand
between the number and the rows of the other members. -/
structure CountsFirst (own : List SetOperator) (xs : List Outline) : Prop where
  outermost : selectedCounts xs = 0
  combined : own ≠ [] ∧ operators xs = own
  first : ∃ body others, bodies xs = body :: others ∧ CountsWhole [] body ∧
    ∀ other ∈ others, rowCountsAll other = 0

theorem CountsFirst.not_countsWhole {own : List SetOperator} {xs : List Outline}
    (h : CountsFirst own xs) : ¬ CountsWhole own xs := by
  intro hwhole
  have one := hwhole.outermost
  rw [h.outermost] at one
  cases one

end Outline

/-! ## The outline of a query -/

def Select.outline (t : Target) (s : Select) (form : Form) : List Outline :=
  [ .sql (.text "SELECT " ++ s.distinctClause t),
    if form = .count ∧ !s.needsCountWrapper then .rowCount else .sql (s.columnList t),
    .sql (s.fromClause t ++ s.joinClauses t ++ s.whereClause t ++
      s.keywordList t " GROUP BY " s.group ++ s.havingClause t ++ s.tail t form) ]

/-- The outline of a query whose rows are counted by another one. -/
def countWrapperOutline (t : Target) (inside : List Outline) : List Outline :=
  if t.features.has .cte then
    [ .sql (.text "WITH _count_wrapper AS "), .parens inside, .sql (.text " SELECT "), .rowCount,
      .sql (.text " FROM _count_wrapper") ]
  else
    [ .sql (.text "SELECT "), .rowCount, .sql (.text " FROM "), .parens inside,
      .sql (.text " AS _count_wrapper") ]

mutual

def Query.outline (t : Target) (form : Form) : Query → List Outline
  | .mk s ctes members =>
    match s.error with
    | some e => [.sql (.fail (.build e))]
    | none =>
      let first := withOutline t ctes ++ s.outline t form
      let whole := match members with
        | [] => first
        | _ => .parens first :: memberOutlines t members
      if form = .count ∧ s.needsCountWrapper then countWrapperOutline t whole else whole

def withOutline (t : Target) : List Cte → List Outline
  | [] => []
  | c :: rest =>
    .sql (t.require .cte ++ .text "WITH ") :: (c.outline t ++ furtherOutlines t rest) ++
      [.sql (.text " ")]

def furtherOutlines (t : Target) : List Cte → List Outline
  | [] => []
  | c :: rest => .sql (.text ", ") :: (c.outline t ++ furtherOutlines t rest)

def Cte.outline (t : Target) : Cte → List Outline
  | .query name q =>
    [.sql (.text (t.dialect.ident name ++ " AS ")), .parens (q.outline t .rows)]
  | .values name v =>
    [ .sql (.text (t.dialect.ident name ++ " ")), .parens [.sql (v.columns t.dialect)],
      .sql (.text " AS "), .parens [.sql (v.fragment t)] ]

def memberOutlines (t : Target) : List Member → List Outline
  | [] => []
  | .mk operator q :: rest =>
    .operator operator :: .parens (q.outline t .rows) :: memberOutlines t rest

end

section

variable (t : Target)

theorem Select.fragments_outline (s : Select) (form : Form) :
    Outline.fragments (s.outline t form) = s.fragment t form := by
  have selected : (if form = .count ∧ (!s.needsCountWrapper) = true then Outline.rowCount
      else .sql (s.columnList t)).fragment = s.selection t form := by
    unfold selection
    split <;> rw [Outline.fragment]
  simp only [outline, Outline.fragments_cons, Outline.fragments_nil, selected, Outline.fragment,
    Fragment.append_empty, Fragment.append_assoc, fragment]

theorem fragments_countWrapperOutline (inside : List Outline) :
    Outline.fragments (countWrapperOutline t inside) =
      countWrapper t (Outline.fragments inside) := by
  unfold countWrapperOutline countWrapper
  split <;> simp [Outline.fragment, Fragment.append_assoc]

mutual

/-- The outline has the text of the query. -/
theorem Query.fragments_outline (form : Form) (q : Query) :
    Outline.fragments (q.outline t form) = q.fragment t form := by
  obtain ⟨s, ctes, members⟩ := q
  rw [Query.outline, Query.fragment]
  cases s.error with
  | some e => simp [Outline.fragment]
  | none =>
    have first : Outline.fragments (withOutline t ctes ++ s.outline t form) =
        withClause t ctes ++ s.fragment t form := by
      rw [Outline.fragments_append, fragments_withOutline ctes, s.fragments_outline]
    have behind := fragments_memberOutlines members
    cases members with
    | nil =>
      dsimp only
      split
      · rw [fragments_countWrapperOutline, first]
      · exact first
    | cons m rest =>
      dsimp only
      split
      · rw [fragments_countWrapperOutline, Outline.fragments_cons, Outline.fragment, first, behind]
      · rw [Outline.fragments_cons, Outline.fragment, first, behind]

theorem fragments_withOutline (ctes : List Cte) :
    Outline.fragments (withOutline t ctes) = withClause t ctes := by
  cases ctes with
  | nil => simp [withOutline, withClause]
  | cons c rest =>
    simp only [withOutline, withClause, List.cons_append, Outline.fragments_cons,
      Outline.fragments_append, Outline.fragments_nil, Outline.fragment, Fragment.append_empty,
      Fragment.append_assoc, Cte.fragments_outline c, fragments_furtherOutlines rest]

theorem fragments_furtherOutlines (ctes : List Cte) :
    Outline.fragments (furtherOutlines t ctes) = furtherCtes t ctes := by
  cases ctes with
  | nil => simp [furtherOutlines, furtherCtes]
  | cons c rest =>
    simp only [furtherOutlines, furtherCtes, Outline.fragments_cons, Outline.fragments_append,
      Outline.fragment, Fragment.append_assoc, Cte.fragments_outline c,
      fragments_furtherOutlines rest]

theorem Cte.fragments_outline (c : Cte) : Outline.fragments (c.outline t) = c.fragment t := by
  cases c with
  | query name q =>
    simp [Cte.outline, Cte.fragment, Outline.fragment, Query.fragments_outline .rows q]
  | values name v =>
    simp [Cte.outline, Cte.fragment, Outline.fragment, Fragment.append_assoc]

theorem fragments_memberOutlines (members : List Member) :
    Outline.fragments (memberOutlines t members) = memberFragments t members := by
  cases members with
  | nil => simp [memberOutlines, memberFragments]
  | cons m rest =>
    obtain ⟨operator, q⟩ := m
    simp only [memberOutlines, memberFragments, Outline.fragments_cons, Outline.fragment,
      Fragment.append_assoc, Query.fragments_outline .rows q, fragments_memberOutlines rest]

end

/-! ## Where the number stands -/

theorem Select.rowCountsAll_outline (s : Select) (form : Form) :
    Outline.rowCountsAll (s.outline t form) =
      if form = .count ∧ !s.needsCountWrapper then 1 else 0 := by
  unfold outline
  split <;> simp [Outline.rowCounts]

theorem Select.rowCountsAll_outline_rows (s : Select) :
    Outline.rowCountsAll (s.outline t .rows) = 0 := by
  simp [s.rowCountsAll_outline]

mutual

/-- Nothing is counted where rows are asked for. -/
theorem Query.rowCountsAll_outline (q : Query) : Outline.rowCountsAll (q.outline t .rows) = 0 := by
  obtain ⟨s, ctes, members⟩ := q
  rw [Query.outline]
  cases s.error with
  | some e => simp [Outline.rowCounts]
  | none =>
    have first : Outline.rowCountsAll (withOutline t ctes ++ s.outline t .rows) = 0 := by
      simp [rowCountsAll_withOutline ctes, s.rowCountsAll_outline_rows]
    cases members with
    | nil => simpa using first
    | cons m rest => simpa [Outline.rowCounts, rowCountsAll_memberOutlines (m :: rest)] using first

theorem rowCountsAll_withOutline (ctes : List Cte) :
    Outline.rowCountsAll (withOutline t ctes) = 0 := by
  cases ctes with
  | nil => simp [withOutline]
  | cons c rest =>
    simp [withOutline, Outline.rowCounts, Cte.rowCountsAll_outline c,
      rowCountsAll_furtherOutlines rest]

theorem rowCountsAll_furtherOutlines (ctes : List Cte) :
    Outline.rowCountsAll (furtherOutlines t ctes) = 0 := by
  cases ctes with
  | nil => simp [furtherOutlines]
  | cons c rest =>
    simp [furtherOutlines, Outline.rowCounts, Cte.rowCountsAll_outline c,
      rowCountsAll_furtherOutlines rest]

theorem Cte.rowCountsAll_outline (c : Cte) : Outline.rowCountsAll (c.outline t) = 0 := by
  cases c with
  | query name q => simp [Cte.outline, Outline.rowCounts, Query.rowCountsAll_outline q]
  | values name v => simp [Cte.outline, Outline.rowCounts]

theorem rowCountsAll_memberOutlines (members : List Member) :
    Outline.rowCountsAll (memberOutlines t members) = 0 := by
  cases members with
  | nil => simp [memberOutlines]
  | cons m rest =>
    obtain ⟨operator, q⟩ := m
    simp [memberOutlines, Outline.rowCounts, Query.rowCountsAll_outline q,
      rowCountsAll_memberOutlines rest]

end

/-- Neither a number nor a set operator stands beside the parentheses of a common table
expression. -/
theorem Cte.outermost_outline (c : Cte) :
    Outline.selectedCounts (c.outline t) = 0 ∧ Outline.operators (c.outline t) = [] := by
  cases c <;> rw [Cte.outline] <;> exact ⟨rfl, rfl⟩

theorem outermost_furtherOutlines (ctes : List Cte) :
    Outline.selectedCounts (furtherOutlines t ctes) = 0 ∧
      Outline.operators (furtherOutlines t ctes) = [] := by
  induction ctes with
  | nil =>
    rw [furtherOutlines]
    exact ⟨rfl, rfl⟩
  | cons c rest ih =>
    obtain ⟨counts, operators⟩ := c.outermost_outline t
    simp [furtherOutlines, counts, operators, ih]

theorem outermost_withOutline (ctes : List Cte) :
    Outline.selectedCounts (withOutline t ctes) = 0 ∧
      Outline.operators (withOutline t ctes) = [] := by
  cases ctes with
  | nil =>
    rw [withOutline]
    exact ⟨rfl, rfl⟩
  | cons c rest =>
    obtain ⟨counts, operators⟩ := c.outermost_outline t
    obtain ⟨counts', operators'⟩ := outermost_furtherOutlines t rest
    simp [withOutline, counts, operators, counts', operators']

theorem selectedCounts_memberOutlines (members : List Member) :
    Outline.selectedCounts (memberOutlines t members) = 0 := by
  induction members with
  | nil => simp [memberOutlines]
  | cons m rest ih =>
    obtain ⟨operator, q⟩ := m
    simp [memberOutlines, ih]

/-- The operators of a set operation stand between its members. -/
theorem operators_memberOutlines (members : List Member) :
    Outline.operators (memberOutlines t members) = members.map Member.operator := by
  induction members with
  | nil => simp [memberOutlines]
  | cons m rest ih =>
    obtain ⟨operator, q⟩ := m
    simp [memberOutlines, Member.operator, ih]

theorem rowCountsAll_of_mem_bodies_memberOutlines {members : List Member} {body : List Outline}
    (h : body ∈ Outline.bodies (memberOutlines t members)) : Outline.rowCountsAll body = 0 := by
  induction members with
  | nil => simp [memberOutlines] at h
  | cons m rest ih =>
    obtain ⟨operator, q⟩ := m
    simp only [memberOutlines, Outline.bodies_cons, Outline.body?, Option.toList_none,
      Option.toList_some, List.nil_append, List.singleton_append, List.mem_cons] at h
    rcases h with rfl | h
    · exact q.rowCountsAll_outline t
    · exact ih h

/-! ## What is counted -/

/-- A query that is put into a counting one is counted whole. -/
theorem countsWhole_countWrapperOutline {inside : List Outline}
    (h : Outline.rowCountsAll inside = 0) :
    Outline.CountsWhole (Outline.operators inside) (countWrapperOutline t inside) := by
  unfold countWrapperOutline
  split
  all_goals
    exact ⟨by simp, by simp [Outline.rowCounts, h], by simp, fun _ => ⟨inside, by simp, rfl⟩⟩

/-- A SELECT whose column list is `count(*)` counts its rows. -/
theorem countsWhole_first (ctes : List Cte) {s : Select} (h : s.needsCountWrapper = false) :
    Outline.CountsWhole [] (withOutline t ctes ++ s.outline t .count) := by
  obtain ⟨counts, operators⟩ := outermost_withOutline t ctes
  refine ⟨?_, ?_, ?_, fun hne => absurd rfl hne⟩
  · simp [counts, Select.outline, h]
  · simp [rowCountsAll_withOutline, s.rowCountsAll_outline, h]
  · simp [operators, Select.outline, h]

/-- In a set operation that is not put into a counting query the first member counts its rows. -/
theorem countsFirst_memberOutlines (ctes : List Cte) {s : Select} {members : List Member}
    (h : s.needsCountWrapper = false) (hmembers : members ≠ []) :
    Outline.CountsFirst (members.map Member.operator)
      (.parens (withOutline t ctes ++ s.outline t .count) :: memberOutlines t members) := by
  refine ⟨?_, ⟨by simpa using hmembers, ?_⟩, ?_⟩
  · simp [selectedCounts_memberOutlines]
  · simp [operators_memberOutlines]
  · exact ⟨_, _, Outline.bodies_cons _ _, countsWhole_first t ctes h,
      fun _ => rowCountsAll_of_mem_bodies_memberOutlines t⟩

theorem Query.countsWhole_of_needsCountWrapper {q : Query} (herror : q.error? = none)
    (h : q.select.needsCountWrapper = true) :
    Outline.CountsWhole q.operators (q.outline t .count) := by
  obtain ⟨s, ctes, members⟩ := q
  simp only [error?, select] at herror h
  have first : Outline.rowCountsAll (withOutline t ctes ++ s.outline t .count) = 0 := by
    simp [rowCountsAll_withOutline, s.rowCountsAll_outline, h]
  simp only [outline, herror, h, and_self, if_true]
  cases members with
  | nil =>
    have none : Outline.operators (withOutline t ctes ++ s.outline t .count) = [] := by
      simp [outermost_withOutline, Select.outline, h]
    have whole := countsWhole_countWrapperOutline t first
    rwa [none] at whole
  | cons m rest =>
    have together : Outline.rowCountsAll (.parens (withOutline t ctes ++ s.outline t .count) ::
        memberOutlines t (m :: rest)) = 0 := by
      simp [Outline.rowCounts, first, rowCountsAll_memberOutlines]
    have whole := countsWhole_countWrapperOutline t together
    simpa [operators_memberOutlines, Query.operators, members] using whole

theorem Query.countsWhole_of_operators_eq_nil {q : Query} (herror : q.error? = none)
    (h : q.select.needsCountWrapper = false) (hoperators : q.operators = []) :
    Outline.CountsWhole q.operators (q.outline t .count) := by
  rw [hoperators]
  obtain ⟨s, ctes, members⟩ := q
  obtain rfl : members = [] := List.map_eq_nil_iff.mp hoperators
  simp only [error?, select] at herror h
  simpa [outline, herror, h] using countsWhole_first t ctes h

theorem Query.countsFirst_of_operators_ne_nil {q : Query} (herror : q.error? = none)
    (h : q.select.needsCountWrapper = false) (hoperators : q.operators ≠ []) :
    Outline.CountsFirst q.operators (q.outline t .count) := by
  obtain ⟨s, ctes, members⟩ := q
  simp only [error?, select] at herror h
  cases members with
  | nil => exact absurd rfl hoperators
  | cons m rest =>
    simpa [outline, herror, h, Query.operators, members] using
      countsFirst_memberOutlines t ctes h (List.cons_ne_nil m rest)

end

theorem Query.error?_of_render_eq_ok {d : Dialect} {m : Mode} {form : Form} {q : Query}
    {r : Rendered} (h : q.render d m form = .ok r) : q.error? = none := by
  obtain ⟨s, ctes, members⟩ := q
  cases herror : s.error with
  | none => exact herror
  | some e => simp [render, fragment, herror, Fragment.write] at h

/-- A counting query counts the rows of the whole query if it is wrapped or has no set operation,
and of all others it counts the first member alone. -/
theorem Query.countsWhole_iff {d : Dialect} {m : Mode} {q : Query} {r : Rendered}
    (h : q.render d m .count = .ok r) :
    (∃ ps, Outline.fragments (q.outline (d.target m) .count) = .ok ps ∧ Piece.write d ps m = r) ∧
      (Outline.CountsWhole q.operators (q.outline (d.target m) .count) ↔
        q.operators = [] ∨ q.select.needsCountWrapper = true) ∧
      (Outline.CountsFirst q.operators (q.outline (d.target m) .count) ↔
        q.operators ≠ [] ∧ q.select.needsCountWrapper = false) := by
  have herror := Query.error?_of_render_eq_ok h
  refine ⟨?_, ?_⟩
  · rw [q.fragments_outline]
    rw [render] at h
    cases hf : q.fragment (d.target m) .count with
    | ok ps => exact ⟨ps, rfl, by simpa [hf, Fragment.write] using h⟩
    | fail e => simp [hf, Fragment.write] at h
  · cases hwrapped : q.select.needsCountWrapper with
    | true =>
      have whole := Query.countsWhole_of_needsCountWrapper (d.target m) herror hwrapped
      exact ⟨iff_of_true whole (.inr rfl),
        iff_of_false (fun first => first.not_countsWhole whole) (by simp)⟩
    | false =>
      by_cases hoperators : q.operators = []
      · have whole :=
          Query.countsWhole_of_operators_eq_nil (d.target m) herror hwrapped hoperators
        exact ⟨iff_of_true whole (.inl hoperators),
          iff_of_false (fun first => first.not_countsWhole whole) fun hne => hne.1 hoperators⟩
      · have first := Query.countsFirst_of_operators_ne_nil (d.target m) herror hwrapped hoperators
        exact ⟨iff_of_false first.not_countsWhole (by simp [hoperators]),
          iff_of_true first ⟨hoperators, rfl⟩⟩

/-- A union of distinct rows is wrapped, and counted whole. -/
theorem Query.countsWhole_distinct_union :
    let q := ofCalls ⟨[]⟩
      [.table ["a"], .distinct, .member .union (ofCalls ⟨[]⟩ [.table ["b"]])]
    q.sql .postgres .count = .ok ("WITH _count_wrapper AS ((SELECT DISTINCT * FROM \"a\") " ++
        "UNION (SELECT * FROM \"b\")) SELECT count(*) FROM _count_wrapper") ∧
      q.operators = [.union] ∧
      Outline.CountsWhole q.operators (q.outline (Dialect.target .postgres .literal) .count) := by
  intro q
  refine ⟨rfl, rfl, ?_⟩
  exact (Query.countsWhole_iff (d := .postgres) (m := .literal) (q := q) rfl).2.1.mpr (.inr rfl)

/-- Without the wrapper the number of the rows of one table is a row of the union. -/
theorem Query.not_countsWhole_union :
    let q := ofCalls ⟨[]⟩ [.table ["a"], .member .union (ofCalls ⟨[]⟩ [.table ["b"]])]
    q.sql .postgres .count = .ok "(SELECT count(*) FROM \"a\") UNION (SELECT * FROM \"b\")" ∧
      ¬ Outline.CountsWhole q.operators (q.outline (Dialect.target .postgres .literal) .count) :=
  ⟨rfl, fun h => absurd h.outermost (by decide)⟩

end SqlCompose
