import SqlCompose.Proofs.DepthLimit
import SqlCompose.Proofs.Modes
import SqlCompose.Proofs.Places
import SqlCompose.Proofs.Writing

/-!
# The rows that a counting query counts

To count the rows of a query is to render another query for its rows: one without order, limits and
lock, which is put into a counting query if its rows are grouped or made distinct, and which selects
`count(*)` alone if they are not. Nothing of the dropped clauses is left, neither text nor
arguments, and every join stays.
-/

namespace SqlCompose

namespace Fragment

/-! ## Fragments with the same pieces -/

/-- The same pieces, if there are any. Two fragments that fail may do so for different reasons. -/
def SamePieces (f g : Fragment) : Prop :=
  ∀ ps, f = .ok ps ↔ g = .ok ps

variable {f g : Fragment}

theorem SamePieces.of_eq (h : f = g) : SamePieces f g := by
  intro ps
  rw [h]

theorem SamePieces.of_fail (hf : f.error? ≠ none) (hg : g.error? ≠ none) : SamePieces f g := by
  intro ps
  refine iff_of_false ?_ ?_
  · rintro rfl
    exact hf rfl
  · rintro rfl
    exact hg rfl

theorem SamePieces.append_left (h : SamePieces f g) (before : Fragment) :
    SamePieces (before ++ f) (before ++ g) := by
  intro ps
  simp only [append_eq_ok_iff, h _]

theorem SamePieces.append_right (h : SamePieces f g) (after : Fragment) :
    SamePieces (f ++ after) (g ++ after) := by
  intro ps
  simp only [append_eq_ok_iff, h _]

theorem SamePieces.place {place : Fragment → Fragment} (h : SamePieces f g)
    (isPlace : IsPlace place) : SamePieces (place f) (place g) := by
  obtain ⟨before, after, around⟩ := isPlace
  rw [around, around]
  exact (h.append_left before).append_right after

theorem SamePieces.write_iff (h : SamePieces f g) (d : Dialect) (m : Mode) (r : Rendered) :
    f.write d m = .ok r ↔ g.write d m = .ok r := by
  simp only [write_eq_ok_iff, h _]

end Fragment

/-! ## Joins without columns -/

namespace Join

/-- The join with an empty set of columns. -/
def withoutColumns (j : Join) : Join :=
  { j with columns := some [] }

theorem columnItems_withoutColumns (d : Dialect) (j : Join) :
    j.withoutColumns.columnItems d = [] := rfl

end Join

namespace JoinTree

mutual

/-- A tree whose flattened relations select no columns. -/
def withoutColumns : JoinTree → JoinTree
  | .node j children =>
    if j.relation.kind.isToOne then .node j.withoutColumns (withoutColumnsAll children)
    else .node j children

def withoutColumnsAll : List JoinTree → List JoinTree
  | [] => []
  | t :: rest => t.withoutColumns :: withoutColumnsAll rest

end

theorem firstPath_withoutColumnsAll (ts : List JoinTree) :
    firstPath (withoutColumnsAll ts) = firstPath ts := by
  cases ts with
  | nil => rw [withoutColumnsAll]
  | cons t rest =>
    obtain ⟨j, children⟩ := t
    rw [withoutColumnsAll, withoutColumns]
    split <;> rfl

mutual

/-- The walk is the same, to joins without columns. -/
theorem visits_withoutColumns (depth : Nat) (t : JoinTree) :
    t.withoutColumns.visits depth = (t.visits depth).map (Except.map Join.withoutColumns) := by
  obtain ⟨j, children⟩ := t
  by_cases toOne : j.relation.kind.isToOne = true
  · have still : j.withoutColumns.relation.kind.isToOne = true := toOne
    rw [withoutColumns, if_pos toOne, visits, visits, if_pos toOne, if_pos still]
    split
    · simp [firstPath_withoutColumnsAll, Except.map]
    · simp [visits_withoutColumnsAll (depth + 1) children, Except.map]
  · rw [withoutColumns, if_neg toOne, visits, if_neg toOne, List.map_nil]

theorem visits_withoutColumnsAll (depth : Nat) (ts : List JoinTree) :
    visitsAll depth (withoutColumnsAll ts) =
      (visitsAll depth ts).map (Except.map Join.withoutColumns) := by
  cases ts with
  | nil => simp [withoutColumnsAll, visitsAll]
  | cons t rest =>
    simp [withoutColumnsAll, visitsAll, visits_withoutColumns depth t,
      visits_withoutColumnsAll depth rest]

end

section

variable (d : Dialect) (vs : List Visit)

/-- Columns are no part of the joins. -/
theorem leftJoins_withoutColumns (names : Template.Names) :
    leftJoins d names (vs.map (Except.map Join.withoutColumns)) = leftJoins d names vs := by
  induction vs with
  | nil => rfl
  | cons v rest ih =>
    cases v with
    | error e => rfl
    | ok j =>
      have same : j.withoutColumns.leftJoin d names = j.leftJoin d names := rfl
      simp only [List.map_cons, Except.map, leftJoins, same, ih]

theorem columnItems_withoutColumns (started : Bool) (walk : ∀ e, .error e ∉ vs) :
    columnItems d started (vs.map (Except.map Join.withoutColumns)) = .empty := by
  induction vs with
  | nil => rfl
  | cons v rest ih =>
    cases v with
    | error e => exact absurd List.mem_cons_self (walk e)
    | ok j =>
      have further := ih fun e mem => walk e (List.mem_cons_of_mem _ mem)
      simp only [List.map_cons, Except.map, columnItems, Join.columnItems_withoutColumns, further]

end

end JoinTree

/-! ## The SELECT that is counted -/

namespace Select

/-- Without order, limits and lock. -/
def stripped (s : Select) : Select :=
  { s with order := [], limit := none, offset := none, lock := none }

/-- With `count(*)` for a column list, also of the flattened relations. -/
def selectingCount (s : Select) : Select :=
  { s with
    columns := [.template "count(*)" []]
    relations := JoinTree.withoutColumnsAll s.relations }

/-- Whether rows are grouped or made distinct. -/
theorem needsCountWrapper_iff {s : Select} :
    s.needsCountWrapper = true ↔ s.group ≠ [] ∨ s.distinct = true ∨ s.distinctOn ≠ [] := by
  simp [needsCountWrapper, or_assoc]

section

variable (t : Target) (s : Select)

theorem selection_rows : s.selection t .rows = s.columnList t := by
  simp [selection]

theorem whereClause_stripped : s.stripped.whereClause t = s.whereClause t :=
  whereClause_congr (fun _ => rfl) rfl rfl fun _ => rfl

/-- A SELECT that is put into a counting query is written for its rows. -/
theorem fragment_stripped (wrapped : s.needsCountWrapper = true) :
    s.stripped.fragment t .rows = s.fragment t .count := by
  have columns : s.selection t .count = s.stripped.selection t .rows := by
    rw [selection_rows]
    simp only [selection, wrapped, Bool.not_true, Bool.false_eq_true, and_false, if_false]
    rfl
  have dropped : s.stripped.tail t .rows = s.tail t .count := rfl
  rw [fragment, fragment, columns, dropped, whereClause_stripped]
  rfl

/-! ## The SELECT that counts -/

theorem baseColumns_selectingCount : s.selectingCount.baseColumns t = rowCount := by
  have listed : s.selectingCount.columns.isEmpty = false := rfl
  have requested : s.selectingCount.requestedColumns = [.template "count(*)" []] := rfl
  have scanned : Template.scan "count(*)" = [.text "count(*)".toList] := by decide +kernel
  have written : s.selectingCount.column t (.template "count(*)" []) = rowCount := by
    simp [column, node, Node.fragment, Template.expand, scanned, Template.expandItems, rowCount]
  rw [baseColumns, listed, requested]
  simp [Fragment.join, Fragment.concat, written]

theorem visits_selectingCount :
    s.selectingCount.visits = s.visits.map (Except.map Join.withoutColumns) :=
  JoinTree.visits_withoutColumnsAll 0 s.relations

theorem joinClauses_selectingCount : s.selectingCount.joinClauses t = s.joinClauses t := by
  rw [joinClauses, visits_selectingCount, JoinTree.leftJoins_withoutColumns]
  rfl

theorem whereClause_selectingCount : s.selectingCount.whereClause t = s.whereClause t :=
  whereClause_congr (fun _ => rfl) rfl rfl fun _ => rfl

/-- The number of rows is all that is selected, if the walk through the relations comes to an
end. -/
theorem columnList_selectingCount (walk : ∀ e, .error e ∉ s.visits) :
    s.selectingCount.columnList t = rowCount := by
  rw [columnList, baseColumns_selectingCount, visits_selectingCount,
    JoinTree.columnItems_withoutColumns _ _ _ walk, Fragment.append_empty]

theorem error?_fragment_ne_none (form : Form) {e : BuildError} (walk : .error e ∈ s.visits) :
    (s.fragment t form).error? ≠ none := by
  intro fine
  exact not_error_mem_of_fragment t fine e walk

/-- A SELECT that is not put into a counting query selects `count(*)` alone. -/
theorem samePieces_selectingCount (unwrapped : s.needsCountWrapper = false) :
    (s.fragment t .count).SamePieces (s.stripped.selectingCount.fragment t .rows) := by
  by_cases walk : ∃ e, .error e ∈ s.visits
  · obtain ⟨e, walk⟩ := walk
    refine .of_fail (error?_fragment_ne_none t s .count walk) ?_
    refine error?_fragment_ne_none t s.stripped.selectingCount .rows (e := e) ?_
    rw [visits_selectingCount]
    exact List.mem_map.mpr ⟨_, walk, rfl⟩
  · have walk : ∀ e, .error e ∉ s.stripped.visits := not_exists.mp walk
    have columns : s.stripped.selectingCount.selection t .rows = s.selection t .count := by
      have counted : s.selection t .count = rowCount := if_pos ⟨rfl, by simp [unwrapped]⟩
      rw [counted, selection_rows, columnList_selectingCount t s.stripped walk]
    have dropped : s.stripped.selectingCount.tail t .rows = s.tail t .count := rfl
    apply Fragment.SamePieces.of_eq
    rw [fragment, fragment, columns, dropped, joinClauses_selectingCount,
      whereClause_selectingCount, whereClause_stripped]
    rfl

end

end Select

/-! ## Counting -/

/-- The text that counts rows as those of a table. -/
def Rendered.counted (fs : Features) (r : Rendered) : Rendered :=
  if fs.has .cte then
    ⟨"WITH _count_wrapper AS (" ++ r.sql ++ ") SELECT count(*) FROM _count_wrapper", r.args⟩
  else ⟨"SELECT count(*) FROM (" ++ r.sql ++ ") AS _count_wrapper", r.args⟩

theorem write_countWrapper (t : Target) (d : Dialect) (m : Mode) (f : Fragment) :
    (countWrapper t f).write d m = (f.write d m).map (.counted t.features) := by
  unfold countWrapper
  split
  case isTrue feature =>
    have opening : "WITH _count_wrapper AS (" = "WITH _count_wrapper AS " ++ "(" := rfl
    have closing : ") SELECT count(*) FROM _count_wrapper" =
      ")" ++ " SELECT " ++ "count(*)" ++ " FROM _count_wrapper" := rfl
    simp only [Fragment.parens, rowCount, Fragment.write_text_behind, Fragment.write_text_before]
    cases f.write d m with
    | error e => rfl
    | ok r =>
      simp [Except.map, Rendered.counted, feature, opening, closing, String.append_assoc,
        -String.reduceAppend]
  case isFalse feature =>
    have opening : "SELECT count(*) FROM (" = "SELECT " ++ "count(*)" ++ " FROM " ++ "(" := rfl
    have closing : ") AS _count_wrapper" = ")" ++ " AS _count_wrapper" := rfl
    have grouped : .text "SELECT " ++ rowCount ++ .text " FROM " ++ .parens f =
      .text "SELECT " ++ (rowCount ++ (.text " FROM " ++ .parens f)) := by
      simp only [Fragment.append_assoc]
    rw [grouped]
    simp only [Fragment.parens, rowCount, Fragment.write_text_behind, Fragment.write_text_before]
    cases f.write d m with
    | error e => rfl
    | ok r =>
      simp [Except.map, Rendered.counted, feature, opening, closing, String.append_assoc,
        -String.reduceAppend]

namespace Query

open Fragment

/-- A query as SQL of a dialect that may have other features than usual. -/
def renderWith (d : Dialect) (fs : Features) (m : Mode) (form : Form) (q : Query) :
    Except RenderError Rendered :=
  (q.fragment ⟨d, fs, decide (m = .shape)⟩ form).write d m

theorem render_eq_renderWith (d : Dialect) (m : Mode) (form : Form) (q : Query) :
    q.render d m form = q.renderWith d d.features m form := rfl

section

variable (t : Target) {s : Select} (ctes : List Cte) (members : List Member)

theorem fragment_count_of_wrapped (h : s.error = none) (wrapped : s.needsCountWrapper = true) :
    (mk s ctes members).fragment t .count =
      countWrapper t ((mk s.stripped ctes members).fragment t .rows) := by
  have unbroken : s.stripped.error = none := h
  rw [fragment_of_no_error t .count ctes members h, if_pos ⟨rfl, wrapped⟩,
    fragment_rows_of_no_error t ctes members unbroken, Select.fragment_stripped t s wrapped]

theorem samePieces_of_unwrapped (h : s.error = none) (unwrapped : s.needsCountWrapper = false) :
    ((mk s ctes members).fragment t .count).SamePieces
      ((mk s.stripped.selectingCount ctes members).fragment t .rows) := by
  have unbroken : s.stripped.selectingCount.error = none := h
  rw [fragment_of_no_error t .count ctes members h, if_neg (by simp [unwrapped]),
    fragment_rows_of_no_error t ctes members unbroken]
  exact (Select.samePieces_selectingCount t s unwrapped).place (isPlace_assembled t ctes members)

end

/-- The rows of a query are counted as those of a table if they are grouped or made distinct; if
they are not, `count(*)` is selected in place of the columns. Order, limits and lock are dropped. -/
theorem renderWith_count (d : Dialect) (fs : Features) (m : Mode) (q : Query) :
    (q.select.group ≠ [] ∨ q.select.distinct = true ∨ q.select.distinctOn ≠ [] →
      q.renderWith d fs m .count =
        ((q.mapSelect Select.stripped).renderWith d fs m .rows).map (.counted fs)) ∧
    (q.select.group = [] ∧ q.select.distinct = false ∧ q.select.distinctOn = [] → ∀ r,
      q.renderWith d fs m .count = .ok r ↔
        (q.mapSelect fun s => s.stripped.selectingCount).renderWith d fs m .rows = .ok r) := by
  obtain ⟨s, ctes, members⟩ := q
  simp only [select, mapSelect, renderWith]
  cases error : s.error with
  | some e =>
    have stripped : s.stripped.error = some e := error
    have counting : s.stripped.selectingCount.error = some e := error
    rw [fragment_of_error _ _ _ _ error, fragment_of_error _ _ _ _ stripped,
      fragment_of_error _ _ _ _ counting]
    exact ⟨fun _ => rfl, fun _ r => Iff.rfl⟩
  | none =>
    constructor
    · intro grouped
      rw [fragment_count_of_wrapped _ ctes members error (Select.needsCountWrapper_iff.mpr grouped),
        write_countWrapper]
    · intro plain
      have unwrapped : s.needsCountWrapper = false := by
        simp [Select.needsCountWrapper, plain]
      exact (samePieces_of_unwrapped _ ctes members error unwrapped).write_iff d m

/-- Groups are counted as rows of a table, and nodes with their parents joined to them. -/
theorem renderWith_count_groups_nodes :
    let groups := ofCalls ⟨[]⟩ [.table ["a"], .where .and "x = ?" [.text "y"], .group ["b"],
      .orderExpr "c = ?" [.text "z"], .limit 3]
    let nodes := ofCalls ⟨[.nodes]⟩ [.model .nodes, .relation "Up" [.columns ["id"]],
      .where .and "x = ?" [.text "y"], .order ["id"], .lockFor "UPDATE" []]
    (groups.renderWith .sqlite .empty .bind .count).toOption.map (·.sql) =
        some ("SELECT count(*) FROM (SELECT * FROM \"a\" WHERE (x = ?) GROUP BY \"b\") " ++
          "AS _count_wrapper") ∧
      groups.select.group ≠ [] ∧
      groups.renderWith .sqlite .empty .bind .count =
        ((groups.mapSelect Select.stripped).renderWith .sqlite .empty .bind .rows).map
          (.counted .empty) ∧
      (nodes.renderWith .mySql .empty .shape .count).toOption.map (·.sql) =
        some ("SELECT count(*) FROM `nodes` AS `node` LEFT JOIN `nodes` AS `up` " ++
          "ON (`up`.`id` = `node`.`parent_id`) WHERE (x = ?)") ∧
      (nodes.select.group = [] ∧ nodes.select.distinct = false ∧ nodes.select.distinctOn = []) ∧
      ∀ r, nodes.renderWith .mySql .empty .shape .count = .ok r ↔
        (nodes.mapSelect fun s => s.stripped.selectingCount).renderWith .mySql .empty .shape .rows =
          .ok r :=
  ⟨by decide +kernel, by decide, (renderWith_count .sqlite .empty .bind _).1 (.inl (by decide)),
    by decide +kernel, ⟨rfl, rfl, rfl⟩,
    (renderWith_count .mySql .empty .shape _).2 ⟨rfl, rfl, rfl⟩⟩

end Query

end SqlCompose
