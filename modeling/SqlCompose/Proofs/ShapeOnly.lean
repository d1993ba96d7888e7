import SqlCompose.Proofs.ClauseErrors
import SqlCompose.Proofs.WithoutData

/-!
# A shape shows no data

The shape of a query is the shape of the query without its data. Two queries that differ in nothing
but their data therefore have one shape: the same text, or the same error. Every clause is written
for the clause without data as it is for the clause, with the data left out of its pieces; and data
in pieces neither show in a shape nor make it blank.
-/

namespace SqlCompose

/-! ## Fragments without data -/

namespace Piece

def withoutData : Piece → Piece
  | .text s => .text s
  | .arg v => .arg v.withoutData

theorem isBlank_withoutData (p : Piece) : p.withoutData.isBlank true = p.isBlank true := by
  cases p with
  | text s => rfl
  | arg v => cases v <;> simp [withoutData, Value.withoutData, Value.isStructural, isBlank]

theorem shape_withoutData (d : Dialect) (p : Piece) : p.withoutData.shape d = p.shape d := by
  cases p with
  | text s => rfl
  | arg v => cases v <;> rfl

end Piece

namespace Fragment

def withoutData : Fragment → Fragment
  | .ok ps => .ok (ps.map Piece.withoutData)
  | .fail e => .fail e

@[simp] theorem withoutData_fail (e : RenderError) : (fail e).withoutData = fail e := rfl

@[simp] theorem withoutData_empty : empty.withoutData = empty := rfl

@[simp] theorem withoutData_text (s : String) : (text s).withoutData = text s := rfl

@[simp] theorem withoutData_arg (v : Value) : (arg v).withoutData = arg v.withoutData := rfl

@[simp] theorem withoutData_append (f g : Fragment) :
    (f ++ g).withoutData = f.withoutData ++ g.withoutData := by
  cases f <;> cases g <;> simp [withoutData]

@[simp] theorem withoutData_parens (f : Fragment) :
    (parens f).withoutData = parens f.withoutData := by
  simp [parens]

theorem withoutData_concat (fs : List Fragment) :
    (concat fs).withoutData = concat (fs.map withoutData) := by
  induction fs with
  | nil => rfl
  | cons f rest ih => rw [concat, withoutData_append, ih, List.map_cons, concat]

theorem withoutData_join (separator : String) (fs : List Fragment) :
    (join separator fs).withoutData = join separator (fs.map withoutData) := by
  cases fs with
  | nil => rfl
  | cons f rest =>
    rw [join, withoutData_append, withoutData_concat, List.map_cons, join]
    simp [Function.comp_def]

/-- Data are never blank where only the shape is wanted. -/
theorem isBlank_withoutData (f : Fragment) : f.withoutData.isBlank true = f.isBlank true := by
  cases f with
  | fail e => rfl
  | ok ps =>
    simp only [withoutData, isBlank, List.all_map, Function.comp_def, Piece.isBlank_withoutData]

theorem write_shape_withoutData (d : Dialect) (f : Fragment) :
    f.withoutData.write d .shape = f.write d .shape := by
  cases f with
  | fail e => rfl
  | ok ps =>
    simp [withoutData, write, Piece.write, Function.comp_def, Piece.shape_withoutData]

end Fragment

/-! ## Templates and conditions -/

/-- The names stand for text. -/
def Template.Names.IsPlain (names : Template.Names) : Prop :=
  ∀ name f, names name = some f → f.withoutData = f

section

variable {d : Dialect} {names : Template.Names} (plain : names.IsPlain)
include plain

theorem Template.expandItems_withoutData (template : String) (args : List Value) (taken : Nat)
    (items : List TemplateItem) :
    expandItems names template (args.map Value.withoutData) taken items =
      (expandItems names template args taken items).withoutData := by
  have argument (position : Nat) : argument template (args.map Value.withoutData) position =
      (argument template args position).withoutData := by
    unfold argument
    rw [List.getElem?_map]
    cases args[position]? <;> rfl
  induction items generalizing taken with
  | nil => rfl
  | cons item rest ih =>
    cases item with
    | text s => simp [expandItems, ih]
    | next => simp [expandItems, ih, argument]
    | position n => simp [expandItems, ih, argument]
    | named name =>
      have known : ((names (String.ofList name)).getD
          (.fail (.unknownPlaceholder (String.ofList name)))).withoutData =
          (names (String.ofList name)).getD
            (.fail (.unknownPlaceholder (String.ofList name))) := by
        cases found : names (String.ofList name) with
        | none => rfl
        | some f => exact plain _ f found
      simp [expandItems, ih, known]

theorem Node.fragment_withoutData (n : Node) :
    n.withoutData.fragment d names = (n.fragment d names).withoutData := by
  cases n with
  | template source args => exact Template.expandItems_withoutData plain source args 0 _
  | ident name => rfl

theorem Condition.tied_withoutData (c : Condition) :
    c.withoutData.tied d names = (c.tied d names).withoutData := by
  simp [tied, withoutData, Node.fragment_withoutData plain]

theorem Condition.row_withoutData (cs : List Condition) :
    row d names (cs.map withoutData) = (row d names cs).withoutData := by
  cases cs with
  | nil => rfl
  | cons c rest =>
    simp [row, Fragment.withoutData_concat, Function.comp_def, withoutData,
      Node.fragment_withoutData plain, ← tied_withoutData plain]

/-! ## Relations -/

theorem Join.leftJoin_withoutData (j : Join) :
    j.withoutData.leftJoin d names = (j.leftJoin d names).withoutData := by
  have conditions : (j.on.map Condition.withoutData).map (Condition.tied d names) =
      (j.on.map (Condition.tied d names)).map Fragment.withoutData := by
    simp [Function.comp_def, Condition.tied_withoutData plain]
  rw [leftJoin, leftJoin, Fragment.withoutData_append, Fragment.withoutData_concat, ← conditions]
  rfl

theorem JoinTree.leftJoins_withoutData (vs : List Visit) :
    leftJoins d names (vs.map (Except.map Join.withoutData)) =
      (leftJoins d names vs).withoutData := by
  induction vs with
  | nil => rfl
  | cons v rest ih =>
    cases v with
    | error e => rfl
    | ok j => simp [Except.map, leftJoins, ih, Join.leftJoin_withoutData plain]

end

namespace JoinTree

theorem firstPath_withoutDataAll (ts : List JoinTree) :
    firstPath (withoutDataAll ts) = firstPath ts := by
  cases ts with
  | nil => rw [withoutDataAll]
  | cons t rest =>
    rw [withoutDataAll, firstPath, join_withoutData]
    rfl

mutual

theorem visits_withoutData (depth : Nat) (t : JoinTree) :
    t.withoutData.visits depth = (t.visits depth).map (Except.map Join.withoutData) := by
  obtain ⟨j, children⟩ := t
  have kind : j.withoutData.relation.kind = j.relation.kind := rfl
  rw [withoutData, visits, visits, kind, firstPath_withoutDataAll,
    visits_withoutDataAll (depth + 1) children]
  split
  · split <;> rfl
  · rfl

theorem visits_withoutDataAll (depth : Nat) (ts : List JoinTree) :
    visitsAll depth (withoutDataAll ts) =
      (visitsAll depth ts).map (Except.map Join.withoutData) := by
  cases ts with
  | nil => simp [withoutDataAll, visitsAll]
  | cons t rest =>
    simp [withoutDataAll, visitsAll, visits_withoutData depth t, visits_withoutDataAll depth rest]

end

theorem columnItems_withoutData (d : Dialect) (started : Bool) (vs : List Visit) :
    columnItems d started (vs.map (Except.map Join.withoutData)) =
      (columnItems d started vs).withoutData := by
  induction vs generalizing started with
  | nil => rfl
  | cons v rest ih =>
    cases v with
    | error e => rfl
    | ok j =>
      have items : j.withoutData.columnItems d = j.columnItems d := rfl
      simp only [List.map_cons, Except.map, columnItems, items, ih]
      split <;> simp

end JoinTree

@[simp] theorem Target.withoutData_require (t : Target) (f : Feature) :
    (t.require f).withoutData = t.require f := by
  unfold require
  split <;> rfl

/-! ## Clauses -/

namespace Select

theorem names_withoutData (d : Dialect) (s : Select) : s.withoutData.names d = s.names d := rfl

theorem isPlain_names (d : Dialect) (s : Select) : (s.names d).IsPlain := by
  intro name f found
  rcases s.names_cases found with ⟨text, rfl⟩ | rfl <;> rfl

section

variable (t : Target) (s : Select)

theorem needsCountWrapper_withoutData :
    s.withoutData.needsCountWrapper = s.needsCountWrapper := by
  simp [needsCountWrapper, withoutData]

theorem node_withoutData (n : Node) :
    s.withoutData.node t n.withoutData = (s.node t n).withoutData :=
  Node.fragment_withoutData (isPlain_names t.dialect s) n

theorem map_node_withoutData (ns : List Node) :
    (ns.map Node.withoutData).map (s.withoutData.node t) =
      (ns.map (s.node t)).map Fragment.withoutData := by
  simp [Function.comp_def, node_withoutData]

theorem nodes_withoutData (ns : List Node) :
    s.withoutData.nodes t (ns.map Node.withoutData) = (s.nodes t ns).withoutData := by
  rw [nodes, map_node_withoutData, nodes, Fragment.withoutData_join]

theorem column_withoutData (n : Node) :
    s.withoutData.column t n.withoutData = (s.column t n).withoutData := by
  cases n with
  | template source args => exact s.node_withoutData t (.template source args)
  | ident name =>
    rw [Node.withoutData]
    unfold column
    rw [table_withoutData]
    cases s.table with
    | none => rfl
    | some table =>
      dsimp only
      cases table.field? name <;> rfl

theorem requestedColumns_withoutData :
    s.withoutData.requestedColumns = s.requestedColumns.map Node.withoutData := by
  have excluded (name : String) : s.withoutData.isExcluded name = s.isExcluded name := rfl
  have columns : s.withoutData.columns = s.columns.map Node.withoutData := rfl
  unfold requestedColumns
  rw [columns, List.filter_map]
  congr 1
  refine List.filter_congr fun n _ => ?_
  cases n <;> rfl

theorem baseColumns_withoutData :
    s.withoutData.baseColumns t = (s.baseColumns t).withoutData := by
  have listed : s.withoutData.columns.isEmpty = s.columns.isEmpty := List.isEmpty_map
  have modelColumns (table : Table) : s.withoutData.modelColumns table = s.modelColumns table := rfl
  unfold baseColumns
  simp only [table_withoutData, listed, modelColumns, requestedColumns_withoutData]
  split
  · cases s.table with
    | none => rfl
    | some table =>
      dsimp only
      split <;> rfl
  · rw [Fragment.withoutData_join]
    simp [Function.comp_def, column_withoutData]

theorem visits_withoutData :
    s.withoutData.visits = s.visits.map (Except.map Join.withoutData) :=
  JoinTree.visits_withoutDataAll 0 s.relations

theorem distinctClause_withoutData :
    s.withoutData.distinctClause t = (s.distinctClause t).withoutData := by
  have distinct : s.withoutData.distinct = s.distinct := rfl
  have on : s.withoutData.distinctOn = s.distinctOn.map Node.withoutData := rfl
  unfold distinctClause
  rw [distinct, on, List.isEmpty_map, nodes_withoutData]
  split
  · split <;> rfl
  · simp

theorem listed_withoutData (started : Bool) (fs : List Fragment) :
    listed true started (fs.map Fragment.withoutData) =
      (listed true started fs).withoutData := by
  induction fs generalizing started with
  | nil => rfl
  | cons f rest ih => simp [listed, ih, Fragment.isBlank_withoutData]

theorem boundTable_withoutData :
    s.withoutData.boundTable t = (s.boundTable t).withoutData := by
  unfold boundTable
  rw [table_withoutData, modelTable_withoutData]
  cases s.modelTable with
  | some n => exact s.node_withoutData t n
  | none => cases s.table <;> rfl

theorem manualJoin_withoutData (j : ManualJoin) :
    s.withoutData.manualJoin t j.withoutData = (s.manualJoin t j).withoutData := by
  unfold manualJoin
  rw [ManualJoin.withoutData, List.isEmpty_map, node_withoutData, names_withoutData,
    Condition.row_withoutData (isPlain_names t.dialect s)]
  split <;> simp

theorem joinClauses_withoutData :
    s.withoutData.joinClauses t = (s.joinClauses t).withoutData := by
  unfold joinClauses
  rw [names_withoutData, joins_withoutData, visits_withoutData,
    JoinTree.leftJoins_withoutData (isPlain_names t.dialect s)]
  simp [Fragment.withoutData_concat, Function.comp_def, manualJoin_withoutData]

mutual

theorem whereItem_withoutData (i : WhereItem) :
    s.withoutData.whereItem t i.withoutData = (s.whereItem t i).withoutData := by
  cases i with
  | cond c => simp [WhereItem.withoutData, whereItem, Condition.withoutData, node_withoutData]
  | group connective items =>
    simp [WhereItem.withoutData, whereItem, whereItems_withoutData items]

theorem whereItems_withoutData (items : List WhereItem) :
    s.withoutData.whereItems t (WhereItem.withoutDataAll items) =
      (s.whereItems t items).withoutData := by
  cases items with
  | nil => simp [WhereItem.withoutDataAll, whereItems]
  | cons i rest =>
    simp [WhereItem.withoutDataAll, whereItems, whereItem_withoutData i,
      tiedItems_withoutData rest]

theorem tiedItems_withoutData (items : List WhereItem) :
    s.withoutData.tiedItems t (WhereItem.withoutDataAll items) =
      (s.tiedItems t items).withoutData := by
  cases items with
  | nil => simp [WhereItem.withoutDataAll, tiedItems]
  | cons i rest =>
    have connective : i.withoutData.connective = i.connective := by
      cases i <;> rw [WhereItem.withoutData] <;> rfl
    simp [WhereItem.withoutDataAll, tiedItems, whereItem_withoutData i,
      tiedItems_withoutData rest, connective]

end

theorem whereClause_withoutData :
    s.withoutData.whereClause t = (s.whereClause t).withoutData := by
  have wheres : s.withoutData.wheres = WhereItem.withoutDataAll s.wheres := rfl
  have test : s.withoutData.deletionTest? t.dialect = s.deletionTest? t.dialect := rfl
  unfold whereClause
  rw [wheres, test]
  cases s.wheres with
  | nil => cases s.deletionTest? t.dialect <;> rfl
  | cons i rest =>
    have items := whereItems_withoutData t s (i :: rest)
    rw [WhereItem.withoutDataAll] at items ⊢
    cases rest with
    | nil =>
      rw [WhereItem.withoutDataAll] at items ⊢
      cases s.deletionTest? t.dialect with
      | none => simp [items]
      | some test => simp [whereItem_withoutData]
    | cons j rest =>
      rw [WhereItem.withoutDataAll] at items ⊢
      cases s.deletionTest? t.dialect <;> simp [items]

theorem keywordList_withoutData (keyword : String) (ns : List Node) :
    s.withoutData.keywordList t keyword (ns.map Node.withoutData) =
      (s.keywordList t keyword ns).withoutData := by
  unfold keywordList
  rw [List.isEmpty_map, nodes_withoutData]
  split <;> simp

theorem havingClause_withoutData :
    s.withoutData.havingClause t = (s.havingClause t).withoutData := by
  have having : s.withoutData.having = s.having.map Node.withoutData := rfl
  unfold havingClause
  rw [having, List.isEmpty_map]
  split
  · rfl
  · simp [Fragment.withoutData_join, Function.comp_def, node_withoutData]

theorem lockClause_withoutData :
    s.withoutData.lockClause t = (s.lockClause t).withoutData := by
  have lock : s.withoutData.lock = s.lock.map Node.withoutData := rfl
  unfold lockClause
  rw [lock]
  cases s.lock with
  | none => rfl
  | some n => simp [node_withoutData]

theorem tail_withoutData (form : Form) :
    s.withoutData.tail t form = (s.tail t form).withoutData := by
  have order : s.withoutData.order = s.order.map Node.withoutData := rfl
  have limit : s.withoutData.limitClause = s.limitClause.withoutData := by
    have same : s.withoutData.limit = s.limit := rfl
    unfold limitClause
    rw [same]
    split
    · split <;> rfl
    · rfl
  have offset : s.withoutData.offsetClause = s.offsetClause.withoutData := by
    have same : s.withoutData.offset = s.offset := rfl
    unfold offsetClause
    rw [same]
    split
    · split <;> rfl
    · rfl
  cases form with
  | count => rfl
  | rows => simp [tail, order, limit, offset, keywordList_withoutData, lockClause_withoutData]

end

section

variable {t : Target} (shape : t.shapeOnly = true) (s : Select)
include shape

theorem selection_withoutData (form : Form) :
    s.withoutData.selection t form = (s.selection t form).withoutData := by
  have columns : s.withoutData.columnList t = (s.columnList t).withoutData := by
    simp only [columnList, shape, baseColumns_withoutData, Fragment.isBlank_withoutData,
      visits_withoutData, JoinTree.columnItems_withoutData, Fragment.withoutData_append]
  unfold selection
  rw [needsCountWrapper_withoutData, columns]
  split <;> rfl

theorem fromClause_withoutData :
    s.withoutData.fromClause t = (s.fromClause t).withoutData := by
  have tables : s.withoutData.tables = s.tables.map Node.withoutData := rfl
  unfold fromClause
  simp only [table_withoutData, modelTable_withoutData, tables, Option.isNone_map,
    List.isEmpty_map, shape, boundTable_withoutData, map_node_withoutData]
  split
  · rfl
  · rw [← List.map_cons, listed_withoutData, Fragment.withoutData_append,
      Fragment.withoutData_text]

/-- A SELECT without data is written as it is with data, but for the data. -/
theorem fragment_withoutData (form : Form) :
    s.withoutData.fragment t form = (s.fragment t form).withoutData := by
  have group : s.withoutData.group = s.group.map Node.withoutData := rfl
  simp only [fragment, Fragment.withoutData_append, Fragment.withoutData_text, group,
    distinctClause_withoutData, selection_withoutData shape, fromClause_withoutData shape,
    joinClauses_withoutData, whereClause_withoutData, keywordList_withoutData,
    havingClause_withoutData, tail_withoutData]

end

end Select

/-! ## VALUES lists -/

namespace Values

variable (v : Values)

theorem columns_withoutData (d : Dialect) : v.withoutData.columns d = v.columns d := by
  unfold columns
  rw [error?_withoutData]
  cases v.error? with
  | some e => rfl
  | none =>
    cases built : v.source with
    | error e => simp [withoutData, built, Except.map]
    | ok source =>
      have names : source.withoutData.columnNames = source.columnNames := by cases source <;> rfl
      simp [withoutData, built, Except.map, columnsText, names]

theorem names_withoutData (d : Dialect) : v.withoutData.names d = v.names d := by
  unfold names
  rw [columns_withoutData]

theorem isPlain_names (d : Dialect) : (v.names d).IsPlain := by
  intro name f found
  unfold names at found
  split at found
  · cases found
    unfold columns
    split <;> rfl
  · cases found

theorem overrideOf?_withoutData (overrides : List Override) (f : Field) :
    overrideOf? (overrides.map Override.withoutData) f =
      (overrideOf? overrides f).map Override.withoutData := by
  unfold overrideOf?
  rw [List.find?_map]
  rfl

theorem typedValue_withoutData (t : Target) (f : Field) (value : Value) :
    typedValue t f value.withoutData = (typedValue t f value).withoutData := by
  unfold typedValue
  split
  · rfl
  · split <;> simp

theorem cells_withoutData (t : Target) (source : RowSource) :
    v.withoutData.cells t [] source.withoutData =
      (v.cells t [] source).map Fragment.withoutData := by
  cases source with
  | typed table first further =>
    have cell (f : Field) (i : Nat) :
        cell t (v.withoutData.names t.dialect) v.withoutData.overrides [] f i =
          (cell t (v.names t.dialect) v.overrides [] f i).withoutData := by
      have overrides : v.withoutData.overrides = v.overrides.map Override.withoutData := rfl
      unfold cell
      rw [overrides, overrideOf?_withoutData, names_withoutData]
      cases overrideOf? v.overrides f with
      | some o => exact Node.fragment_withoutData (v.isPlain_names t.dialect) o.node
      | none => exact typedValue_withoutData t f .null
    exact List.ext_getElem (by simp [cells, RowSource.withoutData]) fun i _ _ => by
      simp [cells, RowSource.withoutData, cell]
  | dynamic columns first further =>
    exact List.ext_getElem (by simp [cells, RowSource.withoutData]) fun i _ _ => by
      simp [cells, RowSource.withoutData, Value.withoutData, Value.isStructural]

theorem tuple_withoutData (t : Target) (source : RowSource) (number : Nat) :
    v.withoutData.tuple t source.withoutData [] number =
      (v.tuple t source [] number).withoutData := by
  have order : v.withoutData.withOrder = v.withOrder := rfl
  simp [tuple, order, cells_withoutData, Fragment.withoutData_join]

/-- The rows do not matter where only the shape is written. -/
theorem fragment_withoutData {t : Target} (shape : t.shapeOnly = true) :
    v.withoutData.fragment t = (v.fragment t).withoutData := by
  unfold fragment
  rw [error?_withoutData]
  cases v.error? with
  | some e => rfl
  | none =>
    cases built : v.source with
    | error e => simp [withoutData, built, Except.map]
    | ok source =>
      have rest : v.withoutData.source = .ok source.withoutData := by
        simp [withoutData, built, Except.map]
      have one (f : Fragment) : Fragment.join ", " [f] = f := Fragment.append_empty f
      simp [rest, writtenRows, shape, one, tuple_withoutData]

end Values

/-! ## Nested queries -/

theorem countWrapper_withoutData (t : Target) (f : Fragment) :
    countWrapper t f.withoutData = (countWrapper t f).withoutData := by
  unfold countWrapper
  split <;> simp [rowCount]

section

variable {t : Target}

mutual

theorem Query.fragment_withoutData (shape : t.shapeOnly = true) (form : Form) (q : Query) :
    q.withoutData.fragment t form = (q.fragment t form).withoutData := by
  obtain ⟨s, ctes, members⟩ := q
  have error : s.withoutData.error = s.error := rfl
  rw [Query.withoutData, Query.fragment, Query.fragment, error, s.needsCountWrapper_withoutData,
    s.fragment_withoutData shape, withClause_withoutData shape ctes,
    memberFragments_withoutData shape members]
  cases s.error with
  | some e => rfl
  | none =>
    cases members with
    | nil =>
      rw [Member.withoutDataAll]
      dsimp only
      split <;> simp [← countWrapper_withoutData]
    | cons m rest =>
      obtain ⟨operator, q⟩ := m
      rw [Member.withoutDataAll]
      dsimp only
      split <;> simp [← countWrapper_withoutData]

theorem withClause_withoutData (shape : t.shapeOnly = true) (ctes : List Cte) :
    withClause t (Cte.withoutDataAll ctes) = (withClause t ctes).withoutData := by
  cases ctes with
  | nil => simp [Cte.withoutDataAll, withClause]
  | cons c rest =>
    simp [Cte.withoutDataAll, withClause, Cte.fragment_withoutData shape c,
      furtherCtes_withoutData shape rest]

theorem furtherCtes_withoutData (shape : t.shapeOnly = true) (ctes : List Cte) :
    furtherCtes t (Cte.withoutDataAll ctes) = (furtherCtes t ctes).withoutData := by
  cases ctes with
  | nil => simp [Cte.withoutDataAll, furtherCtes]
  | cons c rest =>
    simp [Cte.withoutDataAll, furtherCtes, Cte.fragment_withoutData shape c,
      furtherCtes_withoutData shape rest]

theorem Cte.fragment_withoutData (shape : t.shapeOnly = true) (c : Cte) :
    c.withoutData.fragment t = (c.fragment t).withoutData := by
  cases c with
  | query name q =>
    simp [Cte.withoutData, Cte.fragment, Query.fragment_withoutData shape .rows q]
  | values name v =>
    have columns : (v.columns t.dialect).withoutData = v.columns t.dialect := by
      unfold Values.columns
      split <;> rfl
    simp [Cte.withoutData, Cte.fragment, v.columns_withoutData, columns,
      v.fragment_withoutData shape]

theorem memberFragments_withoutData (shape : t.shapeOnly = true) (members : List Member) :
    memberFragments t (Member.withoutDataAll members) =
      (memberFragments t members).withoutData := by
  cases members with
  | nil => simp [Member.withoutDataAll, memberFragments]
  | cons m rest =>
    obtain ⟨operator, q⟩ := m
    simp [Member.withoutDataAll, memberFragments, Query.fragment_withoutData shape .rows q,
      memberFragments_withoutData shape rest]

end

end

/-! ## One shape -/

namespace Query

/-- The shape of a query is the shape of the query without its data. -/
theorem render_shape_withoutData (d : Dialect) (form : Form) (q : Query) :
    q.withoutData.render d .shape form = q.render d .shape form := by
  have shape : (d.target .shape).shapeOnly = true := rfl
  rw [render, fragment_withoutData shape, Fragment.write_shape_withoutData, render]

/-- Calls that differ in nothing but data build queries with one shape. -/
theorem render_shape_eq {schema : Schema} {cs cs' : List Call}
    (same : Call.withoutDataAll cs = Call.withoutDataAll cs') (d : Dialect) (form : Form) :
    (ofCalls schema cs).render d .shape form = (ofCalls schema cs').render d .shape form := by
  rw [← render_shape_withoutData, ← ofCalls_withoutData, same, ofCalls_withoutData,
    render_shape_withoutData]

/-- Rows of points, and a condition on their heights. -/
def selectingPoints (rows : List (List Value)) (height : Value) : List Call :=
  let points : Table := { name := "points", aliasName := "p", fields :=
    [{ name := "x", column := "x" }, { name := "y", column := "y", sqlType := some "int8" }] }
  [.withValues "v" (.ofRows points rows), .table ["v"],
    .where .and "y IN (?) AND ? = ?" [height, .ident "v.x", .text "right"],
    .whereGroup "or" [.cond .and "y > ?" [height]]]

/-- Two rows and a list show as much as one row and a number. -/
theorem render_shape_eq_points :
    let one := selectingPoints [[.int 1, .int 2]] (.int 3)
    let other := selectingPoints [[.null, .text "'"], [.bool true, .null]]
      (.list [.safe "4", .int 5])
    Call.withoutDataAll one = Call.withoutDataAll other ∧
      ((ofCalls ⟨[]⟩ one).render .postgres .shape .rows).toOption.map (·.sql) =
        some ("WITH \"v\" (\"x\", \"y\") AS (VALUES (?, ?::int8)) SELECT * FROM \"v\" " ++
          "WHERE (y IN (?) AND \"v\".\"x\" = ?) OR ((y > ?))") ∧
      (ofCalls ⟨[]⟩ one).render .postgres .shape .rows =
        (ofCalls ⟨[]⟩ other).render .postgres .shape .rows := by
  intro one other
  have same : Call.withoutDataAll one = Call.withoutDataAll other := by
    simp [one, other, selectingPoints, Call.withoutDataAll, Call.withoutData,
      WhereItem.Call.withoutDataAll, WhereItem.Call.withoutData, Values.ofRows,
      Values.withoutData, RowSource.withoutData, Except.map, Value.withoutData,
      Value.isStructural]
  exact ⟨same, by decide +kernel, render_shape_eq same .postgres .rows⟩

end Query

end SqlCompose
