import SqlCompose.Proofs.RelationReach
import SqlCompose.Query.Call

/-!
# Queries without their data

The data of a query are its arguments, but for names and trusted SQL, and the rows of its VALUES
lists. Here they are taken out of everything that a query is built of, so that queries which differ
in their data alone become one. It does not matter whether the data are taken out of the calls or of
the query that the calls build.
-/

namespace SqlCompose

namespace Value

/-- The value if it belongs to the shape of a query, and null for data. -/
def withoutData (v : Value) : Value :=
  if v.isStructural then v else .null

end Value

/-! ## Clauses -/

def Node.withoutData : Node → Node
  | .template source args => .template source (args.map Value.withoutData)
  | .ident name => .ident name

def Condition.withoutData (c : Condition) : Condition :=
  { c with node := c.node.withoutData }

namespace WhereItem

mutual

def withoutData : WhereItem → WhereItem
  | .cond c => .cond c.withoutData
  | .group connective items => .group connective (withoutDataAll items)

def withoutDataAll : List WhereItem → List WhereItem
  | [] => []
  | i :: rest => i.withoutData :: withoutDataAll rest

end

mutual

def Call.withoutData : Call → Call
  | .cond connective template args => .cond connective template (args.map Value.withoutData)
  | .group separator calls => .group separator (Call.withoutDataAll calls)

def Call.withoutDataAll : List Call → List Call
  | [] => []
  | c :: rest => c.withoutData :: Call.withoutDataAll rest

end

@[simp] theorem withoutDataAll_append (xs ys : List WhereItem) :
    withoutDataAll (xs ++ ys) = withoutDataAll xs ++ withoutDataAll ys := by
  induction xs with
  | nil => simp [withoutDataAll]
  | cons x xs ih => simp [withoutDataAll, ih]

end WhereItem

def ManualJoin.withoutData (j : ManualJoin) : ManualJoin where
  join := j.join.withoutData
  on := j.on.map Condition.withoutData

/-! ## Relations -/

namespace JoinScope

def withoutData (s : JoinScope) : JoinScope :=
  { s with on := s.on.map Condition.withoutData }

def Call.withoutData : Call → Call
  | .columns names => .columns names
  | .on connective template args => .on connective template (args.map Value.withoutData)

theorem call_withoutData (s : JoinScope) (c : Call) :
    s.withoutData.call c.withoutData = (s.call c).withoutData := by
  cases c <;> simp [call, withoutData, Call.withoutData, Condition.withoutData, Node.withoutData]

theorem ofCalls_withoutData (cs : List Call) :
    ofCalls (cs.map Call.withoutData) = (ofCalls cs).withoutData := by
  calc
    ofCalls (cs.map Call.withoutData) =
        (cs.map Call.withoutData).foldl call (withoutData {}) := rfl
    _ = (ofCalls cs).withoutData := by
      rw [List.foldl_map]
      exact List.foldl_hom withoutData call_withoutData

end JoinScope

def Join.withoutData (j : Join) : Join :=
  { j with on := j.on.map Condition.withoutData }

@[simp] theorem Join.aliasName_withoutData (j : Join) :
    j.withoutData.aliasName = j.aliasName := rfl

theorem Join.narrowed_withoutData (j : Join) (s : JoinScope) :
    j.withoutData.narrowed s.withoutData = (j.narrowed s).withoutData := by
  simp [narrowed, withoutData, JoinScope.withoutData]

namespace JoinTree

mutual

def withoutData : JoinTree → JoinTree
  | .node j children => .node j.withoutData (withoutDataAll children)

def withoutDataAll : List JoinTree → List JoinTree
  | [] => []
  | t :: rest => t.withoutData :: withoutDataAll rest

end

@[simp] theorem join_withoutData (t : JoinTree) : t.withoutData.join = t.join.withoutData := by
  obtain ⟨j, children⟩ := t
  rw [withoutData]
  rfl

@[simp] theorem children_withoutData (t : JoinTree) :
    t.withoutData.children = withoutDataAll t.children := by
  obtain ⟨j, children⟩ := t
  rw [withoutData]
  rfl

theorem change_withoutData {ε : Type} {fresh : Join} {f g : JoinTree → JoinTree × Option ε}
    (new : fresh.withoutData = fresh)
    (changed : ∀ t, g t.withoutData = ((f t).1.withoutData, (f t).2)) (level : List JoinTree) :
    change fresh g (withoutDataAll level) =
      (withoutDataAll (change fresh f level).1, (change fresh f level).2) := by
  induction level with
  | nil =>
    have first := changed (.node fresh [])
    rw [withoutData, new, withoutDataAll] at first
    simp [withoutDataAll, change, first]
  | cons t rest ih =>
    by_cases found : t.join.aliasName = fresh.aliasName
    · simp [withoutDataAll, change, found, changed]
    · simp [withoutDataAll, change, found, ih]

theorem request_withoutData (schema : Schema) (scope : JoinScope) (base : Table)
    (parent : Option String) (above names : List String) (level : List JoinTree) :
    request schema scope.withoutData base parent above names (withoutDataAll level) =
      (withoutDataAll (request schema scope base parent above names level).1,
        (request schema scope base parent above names level).2) := by
  induction names generalizing base parent above level with
  | nil => simp [request]
  | cons segment rest ih =>
    cases found : base.relation? segment with
    | none => rw [request_of_none found, request_of_none found]
    | some relation =>
      rw [request_of_some found, request_of_some found]
      refine change_withoutData rfl (fun t => ?_) level
      simp only [grow, children_withoutData, join_withoutData, ih, withoutData]
      split <;> simp [Join.narrowed_withoutData]

theorem requestPath_withoutData (schema : Schema) (table : Table) (path : String)
    (scope : JoinScope) (forest : List JoinTree) :
    requestPath schema table path scope.withoutData (withoutDataAll forest) =
      (withoutDataAll (requestPath schema table path scope forest).1,
        (requestPath schema table path scope forest).2) := by
  unfold requestPath
  split
  · rfl
  · exact request_withoutData schema scope table none [] _ forest

end JoinTree

/-! ## SELECT statements -/

namespace Select

def withoutData (s : Select) : Select :=
  { s with
    distinctOn := s.distinctOn.map Node.withoutData
    modelTable := s.modelTable.map Node.withoutData
    tables := s.tables.map Node.withoutData
    columns := s.columns.map Node.withoutData
    wheres := WhereItem.withoutDataAll s.wheres
    joins := s.joins.map ManualJoin.withoutData
    relations := JoinTree.withoutDataAll s.relations
    group := s.group.map Node.withoutData
    having := s.having.map Node.withoutData
    order := s.order.map Node.withoutData
    lock := s.lock.map Node.withoutData }

theorem table_withoutData (s : Select) : s.withoutData.table = s.table := rfl

theorem modelTable_withoutData (s : Select) :
    s.withoutData.modelTable = s.modelTable.map Node.withoutData := rfl

theorem joins_withoutData (s : Select) :
    s.withoutData.joins = s.joins.map ManualJoin.withoutData := rfl

end Select

/-! ## VALUES lists -/

/-- The rows are data, however many there are. -/
def RowSource.withoutData : RowSource → RowSource
  | .typed table .. => .typed table [] []
  | .dynamic columns .. => .dynamic columns [] []

def Override.withoutData (o : Override) : Override :=
  { o with node := o.node.withoutData }

namespace Values

def withoutData (v : Values) : Values :=
  { v with
    source := v.source.map RowSource.withoutData
    overrides := v.overrides.map Override.withoutData }

def Call.withoutData : Call → Call
  | .withOrder => .withOrder
  | .value field template args => .value field template (args.map Value.withoutData)

theorem error?_withoutData (v : Values) : v.withoutData.error? = v.error? := by
  obtain ⟨source, withOrder, overrides, refused⟩ := v
  cases source <;> rfl

theorem call_withoutData (v : Values) (c : Call) :
    v.withoutData.call c.withoutData = (v.call c).withoutData := by
  cases c with
  | withOrder => rfl
  | value field template args =>
    rw [Call.withoutData, call, call, error?_withoutData]
    cases v.error? with
    | some e => rfl
    | none =>
      have source : v.withoutData.source? = v.source?.map RowSource.withoutData := by
        cases built : v.source <;> simp [source?, withoutData, built, Except.map, Except.toOption]
      dsimp only
      rw [source]
      cases v.source? with
      | none => rfl
      | some source =>
        cases source with
        | typed table first further =>
          simp [RowSource.withoutData, withoutData, Override.withoutData, Node.withoutData]
        | dynamic columns first further => rfl

/-- Builder calls for the rows take no notice of the data. -/
theorem calls_withoutData (v : Values) (cs : List Call) :
    v.withoutData.calls (cs.map Call.withoutData) = (v.calls cs).withoutData := by
  rw [calls, List.foldl_map]
  exact List.foldl_hom withoutData call_withoutData

end Values

/-! ## Queries -/

mutual

def Query.withoutData : Query → Query
  | .mk s ctes members =>
    .mk s.withoutData (Cte.withoutDataAll ctes) (Member.withoutDataAll members)

def Cte.withoutDataAll : List Cte → List Cte
  | [] => []
  | c :: rest => c.withoutData :: Cte.withoutDataAll rest

def Cte.withoutData : Cte → Cte
  | .query name q => .query name q.withoutData
  | .values name v => .values name v.withoutData

def Member.withoutDataAll : List Member → List Member
  | [] => []
  | .mk operator q :: rest => .mk operator q.withoutData :: Member.withoutDataAll rest

end

namespace Query

mutual

/-- A call with the data left out that are given to it. -/
def Call.withoutData : Call → Call
  | .withQuery name q => .withQuery name q.withoutData
  | .withValues name v => .withValues name v.withoutData
  | .distinctOn template args => .distinctOn template (args.map Value.withoutData)
  | .tableExpr template args => .tableExpr template (args.map Value.withoutData)
  | .modelTableExpr template args => .modelTableExpr template (args.map Value.withoutData)
  | .columnExpr template args => .columnExpr template (args.map Value.withoutData)
  | .where connective template args => .where connective template (args.map Value.withoutData)
  | .whereKey entity => .whereKey (entity.map fun p => (p.1, p.2.withoutData))
  | .whereGroup separator calls => .whereGroup separator (WhereItem.Call.withoutDataAll calls)
  | .groupExpr template args => .groupExpr template (args.map Value.withoutData)
  | .having template args => .having template (args.map Value.withoutData)
  | .orderExpr template args => .orderExpr template (args.map Value.withoutData)
  | .lockFor template args => .lockFor template (args.map Value.withoutData)
  | .member operator q => .member operator q.withoutData
  | .join template args => .join template (args.map Value.withoutData)
  | .joinOn connective template args => .joinOn connective template (args.map Value.withoutData)
  | .relation path scope => .relation path (scope.map JoinScope.Call.withoutData)
  | .apply calls => .apply (Call.withoutDataAll calls)
  | c => c

def Call.withoutDataAll : List Call → List Call
  | [] => []
  | c :: rest => c.withoutData :: Call.withoutDataAll rest

end

end Query

/-! ## Builder calls -/

namespace WhereItem

mutual

theorem ofCall_withoutData (c : Call) : ofCall c.withoutData = withoutDataAll (ofCall c) := by
  cases c with
  | cond connective template args =>
    simp [Call.withoutData, ofCall, withoutDataAll, withoutData, Condition.withoutData,
      Node.withoutData]
  | group separator calls =>
    rw [Call.withoutData, ofCall, ofCall, ofCalls_withoutData calls]
    cases ofCalls calls <;> simp [withoutDataAll, withoutData]

theorem ofCalls_withoutData (cs : List Call) :
    ofCalls (Call.withoutDataAll cs) = withoutDataAll (ofCalls cs) := by
  cases cs with
  | nil => simp [Call.withoutDataAll, ofCalls, withoutDataAll]
  | cons c rest =>
    simp [Call.withoutDataAll, ofCalls, ofCall_withoutData c, ofCalls_withoutData rest]

end

end WhereItem

theorem Node.ofOrder_withoutData (item : String) : (ofOrder item).withoutData = ofOrder item := by
  unfold ofOrder
  dsimp only
  split
  · rfl
  · split <;> rfl

theorem ValueMap.get_withoutData (m : ValueMap) (key : String) :
    ValueMap.get (m.map fun p => (p.1, p.2.withoutData)) key = (m.get key).withoutData := by
  unfold get
  induction m with
  | nil => rfl
  | cons p rest ih =>
    rw [List.map_cons, List.lookup_cons, List.lookup_cons]
    cases key == p.1
    · exact ih
    · rfl

namespace Select

variable (s : Select)

theorem withTable_withoutData (operation : String) {f g : Table → Select}
    (h : ∀ t, g t = (f t).withoutData) :
    s.withoutData.withTable operation g = (s.withTable operation f).withoutData := by
  unfold withTable
  rw [table_withoutData]
  cases s.table with
  | none => rfl
  | some t => exact h t

theorem addWhere_withoutData (i : WhereItem) :
    s.withoutData.addWhere i.withoutData = (s.addWhere i).withoutData := by
  simp [addWhere, withoutData, WhereItem.withoutDataAll]

theorem keyArguments_withoutData (t : Table) (entity : ValueMap) :
    keyArguments t (entity.map fun p => (p.1, p.2.withoutData)) =
      (keyArguments t entity).map Value.withoutData := by
  unfold keyArguments
  rw [List.map_flatMap]
  congr 1
  funext f
  rw [ValueMap.get_withoutData]
  rfl

theorem whereKey_withoutData (entity : ValueMap) :
    s.withoutData.whereKey (entity.map fun p => (p.1, p.2.withoutData)) =
      (s.whereKey entity).withoutData := by
  refine withTable_withoutData s _ fun t => ?_
  split
  · rfl
  · rw [keyArguments_withoutData, ← addWhere_withoutData]
    simp [WhereItem.withoutData, Condition.withoutData, Node.withoutData]

theorem seeDeleted_withoutData (operation : String) (rows : DeletedRows) :
    s.withoutData.seeDeleted operation rows = (s.seeDeleted operation rows).withoutData := by
  refine withTable_withoutData s _ fun t => ?_
  split <;> rfl

theorem addJoinCondition_withoutData (c : Condition) :
    s.withoutData.addJoinCondition c.withoutData = (s.addJoinCondition c).withoutData := by
  unfold addJoinCondition
  rw [joins_withoutData, List.getLast?_map]
  cases s.joins.getLast? with
  | none => rfl
  | some j => simp [withoutData, ManualJoin.withoutData, List.map_dropLast]

theorem request_withoutData (schema : Schema) (path : String) (scope : JoinScope) :
    s.withoutData.request schema path scope.withoutData =
      (s.request schema path scope).withoutData := by
  refine withTable_withoutData s _ fun t => ?_
  have relations : s.withoutData.relations = JoinTree.withoutDataAll s.relations := rfl
  rw [relations, JoinTree.requestPath_withoutData]
  obtain ⟨forest, error⟩ := JoinTree.requestPath schema t path scope s.relations
  cases error <;> rfl

end Select

@[simp] theorem Cte.withoutDataAll_append (xs ys : List Cte) :
    withoutDataAll (xs ++ ys) = withoutDataAll xs ++ withoutDataAll ys := by
  induction xs with
  | nil => simp [withoutDataAll]
  | cons x xs ih => simp [withoutDataAll, ih]

@[simp] theorem Member.withoutDataAll_append (xs ys : List Member) :
    withoutDataAll (xs ++ ys) = withoutDataAll xs ++ withoutDataAll ys := by
  induction xs with
  | nil => simp [withoutDataAll]
  | cons x xs ih =>
    obtain ⟨operator, q⟩ := x
    simp [withoutDataAll, ih]

namespace Query

/-- The data of a call show nowhere but in what the call adds. -/
theorem callSelect_withoutData (schema : Schema) (s : Select) (c : Call) :
    callSelect schema s.withoutData c.withoutData = (callSelect schema s c).withoutData := by
  cases c with
  | «where» connective template args =>
    rw [Call.withoutData, callSelect, callSelect, ← Select.addWhere_withoutData]
    simp [WhereItem.withoutData, Condition.withoutData, Node.withoutData]
  | whereKey entity => exact s.whereKey_withoutData entity
  | whereGroup separator calls =>
    have group := WhereItem.ofCall_withoutData (.group separator calls)
    rw [WhereItem.Call.withoutData] at group
    simp [Call.withoutData, callSelect, group, Select.withoutData]
  | joinOn connective template args =>
    exact s.addJoinCondition_withoutData ⟨connective, .template template args⟩
  | relation path scope =>
    rw [Call.withoutData, callSelect, callSelect, JoinScope.ofCalls_withoutData,
      s.request_withoutData]
  | excludeColumn names => exact s.withTable_withoutData _ fun _ => rfl
  | whereDeleted => exact s.seeDeleted_withoutData _ _
  | whereAllWithDeleted => exact s.seeDeleted_withoutData _ _
  | order items =>
    simp [Call.withoutData, callSelect, Select.withoutData, Node.ofOrder_withoutData]
  | _ => simp [Call.withoutData, callSelect, Select.withoutData, Node.withoutData,
      ManualJoin.withoutData]

theorem select_withoutData (q : Query) : q.withoutData.select = q.select.withoutData := by
  cases q
  rw [withoutData]
  rfl

theorem ctes_withoutData (q : Query) : q.withoutData.ctes = Cte.withoutDataAll q.ctes := by
  cases q
  rw [withoutData]
  rfl

theorem members_withoutData (q : Query) :
    q.withoutData.members = Member.withoutDataAll q.members := by
  cases q
  rw [withoutData]
  rfl

theorem mapSelect_withoutData {f g : Select → Select} (q : Query)
    (h : g q.select.withoutData = (f q.select).withoutData) :
    q.withoutData.mapSelect g = (q.mapSelect f).withoutData := by
  obtain ⟨s, ctes, members⟩ := q
  rw [withoutData, mapSelect, mapSelect, withoutData]
  exact congrArg (mk · _ _) h

mutual

theorem call_withoutData (schema : Schema) (q : Query) (c : Call) :
    call schema q.withoutData c.withoutData = (call schema q c).withoutData := by
  have own := mapSelect_withoutData q (f := (callSelect schema · c))
    (g := (callSelect schema · c.withoutData)) (callSelect_withoutData schema q.select c)
  cases c with
  | withQuery name body =>
    simp [Call.withoutData, call, withoutData, select_withoutData, ctes_withoutData,
      members_withoutData, Cte.withoutDataAll, Cte.withoutData]
  | withValues name v =>
    simp [Call.withoutData, call, withoutData, select_withoutData, ctes_withoutData,
      members_withoutData, Cte.withoutDataAll, Cte.withoutData]
  | member operator body =>
    simp [Call.withoutData, call, withoutData, select_withoutData, ctes_withoutData,
      members_withoutData, Member.withoutDataAll]
  | apply cs => simpa [Call.withoutData, call] using calls_withoutData schema q cs
  | _ => simpa [Call.withoutData, call] using own

theorem calls_withoutData (schema : Schema) (q : Query) (cs : List Call) :
    calls schema q.withoutData (Call.withoutDataAll cs) = (calls schema q cs).withoutData := by
  cases cs with
  | nil => simp [Call.withoutDataAll, calls]
  | cons c rest =>
    rw [Call.withoutDataAll, calls, calls, call_withoutData schema q c]
    exact calls_withoutData schema (call schema q c) rest

end

/-- Calls without their data build the query without its data. -/
theorem ofCalls_withoutData (schema : Schema) (cs : List Call) :
    ofCalls schema (Call.withoutDataAll cs) = (ofCalls schema cs).withoutData := by
  have start : empty.withoutData = empty := by
    rw [empty, withoutData, Cte.withoutDataAll, Member.withoutDataAll]
    rfl
  rw [ofCalls, ← start, calls_withoutData, ofCalls]

end Query

end SqlCompose
