import SqlCompose.Proofs.ClauseErrors
import SqlCompose.Proofs.RelationReach
import SqlCompose.Query.Call

/-!
# The limit on the depth of relations

Paths with more segments than the limit are refused when they are requested. Rendering has a limit
of its own, which is one less: a query is not rendered once its relations follow as many to-one
relations in a row as the longest path has segments.
-/

namespace SqlCompose

/-! ## Requests -/

namespace JoinTree

theorem error_request {schema : Schema} {scope : JoinScope} {base : Table} {parent : Option String}
    {above segments : List String} {level : List JoinTree} {e : BuildError}
    (h : (request schema scope base parent above segments level).2 = some e) :
    ∃ table relation, e = .relationNotFound table relation := by
  induction segments generalizing base parent above level with
  | nil => simp [request] at h
  | cons segment rest ih =>
    cases found : base.relation? segment with
    | none =>
      rw [request_of_none found] at h
      exact ⟨_, _, (Option.some.inj h).symm⟩
    | some relation =>
      rw [request_of_some found] at h
      obtain ⟨before, t, after, changed, -, -⟩ :=
        change_eq (fresh schema base parent above relation)
          (grow schema scope (fresh schema base parent above relation) rest) level
      rw [changed] at h
      exact ih h

/-- A path is refused for its length exactly if it has too many segments. -/
theorem requestPath_pathTooLong_iff {schema : Schema} {table : Table} {path p : String}
    {scope : JoinScope} {forest : List JoinTree} :
    (requestPath schema table path scope forest).2 = some (.pathTooLong p) ↔
      greatestPathLength < (segments path).length ∧ p = path := by
  unfold requestPath
  split
  · rename_i long
    simp [long, eq_comm]
  · rename_i short
    refine iff_of_false (fun h => ?_) fun h => short h.1
    obtain ⟨t, r, different⟩ := error_request h
    cases different

theorem length_le_of_requestPath {schema : Schema} {table : Table} {path : String}
    {scope : JoinScope} {forest : List JoinTree}
    (h : (requestPath schema table path scope forest).2 = none) :
    (segments path).length ≤ greatestPathLength := by
  refine Nat.le_of_not_lt fun long => ?_
  rw [requestPath_pathTooLong_iff.mpr ⟨long, rfl⟩] at h
  cases h

theorem requestPath_of_length_le {schema : Schema} {table : Table} {path : String}
    {scope : JoinScope} {forest : List JoinTree}
    (h : (segments path).length ≤ greatestPathLength) :
    requestPath schema table path scope forest =
      request schema scope table none [] (segments path) forest := by
  rw [requestPath, if_neg (Nat.not_lt_of_le h)]

end JoinTree

namespace Select

/-- The to-one relations in a row that a SELECT asks for, at most. -/
def reach (s : Select) : Nat :=
  JoinTree.reachAll s.relations

theorem exists_error_visits_iff (s : Select) :
    (∃ e, .error e ∈ s.visits) ↔ greatestPathLength ≤ s.reach := by
  have walk :=
    JoinTree.exists_error_visitsAll_iff (show 0 < greatestPathLength by decide) s.relations
  rwa [Nat.zero_add] at walk

variable (schema : Schema) {s : Select} {table : Table}

theorem request_eq (h : s.table = some table) (path : String) (scope : JoinScope) :
    s.request schema path scope =
      { s with
        relations := (JoinTree.requestPath schema table path scope s.relations).1
        error := s.error.or (JoinTree.requestPath schema table path scope s.relations).2 } := by
  unfold request withTable
  rw [h]
  dsimp only
  split <;> rename_i requested <;> rw [requested]
  · simp
  · cases s.error <;> simp [fail]

theorem table_request (h : s.table = some table) (path : String) (scope : JoinScope) :
    (s.request schema path scope).table = some table := by
  rw [request_eq schema h]
  exact h

theorem error_request (h : s.table = some table) (path : String) (scope : JoinScope) :
    (s.request schema path scope).error =
      s.error.or (JoinTree.requestPath schema table path scope s.relations).2 := by
  rw [request_eq schema h]

theorem relations_request (h : s.table = some table) (path : String) (scope : JoinScope) :
    (s.request schema path scope).relations =
      (JoinTree.requestPath schema table path scope s.relations).1 := by
  rw [request_eq schema h]

/-- Requests, one after the other. -/
def requestAll (schema : Schema) (s : Select) (requests : List (String × List JoinScope.Call)) :
    Select :=
  requests.foldl (fun s r => s.request schema r.1 (.ofCalls r.2)) s

@[simp] theorem requestAll_nil : s.requestAll schema [] = s := rfl

@[simp] theorem requestAll_cons (r : String × List JoinScope.Call)
    (rest : List (String × List JoinScope.Call)) :
    s.requestAll schema (r :: rest) =
      (s.request schema r.1 (.ofCalls r.2)).requestAll schema rest := rfl

variable {requests : List (String × List JoinScope.Call)}

/-- Requests change the relations, and leave an error at most. -/
theorem requestAll_eq (requests : List (String × List JoinScope.Call)) (h : s.table = some table) :
    ∃ relations error, s.requestAll schema requests = { s with relations, error } := by
  induction requests generalizing s with
  | nil => exact ⟨s.relations, s.error, rfl⟩
  | cons r rest ih =>
    obtain ⟨relations, error, same⟩ := ih (table_request schema h r.1 (.ofCalls r.2))
    exact ⟨relations, error, by rw [requestAll_cons, same, request_eq schema h]⟩

/-- Requests that are accepted are short enough, each of them. -/
theorem requestAll_accepted (h : s.table = some table)
    (accepted : (s.requestAll schema requests).error = none) :
    s.error = none ∧
      (∀ r ∈ requests, (JoinTree.segments r.1).length ≤ greatestPathLength) ∧
      (s.requestAll schema requests).reach ≤ max s.reach greatestPathLength := by
  induction requests generalizing s with
  | nil => exact ⟨accepted, by simp, Nat.le_max_left ..⟩
  | cons r rest ih =>
    rw [requestAll_cons] at accepted ⊢
    obtain ⟨noError, short, within⟩ := ih (table_request schema h r.1 _) accepted
    rw [error_request schema h, Option.or_eq_none_iff] at noError
    obtain ⟨before, now⟩ := noError
    have length := JoinTree.length_le_of_requestPath now
    refine ⟨before, ?_, Nat.le_trans within ?_⟩
    · intro r' hr'
      rcases List.mem_cons.mp hr' with rfl | hr'
      · exact length
      · exact short r' hr'
    · have further := JoinTree.reachAll_request_le schema (.ofCalls r.2) table none []
        (JoinTree.segments r.1) s.relations
      have reached : (s.request schema r.1 (.ofCalls r.2)).reach ≤
          max s.reach (JoinTree.segments r.1).length := by
        rwa [reach, relations_request schema h, JoinTree.requestPath_of_length_le length]
      omega

/-- With distinct aliases the relations reach as far as the path that follows the most to-one
relations. -/
theorem le_reach_requestAll_iff (hschema : ∀ n, (schema.table n).HasDistinctAliases)
    (htable : table.HasDistinctAliases) (h : s.table = some table)
    (declared : JoinTree.AllDeclared schema table none s.relations)
    (accepted : (s.requestAll schema requests).error = none) (n : Nat) :
    n ≤ (s.requestAll schema requests).reach ↔
      n ≤ s.reach ∨ ∃ r ∈ requests, n ≤ table.toOneSteps schema (JoinTree.segments r.1) := by
  induction requests generalizing s with
  | nil => simp
  | cons r rest ih =>
    have short := (requestAll_accepted schema h accepted).2.1 r List.mem_cons_self
    rw [requestAll_cons] at accepted ⊢
    obtain ⟨stays, further⟩ := JoinTree.reachAll_request hschema (.ofCalls r.2) htable []
      (JoinTree.segments r.1) declared
    have relations := relations_request schema h r.1 (.ofCalls r.2)
    rw [JoinTree.requestPath_of_length_le short] at relations
    rw [← relations] at stays further
    rw [ih (table_request schema h r.1 _) stays accepted, reach, further]
    have either : n ≤ max s.reach (table.toOneSteps schema (JoinTree.segments r.1)) ↔
        n ≤ s.reach ∨ n ≤ table.toOneSteps schema (JoinTree.segments r.1) := by
      omega
    simp only [List.mem_cons, exists_eq_or_imp, ← or_assoc]
    exact or_congr_left either

end Select

/-- A query for a table and some of its relations. -/
def Query.relating (schema : Schema) (table : Table)
    (requests : List (String × List JoinScope.Call)) : Query :=
  ofCalls schema (.model table :: requests.map fun r => .relation r.1 r.2)

theorem Query.call_relation (schema : Schema) (s : Select) (path : String)
    (scope : List JoinScope.Call) :
    call schema (.mk s [] []) (.relation path scope) =
      .mk (s.request schema path (.ofCalls scope)) [] [] := by
  simp [call, mapSelect, callSelect]

theorem Query.relating_eq (schema : Schema) (table : Table)
    (requests : List (String × List JoinScope.Call)) :
    relating schema table requests =
      .mk (Select.requestAll schema { table := some table } requests) [] [] := by
  have run (s : Select) : calls schema (.mk s [] []) (requests.map fun r => .relation r.1 r.2) =
      .mk (s.requestAll schema requests) [] [] := by
    induction requests generalizing s with
    | nil => rw [List.map_nil, calls, Select.requestAll_nil]
    | cons r rest ih =>
      rw [List.map_cons, calls, Select.requestAll_cons, call_relation]
      exact ih _
  have bound : call schema empty (.model table) = .mk { table := some table } [] [] := by
    simp [call, mapSelect, callSelect, empty]
  rw [relating, ofCalls, calls, bound]
  exact run _

/-! ## Rendering -/

namespace JoinTree

/-- Nothing else goes wrong in the columns of a walk. -/
theorem error?_columnItems_of_error_mem {d : Dialect} (started : Bool) {vs : List Visit}
    (h : ∃ e, .error e ∈ vs) :
    ∃ e, .error e ∈ vs ∧ (columnItems d started vs).error? = some (.build e) := by
  induction vs generalizing started with
  | nil => simp at h
  | cons v rest ih =>
    cases v with
    | error e => exact ⟨e, List.mem_cons_self, rfl⟩
    | ok j =>
      have below := fun b => ih b (by simpa using h)
      rw [columnItems]
      split
      · obtain ⟨e, he, error⟩ := below started
        exact ⟨e, List.mem_cons_of_mem _ he, error⟩
      · obtain ⟨e, he, error⟩ := below true
        exact ⟨e, List.mem_cons_of_mem _ he, by simpa using error⟩

/-- The joins of a walk before it gets too deep. -/
def walked : List Visit → List Join
  | .ok j :: rest => j :: walked rest
  | _ => []

/-- A walk that gets too deep is found to, unless something is wrong with a join before. -/
theorem exists_pathTooLong_leftJoins_iff {d : Dialect} {names : Template.Names}
    (hnames : ∀ name f, names name = some f → f.FailsAsClause) {vs : List Visit}
    (deep : ∃ e, .error e ∈ vs) (errors : ∀ e, .error e ∈ vs → ∃ p, e = .pathTooLong p) :
    (∃ p, (leftJoins d names vs).error? = some (.build (.pathTooLong p))) ↔
      ∀ j ∈ walked vs, (j.leftJoin d names).error? = none := by
  induction vs with
  | nil => simp at deep
  | cons v rest ih =>
    cases v with
    | error e =>
      obtain ⟨p, rfl⟩ := errors e List.mem_cons_self
      exact iff_of_true ⟨p, rfl⟩ (by simp [walked])
    | ok j =>
      have below := ih (by simpa using deep) fun e he => errors e (List.mem_cons_of_mem _ he)
      rw [walked, leftJoins, List.forall_mem_cons, ← below]
      simp only [Fragment.error?_append, Fragment.error?_text, Option.none_or]
      cases joined : (j.leftJoin d names).error? with
      | none => simp
      | some e =>
        -- What is wrong with a join is never that it is too deep.
        have clause := j.failsOnly_leftJoin (fun _ clause => clause.ofClause) hnames d e joined
        refine iff_of_false ?_ (by simp)
        rintro ⟨p, too⟩
        obtain rfl := Option.some.inj too
        cases clause

end JoinTree

theorem Query.error?_fragment_mk (t : Target) (form : Form) {s : Select} (h : s.error = none) :
    ((mk s [] []).fragment t form).error? = (s.fragment t form).error? := by
  simp only [fragment, h, withClause, Fragment.empty_append, error?_wrapped]

/-- A SELECT from a table and some of its relations. -/
def Select.relating (table : Table) (relations : List JoinTree) : Select where
  table := some table
  relations := relations

section

variable {table : Table} {relations : List JoinTree} (t : Target)

/-- Before the columns of the relations nothing goes wrong. -/
theorem Select.error?_fragment_rows (h : ∃ e, .error e ∈ (relating table relations).visits) :
    ∃ e, .error e ∈ (relating table relations).visits ∧
      ((relating table relations).fragment t .rows).error? = some (.build e) := by
  generalize hs : relating table relations = s at h ⊢
  have distinct : (s.distinctClause t).error? = none := by
    rw [← hs]
    rfl
  have base : (s.baseColumns t).error? = none := by
    simp only [← hs, relating, baseColumns, List.isEmpty_nil, if_true]
    split <;> rfl
  obtain ⟨e, he, error⟩ := JoinTree.error?_columnItems_of_error_mem (d := t.dialect)
    (!(s.baseColumns t).isBlank t.shapeOnly) h
  refine ⟨e, he, ?_⟩
  simp [fragment, distinct, selection, columnList, base, error]

/-- Where rows are counted nothing goes wrong before the joins of the relations. -/
theorem Select.error?_fragment_count (h : ∃ e, .error e ∈ (relating table relations).visits) :
    ((relating table relations).fragment t .count).error? =
      (JoinTree.leftJoins t.dialect ((relating table relations).names t.dialect)
        (relating table relations).visits).error? := by
  cases joined : (JoinTree.leftJoins t.dialect ((relating table relations).names t.dialect)
      (relating table relations).visits).error? with
  | none =>
    obtain ⟨e, he⟩ := h
    exact absurd he (JoinTree.not_error_mem_of_leftJoins joined e)
  | some e =>
    have distinct : ((relating table relations).distinctClause t).error? = none := rfl
    have selected : ((relating table relations).selection t .count).error? = none := rfl
    have source : ((relating table relations).fromClause t).error? = none := rfl
    simp [fragment, distinct, selected, source, joinClauses, joined]

end

theorem Query.render_eq_error_iff {d : Dialect} {m : Mode} {form : Form} {q : Query}
    {e : RenderError} :
    q.render d m form = .error e ↔ (q.fragment (d.target m) form).error? = some e := by
  rw [render]
  cases q.fragment (d.target m) form <;> simp [Fragment.write]

/-- Where all relations can be walked through, here and in nested queries, none is too deep. -/
theorem Query.render_ne_pathTooLong {d : Dialect} {m : Mode} {form : Form} {q : Query}
    (h : q.Every Select.Renders (·.error? = none)) (p : String) :
    q.render d m form ≠ .error (.build (.pathTooLong p)) := by
  intro failed
  cases Query.failsAsClause_fragment _ form h _ (render_eq_error_iff.mp failed)

theorem Query.every_of_render_eq_ok {d : Dialect} {m : Mode} {form : Form} {q : Query}
    {r : Rendered} (h : q.render d m form = .ok r) :
    q.Every Select.Renders (·.error? = none) := by
  have noError : (q.fragment (d.target m) form).error? = none := by
    rw [render] at h
    cases hf : q.fragment (d.target m) form with
    | ok ps => rfl
    | fail e =>
      rw [hf] at h
      cases h
  exact every_of_error?_eq_none (d.target m) noError

theorem Query.every_relating_iff {table : Table} {relations : List JoinTree}
    {V : Values → Prop} :
    (mk (.relating table relations) [] []).Every Select.Renders V ↔
      (Select.relating table relations).reach < greatestPathLength := by
  have walk := (Select.relating table relations).exists_error_visits_iff
  simp only [Every, Cte.EveryOf, Member.EveryOf, and_true, Select.Renders]
  rw [← Nat.not_le, ← walk, not_exists]
  exact and_iff_right rfl

/-! ## Both limits -/

/-- The two limits, for a query of a table and requests that the builder accepted. -/
structure Query.DepthLimits (schema : Schema) (table : Table)
    (requests : List (String × List JoinScope.Call)) (d : Dialect) (m : Mode) (q : Query) :
    Prop where
  short : ∀ r ∈ requests, (JoinTree.segments r.1).length ≤ greatestPathLength
  /-- The builder refuses a further path for its length just if it is longer than the limit. -/
  refused : ∀ path scope,
    (∃ p, (q.call schema (.relation path scope)).error? = some (.pathTooLong p)) ↔
      greatestPathLength < (JoinTree.segments path).length
  within : q.select.reach ≤ greatestPathLength
  /-- Rendering fails where the relations reach as far as the limit allows. -/
  rows : (∃ p, q.render d m .rows = .error (.build (.pathTooLong p))) ↔
    q.select.reach = greatestPathLength
  /-- Counting fails there too, unless something is wrong with the conditions of an earlier join. -/
  count : (∃ p, q.render d m .count = .error (.build (.pathTooLong p))) ↔
    q.select.reach = greatestPathLength ∧
      ∀ j ∈ JoinTree.walked q.select.visits, (j.leftJoin d (q.select.names d)).error? = none
  uncounted : q.select.reach = greatestPathLength → ∀ r, q.render d m .count ≠ .ok r
  /-- With distinct aliases these are the queries with a path of to-one relations that is as long
  as the limit allows. -/
  paths : table.HasDistinctAliases → (∀ t ∈ schema.tables, t.HasDistinctAliases) →
    (q.select.reach = greatestPathLength ↔
      ∃ r ∈ requests, table.toOneSteps schema (JoinTree.segments r.1) = greatestPathLength)

theorem Schema.hasDistinctAliases_table {schema : Schema}
    (h : ∀ t ∈ schema.tables, t.HasDistinctAliases) (n : Nat) :
    (schema.table n).HasDistinctAliases := by
  rw [table, List.getD_eq_getElem?_getD]
  cases found : schema.tables[n]? with
  | none =>
    intro r hr
    cases hr
  | some t => exact h t (List.mem_of_getElem? found)

/-- What an accepted query has asked for. -/
theorem Query.relating_of_accepted {schema : Schema} {table : Table}
    {requests : List (String × List JoinScope.Call)}
    (accepted : (relating schema table requests).error? = none) :
    relating schema table requests =
      .mk (.relating table
        (Select.requestAll schema { table := some table } requests).relations) [] [] := by
  rw [relating_eq] at accepted ⊢
  obtain ⟨relations, error, same⟩ := Select.requestAll_eq schema requests
    (s := { table := some table }) rfl
  rw [same] at accepted ⊢
  obtain rfl : error = none := accepted
  rfl

section

variable {table : Table} {relations : List JoinTree} {d : Dialect} {m : Mode} {form : Form}

/-- Only relations that reach as far as the limit allows are found to be too deep. -/
theorem Query.reach_of_pathTooLong {p : String}
    (failed : (mk (.relating table relations) [] []).render d m form =
      .error (.build (.pathTooLong p))) :
    greatestPathLength ≤ (Select.relating table relations).reach :=
  Nat.le_of_not_lt fun short => render_ne_pathTooLong (every_relating_iff.mpr short) p failed

theorem Query.reach_of_ok {r : Rendered}
    (rendered : (mk (.relating table relations) [] []).render d m form = .ok r) :
    (Select.relating table relations).reach < greatestPathLength :=
  every_relating_iff.mp (every_of_render_eq_ok rendered)

theorem Query.render_rows_of_reach
    (deep : greatestPathLength ≤ (Select.relating table relations).reach) :
    ∃ p, (mk (.relating table relations) [] []).render d m .rows =
      .error (.build (.pathTooLong p)) := by
  obtain ⟨e, he, error⟩ := Select.error?_fragment_rows (d.target m)
    ((Select.exists_error_visits_iff _).mpr deep)
  obtain ⟨p, rfl⟩ := JoinTree.eq_pathTooLong_of_error_mem_visitsAll he
  exact ⟨p, render_eq_error_iff.mpr (by rwa [error?_fragment_mk _ _ rfl])⟩

theorem Query.render_count_iff_of_reach
    (deep : greatestPathLength ≤ (Select.relating table relations).reach) :
    (∃ p, (mk (.relating table relations) [] []).render d m .count =
        .error (.build (.pathTooLong p))) ↔
      ∀ j ∈ JoinTree.walked (Select.relating table relations).visits,
        (j.leftJoin d ((Select.relating table relations).names d)).error? = none := by
  have found := (Select.exists_error_visits_iff (.relating table relations)).mpr deep
  simp only [render_eq_error_iff, error?_fragment_mk _ _ (s := .relating table relations) rfl,
    Select.error?_fragment_count _ found]
  exact JoinTree.exists_pathTooLong_leftJoins_iff
    (fun _ _ => Select.failsOnly_names _ fun _ clause => clause.ofClause) found
    fun _ he => JoinTree.eq_pathTooLong_of_error_mem_visitsAll he

end

/-- With distinct aliases the relations reach as far as the limit allows just if a path of to-one
relations does. -/
theorem Select.le_reach_iff_exists_path {schema : Schema} {table : Table}
    {requests : List (String × List JoinScope.Call)} (htable : table.HasDistinctAliases)
    (hschema : ∀ t ∈ schema.tables, t.HasDistinctAliases)
    (accepted : (requestAll schema { table := some table } requests).error = none) :
    greatestPathLength ≤ (requestAll schema { table := some table } requests).reach ↔
      ∃ r ∈ requests, table.toOneSteps schema (JoinTree.segments r.1) = greatestPathLength := by
  have short := (requestAll_accepted schema rfl accepted).2.1
  have nothing : ¬ greatestPathLength ≤ ({ table := some table } : Select).reach := by
    simp [reach, greatestPathLength]
  rw [le_reach_requestAll_iff schema (Schema.hasDistinctAliases_table hschema) htable rfl
    JoinTree.allDeclared_nil accepted, or_iff_right nothing]
  constructor
  · rintro ⟨r, hr, far⟩
    have bounded := table.toOneSteps_le_length schema (JoinTree.segments r.1)
    exact ⟨r, hr, Nat.le_antisymm (Nat.le_trans bounded (short r hr)) far⟩
  · rintro ⟨r, hr, far⟩
    exact ⟨r, hr, Nat.le_of_eq far.symm⟩

/-- The builder keeps to the limit, and rendering falls short of it by one. -/
theorem Query.depthLimits_relating {schema : Schema} {table : Table}
    {requests : List (String × List JoinScope.Call)}
    (accepted : (relating schema table requests).error? = none) (d : Dialect) (m : Mode) :
    DepthLimits schema table requests d m (relating schema table requests) := by
  have noError : (Select.requestAll schema { table := some table } requests).error = none := by
    rwa [relating_eq] at accepted
  obtain ⟨-, short, within⟩ := Select.requestAll_accepted schema rfl noError
  have furthest := fun htable hschema =>
    Select.le_reach_iff_exists_path htable hschema noError
  rw [relating_of_accepted accepted]
  simp only [Select.reach] at within furthest
  generalize (Select.requestAll schema { table := some table } requests).relations = relations at *
  have deep {form : Form} {p : String} (failed : (mk (.relating table relations) [] []).render d m
      form = .error (.build (.pathTooLong p))) :
      (Select.relating table relations).reach = greatestPathLength :=
    Nat.le_antisymm within (reach_of_pathTooLong failed)
  refine
    { short := short
      refused := fun path scope => ?refused
      within := within
      rows := ⟨fun ⟨p, failed⟩ => deep failed, fun far => ?rows⟩
      count := ⟨fun failed => ?count, fun ⟨far, joins⟩ => ?counted⟩
      uncounted := fun far r rendered => ?uncounted
      paths := fun htable hschema => ?paths }
  case refused =>
    rw [call_relation, error?, select, Select.error_request schema rfl]
    simp only [Select.relating, Option.none_or, JoinTree.requestPath_pathTooLong_iff,
      exists_and_left, exists_eq, and_true]
  case rows => exact render_rows_of_reach (Nat.le_of_eq far.symm)
  case count =>
    obtain ⟨p, tooLong⟩ := failed
    have far := deep tooLong
    exact ⟨far, (render_count_iff_of_reach (Nat.le_of_eq far.symm)).mp ⟨p, tooLong⟩⟩
  case counted => exact (render_count_iff_of_reach (Nat.le_of_eq far.symm)).mpr joins
  case uncounted => exact Nat.ne_of_lt (reach_of_ok rendered) far
  case paths =>
    rw [← furthest htable hschema]
    exact ⟨fun deep => Nat.le_of_eq deep.symm, Nat.le_antisymm within⟩

/-- Rows that belong to rows of the same table. -/
def Table.nodes : Table where
  name := "nodes"
  aliasName := "node"
  fields := [{ name := "id", column := "id" }, { name := "parent_id", column := "parent_id" }]
  relations := [{ name := "Up", kind := .belongsTo, target := 0,
                  baseFields := ["parent_id"], joinFields := ["id"] }]

/-- The path to a parent some steps above. -/
def Table.ancestor (steps : Nat) : String :=
  ".".intercalate (List.replicate steps "Up")

theorem Query.depthLimits_nodes :
    let q := relating ⟨[.nodes]⟩ .nodes [(Table.ancestor 2, []), (Table.ancestor 16, [])]
    q.error? = none ∧ DepthLimits ⟨[.nodes]⟩ .nodes
      [(Table.ancestor 2, []), (Table.ancestor 16, [])] .postgres .literal q :=
  ⟨by decide +kernel, Query.depthLimits_relating (by decide +kernel) .postgres .literal⟩

/-- The path is accepted, but the query is neither rendered nor counted. -/
theorem Query.pathTooLong_ancestor :
    let q := relating ⟨[.nodes]⟩ .nodes [(Table.ancestor 16, [])]
    q.error? = none ∧ (JoinTree.segments (Table.ancestor 16)).length = greatestPathLength ∧
      q.render .postgres .literal .rows = .error (.build (.pathTooLong "")) ∧
      q.render .postgres .literal .count = .error (.build (.pathTooLong "")) :=
  ⟨by decide +kernel, by decide +kernel, Query.render_eq_error_iff.mpr (by decide +kernel),
    Query.render_eq_error_iff.mpr (by decide +kernel)⟩

end SqlCompose
