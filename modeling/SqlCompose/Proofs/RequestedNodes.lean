import SqlCompose.Proofs.RequestedPaths

/-!
# The nodes of requested relations

The forest that accepted requests leave, node by node: which paths have a node, in which order nodes
stand beside each other, what each of them joins to what, and that no alias is used twice.
-/

namespace SqlCompose

/-! ## Nodes and their paths -/

/-- The table that a path of relation names leads to. -/
def Table.follow (schema : Schema) (base : Table) : List String → Option Table
  | [] => some base
  | name :: rest => (base.relation? name).bind fun r => follow schema (schema.table r.target) rest

/-- The relations that are flattened into a SELECT, in the order of their columns. -/
def Select.flattened (s : Select) : List Join :=
  s.visits.filterMap Except.toOption

namespace JoinTree

open Asked

mutual

/-- The nodes of a tree, each with the names that lead to it. -/
def nodes : JoinTree → List (List String × JoinTree)
  | .node j children =>
    ([j.relation.name], .node j children) ::
      (nodesAll children).map fun n => (j.relation.name :: n.1, n.2)

def nodesAll : List JoinTree → List (List String × JoinTree)
  | [] => []
  | t :: rest => t.nodes ++ nodesAll rest

end

theorem nodes_eq (t : JoinTree) :
    t.nodes = ([t.name], t) :: (nodesAll t.children).map fun n => (t.name :: n.1, n.2) := by
  obtain ⟨j, children⟩ := t
  rw [nodes]
  rfl

theorem mem_nodesAll {level : List JoinTree} {n : List String × JoinTree} :
    n ∈ nodesAll level ↔ ∃ t ∈ level, n ∈ t.nodes := by
  induction level with
  | nil => simp [nodesAll]
  | cons t rest ih => simp [nodesAll, ih]

/-- A node stands in a level or below a node of the level. -/
theorem mem_nodesAll_cons {level : List JoinTree} {first : String} {path : List String}
    {t : JoinTree} :
    (first :: path, t) ∈ nodesAll level ↔
      ∃ u ∈ level, u.name = first ∧
        (path = [] ∧ t = u ∨ (path, t) ∈ nodesAll u.children) := by
  rw [mem_nodesAll]
  refine exists_congr fun u => and_congr_right fun _ => ?_
  rw [nodes_eq]
  simp only [List.mem_cons, List.mem_map, Prod.mk.injEq, List.cons.injEq]
  constructor
  · rintro (⟨⟨rfl, rfl⟩, rfl⟩ | ⟨n, hn, ⟨rfl, rfl⟩, rfl⟩)
    · exact ⟨rfl, .inl ⟨rfl, rfl⟩⟩
    · exact ⟨rfl, .inr hn⟩
  · rintro ⟨rfl, ⟨rfl, rfl⟩ | below⟩
    · exact .inl ⟨⟨rfl, rfl⟩, rfl⟩
    · exact .inr ⟨(path, t), below, ⟨rfl, rfl⟩, rfl⟩

theorem head?_of_mem_nodes {t : JoinTree} {n : List String × JoinTree} (h : n ∈ t.nodes) :
    n.1.head? = some t.name := by
  rw [nodes_eq] at h
  rcases List.mem_cons.mp h with rfl | h
  · rfl
  · obtain ⟨n, -, rfl⟩ := List.mem_map.mp h
    rfl

theorem ne_nil_of_mem_nodesAll {level : List JoinTree} {n : List String × JoinTree}
    (h : n ∈ nodesAll level) : n.1 ≠ [] := by
  obtain ⟨t, -, ht⟩ := mem_nodesAll.mp h
  intro none
  have head := head?_of_mem_nodes ht
  rw [none] at head
  cases head

theorem exists_snoc_of_mem_nodesAll {level : List JoinTree} {path : List String} {t : JoinTree}
    (h : (path, t) ∈ nodesAll level) : ∃ before last, path = before ++ [last] :=
  ⟨_, _, (List.dropLast_concat_getLast (ne_nil_of_mem_nodesAll h)).symm⟩

section

variable {schema : Schema} {base : Table} {parent : Option String} {above : List String}
  {asked : List Asked} {level : List JoinTree}

/-- There is a node for each path that a request follows, and for no other. -/
theorem IsLevel.exists_mem_nodesAll_iff (h : IsLevel schema base parent above asked level)
    (path : List String) :
    (∃ t, (path, t) ∈ nodesAll level) ↔ path ≠ [] ∧ ∃ r ∈ asked, path <+: r.1 := by
  induction path generalizing base parent above asked level with
  | nil =>
    refine iff_of_false ?_ (fun there => there.1 rfl)
    rintro ⟨t, mem⟩
    exact ne_nil_of_mem_nodesAll mem rfl
  | cons first path ih =>
    simp only [mem_nodesAll_cons]
    constructor
    · rintro ⟨t, u, hu, rfl, here | further⟩
      · obtain ⟨r, hr, rest, starts⟩ := mem_heads.mp (h.mem_heads_iff.mpr ⟨u, hu, rfl⟩)
        exact ⟨by simp, r, hr, by simp [here.1, starts]⟩
      · have inner := (answers_iff.mp (h.nodes u hu)).2.2
        obtain ⟨-, r, hr, starts⟩ := (ih inner).mp ⟨t, further⟩
        exact ⟨by simp, _, mem_below.mp hr, by simpa using starts⟩
    · rintro ⟨-, ⟨names, scope⟩, hr, rest, rfl⟩
      obtain ⟨u, hu, rfl⟩ := h.mem_heads_iff.mp (mem_heads.mpr ⟨_, hr, path ++ rest, rfl⟩)
      cases path with
      | nil => exact ⟨u, u, hu, rfl, .inl ⟨rfl, rfl⟩⟩
      | cons second path =>
        have inner := (answers_iff.mp (h.nodes u hu)).2.2
        have asks : (second :: path ++ rest, scope) ∈ below [u.name] asked := mem_below.mpr hr
        obtain ⟨t, further⟩ := (ih inner).mpr ⟨by simp, _, asks, List.prefix_append _ _⟩
        exact ⟨t, u, hu, rfl, .inr further⟩

end

mutual

/-- No two nodes have one path. -/
theorem Answers.nodup_nodes {schema : Schema} {base : Table} {parent : Option String}
    {above : List String} {asked : List Asked} {t : JoinTree}
    (h : t.Answers schema base parent above asked) : (t.nodes.map (·.1)).Nodup := by
  obtain ⟨j, children⟩ := t
  obtain ⟨-, -, inner⟩ := answers_iff.mp h
  have below := nodup_nodesAll (inner.names ▸ nodup_eraseDups _) inner.nodes
  rw [nodes_eq, List.map_cons, List.map_map, List.nodup_cons]
  constructor
  · intro again
    obtain ⟨n, hn, same⟩ := List.mem_map.mp again
    exact ne_nil_of_mem_nodesAll hn (List.cons.inj same).2
  · rw [show ((·.1) ∘ fun n : List String × JoinTree => (name (.node j children) :: n.1, n.2)) =
      List.cons (name (.node j children)) ∘ (·.1) from rfl, ← List.map_map]
    exact List.pairwise_map.mpr (below.imp fun other same => other (List.cons.inj same).2)

theorem nodup_nodesAll {schema : Schema} {base : Table} {parent : Option String}
    {above : List String} {asked : List Asked} {level : List JoinTree}
    (names : (level.map name).Nodup)
    (h : ∀ t ∈ level, t.Answers schema base parent above asked) :
    ((nodesAll level).map (·.1)).Nodup := by
  cases level with
  | nil => simp [nodesAll]
  | cons t rest =>
    rw [List.map_cons, List.nodup_cons] at names
    rw [List.forall_mem_cons] at h
    rw [nodesAll, List.map_append, List.nodup_append]
    refine ⟨h.1.nodup_nodes, nodup_nodesAll names.2 h.2, ?_⟩
    -- The first name on the path tells the trees apart.
    rintro path hpath path' hpath' rfl
    obtain ⟨n, hn, rfl⟩ := List.mem_map.mp hpath
    obtain ⟨n', hn', same⟩ := List.mem_map.mp hpath'
    obtain ⟨u, hu, hn'⟩ := mem_nodesAll.mp hn'
    have first := head?_of_mem_nodes hn
    rw [← same, head?_of_mem_nodes hn'] at first
    exact names.1 (Option.some.inj first ▸ List.mem_map_of_mem hu)

end

section

variable {schema : Schema} {base : Table} {parent : Option String} {above : List String}
  {asked : List Asked} {level : List JoinTree}

/-- The alias at the end of a path below a parent. -/
def parentAt (parent : Option String) (path : List String) : Option String :=
  path.foldl (fun p name => some (aliasOf p name)) parent

/-- A node answers to what is asked for on its path. -/
theorem IsLevel.exists_answers (h : IsLevel schema base parent above asked level)
    {path : List String} {last : String} {t : JoinTree}
    (mem : (path ++ [last], t) ∈ nodesAll level) :
    ∃ base', base.follow schema path = some base' ∧ t.name = last ∧
      t.Answers schema base' (parentAt parent path) (above ++ path) (below path asked) := by
  induction path generalizing base parent above asked level with
  | nil =>
    obtain ⟨u, hu, rfl, here | further⟩ := mem_nodesAll_cons.mp mem
    · obtain ⟨-, rfl⟩ := here
      refine ⟨base, rfl, rfl, ?_⟩
      rw [below_nil, List.append_nil]
      exact h.nodes _ hu
    · exact absurd rfl (ne_nil_of_mem_nodesAll further)
  | cons first path ih =>
    obtain ⟨u, hu, rfl, here | further⟩ := mem_nodesAll_cons.mp mem
    · simp at here
    · obtain ⟨declared, joined, inner⟩ := answers_iff.mp (h.nodes u hu)
      have target : u.join.target = schema.table u.join.relation.target := by rw [joined]; rfl
      have aliasName : u.join.aliasName = aliasOf parent u.name := by rw [joined]; rfl
      have names : u.join.path = above ++ [u.name] := by rw [joined]; rfl
      rw [target, aliasName, names] at inner
      obtain ⟨base', found, named, answers⟩ := ih inner further
      refine ⟨base', ?_, named, ?_⟩
      · rw [Table.follow, declared]
        exact found
      · rw [← List.singleton_append, below_append]
        rw [List.append_assoc] at answers
        exact answers

end

/-! ## Flattened relations -/

mutual

/-- The joins that a tree reaches through to-one relations, parents before children. -/
def toOne : JoinTree → List Join
  | .node j children => if j.relation.kind.isToOne then j :: toOneAll children else []

def toOneAll : List JoinTree → List Join
  | [] => []
  | t :: rest => t.toOne ++ toOneAll rest

end

mutual

/-- Flattened relations are nodes, in the order of the nodes. -/
theorem sublist_nodes_of_visits (depth : Nat) (t : JoinTree) :
    ((t.visits depth).filterMap Except.toOption).Sublist (t.nodes.map (·.2.join)) := by
  obtain ⟨j, children⟩ := t
  have below : ((nodesAll children).map fun n => (j.relation.name :: n.1, n.2)).map (·.2.join) =
      (nodesAll children).map (·.2.join) := by
    rw [List.map_map]
    rfl
  rw [visits, nodes, List.map_cons, below]
  by_cases toOne : j.relation.kind.isToOne = true
  · rw [if_pos toOne]
    apply List.Sublist.cons_cons
    by_cases deep : greatestPathLength ≤ depth + 1
    · rw [if_pos deep]
      exact List.nil_sublist _
    · rw [if_neg deep]
      exact sublist_nodesAll_of_visitsAll (depth + 1) children
  · rw [if_neg toOne]
    exact List.nil_sublist _

theorem sublist_nodesAll_of_visitsAll (depth : Nat) (ts : List JoinTree) :
    ((visitsAll depth ts).filterMap Except.toOption).Sublist ((nodesAll ts).map (·.2.join)) := by
  cases ts with
  | nil => exact List.nil_sublist _
  | cons t rest =>
    rw [visitsAll, nodesAll, List.filterMap_append, List.map_append]
    exact (sublist_nodes_of_visits depth t).append (sublist_nodesAll_of_visitsAll depth rest)

end

/-! ## Aliases -/

/-- The alias of a path without its first name. -/
def behind (path : List String) : String :=
  String.join (path.map fun name => "__" ++ Text.snakeCase name)

theorem aliasAt_cons (first : String) (path : List String) :
    aliasAt (first :: path) = Text.snakeCase first ++ behind path := by
  induction path generalizing first with
  | nil => simp [aliasAt, behind]
  | cons second path ih =>
    have joined : aliasAt (first :: second :: path) =
        Text.snakeCase first ++ "__" ++ aliasAt (second :: path) := by
      simp [aliasAt, String.intercalate_cons_cons]
    rw [joined, ih]
    simp [behind, String.append_assoc]

theorem parentAt_some (p : String) (path : List String) :
    parentAt (some p) path = some (p ++ behind path) := by
  induction path generalizing p with
  | nil => simp [parentAt, behind]
  | cons name path ih =>
    have step : parentAt (some p) (name :: path) =
      parentAt (some (p ++ "__" ++ Text.snakeCase name)) path := rfl
    rw [step, ih]
    simp [behind, String.append_assoc]

/-- The alias of the node that a path from the bound table leads to. -/
theorem parentAt_none {path : List String} (h : path ≠ []) :
    parentAt none path = some (aliasAt path) := by
  cases path with
  | nil => exact absurd rfl h
  | cons first path =>
    rw [aliasAt_cons, ← parentAt_some]
    rfl

theorem aliasOf_parentAt_none (path : List String) (last : String) :
    aliasOf (parentAt none path) last = aliasAt (path ++ [last]) := by
  have whole : parentAt none (path ++ [last]) = some (aliasAt (path ++ [last])) :=
    parentAt_none (by simp)
  rw [parentAt, List.foldl_append] at whole
  exact Option.some.inj whole

end JoinTree

/-- The relations of a table have distinct aliases, and none of them is empty. -/
structure Table.HasReadableAliases (t : Table) : Prop where
  distinct : t.HasDistinctAliases
  nonempty : ∀ r ∈ t.relations, Text.snakeCase r.name ≠ ""

section

open JoinTree Text

variable {schema : Schema} (readable : ∀ n, (schema.table n).HasReadableAliases)
include readable

theorem Table.snakeCase_ne_of_follow {base target : Table} (h : base.HasReadableAliases)
    {path : List String} (leads : base.follow schema path = some target) :
    ∀ name ∈ path, snakeCase name ≠ "" := by
  induction path generalizing base with
  | nil => simp
  | cons first path ih =>
    rw [follow, Option.bind_eq_some_iff] at leads
    obtain ⟨r, found, leads⟩ := leads
    obtain ⟨rfl, member⟩ := relation?_eq_some found
    rw [List.forall_mem_cons]
    exact ⟨h.nonempty r member, ih (readable r.target) leads⟩

/-- Paths of relations are told apart by the snake-case forms of their names. -/
theorem Table.eq_of_map_snakeCase_eq {base target target' : Table} (h : base.HasReadableAliases)
    {path path' : List String} (leads : base.follow schema path = some target)
    (leads' : base.follow schema path' = some target')
    (same : path.map snakeCase = path'.map snakeCase) : path = path' := by
  induction path generalizing base path' with
  | nil => exact (List.map_eq_nil_iff.mp same.symm).symm
  | cons first path ih =>
    cases path' with
    | nil => simp at same
    | cons first' path' =>
      rw [List.map_cons, List.map_cons, List.cons.injEq] at same
      rw [follow, Option.bind_eq_some_iff] at leads leads'
      obtain ⟨r, found, leads⟩ := leads
      obtain ⟨r', found', leads'⟩ := leads'
      obtain ⟨rfl, member⟩ := relation?_eq_some found
      obtain ⟨rfl, member'⟩ := relation?_eq_some found'
      obtain rfl := h.distinct r member r' member' same.1
      rw [ih (readable r.target) leads leads' same.2]

/-- Different paths end in different aliases. -/
theorem Table.eq_of_aliasAt_eq {base target target' : Table} (h : base.HasReadableAliases)
    {path path' : List String} (hne : path ≠ []) (hne' : path' ≠ [])
    (leads : base.follow schema path = some target)
    (leads' : base.follow schema path' = some target') (same : aliasAt path = aliasAt path') :
    path = path' :=
  eq_of_map_snakeCase_eq readable h leads leads'
    (map_snakeCase_eq_of_aliasAt_eq hne hne' (snakeCase_ne_of_follow readable h leads)
      (snakeCase_ne_of_follow readable h leads') same)

end

/-! ## Accepted requests -/

/-- The scopes of the requests for exactly a path. -/
def scopesFor (requests : List (String × List JoinScope.Call)) (path : List String) :
    List JoinScope :=
  requests.filterMap fun r =>
    if JoinTree.segments r.1 = path then some (.ofCalls r.2) else none

/-- The relations that requests follow at the end of a path. -/
def namesAfter (requests : List (String × List JoinScope.Call)) (path : List String) :
    List String :=
  requests.filterMap fun r => (Asked.rest? path (JoinTree.segments r.1)).bind List.head?

theorem scopes_below_map_ofRequest (requests : List (String × List JoinScope.Call))
    (path : List String) :
    Asked.scopes (Asked.below path (requests.map Asked.ofRequest)) = scopesFor requests path := by
  simp only [Asked.scopes, Asked.below, scopesFor, List.filterMap_map, List.filterMap_filterMap]
  congr 1
  funext r
  have exact : JoinTree.segments r.1 = path ↔
      Asked.rest? path (JoinTree.segments r.1) = some [] := by
    rw [Asked.rest?_eq_some, List.append_nil]
  simp only [Function.comp_apply, Asked.ofRequest, exact]
  cases Asked.rest? path (JoinTree.segments r.1) with
  | none => rfl
  | some rest => simp

theorem heads_below_map_ofRequest (requests : List (String × List JoinScope.Call))
    (path : List String) :
    Asked.heads (Asked.below path (requests.map Asked.ofRequest)) = namesAfter requests path := by
  simp only [Asked.heads, Asked.below, namesAfter, List.filterMap_map, List.filterMap_filterMap]
  congr 1
  funext r
  rw [Function.comp_apply, Asked.ofRequest]
  cases Asked.rest? path (JoinTree.segments r.1) <;> rfl

theorem Table.follow_snoc {schema : Schema} {table base : Table} {path : List String}
    {last : String} {relation : Relation} (leads : table.follow schema path = some base)
    (found : base.relation? last = some relation) :
    table.follow schema (path ++ [last]) = some (schema.table relation.target) := by
  induction path generalizing table with
  | nil =>
    obtain rfl : table = base := Option.some.inj leads
    simp [follow, found]
  | cons first path ih =>
    rw [follow, Option.bind_eq_some_iff] at leads
    obtain ⟨r, declared, leads⟩ := leads
    rw [List.cons_append, follow, declared]
    exact ih leads

namespace JoinTree

open Asked

/-- What accepted requests for relations of a table leave. -/
structure IsRequested (schema : Schema) (table : Table)
    (requests : List (String × List JoinScope.Call)) (forest : List JoinTree) : Prop where
  once : ((nodesAll forest).map (·.1)).Nodup
  /-- The paths of the nodes are those that requests start with. -/
  paths : ∀ path, (∃ t, (path, t) ∈ nodesAll forest) ↔
    path ≠ [] ∧ ∃ r ∈ requests, path <+: segments r.1
  /-- Siblings stand in the order of the first requests that come by. -/
  roots : forest.map name = (namesAfter requests []).eraseDups
  siblings : ∀ path t, (path, t) ∈ nodesAll forest →
    t.children.map name = (namesAfter requests path).eraseDups
  /-- A node joins the declared relation to the table that the path before it leads to. -/
  joins : ∀ path last t, (path ++ [last], t) ∈ nodesAll forest → ∃ base relation,
    table.follow schema path = some base ∧ base.relation? last = some relation ∧
      t.join =
        { relation, base
          baseAlias := if path = [] then table.aliasName else aliasAt path
          target := schema.table relation.target
          aliasName := aliasAt (path ++ [last])
          path := path ++ [last]
          columns := JoinScope.lastColumns (scopesFor requests (path ++ [last]))
          on := (scopesFor requests (path ++ [last])).flatMap (·.on) }
  /-- Children start where their parent ends. -/
  parents : ∀ path t, (path, t) ∈ nodesAll forest → ∀ c ∈ t.children,
    c.join.base = t.join.target ∧ c.join.baseAlias = t.join.aliasName
  aliases : ((nodesAll forest).map (·.2.join.aliasName)).Nodup

section

variable {schema : Schema} {table : Table} {requests : List (String × List JoinScope.Call)}
  {forest : List JoinTree}
  (level : IsLevel schema table none [] (requests.map Asked.ofRequest) forest)
include level

/-- What is known of a node by its path. -/
theorem IsLevel.join_eq {path : List String} {last : String} {t : JoinTree}
    (mem : (path ++ [last], t) ∈ nodesAll forest) : ∃ base relation,
    table.follow schema path = some base ∧ base.relation? last = some relation ∧
      t.join =
        { relation, base
          baseAlias := if path = [] then table.aliasName else aliasAt path
          target := schema.table relation.target
          aliasName := aliasAt (path ++ [last])
          path := path ++ [last]
          columns := JoinScope.lastColumns (scopesFor requests (path ++ [last]))
          on := (scopesFor requests (path ++ [last])).flatMap (·.on) } := by
  obtain ⟨base, leads, rfl, answers⟩ := level.exists_answers mem
  obtain ⟨declared, joined, -⟩ := answers_iff.mp answers
  have baseAlias : (parentAt none path).getD base.aliasName =
      if path = [] then table.aliasName else aliasAt path := by
    split
    · rename_i root
      subst root
      obtain rfl : table = base := Option.some.inj leads
      rfl
    · rename_i deeper
      rw [parentAt_none deeper, Option.getD_some]
  have aliasName := aliasOf_parentAt_none path t.join.relation.name
  rw [List.nil_append, ← below_append, scopes_below_map_ofRequest] at joined
  refine ⟨base, t.join.relation, leads, declared, joined.trans ?_⟩
  rw [Join.narrowedBy, fresh, baseAlias, aliasName]
  rfl

theorem IsLevel.children_eq {path : List String} {t : JoinTree}
    (mem : (path, t) ∈ nodesAll forest) :
    t.children.map name = (namesAfter requests path).eraseDups ∧
      ∀ c ∈ t.children, c.join.base = t.join.target ∧ c.join.baseAlias = t.join.aliasName := by
  obtain ⟨before, last, rfl⟩ := exists_snoc_of_mem_nodesAll mem
  obtain ⟨base, -, rfl, answers⟩ := level.exists_answers mem
  obtain ⟨-, -, inner⟩ := answers_iff.mp answers
  rw [← below_append] at inner
  constructor
  · rw [inner.names, heads_below_map_ofRequest]
  · intro c hc
    obtain ⟨-, joined, -⟩ := answers_iff.mp (inner.nodes c hc)
    rw [joined]
    exact ⟨rfl, rfl⟩

/-- A node ends where its path leads to, under the alias of its path. -/
theorem IsLevel.aliasName_eq {n : List String × JoinTree} (mem : n ∈ nodesAll forest) :
    n.2.join.aliasName = aliasAt n.1 ∧ ∃ target, table.follow schema n.1 = some target := by
  obtain ⟨path, t⟩ := n
  obtain ⟨before, last, rfl⟩ := exists_snoc_of_mem_nodesAll mem
  obtain ⟨base, relation, leads, found, joined⟩ := level.join_eq mem
  dsimp only
  rw [joined]
  exact ⟨rfl, _, Table.follow_snoc leads found⟩

theorem IsLevel.isRequested (htable : table.HasReadableAliases)
    (hschema : ∀ n, (schema.table n).HasReadableAliases) :
    IsRequested schema table requests forest := by
  have once : ((nodesAll forest).map (·.1)).Nodup :=
    nodup_nodesAll (level.names ▸ nodup_eraseDups _) level.nodes
  refine
    { once := once
      paths := fun path => ?paths
      roots := ?roots
      siblings := fun path t mem => (level.children_eq mem).1
      joins := fun path last t mem => level.join_eq mem
      parents := fun path t mem => (level.children_eq mem).2
      aliases := ?aliases }
  case paths =>
    rw [level.exists_mem_nodesAll_iff]
    refine and_congr_right fun _ => ⟨?_, ?_⟩
    · rintro ⟨_, mem, starts⟩
      obtain ⟨r, hr, rfl⟩ := List.mem_map.mp mem
      exact ⟨r, hr, starts⟩
    · rintro ⟨r, hr, starts⟩
      exact ⟨_, List.mem_map_of_mem hr, starts⟩
  case roots =>
    rw [level.names, ← heads_below_map_ofRequest, below_nil]
  case aliases =>
    have apart : (nodesAll forest).Pairwise (·.1 ≠ ·.1) := List.pairwise_map.mp once
    refine List.pairwise_map.mpr (apart.imp_of_mem ?_)
    intro n n' hn hn' other same
    obtain ⟨own, target, leads⟩ := level.aliasName_eq hn
    obtain ⟨own', target', leads'⟩ := level.aliasName_eq hn'
    rw [own, own'] at same
    exact other (Table.eq_of_aliasAt_eq hschema htable (ne_nil_of_mem_nodesAll hn)
      (ne_nil_of_mem_nodesAll hn') leads leads' same)

end

end JoinTree

theorem Schema.hasReadableAliases_table {schema : Schema}
    (h : ∀ t ∈ schema.tables, t.HasReadableAliases) (n : Nat) :
    (schema.table n).HasReadableAliases := by
  refine ⟨hasDistinctAliases_table (fun t ht => (h t ht).distinct) n, ?_⟩
  rw [table, List.getD_eq_getElem?_getD]
  cases found : schema.tables[n]? with
  | none =>
    intro r hr
    cases hr
  | some t => exact (h t (List.mem_of_getElem? found)).nonempty

/-- Requests that are accepted leave one node for each path they start with, whatever their order
and however they overlap. -/
theorem Query.isRequested_relating {schema : Schema} {table : Table}
    {requests : List (String × List JoinScope.Call)} (htable : table.HasReadableAliases)
    (hschema : ∀ t ∈ schema.tables, t.HasReadableAliases)
    (accepted : (relating schema table requests).error? = none) :
    JoinTree.IsRequested schema table requests
      (relating schema table requests).select.relations := by
  have readable := Schema.hasReadableAliases_table hschema
  rw [relating_eq] at accepted ⊢
  have level := Select.isLevel_requestAll (s := { table := some table })
    (fun n => (readable n).distinct) htable.distinct rfl accepted JoinTree.isLevel_nil
  exact JoinTree.IsLevel.isRequested level htable readable

theorem Table.hasReadableAliases_nodes : Table.nodes.HasReadableAliases where
  distinct := by
    unfold HasDistinctAliases
    decide +kernel
  nonempty := by decide +kernel

/-- The path to the grandparent is asked for before the one to the parent, and then again. -/
theorem Query.isRequested_nodes :
    let requests := [("Up.Up", [.columns ["id"]]), ("Up", []),
      ("Up.Up", [.on .and "kind = ?" [.int 1], .columns ["parent_id"]])]
    let q := relating ⟨[.nodes]⟩ .nodes requests
    Table.nodes.HasReadableAliases ∧ q.error? = none ∧
      (JoinTree.nodesAll q.select.relations).map
          (fun n => (n.1, n.2.join.aliasName, n.2.join.columns)) =
        [(["Up"], "up", none), (["Up", "Up"], "up__up", some ["parent_id"])] ∧
      JoinTree.IsRequested ⟨[.nodes]⟩ .nodes requests q.select.relations :=
  ⟨Table.hasReadableAliases_nodes, by decide +kernel, by decide +kernel,
    Query.isRequested_relating Table.hasReadableAliases_nodes
      (by simpa using Table.hasReadableAliases_nodes) (by decide +kernel)⟩

end SqlCompose
