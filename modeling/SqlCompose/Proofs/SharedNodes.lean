import Mathlib.Data.List.Basic
import SqlCompose.Proofs.AliasSeams
import SqlCompose.Proofs.Chains

/-!
# Shared nodes

A request finds the nodes on its way by their aliases. Relations whose names have the same
snake-case form therefore share a node, which stays what the first request for it made it, and paths
with the same forms lead to one node at each of their steps. Aliases are told apart by the forms on
their paths, so that no two nodes have one alias; the alias of the bound table is not among those
that are looked at.
-/

namespace SqlCompose

open Text

namespace JoinTree

/-! ## The aliases of a path -/

/-- The aliases on the way along a path below a parent. -/
def aliasesOn (parent : Option String) : List String → List String
  | [] => []
  | name :: rest => aliasOf parent name :: aliasesOn (some (aliasOf parent name)) rest

/-- The beginning of a path that has the forms of another one, if there is one. -/
def alike? : List String → List String → Option (List String)
  | [], _ => some []
  | _ :: _, [] => none
  | name :: names, segment :: segments =>
    if snakeCase segment = snakeCase name then (alike? names segments).map (segment :: ·) else none

/-- The join at the end of a path where there is none yet. -/
def newJoin? (schema : Schema) (base : Table) (parent : Option String) (above : List String) :
    List String → Option Join
  | [] => none
  | name :: rest =>
    (base.relation? name).bind fun r =>
      if rest = [] then some (fresh schema base parent above r)
      else newJoin? schema (schema.table r.target) (some (aliasOf parent r.name))
        (above ++ [r.name]) rest

theorem aliasOf_eq_iff {parent : Option String} {name name' : String} :
    aliasOf parent name = aliasOf parent name' ↔ snakeCase name = snakeCase name' := by
  constructor
  · exact snakeCase_eq_of_aliasOf_eq parent
  · intro same
    cases parent with
    | none => exact same
    | some p => exact congrArg (p ++ "__" ++ ·) same

theorem aliasesOn_eq_iff {parent : Option String} {path path' : List String} :
    aliasesOn parent path = aliasesOn parent path' ↔ path.map snakeCase = path'.map snakeCase := by
  induction path generalizing parent path' with
  | nil => cases path' <;> simp [aliasesOn]
  | cons name path ih =>
    cases path' with
    | nil => simp [aliasesOn]
    | cons name' path' =>
      rw [aliasesOn, aliasesOn, List.cons.injEq, List.map_cons, List.map_cons, List.cons.injEq,
        aliasOf_eq_iff]
      apply and_congr_right
      intro same
      rw [aliasOf_eq_iff.mpr same, ih]

theorem aliasesOn_ne_nil {parent : Option String} {path : List String} (h : path ≠ []) :
    aliasesOn parent path ≠ [] := by
  obtain ⟨first, rest, rfl⟩ := List.exists_cons_of_ne_nil h
  exact List.cons_ne_nil _ _

theorem exists_of_prefix_aliasesOn {parent : Option String} {path aliases : List String}
    (h : aliases <+: aliasesOn parent path) :
    ∃ path', path' <+: path ∧ aliases = aliasesOn parent path' := by
  induction path generalizing parent aliases with
  | nil => exact ⟨[], List.nil_prefix, List.prefix_nil.mp h⟩
  | cons name path ih =>
    cases aliases with
    | nil => exact ⟨[], List.nil_prefix, rfl⟩
    | cons aliasName rest =>
      rw [aliasesOn, List.cons_prefix_cons] at h
      obtain ⟨path', begins, rfl⟩ := ih h.2
      exact ⟨name :: path', (List.prefix_cons_inj name).mpr begins, by rw [h.1, aliasesOn]⟩

theorem alike?_eq_some {path segments path' : List String} (h : alike? path segments = some path') :
    path' <+: segments ∧ path'.map snakeCase = path.map snakeCase := by
  induction path generalizing segments path' with
  | nil =>
    cases h
    exact ⟨List.nil_prefix, rfl⟩
  | cons name path ih =>
    cases segments with
    | nil => cases h
    | cons segment segments =>
      rw [alike?] at h
      by_cases same : snakeCase segment = snakeCase name
      · rw [if_pos same] at h
        obtain ⟨rest, further, rfl⟩ := Option.map_eq_some_iff.mp h
        obtain ⟨begins, forms⟩ := ih further
        refine ⟨(List.prefix_cons_inj segment).mpr begins, ?_⟩
        rw [List.map_cons, List.map_cons, same, forms]
      · rw [if_neg same] at h
        cases h

theorem alike?_append (path rest : List String) : alike? path (path ++ rest) = some path := by
  induction path with
  | nil => rfl
  | cons name path ih =>
    rw [List.cons_append, alike?, if_pos rfl, ih]
    rfl

section

variable {schema : Schema} {base : Table} {parent : Option String} {above segments : List String}
  {js : List Join}

theorem map_aliasName_chain (h : chain? schema base parent above segments = some js) :
    js.map (·.aliasName) = aliasesOn parent segments := by
  induction segments generalizing base parent above js with
  | nil =>
    cases h
    rfl
  | cons segment rest ih =>
    obtain ⟨relation, js, found, further, rfl⟩ := exists_of_chain_cons h
    obtain ⟨rfl, -⟩ := Table.relation?_eq_some found
    rw [List.map_cons, ih further]
    rfl

theorem narrowedBy_nil_of_mem_chain (h : chain? schema base parent above segments = some js) :
    ∀ j ∈ js, j.narrowedBy [] = j := by
  induction segments generalizing base parent above js with
  | nil =>
    cases h
    simp
  | cons segment rest ih =>
    obtain ⟨relation, js, -, further, rfl⟩ := exists_of_chain_cons h
    rw [List.forall_mem_cons]
    exact ⟨rfl, ih further⟩

/-- The aliases of a path lead to the join at the end of the beginning that has its forms. -/
theorem stepAt?_chain (h : chain? schema base parent above segments = some js)
    {path : List String} (hne : path ≠ []) :
    stepAt? (aliasesOn parent path) js =
      (alike? path segments).bind (newJoin? schema base parent above) := by
  induction path generalizing base parent above segments js with
  | nil => exact absurd rfl hne
  | cons name path ih =>
    cases segments with
    | nil =>
      cases h
      rfl
    | cons segment segments =>
      obtain ⟨relation, js, found, further, rfl⟩ := exists_of_chain_cons h
      obtain ⟨rfl, -⟩ := Table.relation?_eq_some found
      have here : (fresh schema base parent above relation).aliasName = aliasOf parent name ↔
          snakeCase relation.name = snakeCase name := aliasOf_eq_iff
      rw [aliasesOn, stepAt?, alike?]
      by_cases same : snakeCase relation.name = snakeCase name
      · rw [if_pos (here.mpr same), if_pos same]
        by_cases last : path = []
        · subst last
          simp [aliasesOn, alike?, newJoin?, found]
        · have later := ih further last
          rw [if_neg (aliasesOn_ne_nil last), ← aliasOf_eq_iff.mpr same, later]
          cases begins : alike? path segments with
          | none => rfl
          | some rest =>
            have more : rest ≠ [] := by
              rintro rfl
              exact last (List.map_eq_nil_iff.mp (alike?_eq_some begins).2.symm)
            rw [Option.bind_some, Option.map_some, Option.bind_some, newJoin?, found,
              Option.bind_some, if_neg more]
      · rw [if_neg (mt here.mp same), if_neg same]
        rfl

/-- The join that a path asks for starts where the path before it leads. -/
theorem newJoin?_snoc {target : Table} {path : List String} {last : String} {relation : Relation}
    (leads : base.follow schema path = some target) (found : target.relation? last = some relation) :
    newJoin? schema base parent above (path ++ [last]) =
      some (fresh schema target (parentAt parent path) (above ++ path) relation) := by
  induction path generalizing base parent above with
  | nil =>
    obtain rfl : base = target := Option.some.inj leads
    simp [newJoin?, found, parentAt]
  | cons name path ih =>
    obtain ⟨r, declared, further⟩ := Option.bind_eq_some_iff.mp leads
    obtain ⟨rfl, -⟩ := Table.relation?_eq_some declared
    rw [List.cons_append, newJoin?, declared, Option.bind_some, if_neg (by simp), ih further]
    simp [parentAt]

/-- Where a path of declared relations leads, and what its last relation is. -/
theorem exists_follow_of_chain (h : chain? schema base parent above segments = some js)
    {path : List String} {last : String} (begins : path ++ [last] <+: segments) :
    ∃ target relation, base.follow schema path = some target ∧
      target.relation? last = some relation := by
  induction path generalizing base parent above segments js with
  | nil =>
    obtain ⟨rest, rfl⟩ := begins
    obtain ⟨relation, js, found, -⟩ := exists_of_chain_cons h
    exact ⟨base, relation, rfl, found⟩
  | cons name path ih =>
    obtain ⟨rest, rfl⟩ := begins
    obtain ⟨r, js, declared, further, -⟩ := exists_of_chain_cons h
    obtain ⟨target, relation, leads, found⟩ := ih further (List.prefix_append _ rest)
    refine ⟨target, relation, ?_, found⟩
    rw [Table.follow, declared]
    exact leads

/-- A beginning with the forms of another path follows declared relations, too. -/
theorem exists_follow_of_alike (h : chain? schema base parent above segments = some js)
    {path path' : List String} (hne : path ≠ []) (begins : alike? path segments = some path') :
    ∃ before last target relation, path' = before ++ [last] ∧
      path'.map snakeCase = path.map snakeCase ∧
      base.follow schema before = some target ∧ target.relation? last = some relation := by
  obtain ⟨start, forms⟩ := alike?_eq_some begins
  have nonempty : path' ≠ [] := by
    rintro rfl
    exact hne (List.map_eq_nil_iff.mp forms.symm)
  have snoc := List.dropLast_concat_getLast nonempty
  rw [← snoc] at start
  obtain ⟨target, relation, leads, found⟩ := exists_follow_of_chain h start
  exact ⟨_, _, target, relation, snoc.symm, forms, leads, found⟩

end

/-! ## Requests one after the other -/

/-- The chain of a request. -/
def chainOf (schema : Schema) (table : Table) (r : String × List JoinScope.Call) :
    List Join × JoinScope :=
  ((chain? schema table none [] (segments r.1)).getD [], .ofCalls r.2)

end JoinTree

/-- Accepted requests put their chains into the forest. -/
theorem Select.requestAll_eq_graftAll {schema : Schema} {table : Table} {s : Select}
    (h : s.table = some table) {requests : List (String × List JoinScope.Call)}
    (accepted : (s.requestAll schema requests).error = none) :
    (∀ r ∈ requests, JoinTree.chain? schema table none [] (JoinTree.segments r.1) =
      some (JoinTree.chainOf schema table r).1) ∧
    (s.requestAll schema requests).relations =
      JoinTree.graftAll (requests.map (JoinTree.chainOf schema table)) s.relations := by
  induction requests generalizing s with
  | nil => exact ⟨by simp, rfl⟩
  | cons r rest ih =>
    have short := (requestAll_accepted schema h accepted).2.1 r List.mem_cons_self
    rw [requestAll_cons] at accepted ⊢
    have bound := table_request schema h r.1 (.ofCalls r.2)
    have fine := (requestAll_accepted schema bound accepted).1
    rw [error_request schema h, Option.or_eq_none_iff,
      JoinTree.requestPath_of_length_le short] at fine
    obtain ⟨js, chained⟩ := JoinTree.exists_chain_of_accepted fine.2
    have own : JoinTree.chainOf schema table r = (js, .ofCalls r.2) := by
      rw [JoinTree.chainOf, chained]
      rfl
    obtain ⟨chains, relations⟩ := ih bound accepted
    constructor
    · rw [List.forall_mem_cons]
      exact ⟨by rw [own, chained], chains⟩
    · rw [relations, relations_request schema h, JoinTree.requestPath_of_length_le short,
        JoinTree.request_of_chain chained, List.map_cons, own]
      rfl

/-- A path that requests follow, to its end or further. -/
def IsFollowed (requests : List (String × List JoinScope.Call)) (path : List String) : Prop :=
  path ≠ [] ∧ ∃ r ∈ requests, path <+: JoinTree.segments r.1

/-- The first path that requests follow with the forms of a path. -/
def firstAlike (requests : List (String × List JoinScope.Call)) (path : List String) :
    Option (List String) :=
  requests.findSome? fun r => JoinTree.alike? path (JoinTree.segments r.1)

/-- The scopes of the requests for paths with the forms of a path. -/
def scopesAlike (requests : List (String × List JoinScope.Call)) (path : List String) :
    List JoinScope :=
  requests.filterMap fun r =>
    if (JoinTree.segments r.1).map snakeCase = path.map snakeCase then some (.ofCalls r.2) else none

namespace JoinTree

/-- What accepted requests leave, whatever their relations are called: the first request that comes
to a node makes it. -/
structure IsFirstCome (schema : Schema) (table : Table)
    (requests : List (String × List JoinScope.Call)) (forest : List JoinTree) : Prop where
  /-- The node of a path joins what the first path with its forms asks for. -/
  made : ∀ path, IsFollowed requests path → ∃ before last base relation,
    firstAlike requests path = some (before ++ [last]) ∧
      table.follow schema before = some base ∧ base.relation? last = some relation ∧
      joinAt? (aliasesOn none path) forest = some
        { relation, base
          baseAlias := if before = [] then table.aliasName else aliasAt before
          target := schema.table relation.target
          aliasName := aliasAt path
          path := before ++ [last]
          columns := JoinScope.lastColumns (scopesAlike requests path)
          on := (scopesAlike requests path).flatMap (·.on) }
  /-- Two paths share a node exactly when they have the same forms. -/
  shared : ∀ path path', IsFollowed requests path → IsFollowed requests path' →
    (joinAt? (aliasesOn none path) forest = joinAt? (aliasesOn none path') forest ↔
      path.map snakeCase = path'.map snakeCase)
  /-- There are no further nodes. -/
  only : ∀ n ∈ nodesAll forest, ∃ path, IsFollowed requests path ∧
    joinAt? (aliasesOn none path) forest = some n.2.join
  aliases : ((nodesAll forest).map (·.2.join.aliasName)).Nodup

section

variable {schema : Schema} {table : Table} {requests : List (String × List JoinScope.Call)}
  (chains : ∀ r ∈ requests, chain? schema table none [] (segments r.1) =
    some (chainOf schema table r).1)
include chains

/-- The first chain that aliases lead along belongs to the first path of the same forms. -/
theorem findSome?_stepAt? {path : List String} (hne : path ≠ []) :
    ((requests.map (chainOf schema table)).findSome? fun c => stepAt? (aliasesOn none path) c.1) =
      (firstAlike requests path).bind (newJoin? schema table none []) := by
  induction requests with
  | nil => rfl
  | cons r rest ih =>
    rw [List.forall_mem_cons] at chains
    rw [firstAlike, List.map_cons, List.findSome?_cons, List.findSome?_cons,
      stepAt?_chain chains.1 hne]
    cases begins : alike? path (segments r.1) with
    | none => exact ih chains.2
    | some path' =>
      obtain ⟨before, last, base, relation, rfl, -, leads, found⟩ :=
        exists_follow_of_alike chains.1 hne begins
      rw [Option.bind_some, newJoin?_snoc leads found]

theorem narrowedBy_nil_of_mem_chains :
    ∀ c ∈ requests.map (chainOf schema table), ∀ j ∈ c.1, j.narrowedBy [] = j := by
  intro c hc
  obtain ⟨r, hr, rfl⟩ := List.mem_map.mp hc
  exact narrowedBy_nil_of_mem_chain (chains r hr)

/-- The node of a path, in terms of the requests. -/
theorem joinAt?_aliasesOn {path : List String} (hne : path ≠ []) :
    joinAt? (aliasesOn none path) (graftAll (requests.map (chainOf schema table)) []) =
      ((firstAlike requests path).bind (newJoin? schema table none [])).map
        (·.narrowedBy (scopesAlike requests path)) := by
  have scopes : scopesAt (aliasesOn none path) (requests.map (chainOf schema table)) =
      scopesAlike requests path := by
    rw [scopesAt, List.filterMap_map, scopesAlike]
    apply List.filterMap_congr
    intro r hr
    rw [Function.comp_apply, map_aliasName_chain (chains r hr)]
    simp only [aliasesOn_eq_iff]
    rfl
  rw [joinAt?_graftAll (aliasesOn_ne_nil hne) (narrowedBy_nil_of_mem_chains chains), scopes,
    findSome?_stepAt? chains hne]

theorem exists_firstAlike {path : List String} (h : IsFollowed requests path) :
    ∃ before last base relation, firstAlike requests path = some (before ++ [last]) ∧
      (before ++ [last]).map snakeCase = path.map snakeCase ∧
      table.follow schema before = some base ∧ base.relation? last = some relation := by
  obtain ⟨hne, r, hr, rest, follows⟩ := h
  have some : (firstAlike requests path).isSome = true := by
    apply List.findSome?_isSome_iff.mpr
    refine ⟨r, hr, ?_⟩
    rw [← follows, alike?_append]
    rfl
  obtain ⟨path', first⟩ := Option.isSome_iff_exists.mp some
  obtain ⟨r', hr', begins⟩ := List.exists_of_findSome?_eq_some first
  obtain ⟨before, last, base, relation, rfl, further⟩ :=
    exists_follow_of_alike (chains r' hr') hne begins
  exact ⟨before, last, base, relation, first, further⟩

theorem made_of_isFollowed {path : List String} (h : IsFollowed requests path) :
    ∃ before last base relation,
      firstAlike requests path = some (before ++ [last]) ∧
      table.follow schema before = some base ∧ base.relation? last = some relation ∧
      joinAt? (aliasesOn none path) (graftAll (requests.map (chainOf schema table)) []) = some
        { relation, base
          baseAlias := if before = [] then table.aliasName else aliasAt before
          target := schema.table relation.target
          aliasName := aliasAt path
          path := before ++ [last]
          columns := JoinScope.lastColumns (scopesAlike requests path)
          on := (scopesAlike requests path).flatMap (·.on) } := by
  obtain ⟨before, last, base, relation, first, forms, leads, found⟩ := exists_firstAlike chains h
  refine ⟨before, last, base, relation, first, leads, found, ?_⟩
  obtain ⟨rfl, -⟩ := Table.relation?_eq_some found
  have baseAlias : (parentAt none before).getD base.aliasName =
      if before = [] then table.aliasName else aliasAt before := by
    by_cases root : before = []
    · subst root
      obtain rfl : table = base := Option.some.inj leads
      rfl
    · rw [if_neg root, parentAt_none root, Option.getD_some]
  have aliasName : aliasOf (parentAt none before) relation.name = aliasAt path := by
    rw [aliasOf_parentAt_none, aliasAt, forms, ← aliasAt]
  rw [joinAt?_aliasesOn chains h.1, first, Option.bind_some, newJoin?_snoc leads found,
    Option.map_some, Join.narrowedBy, fresh, baseAlias, aliasName]
  rfl

/-- Aliases that lead to a node are those of a path that requests follow. -/
theorem exists_isFollowed {aliases : List String} {j : Join}
    (h : joinAt? aliases (graftAll (requests.map (chainOf schema table)) []) = some j) :
    ∃ path, IsFollowed requests path ∧ aliases = aliasesOn none path ∧
      j.aliasName = aliasAt path := by
  have hne : aliases ≠ [] := by
    rintro rfl
    cases h
  obtain ⟨path, followed, rfl⟩ : ∃ path, IsFollowed requests path ∧
      aliases = aliasesOn none path := by
    rw [joinAt?_graftAll hne (narrowedBy_nil_of_mem_chains chains)] at h
    obtain ⟨j, first, -⟩ := Option.map_eq_some_iff.mp h
    obtain ⟨c, hc, step⟩ := List.exists_of_findSome?_eq_some first
    obtain ⟨r, hr, rfl⟩ := List.mem_map.mp hc
    have begins := prefix_of_stepAt? step
    rw [map_aliasName_chain (chains r hr)] at begins
    obtain ⟨path, start, rfl⟩ := exists_of_prefix_aliasesOn begins
    refine ⟨path, ⟨?_, r, hr, start⟩, rfl⟩
    rintro rfl
    exact hne rfl
  obtain ⟨before, last, base, relation, -, -, -, made⟩ := made_of_isFollowed chains followed
  rw [h] at made
  obtain rfl := Option.some.inj made
  exact ⟨path, followed, rfl, rfl⟩

/-- Chains of requests leave nodes by their forms. -/
theorem isFirstCome_graftAll :
    IsFirstCome schema table requests
      (graftAll (requests.map (chainOf schema table)) []) := by
  have apart := apart_nil.graftAll (requests.map (chainOf schema table))
  have routed (n : List String × Join)
      (hn : n ∈ routesAll (graftAll (requests.map (chainOf schema table)) [])) :=
    exists_isFollowed chains (apart.joinAt?_of_mem hn)
  refine
    { made := fun path followed => made_of_isFollowed chains followed
      shared := ?shared
      only := ?only
      aliases := ?aliases }
  case shared =>
    intro path path' followed followed'
    constructor
    · intro same
      obtain ⟨_, _, _, _, -, -, -, own⟩ := made_of_isFollowed chains followed
      obtain ⟨_, _, _, _, -, -, -, own'⟩ := made_of_isFollowed chains followed'
      rw [own, own'] at same
      exact forms_eq_of_aliasAt_eq followed.1 followed'.1
        (congrArg Join.aliasName (Option.some.inj same))
    · intro same
      rw [aliasesOn_eq_iff.mpr same]
  case only =>
    intro n hn
    have joins : n.2.join ∈ (nodesAll (graftAll (requests.map (chainOf schema table)) [])).map
        (·.2.join) := List.mem_map_of_mem hn
    rw [← map_join_routesAll] at joins
    obtain ⟨m, hm, same⟩ := List.mem_map.mp joins
    obtain ⟨path, followed, aliases, -⟩ := routed m hm
    refine ⟨path, followed, ?_⟩
    rw [← aliases, apart.joinAt?_of_mem hm, same]
  case aliases =>
    have names : (nodesAll (graftAll (requests.map (chainOf schema table)) [])).map
        (·.2.join.aliasName) =
          (routesAll (graftAll (requests.map (chainOf schema table)) [])).map (·.2.aliasName) := by
      have joins := congrArg (List.map Join.aliasName)
        (map_join_routesAll (graftAll (requests.map (chainOf schema table)) []))
      rw [List.map_map, List.map_map] at joins
      exact joins.symm
    rw [names]
    apply List.pairwise_map.mpr
    -- One alias would be that of two paths with the same forms, which one node answers to.
    apply apart.nodup_routesAll.imp_of_mem
    intro n m hn hm other same
    obtain ⟨path, followed, aliases, named⟩ := routed n hn
    obtain ⟨path', followed', aliases', named'⟩ := routed m hm
    rw [named, named'] at same
    have forms := forms_eq_of_aliasAt_eq followed.1 followed'.1 same
    exact other (aliases.trans ((aliasesOn_eq_iff.mpr forms).trans aliases'.symm))

end

end JoinTree

/-! ## The FROM clause -/

theorem JoinTree.leftJoins_eq_concat (d : Dialect) (names : Template.Names) {visits : List Visit}
    (h : ∀ e, .error e ∉ visits) :
    leftJoins d names visits =
      .concat ((visits.filterMap Except.toOption).map fun j => .text " " ++ j.leftJoin d names) := by
  induction visits with
  | nil => rfl
  | cons visit rest ih =>
    cases visit with
    | error e => exact absurd List.mem_cons_self (h e)
    | ok j =>
      have later := ih fun e he => h e (List.mem_cons_of_mem _ he)
      rw [leftJoins, later]
      rfl

/-- What accepted requests leave of a query: the nodes, and the FROM clause that they make. -/
structure Query.RelatesFirstCome (schema : Schema) (table : Table)
    (requests : List (String × List JoinScope.Call)) (s : Select) : Prop where
  nodes : JoinTree.IsFirstCome schema table requests s.relations
  /-- The bound table stands first, under its alias. -/
  bound : ∀ t : Target, s.fromClause t = .text " FROM " ++ Select.listed t.shapeOnly false
    [.text (t.dialect.ident table.name ++
      if table.aliasName = table.name then "" else " AS " ++ t.dialect.ident table.aliasName)]
  /-- Behind it stand the flattened relations, each under its alias. -/
  joined : ∀ t : Target, (∀ e, .error e ∉ s.visits) →
    s.joinClauses t = .concat (s.flattened.map fun j =>
      .text " " ++ j.leftJoin t.dialect (s.names t.dialect))
  /-- Flattened relations have different aliases. -/
  aliases : (s.flattened.map (·.aliasName)).Nodup
  /-- That of the bound table is another one unless it is the alias of a flattened path. -/
  root : (table.aliasName :: s.flattened.map (·.aliasName)).Nodup ↔
    ∀ j ∈ s.flattened, JoinTree.aliasAt j.path ≠ table.aliasName

/-- A node has the alias of its path. -/
theorem JoinTree.IsFirstCome.aliasName_eq {schema : Schema} {table : Table}
    {requests : List (String × List JoinScope.Call)} {forest : List JoinTree}
    (h : IsFirstCome schema table requests forest) {n : List String × JoinTree}
    (mem : n ∈ nodesAll forest) : n.2.join.aliasName = aliasAt n.2.join.path := by
  obtain ⟨path, followed, there⟩ := h.only n mem
  obtain ⟨before, last, base, relation, first, -, -, made⟩ := h.made path followed
  rw [there] at made
  obtain ⟨r, -, begins⟩ := List.exists_of_findSome?_eq_some first
  have forms := (alike?_eq_some begins).2
  rw [Option.some.inj made]
  dsimp only
  rw [aliasAt, aliasAt, forms]

/-- Whatever tables and relations are called, accepted requests leave one node for the paths of the
same forms, which the first of them makes, and one alias for each node; only the alias of the bound
table is not looked at. -/
theorem Query.relatesFirstCome_relating {schema : Schema} {table : Table}
    {requests : List (String × List JoinScope.Call)}
    (accepted : (relating schema table requests).error? = none) :
    RelatesFirstCome schema table requests (relating schema table requests).select := by
  rw [relating_eq] at accepted ⊢
  generalize asked : Select.requestAll schema { table := some table } requests = s at accepted ⊢
  obtain ⟨relations, error, same⟩ :=
    Select.requestAll_eq schema (s := { table := some table }) requests rfl
  have nodes : JoinTree.IsFirstCome schema table requests s.relations := by
    rw [← asked] at accepted ⊢
    obtain ⟨chains, grafted⟩ :=
      Select.requestAll_eq_graftAll (s := { table := some table }) rfl accepted
    rw [grafted]
    exact JoinTree.isFirstCome_graftAll chains
  have flattened := JoinTree.sublist_nodesAll_of_visitsAll 0 s.relations
  have aliases : (s.flattened.map (·.aliasName)).Nodup := by
    have names := flattened.map (·.aliasName)
    rw [List.map_map] at names
    exact nodes.aliases.sublist names
  refine
    { nodes := nodes
      bound := fun t => ?bound
      joined := fun t walked => ?joined
      aliases := aliases
      root := ?root }
  case bound =>
    rw [← asked, same]
    rfl
  case joined =>
    have manual : s.joins = [] := by rw [← asked, same]
    have clear : ∀ e, .error e ∉ s.visits := walked
    rw [select, Select.joinClauses, manual, JoinTree.leftJoins_eq_concat _ _ clear]
    exact Fragment.append_empty _
  case root =>
    rw [select, List.nodup_cons, and_iff_left aliases, List.mem_map, not_exists]
    apply forall_congr'
    intro j
    rw [not_and]
    apply forall_congr'
    intro joined
    obtain ⟨n, hn, rfl⟩ := List.mem_map.mp (flattened.subset joined)
    rw [nodes.aliasName_eq hn]

/-- A table that is known by the form of its own relations, whose names differ in case alone. -/
def Table.staff : Table where
  name := "staff"
  aliasName := "lead"
  fields := [{ name := "id", column := "id" }, { name := "lead_id", column := "lead_id" },
    { name := "mentor_id", column := "mentor_id" }]
  relations := [
    { name := "Lead", kind := .belongsTo, target := 0, baseFields := ["lead_id"],
      joinFields := ["id"] },
    { name := "lead", kind := .belongsTo, target := 0, baseFields := ["mentor_id"],
      joinFields := ["id"] }]

/-- The second request finds the node of the first one. -/
theorem Query.relatesFirstCome_staff :
    let requests : List (String × List JoinScope.Call) := [("Lead", []), ("lead", [])]
    let q := relating ⟨[.staff]⟩ .staff requests
    q.error? = none ∧ q.select.flattened.map (·.path) = [["Lead"]] ∧
      RelatesFirstCome ⟨[.staff]⟩ .staff requests q.select := by
  intro requests q
  have accepted : q.error? = none := by decide +kernel
  exact ⟨accepted, by decide +kernel, relatesFirstCome_relating accepted⟩

/-- Different relations share a node, which is joined under the alias of the bound table. -/
theorem Query.not_apart_staff :
    let q := relating ⟨[.staff]⟩ .staff [("Lead", []), ("lead", [])]
    (Table.staff.relations.map (·.name)).Nodup ∧ q.error? = none ∧
      JoinTree.joinAt? (JoinTree.aliasesOn none ["Lead"]) q.select.relations =
        JoinTree.joinAt? (JoinTree.aliasesOn none ["lead"]) q.select.relations ∧
      (JoinTree.joinAt? (JoinTree.aliasesOn none ["lead"]) q.select.relations).map
        (·.relation.name) = some "Lead" ∧
      ¬ (Table.staff.aliasName :: q.select.flattened.map (·.aliasName)).Nodup := by
  intro q
  have aliases : JoinTree.aliasesOn none ["Lead"] = JoinTree.aliasesOn none ["lead"] := by
    decide +kernel
  exact ⟨by decide, by decide +kernel, by rw [aliases], by decide +kernel, by decide +kernel⟩

end SqlCompose
