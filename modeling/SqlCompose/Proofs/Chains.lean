import Mathlib.Data.List.Induction
import SqlCompose.Proofs.RequestedNodes

/-!
# Chains of joins

An accepted request is a chain of joins, put into the forest from its roots on: each join finds the
node of its alias, or makes one. Nodes can then be looked up by aliases, level by level, and what is
found is what the first chain made that came by, narrowed by all chains that ended there. No two
nodes of a level have one alias.
-/

namespace SqlCompose

namespace JoinTree

/-! ## Requests as chains of joins -/

/-- The joins that a path asks for where there are none yet, if all of its relations are
declared. -/
def chain? (schema : Schema) (base : Table) (parent : Option String) (above : List String) :
    List String → Option (List Join)
  | [] => some []
  | segment :: rest =>
    (base.relation? segment).bind fun r =>
      (chain? schema (schema.table r.target) (some (aliasOf parent r.name)) (above ++ [r.name])
        rest).map (fresh schema base parent above r :: ·)

/-- What a request makes of the node of an alias, when the rest of its chain is put below it. -/
def graftInto (scope : JoinScope) (last : Bool) (below : List JoinTree → List JoinTree)
    (t : JoinTree) : JoinTree × Option BuildError :=
  (.node (if last then t.join.narrowed scope else t.join) (below t.children), none)

/-- Puts a chain of joins into a level. -/
def graft (scope : JoinScope) : List Join → List JoinTree → List JoinTree
  | [], level => level
  | j :: rest, level => (change j (graftInto scope rest.isEmpty (graft scope rest)) level).1

theorem error_change {ε : Type} {j : Join} {f : JoinTree → JoinTree × Option ε}
    (h : ∀ t, (f t).2 = none) (level : List JoinTree) : (change j f level).2 = none := by
  obtain ⟨before, t, after, changed, -⟩ := change_eq j f level
  rw [changed]
  exact h t

section

variable {schema : Schema} {scope : JoinScope} {base : Table} {parent : Option String}
  {above segments : List String} {level : List JoinTree}

/-- A chain begins with what its first relation asks for and goes on from the related table. -/
theorem exists_of_chain_cons {segment : String} {rest : List String} {js : List Join}
    (h : chain? schema base parent above (segment :: rest) = some js) :
    ∃ relation js', base.relation? segment = some relation ∧
      chain? schema (schema.table relation.target) (some (aliasOf parent relation.name))
        (above ++ [relation.name]) rest = some js' ∧
      js = fresh schema base parent above relation :: js' := by
  obtain ⟨relation, found, chained⟩ := Option.bind_eq_some_iff.mp h
  obtain ⟨js', further, rfl⟩ := Option.map_eq_some_iff.mp chained
  exact ⟨relation, js', found, further, rfl⟩

theorem length_chain? {js : List Join} (h : chain? schema base parent above segments = some js) :
    js.length = segments.length := by
  induction segments generalizing base parent above js with
  | nil =>
    cases h
    rfl
  | cons segment rest ih =>
    obtain ⟨relation, js, -, further, rfl⟩ := exists_of_chain_cons h
    rw [List.length_cons, List.length_cons, ih further]

/-- A request for declared relations puts its chain into the level. -/
theorem request_of_chain {js : List Join}
    (h : chain? schema base parent above segments = some js) (level : List JoinTree) :
    request schema scope base parent above segments level = (graft scope js level, none) := by
  induction segments generalizing base parent above js level with
  | nil =>
    cases h
    rfl
  | cons segment rest ih =>
    obtain ⟨relation, js, found, further, rfl⟩ := exists_of_chain_cons h
    have last : js.isEmpty = true ↔ rest = [] := by
      rw [List.isEmpty_iff_length_eq_zero, length_chain? further, List.length_eq_zero_iff]
    have grown : grow schema scope (fresh schema base parent above relation) rest =
        graftInto scope js.isEmpty (graft scope js) := by
      funext t
      have below : request schema scope (fresh schema base parent above relation).target
          (some (fresh schema base parent above relation).aliasName)
          (fresh schema base parent above relation).path rest t.children =
            (graft scope js t.children, none) := ih further t.children
      rw [grow, below]
      simp only [graftInto, last]
    rw [request_of_some found, grown, graft]
    exact Prod.ext rfl (error_change (fun _ => rfl) level)

theorem exists_chain_of_accepted
    (accepted : (request schema scope base parent above segments level).2 = none) :
    ∃ js, chain? schema base parent above segments = some js := by
  induction segments generalizing base parent above level with
  | nil => exact ⟨[], rfl⟩
  | cons segment rest ih =>
    cases found : base.relation? segment with
    | none =>
      rw [request_of_none found] at accepted
      cases accepted
    | some relation =>
      obtain ⟨before, t, after, changed, -⟩ := change_eq (fresh schema base parent above relation)
        (grow schema scope (fresh schema base parent above relation) rest) level
      rw [request_of_some found, changed] at accepted
      obtain ⟨js, chained⟩ := ih accepted
      refine ⟨fresh schema base parent above relation :: js, ?_⟩
      rw [chain?, found, Option.bind_some]
      exact Option.map_eq_some_iff.mpr ⟨js, chained, rfl⟩

end

/-! ## Joins by the aliases that lead to them -/

@[simp] theorem join_node (j : Join) (children : List JoinTree) : (node j children).join = j := rfl

@[simp] theorem children_node (j : Join) (children : List JoinTree) :
    (node j children).children = children := rfl

/-- The join of the node that aliases lead to, looked up level by level. -/
def joinAt? : List String → List JoinTree → Option Join
  | [], _ => none
  | aliasName :: rest, level =>
    (level.find? (·.join.aliasName = aliasName)).bind fun t =>
      if rest = [] then some t.join else joinAt? rest t.children

/-- The join of a chain that aliases lead to. -/
def stepAt? : List String → List Join → Option Join
  | aliasName :: rest, j :: js =>
    if j.aliasName = aliasName then if rest = [] then some j else stepAt? rest js else none
  | _, _ => none

theorem joinAt?_nil (aliases : List String) : joinAt? aliases [] = none := by
  cases aliases <;> rfl

theorem stepAt?_nil (aliases : List String) : stepAt? aliases [] = none := by
  cases aliases <;> rfl

/-- A change is seen at its alias and nowhere else. -/
theorem find?_change {ε : Type} {j : Join} {f : JoinTree → JoinTree × Option ε}
    (keeps : ∀ t, (f t).1.join.aliasName = t.join.aliasName) (aliasName : String)
    (level : List JoinTree) :
    (change j f level).1.find? (·.join.aliasName = aliasName) =
      if aliasName = j.aliasName then
        some (f ((level.find? (·.join.aliasName = aliasName)).getD (.node j []))).1
      else level.find? (·.join.aliasName = aliasName) := by
  induction level with
  | nil =>
    by_cases own : aliasName = j.aliasName
    · simp [change, keeps, own]
    · simp [change, keeps, Ne.symm own, own]
  | cons t rest ih =>
    by_cases here : t.join.aliasName = j.aliasName
    · by_cases own : aliasName = j.aliasName
      · simp [change, keeps, here, own]
      · simp [change, keeps, here, own, Ne.symm own]
    · by_cases first : t.join.aliasName = aliasName
      · have other : aliasName ≠ j.aliasName := first ▸ here
        simp [change, first, other]
      · simp [change, here, first, ih]

@[simp] theorem aliasName_graftInto (scope : JoinScope) (last : Bool)
    (below : List JoinTree → List JoinTree) (t : JoinTree) :
    (graftInto scope last below t).1.join.aliasName = t.join.aliasName := by
  cases last <;> rfl

/-- After a chain has been put into a level, its joins are there, and nothing else has changed but
that the last one is narrowed. -/
theorem joinAt?_graft (scope : JoinScope) (js : List Join) (aliases : List String)
    (level : List JoinTree) :
    joinAt? aliases (graft scope js level) =
      ((joinAt? aliases level).or (stepAt? aliases js)).map fun j =>
        if js.map (·.aliasName) = aliases then j.narrowed scope else j := by
  -- The chain and the aliases go down together; a missing node stands for one without children.
  induction js generalizing aliases level with
  | nil =>
    rw [graft, stepAt?_nil, Option.or_none]
    cases aliases with
    | nil => rfl
    | cons aliasName rest => simp
  | cons j js ih =>
    cases aliases with
    | nil => rfl
    | cons aliasName rest =>
      rw [graft, joinAt?, find?_change (aliasName_graftInto scope js.isEmpty (graft scope js)),
        joinAt?, stepAt?]
      by_cases own : aliasName = j.aliasName
      · subst own
        rw [if_pos rfl, if_pos rfl, Option.bind_some]
        cases level.find? (·.join.aliasName = j.aliasName) with
        | none =>
          by_cases last : rest = []
          · cases js <;> simp [last, graftInto]
          · simp [last, graftInto, ih, joinAt?_nil]
        | some t =>
          by_cases last : rest = []
          · cases js <;> simp [last, graftInto]
          · simp [last, graftInto, ih]
      · rw [if_neg own, if_neg (Ne.symm own), Option.or_none]
        simp [Ne.symm own]

/-- Chains put into a level one after the other. -/
def graftAll (chains : List (List Join × JoinScope)) (level : List JoinTree) : List JoinTree :=
  chains.foldl (fun level c => graft c.2 c.1 level) level

/-- The scopes of the chains that end where aliases lead. -/
def scopesAt (aliases : List String) (chains : List (List Join × JoinScope)) : List JoinScope :=
  chains.filterMap fun c => if c.1.map (·.aliasName) = aliases then some c.2 else none

theorem stepAt?_ne_none {js : List Join} (h : js ≠ []) :
    stepAt? (js.map (·.aliasName)) js ≠ none := by
  induction js with
  | nil => exact absurd rfl h
  | cons j js ih =>
    rw [List.map_cons, stepAt?, if_pos rfl]
    by_cases last : js = []
    · simp [last]
    · rw [if_neg (by simpa using last)]
      exact ih last

theorem stepAt?_cons_eq_some {aliasName : String} {rest : List String} {j j' : Join}
    {js : List Join} : stepAt? (aliasName :: rest) (j :: js) = some j' ↔
      j.aliasName = aliasName ∧ (rest = [] ∧ j = j' ∨ stepAt? rest js = some j') := by
  rw [stepAt?]
  by_cases own : j.aliasName = aliasName
  · by_cases last : rest = []
    · simp [own, last, stepAt?]
    · simp [own, last]
  · simp [own]

theorem mem_of_stepAt? {aliases : List String} {js : List Join} {j : Join}
    (h : stepAt? aliases js = some j) : j ∈ js := by
  induction js generalizing aliases with
  | nil =>
    rw [stepAt?_nil] at h
    cases h
  | cons first js ih =>
    cases aliases with
    | nil => cases h
    | cons aliasName rest =>
      rcases (stepAt?_cons_eq_some.mp h).2 with ⟨-, rfl⟩ | further
      · exact List.mem_cons_self
      · exact List.mem_cons_of_mem first (ih further)

theorem prefix_of_stepAt? {aliases : List String} {js : List Join} {j : Join}
    (h : stepAt? aliases js = some j) : aliases <+: js.map (·.aliasName) := by
  induction js generalizing aliases with
  | nil =>
    rw [stepAt?_nil] at h
    cases h
  | cons first js ih =>
    cases aliases with
    | nil => cases h
    | cons aliasName rest =>
      obtain ⟨own, here⟩ := stepAt?_cons_eq_some.mp h
      rw [List.map_cons, own, List.prefix_cons_inj]
      rcases here with ⟨rfl, -⟩ | further
      · exact List.nil_prefix
      · exact ih further

/-- No chain ends where none comes by. -/
theorem scopesAt_eq_nil {aliases : List String} (hne : aliases ≠ [])
    {chains : List (List Join × JoinScope)}
    (h : chains.findSome? (fun c => stepAt? aliases c.1) = none) :
    scopesAt aliases chains = [] := by
  apply List.filterMap_eq_nil_iff.mpr
  intro c hc
  have missed := List.findSome?_eq_none_iff.mp h c hc
  rw [if_neg]
  rintro rfl
  exact stepAt?_ne_none (by simpa using hne) missed

/-- A node is what the first chain that comes to it makes it, narrowed by the chains that end in
it. -/
theorem joinAt?_graftAll {aliases : List String} (hne : aliases ≠ [])
    {chains : List (List Join × JoinScope)}
    (plain : ∀ c ∈ chains, ∀ j ∈ c.1, j.narrowedBy [] = j) :
    joinAt? aliases (graftAll chains []) =
      (chains.findSome? fun c => stepAt? aliases c.1).map
        (·.narrowedBy (scopesAt aliases chains)) := by
  -- From the last chain backwards: what it narrows is what the chains before it have made.
  induction chains using List.reverseRecOn with
  | nil => exact joinAt?_nil aliases
  | append_singleton chains c ih =>
    have earlier := ih fun c' hc' => plain c' (List.mem_append_left _ hc')
    have scopes : scopesAt aliases (chains ++ [c]) = scopesAt aliases chains ++
        if c.1.map (·.aliasName) = aliases then [c.2] else [] := by
      by_cases ends : c.1.map (·.aliasName) = aliases <;> simp [scopesAt, ends]
    have grafted : graftAll (chains ++ [c]) [] = graft c.2 c.1 (graftAll chains []) := by
      simp [graftAll]
    rw [grafted, joinAt?_graft, earlier, List.findSome?_append, List.findSome?_singleton, scopes]
    cases first : chains.findSome? fun c => stepAt? aliases c.1 with
    | some j =>
      by_cases ends : c.1.map (·.aliasName) = aliases
      · simp [ends, Join.narrowed_narrowedBy]
      · simp [ends]
    | none =>
      have unended := scopesAt_eq_nil hne first
      rw [unended, List.nil_append, Option.map_none, Option.none_or]
      cases new : stepAt? aliases c.1 with
      | none => rfl
      | some j =>
        have own := plain c (by simp) j (mem_of_stepAt? new)
        by_cases ends : c.1.map (·.aliasName) = aliases
        · rw [Option.map_some, Option.map_some, if_pos ends, if_pos ends]
          exact congrArg some ((congrArg (·.narrowed c.2) own.symm).trans
            (Join.narrowed_narrowedBy j [] c.2))
        · rw [Option.map_some, Option.map_some, if_neg ends, if_neg ends, own]

/-! ## No alias twice -/

/-- The nodes of each level have different aliases. -/
inductive Apart : List JoinTree → Prop
  | intro {level : List JoinTree} : (level.map (·.join.aliasName)).Nodup →
      (∀ t ∈ level, Apart t.children) → Apart level

theorem apart_nil : Apart [] :=
  .intro List.nodup_nil (by simp)

theorem map_aliasName_change {ε : Type} {j : Join} {f : JoinTree → JoinTree × Option ε}
    (keeps : ∀ t, (f t).1.join.aliasName = t.join.aliasName) (level : List JoinTree) :
    (change j f level).1.map (·.join.aliasName) =
      if j.aliasName ∈ level.map (·.join.aliasName) then level.map (·.join.aliasName)
      else level.map (·.join.aliasName) ++ [j.aliasName] := by
  induction level with
  | nil => simp [change, keeps]
  | cons t rest ih =>
    by_cases here : t.join.aliasName = j.aliasName
    · simp [change, keeps, here]
    · by_cases later : j.aliasName ∈ rest.map (·.join.aliasName)
      · rw [if_pos later] at ih
        simp [change, here, ih, List.mem_map.mp later]
      · rw [if_neg later] at ih
        rw [if_neg (by simpa [Ne.symm here] using later)]
        simp [change, here, ih]

theorem mem_change {ε : Type} {j : Join} {f : JoinTree → JoinTree × Option ε}
    {level : List JoinTree} {t : JoinTree} (h : t ∈ (change j f level).1) :
    t ∈ level ∨ ∃ u, (u ∈ level ∨ u = .node j []) ∧ u.join.aliasName = j.aliasName ∧
      t = (f u).1 := by
  obtain ⟨before, u, after, changed, same, was⟩ := change_eq j f level
  rw [changed] at h
  rcases was with rfl | ⟨rfl, rfl, rfl⟩
  · rcases List.mem_append.mp h with earlier | here
    · exact .inl (List.mem_append_left _ earlier)
    · rcases List.mem_cons.mp here with rfl | later
      · exact .inr ⟨u, .inl (by simp), same, rfl⟩
      · exact .inl (by simp [later])
  · rcases List.mem_append.mp h with earlier | here
    · exact .inl earlier
    · exact .inr ⟨_, .inr rfl, same, List.mem_singleton.mp here⟩

/-- Chains leave the nodes of each level apart. -/
theorem Apart.graft (scope : JoinScope) (js : List Join) {level : List JoinTree}
    (h : Apart level) : Apart (graft scope js level) := by
  induction js generalizing level with
  | nil => exact h
  | cons j js ih =>
    obtain ⟨nodup, below⟩ := h
    rw [JoinTree.graft]
    apply Apart.intro
    · rw [map_aliasName_change (aliasName_graftInto scope js.isEmpty (JoinTree.graft scope js))]
      by_cases known : j.aliasName ∈ level.map (·.join.aliasName)
      · rw [if_pos known]
        exact nodup
      · rw [if_neg known, List.nodup_append]
        refine ⟨nodup, by simp, ?_⟩
        intro a ha b hb same
        rw [List.mem_singleton.mp hb] at same
        exact known (same ▸ ha)
    · intro t ht
      rcases mem_change ht with old | ⟨u, old | rfl, -, rfl⟩
      · exact below t old
      · exact ih (below u old)
      · exact ih apart_nil

theorem Apart.graftAll (chains : List (List Join × JoinScope)) {level : List JoinTree}
    (h : Apart level) : Apart (graftAll chains level) := by
  induction chains generalizing level with
  | nil => exact h
  | cons c chains ih => exact ih (h.graft c.2 c.1)

mutual

/-- The joins of a tree, each with the aliases that lead to it. -/
def routes : JoinTree → List (List String × Join)
  | .node j children =>
    ([j.aliasName], j) :: (routesAll children).map fun n => (j.aliasName :: n.1, n.2)

def routesAll : List JoinTree → List (List String × Join)
  | [] => []
  | t :: rest => t.routes ++ routesAll rest

end

theorem routes_eq (t : JoinTree) :
    t.routes = ([t.join.aliasName], t.join) ::
      (routesAll t.children).map fun n => (t.join.aliasName :: n.1, n.2) := by
  obtain ⟨j, children⟩ := t
  rw [routes]
  rfl

theorem routesAll_eq (level : List JoinTree) : routesAll level = level.flatMap routes := by
  induction level with
  | nil => rfl
  | cons t rest ih => rw [routesAll, ih, List.flatMap_cons]

mutual

theorem map_join_routes (t : JoinTree) : t.routes.map (·.2) = t.nodes.map (·.2.join) := by
  obtain ⟨j, children⟩ := t
  have below := map_join_routesAll children
  rw [routes, nodes, List.map_cons, List.map_cons, List.map_map, List.map_map]
  exact congrArg (j :: ·) below

theorem map_join_routesAll (level : List JoinTree) :
    (routesAll level).map (·.2) = (nodesAll level).map (·.2.join) := by
  cases level with
  | nil => rfl
  | cons t rest =>
    rw [routesAll, nodesAll, List.map_append, List.map_append, map_join_routes t,
      map_join_routesAll rest]

end

theorem find?_of_mem {level : List JoinTree} (nodup : (level.map (·.join.aliasName)).Nodup)
    {t : JoinTree} (h : t ∈ level) :
    level.find? (·.join.aliasName = t.join.aliasName) = some t := by
  induction level with
  | nil => cases h
  | cons first rest ih =>
    rw [List.map_cons, List.nodup_cons] at nodup
    rcases List.mem_cons.mp h with rfl | later
    · simp
    · have other : first.join.aliasName ≠ t.join.aliasName := by
        intro same
        exact nodup.1 (List.mem_map.mpr ⟨t, later, same.symm⟩)
      rw [List.find?_cons_of_neg (by simpa using other), ih nodup.2 later]

theorem head?_of_mem_routes {t : JoinTree} {n : List String × Join} (h : n ∈ t.routes) :
    n.1.head? = some t.join.aliasName := by
  rw [routes_eq] at h
  rcases List.mem_cons.mp h with rfl | h
  · rfl
  · obtain ⟨n, -, rfl⟩ := List.mem_map.mp h
    rfl

theorem ne_nil_of_mem_routesAll {level : List JoinTree} {n : List String × Join}
    (h : n ∈ routesAll level) : n.1 ≠ [] := by
  rw [routesAll_eq] at h
  obtain ⟨t, -, mem⟩ := List.mem_flatMap.mp h
  have head := head?_of_mem_routes mem
  intro none
  rw [none] at head
  cases head

/-- The aliases that lead to a join do lead there. -/
theorem Apart.joinAt?_of_mem {level : List JoinTree} (h : Apart level) {n : List String × Join}
    (mem : n ∈ routesAll level) : joinAt? n.1 level = some n.2 := by
  induction h generalizing n with
  | intro nodup _ ih =>
    rw [routesAll_eq] at mem
    obtain ⟨t, ht, mem⟩ := List.mem_flatMap.mp mem
    rw [routes_eq] at mem
    rcases List.mem_cons.mp mem with rfl | mem
    · rw [joinAt?, find?_of_mem nodup ht]
      rfl
    · obtain ⟨n, below, rfl⟩ := List.mem_map.mp mem
      rw [joinAt?, find?_of_mem nodup ht, Option.bind_some, if_neg (ne_nil_of_mem_routesAll below)]
      exact ih t ht below

/-- No two joins are led to by the same aliases. -/
theorem Apart.nodup_routesAll {level : List JoinTree} (h : Apart level) :
    (routesAll level).Pairwise (·.1 ≠ ·.1) := by
  induction h with
  | intro nodup _ ih =>
    rw [routesAll_eq, List.pairwise_flatMap]
    constructor
    · intro t ht
      rw [routes_eq, List.pairwise_cons, List.pairwise_map]
      constructor
      · intro n hn same
        obtain ⟨n, below, rfl⟩ := List.mem_map.mp hn
        exact ne_nil_of_mem_routesAll below (List.cons.inj same).2.symm
      · exact (ih t ht).imp fun other same => other (List.cons.inj same).2
    · -- The first alias tells the trees of a level apart.
      have apart := List.pairwise_map.mp nodup
      apply apart.imp
      intro t u other n hn m hm same
      have first : n.1.head? = some t.join.aliasName := head?_of_mem_routes hn
      rw [same, head?_of_mem_routes hm] at first
      exact other (Option.some.inj first).symm

end JoinTree

end SqlCompose
