import SqlCompose.Proofs.Chains
import SqlCompose.Proofs.NestedRows

/-!
# Requesting again from another table

The query for a relation to many rows starts at the table of that relation, and what was requested
below it is requested again from there. The main statement is that this leaves the same nodes, as
far as they are reached through to-one relations, each with what was asked of it and under the alias
that its path has from the new table.
-/

namespace SqlCompose

namespace JoinTree

open Asked

/-! ## Trees from another table -/

mutual

/-- A tree as it is seen from the table that `skip` relations lead to: to-one relations only, under
aliases and paths that start there. -/
def rebased (skip : Nat) (parent : Option String) : JoinTree → List JoinTree
  | .node j children =>
    if j.relation.kind.isToOne then
      [.node
        { j with
          baseAlias := parent.getD j.base.aliasName
          aliasName := aliasOf parent j.relation.name
          path := j.path.drop skip }
        (rebasedAll skip (some (aliasOf parent j.relation.name)) children)]
    else []

def rebasedAll (skip : Nat) (parent : Option String) : List JoinTree → List JoinTree
  | [] => []
  | t :: rest => t.rebased skip parent ++ rebasedAll skip parent rest

end

mutual

/-- What a tree asks for through to-one relations: each node once, before those below it. -/
def asking : JoinTree → List Asked
  | .node j children =>
    if j.relation.kind.isToOne then
      ([j.relation.name], j.scope) ::
        (askingAll children).map fun r => (j.relation.name :: r.1, r.2)
    else []

def askingAll : List JoinTree → List Asked
  | [] => []
  | t :: rest => t.asking ++ askingAll rest

end

section

variable {t : JoinTree} {level : List JoinTree} {skip : Nat} {parent : Option String}

theorem name_of_mem_rebased {u : JoinTree} (h : u ∈ t.rebased skip parent) : u.name = t.name := by
  obtain ⟨j, children⟩ := t
  rw [rebased] at h
  split at h
  · obtain rfl := List.mem_singleton.mp h
    rfl
  · cases h

theorem head_of_mem_asking {r : Asked} (h : r ∈ t.asking) : ∃ rest, r.1 = t.name :: rest := by
  obtain ⟨j, children⟩ := t
  rw [asking] at h
  split at h
  · rcases List.mem_cons.mp h with rfl | h
    · exact ⟨[], rfl⟩
    · obtain ⟨r, -, rfl⟩ := List.mem_map.mp h
      exact ⟨r.1, rfl⟩
  · cases h

theorem mem_askingAll {r : Asked} : r ∈ askingAll level ↔ ∃ t ∈ level, r ∈ t.asking := by
  induction level with
  | nil => simp [askingAll]
  | cons t rest ih => simp [askingAll, ih]

theorem scopes_askingAll : scopes (askingAll level) = [] := by
  rw [scopes, List.filterMap_eq_nil_iff]
  intro r hr
  obtain ⟨t, -, ht⟩ := mem_askingAll.mp hr
  obtain ⟨rest, starts⟩ := head_of_mem_asking ht
  rw [starts, if_neg (List.cons_ne_nil _ _)]

theorem mem_rebasedAll {u : JoinTree} :
    u ∈ rebasedAll skip parent level ↔ ∃ t ∈ level, u ∈ t.rebased skip parent := by
  induction level with
  | nil => simp [rebasedAll]
  | cons t rest ih => simp [rebasedAll, ih]

/-- What is asked for in a tree begins with the name of its root. -/
theorem below_asking_of_ne {name : String} (other : t.name ≠ name) :
    below [name] t.asking = [] := by
  rw [List.eq_nil_iff_forall_not_mem]
  intro r hr
  obtain ⟨rest, starts⟩ := head_of_mem_asking (mem_below.mp hr)
  exact other (List.cons.inj starts).1.symm

theorem below_name_asking {j : Join} {children : List JoinTree}
    (toOne : j.relation.kind.isToOne = true) :
    below [j.relation.name] (asking (.node j children)) = ([], j.scope) :: askingAll children := by
  simp [below, asking, toOne, rest?]

theorem eq_name_of_mem_heads_asking {first : String} (h : first ∈ heads t.asking) :
    first = t.name := by
  obtain ⟨r, hr, rest, starts⟩ := mem_heads.mp h
  obtain ⟨rest', starts'⟩ := head_of_mem_asking hr
  exact (List.cons.inj (starts.symm.trans starts')).1

theorem map_name_rebased (t : JoinTree) :
    (t.rebased skip parent).map name = (heads t.asking).eraseDups := by
  obtain ⟨j, children⟩ := t
  by_cases toOne : j.relation.kind.isToOne = true
  · obtain ⟨further, first⟩ : ∃ further, heads (asking (.node j children)) =
        j.relation.name :: further := by
      rw [asking, if_pos toOne]
      exact ⟨_, rfl⟩
    have same : further.filter (fun x => !x == j.relation.name) = [] := by
      rw [List.filter_eq_nil_iff]
      intro x hx
      have mem : x ∈ heads (asking (.node j children)) := first ▸ List.mem_cons_of_mem _ hx
      simp [eq_name_of_mem_heads_asking mem, name, join]
    rw [first, List.eraseDups_cons, same, rebased, if_pos toOne]
    rfl
  · rw [rebased, asking, if_neg toOne, if_neg toOne]
    rfl

/-- A level asks for its to-one relations, in order. -/
theorem map_name_rebasedAll (names : (level.map name).Nodup) :
    (rebasedAll skip parent level).map name = (heads (askingAll level)).eraseDups := by
  induction level with
  | nil => rfl
  | cons t rest ih =>
    rw [List.map_cons, List.nodup_cons] at names
    have apart : (heads (askingAll rest)).removeAll (heads t.asking) = heads (askingAll rest) := by
      rw [List.removeAll, List.filter_eq_self]
      intro first later
      obtain ⟨r, hr, path, starts⟩ := mem_heads.mp later
      obtain ⟨t', ht', mem⟩ := mem_askingAll.mp hr
      have other := eq_name_of_mem_heads_asking (mem_heads.mpr ⟨r, mem, path, starts⟩)
      have here : first ∉ heads t.asking := fun here =>
        names.1 (eq_name_of_mem_heads_asking here ▸ other ▸ List.mem_map_of_mem ht')
      simpa using here
    have parts : heads (askingAll (t :: rest)) = heads t.asking ++ heads (askingAll rest) :=
      List.filterMap_append
    rw [rebasedAll, List.map_append, map_name_rebased, ih names.2, parts, List.eraseDups_append,
      apart]

end

section

variable {schema : Schema} {base : Table} {parent parent' : Option String} {above : List String}
  {asked : List Asked} {level : List JoinTree} {skip : Nat}

/-- What is asked of the relation that leads to a level does not concern the level. -/
theorem IsLevel.cons_nil (h : IsLevel schema base parent above asked level) (scope : JoinScope) :
    IsLevel schema base parent above (([], scope) :: asked) level where
  names := h.names
  nodes t ht := (h.nodes t ht).congr rfl

end

section

variable {schema : Schema} {skip : Nat}

mutual

/-- A node answers, seen from another table, to what it asks for itself. -/
theorem Answers.rebased {base : Table} {parent parent' : Option String} {above : List String}
    {asked : List Asked} {t u : JoinTree} (h : t.Answers schema base parent above asked)
    (deep : skip ≤ above.length) (mem : u ∈ t.rebased skip parent') :
    u.Answers schema base parent' (above.drop skip) t.asking := by
  obtain ⟨j, children⟩ := t
  rw [JoinTree.rebased] at mem
  split at mem
  · rename_i toOne
    obtain rfl := List.mem_singleton.mp mem
    obtain ⟨declared, joined, inner⟩ := answers_iff.mp h
    have whole : j = (fresh schema base parent above j.relation).narrowedBy
      (scopes (below [j.relation.name] asked)) := joined
    have path : j.path.drop skip = above.drop skip ++ [j.relation.name] := by
      rw [whole]
      exact List.drop_append_of_le_length deep
    have further : IsLevel schema j.target (some (aliasOf parent' j.relation.name))
        (j.path.drop skip) (askingAll children)
        (rebasedAll skip (some (aliasOf parent' j.relation.name)) children) := by
      apply isLevel_rebasedAll (inner.names ▸ nodup_eraseDups _) inner.nodes
      rw [join, whole]
      exact Nat.le_trans deep (by simp [Join.narrowedBy, fresh])
    rw [answers_iff]
    refine ⟨declared, ?_, ?_⟩
    · rw [name, join]
      dsimp only
      have alone : scopes (([], j.scope) :: askingAll children) = [j.scope] :=
        congrArg (j.scope :: ·) scopes_askingAll
      have own : j.base = base ∧ j.target = schema.table j.relation.target := by
        rw [whole]
        exact ⟨rfl, rfl⟩
      rw [below_name_asking toOne, alone, path]
      simp [Join.narrowedBy, fresh, JoinScope.lastColumns, Join.scope, own]
    · rw [name, join]
      dsimp only
      rw [below_name_asking toOne]
      exact further.cons_nil j.scope
  · cases mem

/-- The nodes of a level answer, seen from another table, to what they ask for. -/
theorem isLevel_rebasedAll {base : Table} {parent parent' : Option String} {above : List String}
    {asked : List Asked} {level : List JoinTree} (names : (level.map name).Nodup)
    (h : ∀ t ∈ level, t.Answers schema base parent above asked) (deep : skip ≤ above.length) :
    IsLevel schema base parent' (above.drop skip) (askingAll level)
      (rebasedAll skip parent' level) := by
  cases level with
  | nil => exact isLevel_nil
  | cons t rest =>
    refine ⟨map_name_rebasedAll names, ?_⟩
    rw [List.map_cons, List.nodup_cons] at names
    rw [List.forall_mem_cons] at h
    have later : IsLevel schema base parent' (above.drop skip) (askingAll rest)
      (rebasedAll skip parent' rest) := isLevel_rebasedAll names.2 h.2 deep
    intro u hu
    have parts : below [u.name] (askingAll (t :: rest)) =
        below [u.name] t.asking ++ below [u.name] (askingAll rest) := List.filterMap_append
    rcases List.mem_append.mp hu with own | further
    · have named := name_of_mem_rebased own
      have none : below [u.name] (askingAll rest) = [] := by
        rw [named]
        apply below_eq_nil
        rw [later.mem_heads_iff]
        rintro ⟨u', hu', same⟩
        obtain ⟨t', ht', mem⟩ := mem_rebasedAll.mp hu'
        exact names.1 (same ▸ name_of_mem_rebased mem ▸ List.mem_map_of_mem ht')
      exact (h.1.rebased deep own).congr (by rw [parts, none, List.append_nil])
    · have none : below [u.name] t.asking = [] := by
        obtain ⟨t', ht', mem⟩ := mem_rebasedAll.mp further
        apply below_asking_of_ne
        intro same
        exact names.1 (same ▸ name_of_mem_rebased mem ▸ List.mem_map_of_mem ht')
      exact (later.nodes u further).congr (by rw [parts, none, List.nil_append])

end

end

/-! ## One level for what is asked -/

section

variable {schema : Schema}

mutual

/-- What is asked for and the name of a node leave no choice. -/
theorem Answers.eq {base : Table} {parent : Option String} {above : List String}
    {asked : List Asked} {t t' : JoinTree} (h : t.Answers schema base parent above asked)
    (h' : t'.Answers schema base parent above asked) (same : t.name = t'.name) : t = t' := by
  obtain ⟨j, children⟩ := t
  obtain ⟨j', children'⟩ := t'
  obtain ⟨declared, joined, inner⟩ := answers_iff.mp h
  obtain ⟨declared', joined', inner'⟩ := answers_iff.mp h'
  have relation : j.relation = j'.relation := by
    rw [same, declared'] at declared
    exact (Option.some.inj declared).symm
  have whole : j = j' := by
    rw [same] at joined
    exact joined.trans ((congrArg (fun r => (fresh schema base parent above r).narrowedBy _)
      relation).trans joined'.symm)
  subst whole
  have further := eq_of_answers (inner.names.trans inner'.names.symm) inner.nodes inner'.nodes
  exact congrArg (JoinTree.node j) further

theorem eq_of_answers {base : Table} {parent : Option String} {above : List String}
    {asked : List Asked} {level level' : List JoinTree} (names : level.map name = level'.map name)
    (h : ∀ t ∈ level, t.Answers schema base parent above asked)
    (h' : ∀ t ∈ level', t.Answers schema base parent above asked) : level = level' := by
  cases level with
  | nil => exact (List.map_eq_nil_iff.mp names.symm).symm
  | cons t rest =>
    obtain ⟨t', rest', rfl, named, namesRest⟩ := List.map_eq_cons_iff.mp names.symm
    rw [List.forall_mem_cons] at h h'
    rw [h.1.eq h'.1 named.symm, eq_of_answers namesRest.symm h.2 h'.2]

end

/-- What is asked for leaves one level. -/
theorem IsLevel.eq {base : Table} {parent : Option String} {above : List String}
    {asked : List Asked} {level level' : List JoinTree}
    (h : IsLevel schema base parent above asked level)
    (h' : IsLevel schema base parent above asked level') : level = level' :=
  eq_of_answers (h.names.trans h'.names.symm) h.nodes h'.nodes

end

/-! ## Replayed requests -/

section

variable {schema : Schema}

mutual

/-- What a tree asks for is what its to-one joins have been asked for. -/
theorem Answers.map_asking {base : Table} {parent : Option String} {above : List String}
    {asked : List Asked} {t : JoinTree} (h : t.Answers schema base parent above asked) :
    t.asking.map (fun r => (above ++ r.1, r.2)) = t.toOne.map fun j => (j.path, j.scope) := by
  obtain ⟨j, children⟩ := t
  obtain ⟨-, joined, inner⟩ := answers_iff.mp h
  have path : j.path = above ++ [j.relation.name] := congrArg Join.path joined
  have below := map_askingAll inner.nodes
  rw [join, path] at below
  by_cases toOne : j.relation.kind.isToOne = true
  · rw [asking, JoinTree.toOne, if_pos toOne, if_pos toOne, List.map_cons, List.map_cons, path,
      ← children_node j children, ← below, List.map_map]
    simp [Function.comp_def]
  · rw [asking, JoinTree.toOne, if_neg toOne, if_neg toOne]
    rfl

theorem map_askingAll {base : Table} {parent : Option String} {above : List String}
    {asked : List Asked} {level : List JoinTree}
    (h : ∀ t ∈ level, t.Answers schema base parent above asked) :
    (askingAll level).map (fun r => (above ++ r.1, r.2)) =
      (toOneAll level).map fun j => (j.path, j.scope) := by
  cases level with
  | nil => rfl
  | cons t rest =>
    rw [List.forall_mem_cons] at h
    rw [askingAll, toOneAll, List.map_append, List.map_append, h.1.map_asking, map_askingAll h.2]

end

theorem IsLevel.askingAll_eq {base : Table} {parent : Option String} {above : List String}
    {asked : List Asked} {level : List JoinTree}
    (h : IsLevel schema base parent above asked level) :
    askingAll level = (toOneAll level).map fun j => (j.path.drop above.length, j.scope) := by
  have whole := congrArg (List.map fun r : Asked => (r.1.drop above.length, r.2))
    (map_askingAll h.nodes)
  simpa [Function.comp_def] using whole

end

mutual

theorem exists_mem_nodes_of_mem_asking {t : JoinTree} {r : Asked} (h : r ∈ t.asking) :
    ∃ u, (r.1, u) ∈ t.nodes ∧ r.2 = u.join.scope := by
  obtain ⟨j, children⟩ := t
  rw [asking] at h
  split at h
  · rcases List.mem_cons.mp h with rfl | h
    · exact ⟨.node j children, by simp [nodes], rfl⟩
    · obtain ⟨r, hr, rfl⟩ := List.mem_map.mp h
      obtain ⟨u, mem, scope⟩ := exists_mem_nodesAll_of_mem_askingAll hr
      refine ⟨u, ?_, scope⟩
      rw [nodes]
      exact List.mem_cons_of_mem _ (List.mem_map.mpr ⟨_, mem, rfl⟩)
  · cases h

/-- What a level asks for concerns one of its nodes, and what that was asked for. -/
theorem exists_mem_nodesAll_of_mem_askingAll {level : List JoinTree} {r : Asked}
    (h : r ∈ askingAll level) : ∃ u, (r.1, u) ∈ nodesAll level ∧ r.2 = u.join.scope := by
  cases level with
  | nil => cases h
  | cons t rest =>
    rw [nodesAll]
    rcases List.mem_append.mp h with own | later
    · obtain ⟨u, mem, scope⟩ := exists_mem_nodes_of_mem_asking own
      exact ⟨u, List.mem_append_left _ mem, scope⟩
    · obtain ⟨u, mem, scope⟩ := exists_mem_nodesAll_of_mem_askingAll later
      exact ⟨u, List.mem_append_right _ mem, scope⟩

end

end JoinTree

/-! ## Saying again what has been asked for -/

namespace JoinScope

/-- The conditions are templates, as those that calls describe. -/
def HasTemplates (s : JoinScope) : Prop :=
  ∀ c ∈ s.on, ∃ source args, c.node = .template source args

/-- Calls that describe a scope. -/
def calls (s : JoinScope) : List Call :=
  (s.columns.map Call.columns).toList ++ s.on.flatMap fun c =>
    match c.node with
    | .template source args => [.on c.connective source args]
    | .ident _ => []

theorem HasTemplates.call {s : JoinScope} (h : s.HasTemplates) (c : Call) :
    (s.call c).HasTemplates := by
  cases c with
  | columns names => exact h
  | on connective source args =>
    intro c hc
    rcases List.mem_append.mp hc with before | own
    · exact h c before
    · obtain rfl := List.mem_singleton.mp own
      exact ⟨source, args, rfl⟩

theorem hasTemplates_ofCalls (cs : List Call) : (ofCalls cs).HasTemplates := by
  have run (s : JoinScope) (h : s.HasTemplates) : (cs.foldl JoinScope.call s).HasTemplates := by
    induction cs generalizing s with
    | nil => exact h
    | cons c rest ih => exact ih _ (h.call c)
  exact run {} (by simp [HasTemplates])

theorem ofCalls_calls {s : JoinScope} (h : s.HasTemplates) : ofCalls s.calls = s := by
  obtain ⟨columns, on⟩ := s
  have conditions (before : List Condition) :
      (on.flatMap fun c : Condition =>
        match c.node with
        | .template source args => [Call.on c.connective source args]
        | .ident _ => []).foldl call ⟨columns, before⟩ = ⟨columns, before ++ on⟩ := by
    induction on generalizing before with
    | nil => simp
    | cons c rest ih =>
      obtain ⟨connective, node⟩ := c
      obtain ⟨source, args, rfl⟩ := h _ List.mem_cons_self
      have later := ih (fun c hc => h c (List.mem_cons_of_mem _ hc))
        (before ++ [⟨connective, .template source args⟩])
      rw [List.append_assoc] at later
      exact later
  rw [ofCalls, calls, List.foldl_append]
  cases columns with
  | none => exact conditions []
  | some names => exact conditions []

end JoinScope

namespace JoinTree

open Asked

/-- Segments have no dots. -/
theorem dot_not_mem_of_mem_segments {path name : String} (h : name ∈ segments path) :
    '.' ∉ name.toList := by
  obtain ⟨word, mem, rfl⟩ := List.mem_map.mp h
  intro dot
  rw [String.toList_ofList] at dot
  have other := Text.not_of_mem_splitOnP mem '.' dot
  simp at other

/-- Names without dots are the segments of the path that they make. -/
theorem segments_intercalate {path : List String} (nonempty : path ≠ [])
    (plain : ∀ name ∈ path, '.' ∉ name.toList) : segments (".".intercalate path) = path := by
  have words : (".".intercalate path).toList = ['.'].intercalate (path.map String.toList) := by
    rw [String.toList_intercalate]
    rfl
  have split : (['.'].intercalate (path.map String.toList)).splitOn '.' = path.map String.toList :=
    List.splitOn_intercalate '.' (by simpa using plain) (by simpa using nonempty)
  rw [segments, words, split, List.map_map]
  simp [Function.comp_def]

end JoinTree

namespace Asked

/-- The request that asks for something. -/
def toRequest (r : Asked) : String × List JoinScope.Call :=
  (".".intercalate r.1, r.2.calls)

/-- A request can ask for it: its path is not too long, and calls describe its scope. -/
structure IsSayable (r : Asked) : Prop where
  short : r.1.length ≤ greatestPathLength
  plain : ∀ name ∈ r.1, '.' ∉ name.toList
  templates : r.2.HasTemplates

theorem isSayable_ofRequest {r : String × List JoinScope.Call}
    (short : (JoinTree.segments r.1).length ≤ greatestPathLength) : (ofRequest r).IsSayable where
  short := short
  plain _ h := JoinTree.dot_not_mem_of_mem_segments h
  templates := JoinScope.hasTemplates_ofCalls r.2

theorem IsSayable.below {asked : List Asked} (h : ∀ r ∈ asked, r.IsSayable) {path : List String}
    {r : Asked} (mem : r ∈ below path asked) : r.IsSayable := by
  obtain ⟨short, plain, templates⟩ := h _ (mem_below.mp mem)
  rw [List.length_append] at short
  refine ⟨by omega, ?_, templates⟩
  intro name hname
  exact plain name (List.mem_append_right _ hname)

theorem IsSayable.ofRequest_toRequest {r : Asked} (h : r.IsSayable) (nonempty : r.1 ≠ []) :
    ofRequest r.toRequest = r :=
  Prod.ext (JoinTree.segments_intercalate nonempty h.plain) (JoinScope.ofCalls_calls h.templates)

end Asked

/-! ## Accepted requests -/

namespace JoinTree

open Asked

section

variable {schema : Schema} {base : Table} {parent : Option String} {above : List String}
  {asked : List Asked} {level : List JoinTree}

/-- What can be said of a level at all can be said of what it asks for itself. -/
theorem IsLevel.of_mem_askingAll (h : IsLevel schema base parent above asked level)
    (sayable : ∀ r ∈ asked, r.IsSayable) {r : Asked} (mem : r ∈ askingAll level) :
    r.IsSayable ∧ r.1 ≠ [] ∧ ∃ target, base.follow schema r.1 = some target := by
  obtain ⟨u, there, scope⟩ := exists_mem_nodesAll_of_mem_askingAll mem
  obtain ⟨nonempty, r', asks, begins⟩ := (h.exists_mem_nodesAll_iff r.1).mp ⟨u, there⟩
  obtain ⟨before, last, path⟩ := exists_snoc_of_mem_nodesAll there
  rw [path] at there
  obtain ⟨base', leads, rfl, answers⟩ := h.exists_answers there
  obtain ⟨declared, joined, -⟩ := answers_iff.mp answers
  refine ⟨⟨?short, ?plain, ?templates⟩, nonempty, ?leads⟩
  case short => exact Nat.le_trans begins.length_le (sayable r' asks).short
  case plain => exact fun name hname => (sayable r' asks).plain name (begins.subset hname)
  case templates =>
    intro c hc
    rw [scope, joined] at hc
    obtain ⟨s, hs, own⟩ := List.mem_flatMap.mp hc
    obtain ⟨q, hq, found⟩ := List.mem_filterMap.mp hs
    split at found
    · obtain rfl := Option.some.inj found
      have further := IsSayable.below (fun r hr => IsSayable.below sayable hr) hq
      exact further.templates c own
    · cases found
  case leads =>
    rw [path]
    exact ⟨_, Table.follow_snoc leads declared⟩

/-- Declared relations can be asked for. -/
theorem request_accepted {scope : JoinScope} {names : List String} {target : Table}
    (leads : base.follow schema names = some target) (level : List JoinTree) :
    (request schema scope base parent above names level).2 = none := by
  induction names generalizing base parent above level with
  | nil => rfl
  | cons name rest ih =>
    obtain ⟨relation, found, leads⟩ := Option.bind_eq_some_iff.mp leads
    obtain ⟨before, t, after, changed, -⟩ := change_eq (fresh schema base parent above relation)
      (grow schema scope (fresh schema base parent above relation) rest) level
    rw [request_of_some found, changed]
    exact ih leads t.children

end

end JoinTree

section

open JoinTree

variable {schema : Schema} {table : Table}

theorem Select.requestAll_append (s : Select) (first rest : List (String × List JoinScope.Call)) :
    s.requestAll schema (first ++ rest) = (s.requestAll schema first).requestAll schema rest :=
  List.foldl_append

theorem Select.accepted_requestAll {s : Select} (bound : s.table = some table)
    (fine : s.error = none) {requests : List (String × List JoinScope.Call)}
    (short : ∀ r ∈ requests, (segments r.1).length ≤ greatestPathLength)
    (leads : ∀ r ∈ requests, ∃ target, table.follow schema (segments r.1) = some target) :
    (s.requestAll schema requests).error = none := by
  induction requests generalizing s with
  | nil => exact fine
  | cons r rest ih =>
    rw [List.forall_mem_cons] at short leads
    obtain ⟨target, there⟩ := leads.1
    apply ih (table_request schema bound r.1 _) _ short.2 leads.2
    rw [error_request schema bound, fine, requestPath_of_length_le short.1, Option.none_or]
    exact request_accepted there s.relations

/-- The request that a join is replayed by, once `skip` relations on its path are left out. -/
def Join.replayed (skip : Nat) (j : Join) : String × List JoinScope.Call :=
  Asked.toRequest (j.path.drop skip, j.scope)

mutual

/-- To request a tree again is to replay the requests for its to-one joins. -/
theorem JoinTree.rerootInto_eq_requestAll {s : Select} {skip : Nat} {t : JoinTree}
    (worded : ∀ j ∈ t.toOne, j.scope.HasTemplates) (bound : s.table = some table)
    (accepted : (s.requestAll schema (t.toOne.map (·.replayed skip))).error = none) :
    rerootInto schema skip table t s.relations =
      .ok (s.requestAll schema (t.toOne.map (·.replayed skip))).relations := by
  obtain ⟨j, children⟩ := t
  by_cases toOne : j.relation.kind.isToOne = true
  · rw [JoinTree.toOne, if_pos toOne] at worded accepted ⊢
    rw [List.forall_mem_cons] at worded
    rw [List.map_cons, Select.requestAll_cons] at accepted ⊢
    have scope : .ofCalls (j.replayed skip).2 = j.scope := JoinScope.ofCalls_calls worded.1
    rw [scope] at accepted ⊢
    have bound' := Select.table_request schema bound (j.replayed skip).1 j.scope
    have fine := (Select.requestAll_accepted schema bound' accepted).1
    have relations := Select.relations_request schema bound (j.replayed skip).1 j.scope
    rw [Select.error_request schema bound, Option.or_eq_none_iff] at fine
    have own : requestPath schema table (".".intercalate (j.path.drop skip)) j.scope s.relations =
        ((s.request schema (j.replayed skip).1 j.scope).relations, none) :=
      Prod.ext relations.symm fine.2
    rw [rerootInto, if_pos toOne, own]
    exact rerootAllInto_eq_requestAll worded.2 bound' accepted
  · rw [rerootInto, JoinTree.toOne, if_neg toOne, if_neg toOne]
    rfl

theorem JoinTree.rerootAllInto_eq_requestAll {s : Select} {skip : Nat} {level : List JoinTree}
    (worded : ∀ j ∈ toOneAll level, j.scope.HasTemplates) (bound : s.table = some table)
    (accepted : (s.requestAll schema ((toOneAll level).map (·.replayed skip))).error = none) :
    rerootAllInto schema skip table level s.relations =
      .ok (s.requestAll schema ((toOneAll level).map (·.replayed skip))).relations := by
  cases level with
  | nil => rfl
  | cons t rest =>
    rw [toOneAll, List.forall_mem_append] at worded
    rw [toOneAll, List.map_append, Select.requestAll_append] at accepted ⊢
    obtain ⟨relations, error, same⟩ :=
      Select.requestAll_eq schema (t.toOne.map (·.replayed skip)) bound
    have bound' : (s.requestAll schema (t.toOne.map (·.replayed skip))).table = some table := by
      rw [same]
      exact bound
    have fine := (Select.requestAll_accepted schema bound' accepted).1
    rw [rerootAllInto, rerootInto_eq_requestAll worded.1 bound fine]
    exact rerootAllInto_eq_requestAll worded.2 bound' accepted

end

end

namespace JoinTree

theorem nodesAll_append (before after : List JoinTree) :
    nodesAll (before ++ after) = nodesAll before ++ nodesAll after := by
  induction before with
  | nil => rfl
  | cons t rest ih => rw [List.cons_append, nodesAll, nodesAll, ih, List.append_assoc]

mutual

/-- What a tree asks for are the nodes that are seen from elsewhere. -/
theorem map_path_asking (skip : Nat) (parent : Option String) (t : JoinTree) :
    t.asking.map (·.1) = (nodesAll (t.rebased skip parent)).map (·.1) := by
  obtain ⟨j, children⟩ := t
  have below := map_path_askingAll skip (some (aliasOf parent j.relation.name)) children
  by_cases toOne : j.relation.kind.isToOne = true
  · have further := congrArg (List.map (j.relation.name :: ·)) below
    rw [List.map_map, List.map_map] at further
    rw [asking, rebased, if_pos toOne, if_pos toOne]
    simpa [nodesAll, nodes, Function.comp_def] using further
  · rw [asking, rebased, if_neg toOne, if_neg toOne]
    rfl

theorem map_path_askingAll (skip : Nat) (parent : Option String) (level : List JoinTree) :
    (askingAll level).map (·.1) = (nodesAll (rebasedAll skip parent level)).map (·.1) := by
  cases level with
  | nil => rfl
  | cons t rest =>
    rw [askingAll, rebasedAll, nodesAll_append, List.map_append, List.map_append,
      map_path_asking skip parent t, map_path_askingAll skip parent rest]

end

/-- The requests for the to-one joins below a node, by their paths from the node's own table. -/
def requestsBelow (t : JoinTree) : List (String × List JoinScope.Call) :=
  (toOneAll t.children).map (·.replayed t.join.path.length)

/-- What stands below a node is requested again from the table that the node leads to. -/
structure IsRerooted (schema : Schema) (t : JoinTree) (forest : List JoinTree) : Prop where
  /-- The to-one joins below the node, where they were and as they were but for aliases and
  paths. -/
  subtree : forest = rebasedAll t.join.path.length none t.children
  once : ((nodesAll forest).map (·.1)).Nodup
  /-- Each node is asked for by its path, and that is all that the nodes come from. -/
  paths : t.requestsBelow.map (fun r => segments r.1) = (nodesAll forest).map (·.1)
  accepted : (Query.relating schema t.join.target t.requestsBelow).error? = none
  requested : (Query.relating schema t.join.target t.requestsBelow).select.relations = forest
  /-- Aliases follow the paths, from the alias of the new table on. -/
  aliases : ∀ n ∈ nodesAll forest, n.2.join.aliasName = aliasAt n.1
  roots : ∀ u ∈ forest, u.join.base = t.join.target ∧ u.join.baseAlias = t.join.target.aliasName

section

variable {schema : Schema} {table : Table} {asked : List Asked} {above : List String}
  {parent : Option String} {t : JoinTree}

/-- What is asked for below a node can be said, and saying it leaves what is there. -/
theorem map_ofRequest_requestsBelow
    (level : IsLevel schema t.join.target parent t.join.path asked t.children)
    (sayable : ∀ r ∈ asked, r.IsSayable) :
    t.requestsBelow.map Asked.ofRequest = askingAll t.children := by
  have same : t.requestsBelow = (askingAll t.children).map Asked.toRequest := by
    rw [level.askingAll_eq, List.map_map]
    rfl
  rw [same, List.map_map]
  refine (List.map_congr_left fun r hr => ?_).trans (List.map_id _)
  obtain ⟨fits, nonempty, -⟩ := level.of_mem_askingAll sayable hr
  exact fits.ofRequest_toRequest nonempty

/-- The level below a node, requested again from the table of the node. -/
theorem IsLevel.reroot (hschema : ∀ n, (schema.table n).HasDistinctAliases)
    (distinct : t.join.target.HasDistinctAliases)
    (level : IsLevel schema t.join.target parent t.join.path asked t.children)
    (sayable : ∀ r ∈ asked, r.IsSayable) :
    ∃ forest, t.reroot schema = .ok forest ∧ t.IsRerooted schema forest := by
  have same := map_ofRequest_requestsBelow level sayable
  have fits {r : String × List JoinScope.Call} (hr : r ∈ t.requestsBelow) :=
    level.of_mem_askingAll sayable (same ▸ List.mem_map_of_mem hr)
  -- What is replayed is accepted, so that it leaves the one level that it asks for.
  have bound : ({ table := some t.join.target } : Select).table = some t.join.target := rfl
  have accepted := Select.accepted_requestAll bound rfl (fun r hr => (fits hr).1.short)
    fun r hr => (fits hr).2.2
  have replayed := Select.isLevel_requestAll hschema distinct bound accepted isLevel_nil
  have seen : IsLevel schema t.join.target none [] (askingAll t.children)
      (rebasedAll t.join.path.length none t.children) := by
    have whole : IsLevel schema t.join.target none (t.join.path.drop t.join.path.length)
        (askingAll t.children) (rebasedAll t.join.path.length none t.children) :=
      isLevel_rebasedAll (level.names ▸ nodup_eraseDups _) level.nodes (Nat.le_refl _)
    rwa [List.drop_length] at whole
  rw [List.nil_append, same] at replayed
  have relations := replayed.eq seen
  have bySaying := same ▸ seen
  refine ⟨rebasedAll t.join.path.length none t.children, ?_,
    { subtree := rfl
      once := nodup_nodesAll (seen.names ▸ nodup_eraseDups _) seen.nodes
      paths := ?paths
      accepted := ?accepted
      requested := ?requested
      aliases := fun n hn => (bySaying.aliasName_eq hn).1
      roots := ?roots }⟩
  case paths =>
    rw [← map_path_askingAll, ← same, List.map_map]
    rfl
  case accepted =>
    rw [Query.relating_eq]
    exact accepted
  case requested =>
    rw [Query.relating_eq]
    exact relations
  case roots =>
    intro u hu
    obtain ⟨-, joined, -⟩ := answers_iff.mp (seen.nodes u hu)
    rw [joined]
    exact ⟨rfl, rfl⟩
  · rw [← relations]
    apply rerootAllInto_eq_requestAll _ bound accepted
    intro j hj
    have mem : (j.path.drop t.join.path.length, j.scope) ∈ askingAll t.children := by
      rw [level.askingAll_eq]
      exact List.mem_map_of_mem hj
    exact (level.of_mem_askingAll sayable mem).1.templates

end

end JoinTree

section

variable {schema : Schema} {table : Table} {requests : List (String × List JoinScope.Call)}

/-- Below any node that accepted requests leave, what is reached through to-one relations can be
requested again from the table of the node, and nothing of it is lost, repeated or mixed up. -/
theorem Query.reroot_isRerooted (htable : table.HasDistinctAliases)
    (hschema : ∀ t ∈ schema.tables, t.HasDistinctAliases)
    (accepted : (relating schema table requests).error? = none) {path : List String}
    {t : JoinTree}
    (mem : (path, t) ∈ JoinTree.nodesAll (relating schema table requests).select.relations) :
    ∃ forest, t.reroot schema = .ok forest ∧ t.IsRerooted schema forest := by
  have distinct := Schema.hasDistinctAliases_table hschema
  rw [relating_eq] at accepted mem
  have bound : ({ table := some table } : Select).table = some table := rfl
  have level := Select.isLevel_requestAll distinct htable bound accepted JoinTree.isLevel_nil
  have short := (Select.requestAll_accepted schema bound accepted).2.1
  rw [List.nil_append] at level
  have sayable : ∀ r ∈ requests.map Asked.ofRequest, r.IsSayable := by
    intro r hr
    obtain ⟨q, hq, rfl⟩ := List.mem_map.mp hr
    exact Asked.isSayable_ofRequest (short q hq)
  obtain ⟨before, last, rfl⟩ := JoinTree.exists_snoc_of_mem_nodesAll mem
  obtain ⟨base, -, -, answers⟩ := level.exists_answers mem
  obtain ⟨-, joined, inner⟩ := JoinTree.answers_iff.mp answers
  have target : t.join.target = schema.table t.join.relation.target := by
    rw [joined]
    rfl
  exact inner.reroot distinct (target ▸ distinct _) fun r hr =>
    Asked.IsSayable.below (fun r hr => Asked.IsSayable.below sayable hr) hr

end

/-- Authors write books, which have a publisher and reviews; publishers sit in a country. -/
def Schema.library : Schema where
  tables := [
    { name := "authors", aliasName := "author"
      relations := [{ name := "Books", kind := .hasMany, target := 1, baseFields := ["id"],
                      joinFields := ["author_id"] }] },
    { name := "books", aliasName := "book"
      relations := [
        { name := "Publisher", kind := .belongsTo, target := 2, baseFields := ["publisher_id"],
          joinFields := ["id"] },
        { name := "Reviews", kind := .hasMany, target := 4, baseFields := ["id"],
          joinFields := ["book_id"] }] },
    { name := "publishers", aliasName := "publisher"
      relations := [{ name := "HomeCountry", kind := .hasOne, target := 3, baseFields := ["id"],
                      joinFields := ["publisher_id"] }] },
    { name := "countries", aliasName := "country" },
    { name := "reviews", aliasName := "review" }]

/-- From the table of the books, their publishers are asked for under shorter aliases, and the
reviews are left for later. -/
theorem Query.reroot_isRerooted_library :
    let requests := [("Books.Publisher.HomeCountry", [.columns ["name"]]), ("Books.Reviews", []),
      ("Books.Publisher", [.on .and "publisher.open" []])]
    let q := relating .library (Schema.library.table 0) requests
    (∀ t ∈ Schema.library.tables, t.HasDistinctAliases) ∧ q.error? = none ∧
      ∃ t forest, (["Books"], t) ∈ JoinTree.nodesAll q.select.relations ∧
        t.join.relation.kind.isToOne = false ∧ t.reroot .library = .ok forest ∧
        (JoinTree.nodesAll forest).map
            (fun n => (n.2.join.baseAlias, n.2.join.aliasName, n.2.join.columns)) =
          [("book", "publisher", none), ("publisher", "publisher__home_country", some ["name"])] ∧
        t.IsRerooted .library forest := by
  intro requests q
  have distinct : ∀ t ∈ Schema.library.tables, t.HasDistinctAliases := by
    unfold Table.HasDistinctAliases
    decide +kernel
  have accepted : q.error? = none := by decide +kernel
  obtain ⟨t, first, toMany⟩ : ∃ t, q.select.relations.head? = some t ∧
      t.name = "Books" ∧ t.join.relation.kind.isToOne = false := by
    have found : (q.select.relations.head?.map fun t =>
        (t.name, t.join.relation.kind.isToOne)) = some ("Books", false) := by decide +kernel
    obtain ⟨t, first, facts⟩ := Option.map_eq_some_iff.mp found
    exact ⟨t, first, (Prod.mk.inj facts).1, (Prod.mk.inj facts).2⟩
  have mem : (["Books"], t) ∈ JoinTree.nodesAll q.select.relations :=
    JoinTree.mem_nodesAll_cons.mpr
      ⟨t, List.mem_of_mem_head? first, toMany.1, .inl ⟨rfl, rfl⟩⟩
  obtain ⟨forest, built, rerooted⟩ :=
    reroot_isRerooted (distinct _ (by decide)) distinct accepted mem
  refine ⟨distinct, accepted, t, forest, mem, toMany.2, built, ?_, rerooted⟩
  have all : (q.select.relations.head?.bind fun t => (t.reroot .library).toOption.map fun forest =>
      (JoinTree.nodesAll forest).map
        (fun n => (n.2.join.baseAlias, n.2.join.aliasName, n.2.join.columns))) =
        some [("book", "publisher", none),
          ("publisher", "publisher__home_country", some ["name"])] := by
    decide +kernel
  rw [first, Option.bind_some, built] at all
  exact Option.some.inj all

end SqlCompose
