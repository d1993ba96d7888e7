import SqlCompose.Proofs.Aliases
import SqlCompose.Proofs.DepthLimit

/-!
# What a sequence of requests leaves

Requested relations form a forest: below each node stands one node for each relation that was asked
for there, in the order in which the requests first came by, and what a node asks for was said by
the requests that end in it. One request at a time settles this: whatever has been asked for, the
next request adds itself.
-/

namespace SqlCompose

/-! ## Paths and requests -/

/-- A path in segments, and what is asked of its last relation. -/
abbrev Asked := List String × JoinScope

namespace Asked

/-- What is left of a path behind another one that it starts with. -/
def rest? : List String → List String → Option (List String)
  | [], path => some path
  | name :: names, first :: path => if first = name then rest? names path else none
  | _ :: _, [] => none

/-- What is asked for below a path, seen from there. -/
def below (path : List String) (asked : List Asked) : List Asked :=
  asked.filterMap fun r => (rest? path r.1).map (·, r.2)

/-- The first names of the paths. -/
def heads (asked : List Asked) : List String :=
  asked.filterMap (·.1.head?)

/-- The scopes that are given for no further relation. -/
def scopes (asked : List Asked) : List JoinScope :=
  asked.filterMap fun r => if r.1 = [] then some r.2 else none

theorem rest?_eq_some {path names rest : List String} :
    rest? path names = some rest ↔ names = path ++ rest := by
  induction path generalizing names with
  | nil => simp [rest?]
  | cons name path ih =>
    cases names with
    | nil => simp [rest?]
    | cons first names =>
      rw [rest?, List.cons_append, List.cons.injEq, ← ih]
      split <;> simp [*]

@[simp] theorem mem_heads {asked : List Asked} {name : String} :
    name ∈ heads asked ↔ ∃ r ∈ asked, ∃ rest, r.1 = name :: rest := by
  simp [heads, List.mem_filterMap, List.head?_eq_some_iff]

theorem mem_below {asked : List Asked} {path : List String} {r : Asked} :
    r ∈ below path asked ↔ (path ++ r.1, r.2) ∈ asked := by
  simp only [below, List.mem_filterMap, Option.map_eq_some_iff, rest?_eq_some]
  constructor
  · rintro ⟨⟨names, scope⟩, mem, rest, same, rfl⟩
    obtain rfl : names = path ++ rest := same
    exact mem
  · intro mem
    exact ⟨_, mem, r.1, rfl, rfl⟩

@[simp] theorem below_nil (asked : List Asked) : below [] asked = asked := by
  simp [below, rest?]

theorem rest?_append (path path' names : List String) :
    rest? (path ++ path') names = (rest? path names).bind (rest? path') := by
  induction path generalizing names with
  | nil => simp [rest?]
  | cons name path ih =>
    cases names with
    | nil => rfl
    | cons first names =>
      rw [List.cons_append, rest?, rest?, ih]
      split <;> rfl

theorem below_append (path path' : List String) (asked : List Asked) :
    below (path ++ path') asked = below path' (below path asked) := by
  simp only [below, List.filterMap_filterMap, rest?_append]
  congr 1
  funext r
  cases rest? path r.1 <;> rfl

theorem below_snoc (path : List String) (asked : List Asked) (r : Asked) :
    below path (asked ++ [r]) = below path asked ++ ((rest? path r.1).map (·, r.2)).toList := by
  cases left : rest? path r.1 <;> simp [below, left]

theorem scopes_snoc (asked : List Asked) (r : Asked) :
    scopes (asked ++ [r]) = scopes asked ++ if r.1 = [] then [r.2] else [] := by
  by_cases last : r.1 = [] <;> simp [scopes, last]

theorem heads_snoc_cons (asked : List Asked) (name : String) (rest : List String)
    (scope : JoinScope) : heads (asked ++ [(name :: rest, scope)]) = heads asked ++ [name] := by
  simp [heads]

theorem heads_snoc_nil (asked : List Asked) (scope : JoinScope) :
    heads (asked ++ [([], scope)]) = heads asked := by
  simp [heads]

end Asked

/-! ## Levels -/

/-- The columns of the last scope that names columns. -/
def JoinScope.lastColumns (scopes : List JoinScope) : Option (List String) :=
  scopes.reverse.findSome? (·.columns)

/-- The join as scopes ask for it, one after the other. -/
def Join.narrowedBy (j : Join) (scopes : List JoinScope) : Join :=
  { j with columns := JoinScope.lastColumns scopes, on := scopes.flatMap (·.on) }

theorem Join.narrowed_narrowedBy (j : Join) (scopes : List JoinScope) (s : JoinScope) :
    (j.narrowedBy scopes).narrowed s = j.narrowedBy (scopes ++ [s]) := by
  cases columns : s.columns <;>
    simp [narrowedBy, narrowed, JoinScope.lastColumns, columns]

theorem Table.relation?_eq_some {t : Table} {name : String} {r : Relation}
    (h : t.relation? name = some r) : r.name = name ∧ r ∈ t.relations :=
  ⟨by simpa using List.find?_some h, List.mem_of_find?_eq_some h⟩

/-! ### First occurrences -/

theorem nodup_eraseDups (xs : List String) : xs.eraseDups.Nodup := by
  cases xs with
  | nil => simp
  | cons x xs =>
    rw [List.eraseDups_cons, List.nodup_cons]
    exact ⟨by simp [List.mem_eraseDups], nodup_eraseDups _⟩
termination_by xs.length
decreasing_by exact Nat.lt_succ_of_le (List.length_filter_le _ xs)

theorem eraseDups_snoc (xs : List String) (x : String) :
    (xs ++ [x]).eraseDups = if x ∈ xs then xs.eraseDups else xs.eraseDups ++ [x] := by
  rw [List.eraseDups_append]
  split <;> rename_i seen <;> simp [List.removeAll, seen, List.eraseDups_cons]

namespace JoinTree

open Asked

/-- The name of the requested relation. -/
def name (t : JoinTree) : String :=
  t.join.relation.name

mutual

/-- A node, and everything below it, is what was asked for. -/
def Answers (schema : Schema) (base : Table) (parent : Option String) (above : List String)
    (asked : List Asked) : JoinTree → Prop
  | .node j children =>
    base.relation? j.relation.name = some j.relation ∧
      j = (fresh schema base parent above j.relation).narrowedBy
        (scopes (below [j.relation.name] asked)) ∧
      children.map name = (heads (below [j.relation.name] asked)).eraseDups ∧
      AllAnswer schema j.target (some j.aliasName) j.path (below [j.relation.name] asked) children

def AllAnswer (schema : Schema) (base : Table) (parent : Option String) (above : List String)
    (asked : List Asked) : List JoinTree → Prop
  | [] => True
  | t :: rest =>
    t.Answers schema base parent above asked ∧ AllAnswer schema base parent above asked rest

end

/-- A level has one node for each relation that was asked for, in the order of the requests. -/
structure IsLevel (schema : Schema) (base : Table) (parent : Option String) (above : List String)
    (asked : List Asked) (level : List JoinTree) : Prop where
  names : level.map name = (heads asked).eraseDups
  nodes : ∀ t ∈ level, t.Answers schema base parent above asked

section

variable {schema : Schema} {base : Table} {parent : Option String} {above : List String}
  {asked : List Asked}

theorem allAnswer_iff {level : List JoinTree} :
    AllAnswer schema base parent above asked level ↔
      ∀ t ∈ level, t.Answers schema base parent above asked := by
  induction level with
  | nil => simp [AllAnswer]
  | cons t rest ih => simp [AllAnswer, ih]

theorem answers_iff {t : JoinTree} :
    t.Answers schema base parent above asked ↔
      base.relation? t.name = some t.join.relation ∧
      t.join = (fresh schema base parent above t.join.relation).narrowedBy
        (scopes (below [t.name] asked)) ∧
      IsLevel schema t.join.target (some t.join.aliasName) t.join.path (below [t.name] asked)
        t.children := by
  obtain ⟨j, children⟩ := t
  rw [Answers, allAnswer_iff]
  exact and_congr_right' (and_congr_right' ⟨fun h => ⟨h.1, h.2⟩, fun h => ⟨h.1, h.2⟩⟩)

/-! ## One request -/

theorem isLevel_nil : IsLevel schema base parent above [] [] where
  names := rfl
  nodes := by simp

theorem Answers.congr {asked' : List Asked} {t : JoinTree}
    (h : t.Answers schema base parent above asked)
    (same : below [t.name] asked = below [t.name] asked') :
    t.Answers schema base parent above asked' := by
  rw [answers_iff, same] at h
  exact answers_iff.mpr h

/-- Requests below other nodes of a level leave a node as it is. -/
theorem Answers.snoc_of_ne {t : JoinTree} (h : t.Answers schema base parent above asked)
    {names : List String} {scope : JoinScope} (other : names.head? ≠ some t.name) :
    t.Answers schema base parent above (asked ++ [(names, scope)]) := by
  apply h.congr
  rw [below_snoc]
  cases names with
  | nil => simp [rest?]
  | cons first rest => simpa [rest?] using other

/-- The alias leads to the node of the relation that is asked for, and to no other. -/
theorem Answers.aliasName_eq_iff {t : JoinTree} (h : t.Answers schema base parent above asked)
    (distinct : base.HasDistinctAliases) {segment : String} {relation : Relation}
    (found : base.relation? segment = some relation) :
    t.join.aliasName = (fresh schema base parent above relation).aliasName ↔
      t.name = segment := by
  obtain ⟨declared, joined, -⟩ := answers_iff.mp h
  have aliasName : t.join.aliasName = aliasOf parent t.join.relation.name := by
    rw [joined]
    rfl
  obtain ⟨named, member⟩ := Table.relation?_eq_some found
  rw [aliasName]
  constructor
  · intro same
    have forms := snakeCase_eq_of_aliasOf_eq parent same
    rw [name, distinct _ (Table.relation?_eq_some declared).2 _ member forms, named]
  · intro same
    rw [same, found] at declared
    rw [← Option.some.inj declared]
    rfl

/-- A level is changed at the node of an alias, if no other node has that alias. -/
theorem change_of_mem {ε : Type} {j : Join} {f : JoinTree → JoinTree × Option ε}
    {before after : List JoinTree} {t : JoinTree}
    (others : ∀ t ∈ before, t.join.aliasName ≠ j.aliasName) (own : t.join.aliasName = j.aliasName) :
    change j f (before ++ t :: after) = (before ++ (f t).1 :: after, (f t).2) := by
  induction before with
  | nil => simp [change, own]
  | cons first rest ih =>
    rw [List.forall_mem_cons] at others
    simp [change, others.1, ih others.2]

/-- Where no node has the alias, a new one is put at the end. -/
theorem change_of_not_mem {ε : Type} {j : Join} {f : JoinTree → JoinTree × Option ε}
    {level : List JoinTree} (others : ∀ t ∈ level, t.join.aliasName ≠ j.aliasName) :
    change j f level = (level ++ [(f (.node j [])).1], (f (.node j [])).2) := by
  induction level with
  | nil => rfl
  | cons first rest ih =>
    rw [List.forall_mem_cons] at others
    simp [change, others.1, ih others.2]

theorem join_grow (scope : JoinScope) (j : Join) (rest : List String) (t : JoinTree) :
    (grow schema scope j rest t).1.join =
      if rest = [] then t.join.narrowed scope else t.join := rfl

theorem name_grow (scope : JoinScope) (j : Join) (rest : List String) (t : JoinTree) :
    (grow schema scope j rest t).1.name = t.name := by
  rw [name, relation_grow, name]

/-- The node that a request comes to, once what lies below it has been settled. -/
theorem answers_grow {t : JoinTree} {scope : JoinScope} {segment : String} {rest : List String}
    {relation : Relation} (found : base.relation? segment = some relation)
    (joined : t.join = (fresh schema base parent above relation).narrowedBy
      (scopes (below [segment] asked)))
    (level : IsLevel schema (schema.table relation.target) (some (aliasOf parent relation.name))
      (above ++ [relation.name]) (below [segment] asked ++ [(rest, scope)])
      (request schema scope (schema.table relation.target) (some (aliasOf parent relation.name))
        (above ++ [relation.name]) rest t.children).1) :
    (grow schema scope (fresh schema base parent above relation) rest t).1.Answers schema base
      parent above (asked ++ [(segment :: rest, scope)]) := by
  obtain ⟨rfl, -⟩ := Table.relation?_eq_some found
  have more : below [relation.name] (asked ++ [(relation.name :: rest, scope)]) =
      below [relation.name] asked ++ [(rest, scope)] := by
    rw [below_snoc]
    simp [rest?]
  have own : (grow schema scope (fresh schema base parent above relation) rest t).1.join =
      (fresh schema base parent above relation).narrowedBy
        (scopes (below [relation.name] asked ++ [(rest, scope)])) := by
    rw [join_grow, scopes_snoc]
    dsimp only
    split
    · rw [joined, Join.narrowed_narrowedBy]
    · rw [joined, List.append_nil]
  rw [answers_iff, name, own, Join.narrowedBy, fresh]
  dsimp only
  rw [more]
  exact ⟨found, rfl, level⟩

section

variable {segment : String} {rest : List String} {scope : JoinScope} {t t' : JoinTree}
  {before after level : List JoinTree}

theorem IsLevel.mem_heads_iff (h : IsLevel schema base parent above asked level) :
    segment ∈ heads asked ↔ ∃ t ∈ level, t.name = segment := by
  rw [← List.mem_eraseDups, ← h.names, List.mem_map]

/-- No two nodes of a level have one name. -/
theorem IsLevel.name_ne (h : IsLevel schema base parent above asked (before ++ t :: after)) :
    (∀ u ∈ before, u.name ≠ t.name) ∧ ∀ u ∈ after, u.name ≠ t.name := by
  have once : ((before ++ t :: after).map name).Nodup := h.names ▸ nodup_eraseDups _
  rw [List.map_append, List.map_cons, List.nodup_append, List.nodup_cons] at once
  obtain ⟨-, ⟨later, -⟩, earlier⟩ := once
  constructor
  · intro u hu
    exact earlier _ (List.mem_map_of_mem hu) _ List.mem_cons_self
  · intro u hu same
    exact later (same ▸ List.mem_map_of_mem hu)

/-- A known relation is asked for again. -/
theorem IsLevel.replace (h : IsLevel schema base parent above asked (before ++ t :: after))
    (named : t'.name = t.name)
    (answers : t'.Answers schema base parent above (asked ++ [(t.name :: rest, scope)])) :
    IsLevel schema base parent above (asked ++ [(t.name :: rest, scope)])
      (before ++ t' :: after) := by
  have known : t.name ∈ heads asked := h.mem_heads_iff.mpr ⟨t, by simp, rfl⟩
  have stays (u : JoinTree) (hu : u ∈ before ++ t :: after) (other : u.name ≠ t.name) :
      u.Answers schema base parent above (asked ++ [(t.name :: rest, scope)]) :=
    (h.nodes u hu).snoc_of_ne (by simpa using other.symm)
  refine ⟨?_, ?_⟩
  · rw [heads_snoc_cons, eraseDups_snoc, if_pos known, ← h.names]
    simp [named]
  · intro u hu
    rcases List.mem_append.mp hu with earlier | here
    · exact stays u (by simp [earlier]) (h.name_ne.1 u earlier)
    · rcases List.mem_cons.mp here with rfl | later
      · exact answers
      · exact stays u (by simp [later]) (h.name_ne.2 u later)

/-- A relation is asked for that was not known. -/
theorem IsLevel.extend (h : IsLevel schema base parent above asked level)
    (new : ∀ t ∈ level, t.name ≠ segment) (named : t'.name = segment)
    (answers : t'.Answers schema base parent above (asked ++ [(segment :: rest, scope)])) :
    IsLevel schema base parent above (asked ++ [(segment :: rest, scope)]) (level ++ [t']) := by
  have unknown : segment ∉ heads asked := by
    rw [h.mem_heads_iff]
    rintro ⟨t, ht, same⟩
    exact new t ht same
  refine ⟨?_, ?_⟩
  · rw [heads_snoc_cons, eraseDups_snoc, if_neg unknown, ← h.names]
    simp [named]
  · intro u hu
    rcases List.mem_append.mp hu with there | last
    · exact (h.nodes u there).snoc_of_ne (by simpa using (new u there).symm)
    · rwa [List.mem_singleton.mp last]

theorem below_eq_nil (unknown : segment ∉ heads asked) : below [segment] asked = [] := by
  rw [List.eq_nil_iff_forall_not_mem]
  intro r hr
  exact unknown (mem_heads.mpr ⟨_, mem_below.mp hr, r.1, rfl⟩)

end

/-- What a level holds after one more request. -/
theorem IsLevel.request (hschema : ∀ n, (schema.table n).HasDistinctAliases)
    (distinct : base.HasDistinctAliases) {scope : JoinScope} {names : List String}
    {level : List JoinTree} (h : IsLevel schema base parent above asked level)
    (accepted : (request schema scope base parent above names level).2 = none) :
    IsLevel schema base parent above (asked ++ [(names, scope)])
      (request schema scope base parent above names level).1 := by
  induction names generalizing base parent above asked level with
  | nil =>
    refine ⟨?_, fun t ht => (h.nodes t ht).snoc_of_ne nofun⟩
    rw [heads_snoc_nil]
    exact h.names
  | cons segment rest ih =>
    cases found : base.relation? segment with
    | none =>
      rw [request_of_none found] at accepted
      cases accepted
    | some relation =>
      have named := (Table.relation?_eq_some found).1
      have addressed (t : JoinTree) (ht : t ∈ level) :=
        (h.nodes t ht).aliasName_eq_iff distinct found
      rw [request_of_some found] at accepted ⊢
      by_cases known : ∃ t ∈ level, t.name = segment
      · obtain ⟨t, ht, rfl⟩ := known
        obtain ⟨declared, joined, further⟩ := answers_iff.mp (h.nodes t ht)
        obtain rfl : relation = t.join.relation := Option.some.inj (found.symm.trans declared)
        obtain ⟨before, after, rfl⟩ := List.append_of_mem ht
        have others : ∀ t' ∈ before, t'.join.aliasName ≠
            (fresh schema base parent above t.join.relation).aliasName :=
          fun t' ht' => mt (addressed t' (List.mem_append_left _ ht')).mp (h.name_ne.1 t' ht')
        rw [change_of_mem others ((addressed t ht).mpr rfl)] at accepted ⊢
        refine h.replace (name_grow ..) (answers_grow found joined ?_)
        rw [joined] at further
        exact ih (hschema _) further accepted
      · have new : ∀ t ∈ level, t.name ≠ segment := by simpa using known
        have others : ∀ t ∈ level, t.join.aliasName ≠
            (fresh schema base parent above relation).aliasName :=
          fun t ht => mt (addressed t ht).mp (new t ht)
        have unasked : below [segment] asked = [] := below_eq_nil (mt h.mem_heads_iff.mp known)
        rw [change_of_not_mem others] at accepted ⊢
        refine h.extend new ((name_grow ..).trans named) (answers_grow found ?_ ?_)
        · rw [unasked]
          rfl
        · rw [unasked]
          exact ih (hschema _) isLevel_nil accepted

end

end JoinTree

/-! ## All requests -/

section

open JoinTree

variable {schema : Schema} {table : Table} {s : Select}

/-- A request as a path in segments. -/
def Asked.ofRequest (r : String × List JoinScope.Call) : Asked :=
  (segments r.1, .ofCalls r.2)

theorem Select.isLevel_requestAll (hschema : ∀ n, (schema.table n).HasDistinctAliases)
    (distinct : table.HasDistinctAliases) (h : s.table = some table)
    {requests : List (String × List JoinScope.Call)}
    (accepted : (s.requestAll schema requests).error = none) {asked : List Asked}
    (level : IsLevel schema table none [] asked s.relations) :
    IsLevel schema table none [] (asked ++ requests.map Asked.ofRequest)
      (s.requestAll schema requests).relations := by
  induction requests generalizing s asked with
  | nil => simpa using level
  | cons r rest ih =>
    have short := (requestAll_accepted schema h accepted).2.1 r List.mem_cons_self
    rw [requestAll_cons] at accepted ⊢
    have bound := table_request schema h r.1 (.ofCalls r.2)
    have fine := (requestAll_accepted schema bound accepted).1
    rw [error_request schema h, Option.or_eq_none_iff, requestPath_of_length_le short] at fine
    have next := level.request hschema distinct fine.2
    rw [← requestPath_of_length_le short, ← relations_request schema h] at next
    rw [List.map_cons, ← List.singleton_append, ← List.append_assoc]
    exact ih bound accepted next

end

end SqlCompose
