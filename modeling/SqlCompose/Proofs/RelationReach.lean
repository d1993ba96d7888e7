import SqlCompose.Relation.Flatten

/-!
# How far to-one relations reach

The walk through the requested relations goes as deep as they are to-one relations in a row. It gets
too deep as soon as it has taken as many as one path may follow, whether or not anything is
requested below the last one.
-/

namespace SqlCompose

namespace JoinTree

mutual

/-- The most to-one relations in a row, from the root on. -/
def reach : JoinTree → Nat
  | .node j children => if j.relation.kind.isToOne then reachAll children + 1 else 0

def reachAll : List JoinTree → Nat
  | [] => 0
  | t :: rest => max t.reach (reachAll rest)

end

@[simp] theorem reachAll_nil : reachAll [] = 0 := by
  rw [reachAll]

@[simp] theorem reachAll_cons (t : JoinTree) (ts : List JoinTree) :
    reachAll (t :: ts) = max t.reach (reachAll ts) := by
  rw [reachAll]

@[simp] theorem reachAll_append (xs ys : List JoinTree) :
    reachAll (xs ++ ys) = max (reachAll xs) (reachAll ys) := by
  induction xs with
  | nil => simp
  | cons x xs ih => simp [ih, Nat.max_assoc]

/-! ## The walk -/

mutual

/-- The walk goes wrong exactly where it is as deep as a path may be long. -/
theorem exists_error_visits_iff {depth : Nat} (h : depth < greatestPathLength) (t : JoinTree) :
    (∃ e, .error e ∈ t.visits depth) ↔ greatestPathLength ≤ depth + t.reach := by
  obtain ⟨j, children⟩ := t
  rw [visits, reach]
  cases j.relation.kind.isToOne with
  | false => simpa using h
  | true =>
    by_cases deep : greatestPathLength ≤ depth + 1
    · have reached : greatestPathLength ≤ depth + (reachAll children + 1) := by omega
      simpa [deep] using reached
    · have below := exists_error_visitsAll_iff (Nat.lt_of_not_le deep) children
      simpa [deep, Nat.add_assoc, Nat.add_comm 1] using below

theorem exists_error_visitsAll_iff {depth : Nat} (h : depth < greatestPathLength)
    (ts : List JoinTree) :
    (∃ e, .error e ∈ visitsAll depth ts) ↔ greatestPathLength ≤ depth + reachAll ts := by
  cases ts with
  | nil => simpa [visitsAll] using h
  | cons t rest =>
    have first := exists_error_visits_iff h t
    have others := exists_error_visitsAll_iff h rest
    have either : greatestPathLength ≤ depth + max t.reach (reachAll rest) ↔
        greatestPathLength ≤ depth + t.reach ∨ greatestPathLength ≤ depth + reachAll rest := by
      omega
    rw [reachAll_cons, either, ← first, ← others, visitsAll]
    simp only [List.mem_append, exists_or]

end

mutual

theorem eq_pathTooLong_of_error_mem_visits {depth : Nat} {t : JoinTree} {e : BuildError}
    (h : .error e ∈ t.visits depth) : ∃ path, e = .pathTooLong path := by
  obtain ⟨j, children⟩ := t
  rw [visits] at h
  split at h
  · rcases List.mem_cons.mp h with h | h
    · cases h
    · split at h
      · exact ⟨_, by simpa using h⟩
      · exact eq_pathTooLong_of_error_mem_visitsAll h
  · cases h

theorem eq_pathTooLong_of_error_mem_visitsAll {depth : Nat} {ts : List JoinTree} {e : BuildError}
    (h : .error e ∈ visitsAll depth ts) : ∃ path, e = .pathTooLong path := by
  cases ts with
  | nil => simp [visitsAll] at h
  | cons t rest =>
    rw [visitsAll] at h
    rcases List.mem_append.mp h with h | h
    · exact eq_pathTooLong_of_error_mem_visits h
    · exact eq_pathTooLong_of_error_mem_visitsAll h

end

/-! ## Requests -/

/-- A level is changed at the first node of an alias, or a new node is put at its end. -/
theorem change_eq {ε : Type} (fresh : Join) (f : JoinTree → JoinTree × Option ε)
    (level : List JoinTree) :
    ∃ before t after, change fresh f level = (before ++ (f t).1 :: after, (f t).2) ∧
      t.join.aliasName = fresh.aliasName ∧
      (level = before ++ t :: after ∨ level = before ∧ after = [] ∧ t = .node fresh []) := by
  induction level with
  | nil => exact ⟨[], .node fresh [], [], rfl, rfl, .inr ⟨rfl, rfl, rfl⟩⟩
  | cons first rest ih =>
    rw [change]
    split
    · rename_i found
      exact ⟨[], first, rest, rfl, found, .inl rfl⟩
    · obtain ⟨before, t, after, changed, found, was⟩ := ih
      refine ⟨first :: before, t, after, by simp [changed], found, ?_⟩
      rcases was with rfl | ⟨rfl, rfl, rfl⟩
      · exact .inl rfl
      · exact .inr ⟨rfl, rfl, rfl⟩

/-- What a request does to the node that it comes to. -/
def grow (schema : Schema) (scope : JoinScope) (fresh : Join) (rest : List String) (t : JoinTree) :
    JoinTree × Option BuildError :=
  let (children, e) :=
    request schema scope fresh.target (some fresh.aliasName) fresh.path rest t.children
  (.node (if rest = [] then t.join.narrowed scope else t.join) children, e)

/-- The join that a path asks for when there is none yet. -/
def fresh (schema : Schema) (base : Table) (parent : Option String) (above : List String)
    (relation : Relation) : Join where
  relation := relation
  base := base
  target := schema.table relation.target
  baseAlias := parent.getD base.aliasName
  aliasName := aliasOf parent relation.name
  path := above ++ [relation.name]

section

variable {schema : Schema} {scope : JoinScope} {base : Table} {parent : Option String}
  {above rest : List String} {segment : String} {level : List JoinTree}

theorem request_of_none (h : base.relation? segment = none) :
    request schema scope base parent above (segment :: rest) level =
      (level, some (.relationNotFound base.name segment)) := by
  rw [request, h]

theorem request_of_some {relation : Relation} (h : base.relation? segment = some relation) :
    request schema scope base parent above (segment :: rest) level =
      change (fresh schema base parent above relation)
        (grow schema scope (fresh schema base parent above relation) rest) level := by
  rw [request, h]
  rfl

end

theorem reach_eq (t : JoinTree) :
    t.reach = if t.join.relation.kind.isToOne then reachAll t.children + 1 else 0 := by
  obtain ⟨j, children⟩ := t
  rw [reach]
  rfl

section

variable (schema : Schema) (scope : JoinScope) (fresh : Join) (rest : List String) (t : JoinTree)

@[simp] theorem relation_grow :
    (grow schema scope fresh rest t).1.join.relation = t.join.relation := by
  simp only [grow, join]
  split <;> rfl

@[simp] theorem aliasName_grow :
    (grow schema scope fresh rest t).1.join.aliasName = t.join.aliasName := by
  simp only [grow, join]
  split <;> rfl

@[simp] theorem baseAlias_grow :
    (grow schema scope fresh rest t).1.join.baseAlias = t.join.baseAlias := by
  simp only [grow, join]
  split <;> rfl

@[simp] theorem children_grow :
    (grow schema scope fresh rest t).1.children =
      (request schema scope fresh.target (some fresh.aliasName) fresh.path rest t.children).1 :=
  rfl

end

theorem reach_fresh_le_one (j : Join) : (node j []).reach ≤ 1 := by
  rw [reach, reachAll_nil]
  split <;> simp

theorem reachAll_change_le {ε : Type} {j : Join} {f : JoinTree → JoinTree × Option ε} {n : Nat}
    (new : (node j []).reach ≤ n) (changed : ∀ t, (f t).1.reach ≤ max t.reach n)
    (level : List JoinTree) : reachAll (change j f level).1 ≤ max (reachAll level) n := by
  obtain ⟨before, t, after, eq, -, was⟩ := change_eq j f level
  have grown := changed t
  rw [eq, reachAll_append, reachAll_cons]
  rcases was with rfl | ⟨rfl, rfl, rfl⟩
  · rw [reachAll_append, reachAll_cons]
    omega
  · rw [reachAll_nil]
    omega

/-- No request reaches further than it is long. -/
theorem reachAll_request_le (schema : Schema) (scope : JoinScope) (base : Table)
    (parent : Option String) (above segments : List String) (level : List JoinTree) :
    reachAll (request schema scope base parent above segments level).1 ≤
      max (reachAll level) segments.length := by
  induction segments generalizing base parent above level with
  | nil => simp [request]
  | cons segment rest ih =>
    cases found : base.relation? segment with
    | none =>
      rw [request_of_none found]
      exact Nat.le_max_left ..
    | some relation =>
      rw [request_of_some found]
      generalize fresh schema base parent above relation = j
      have new : (node j []).reach ≤ rest.length + 1 :=
        Nat.le_trans (reach_fresh_le_one j) (Nat.succ_le_succ (Nat.zero_le _))
      refine reachAll_change_le new (fun t => ?_) level
      have below := ih j.target (some j.aliasName) j.path t.children
      rw [reach_eq, t.reach_eq, relation_grow, children_grow]
      split <;> omega

end JoinTree

/-! ## Paths of a schema -/

/-- Different relations of a table have different aliases. -/
def Table.HasDistinctAliases (t : Table) : Prop :=
  ∀ r ∈ t.relations, ∀ r' ∈ t.relations, Text.snakeCase r.name = Text.snakeCase r'.name → r = r'

/-- How many to-one relations a path follows before it ends or follows another one. -/
def Table.toOneSteps (schema : Schema) (table : Table) : List String → Nat
  | [] => 0
  | segment :: rest =>
    match table.relation? segment with
    | none => 0
    | some r => if r.kind.isToOne then toOneSteps schema (schema.table r.target) rest + 1 else 0

theorem Table.toOneSteps_le_length (schema : Schema) (table : Table) (segments : List String) :
    table.toOneSteps schema segments ≤ segments.length := by
  induction segments generalizing table with
  | nil => simp [toOneSteps]
  | cons segment rest ih =>
    rw [toOneSteps]
    split
    · exact Nat.zero_le _
    · split
      · exact Nat.succ_le_succ (ih _)
      · exact Nat.zero_le _

namespace JoinTree

theorem snakeCase_eq_of_aliasOf_eq (parent : Option String) {a b : String}
    (h : aliasOf parent a = aliasOf parent b) : Text.snakeCase a = Text.snakeCase b := by
  cases parent with
  | none => exact h
  | some p => exact (String.append_right_inj _).mp h

mutual

/-- The node and those below it follow relations of the tables they start from. -/
def Declared (schema : Schema) (base : Table) (parent : Option String) : JoinTree → Prop
  | .node j children =>
    j.relation ∈ base.relations ∧ j.aliasName = aliasOf parent j.relation.name ∧
      AllDeclared schema (schema.table j.relation.target) (some j.aliasName) children

def AllDeclared (schema : Schema) (base : Table) (parent : Option String) : List JoinTree → Prop
  | [] => True
  | t :: rest => t.Declared schema base parent ∧ AllDeclared schema base parent rest

end

section

variable {schema : Schema} {base : Table} {parent : Option String}

@[simp] theorem allDeclared_nil : AllDeclared schema base parent [] := by
  simp [AllDeclared]

@[simp] theorem allDeclared_cons {t : JoinTree} {ts : List JoinTree} :
    AllDeclared schema base parent (t :: ts) ↔
      t.Declared schema base parent ∧ AllDeclared schema base parent ts := by
  rw [AllDeclared]

@[simp] theorem allDeclared_append {xs ys : List JoinTree} :
    AllDeclared schema base parent (xs ++ ys) ↔
      AllDeclared schema base parent xs ∧ AllDeclared schema base parent ys := by
  induction xs with
  | nil => simp
  | cons x xs ih => simp [ih, and_assoc]

theorem declared_iff {t : JoinTree} :
    t.Declared schema base parent ↔
      t.join.relation ∈ base.relations ∧
        t.join.aliasName = aliasOf parent t.join.relation.name ∧
        AllDeclared schema (schema.table t.join.relation.target) (some t.join.aliasName)
          t.children := by
  obtain ⟨j, children⟩ := t
  rw [Declared]
  rfl

variable {relation : Relation} {segment : String}

theorem declared_fresh (above : List String) (h : base.relation? segment = some relation) :
    (node (fresh schema base parent above relation) []).Declared schema base parent :=
  declared_iff.mpr ⟨List.mem_of_find?_eq_some h, rfl, allDeclared_nil⟩

/-- With distinct aliases a request comes to a node of the relation it asks for. -/
theorem Declared.relation_eq {t : JoinTree} (ht : t.Declared schema base parent)
    (hbase : base.HasDistinctAliases) (h : base.relation? segment = some relation)
    (same : t.join.aliasName = aliasOf parent relation.name) : t.join.relation = relation := by
  obtain ⟨member, named, -⟩ := declared_iff.mp ht
  exact hbase _ member _ (List.mem_of_find?_eq_some h)
    (snakeCase_eq_of_aliasOf_eq parent (named.symm.trans same))

/-- A level stays declared, and reaches as far as the node that is changed makes it. -/
theorem AllDeclared.change {ε : Type} {j : Join} {f : JoinTree → JoinTree × Option ε} {n : Nat}
    {level : List JoinTree} (h : AllDeclared schema base parent level)
    (new : (node j []).Declared schema base parent) (short : (node j []).reach ≤ n)
    (changed : ∀ t, t.Declared schema base parent → t.join.aliasName = j.aliasName →
      (f t).1.Declared schema base parent ∧ (f t).1.reach = max t.reach n) :
    AllDeclared schema base parent (change j f level).1 ∧
      reachAll (change j f level).1 = max (reachAll level) n := by
  obtain ⟨before, t, after, eq, same, was⟩ := change_eq j f level
  rw [eq]
  simp only [allDeclared_append, allDeclared_cons, reachAll_append, reachAll_cons]
  rcases was with rfl | ⟨rfl, rfl, rfl⟩
  · simp only [allDeclared_append, allDeclared_cons, reachAll_append, reachAll_cons] at h ⊢
    obtain ⟨declared, reached⟩ := changed t h.2.1 same
    exact ⟨⟨h.1, declared, h.2.2⟩, by omega⟩
  · obtain ⟨declared, reached⟩ := changed _ new same
    exact ⟨⟨h, declared, allDeclared_nil⟩, by rw [reachAll_nil]; omega⟩

/-- With distinct aliases a request reaches exactly as far as its path follows to-one relations. -/
theorem reachAll_request (hschema : ∀ n, (schema.table n).HasDistinctAliases) (scope : JoinScope)
    (hbase : base.HasDistinctAliases) (above segments : List String) {level : List JoinTree}
    (hlevel : AllDeclared schema base parent level) :
    AllDeclared schema base parent
        (request schema scope base parent above segments level).1 ∧
      reachAll (request schema scope base parent above segments level).1 =
        max (reachAll level) (base.toOneSteps schema segments) := by
  induction segments generalizing base parent above level with
  | nil => simpa [request, Table.toOneSteps] using hlevel
  | cons segment rest ih =>
    cases found : base.relation? segment with
    | none =>
      rw [request_of_none found, Table.toOneSteps, found]
      exact ⟨hlevel, (Nat.max_eq_left (Nat.zero_le _)).symm⟩
    | some relation =>
      rw [request_of_some found, Table.toOneSteps, found]
      refine hlevel.change (declared_fresh above found) ?_ fun t declared same => ?_
      · rw [reach_eq]
        simp only [join, children, reachAll_nil, fresh]
        split <;> omega
      · -- The alias leads to a node of the same relation, below which the path goes on.
        have met := declared.relation_eq hbase found same
        obtain ⟨member, named, below⟩ := declared_iff.mp declared
        rw [met, same] at below
        obtain ⟨stays, further⟩ := ih (hschema relation.target)
          (fresh schema base parent above relation).path below
        constructor
        · rw [declared_iff, relation_grow, aliasName_grow, children_grow, met, same]
          exact ⟨met ▸ member, by rw [← same, ← met]; exact named, stays⟩
        · rw [reach_eq, t.reach_eq, relation_grow, children_grow, met]
          simp only [fresh] at further ⊢
          split <;> omega

end

end JoinTree

end SqlCompose
