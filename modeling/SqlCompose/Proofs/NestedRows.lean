import Mathlib.Data.List.Basic
import SqlCompose.Proofs.AliasSeams
import SqlCompose.Proofs.ColumnItems
import SqlCompose.Proofs.RequestedNodes
import SqlCompose.Row

/-!
# Nested rows

The columns of flattened relations stand in one row, named by the whole way to them. Reading the row
relation by relation takes the names apart again: what is left at the end of a way are the columns
of its relation and of those further on, and nothing else.
-/

namespace SqlCompose

open Text

/-- A column of a result: the relations on the way to it, and its name in SQL. -/
structure Origin where
  path : List String
  column : String

namespace Origin

/-- The name under which a column stands in a result. -/
def name (o : Origin) : String :=
  "__".intercalate (o.path.map snakeCase ++ [o.column])

/-- The column as it is seen from the end of a way, if it stands there or further on. -/
def below? (path : List String) (o : Origin) : Option Origin :=
  (Asked.rest? path o.path).map (⟨·, o.column⟩)

@[simp] theorem name_nil (column : String) : name ⟨[], column⟩ = column := by
  simp [name]

theorem name_of_nil {o : Origin} (h : o.path = []) : o.name = o.column := by
  obtain ⟨path, column⟩ := o
  obtain rfl : path = [] := h
  exact name_nil column

theorem name_cons (first : String) (path : List String) (column : String) :
    name ⟨first :: path, column⟩ = snakeCase first ++ "__" ++ name ⟨path, column⟩ := by
  cases path <;> simp [name, String.intercalate_cons_cons]

theorem name_eq_append {path : List String} (h : path ≠ []) (column : String) :
    name ⟨path, column⟩ = JoinTree.aliasAt path ++ "__" ++ column := by
  induction path with
  | nil => exact absurd rfl h
  | cons first path ih =>
    rw [name_cons]
    cases path with
    | nil => simp [JoinTree.aliasAt]
    | cons second path =>
      rw [ih (List.cons_ne_nil second path), JoinTree.aliasAt_cons_cons]
      simp only [String.append_assoc]

theorem below?_self (o : Origin) : o.below? o.path = some ⟨[], o.column⟩ := by
  rw [below?, Asked.rest?_eq_some.mpr (List.append_nil _).symm]
  rfl

theorem below?_nil (o : Origin) : o.below? [] = some o := rfl

theorem below?_cons_self (first : String) (path : List String) (column : String) :
    below? [first] ⟨first :: path, column⟩ = some ⟨path, column⟩ := by
  rw [below?, Asked.rest?, if_pos rfl]
  rfl

theorem below?_cons_of_ne {first name : String} (h : first ≠ name) (path : List String)
    (column : String) : below? [name] ⟨first :: path, column⟩ = none := by
  rw [below?, Asked.rest?, if_neg h]
  rfl

theorem below?_append (path path' : List String) (o : Origin) :
    o.below? (path ++ path') = (o.below? path).bind (below? path') := by
  rw [below?, below?, Asked.rest?_append]
  cases Asked.rest? path o.path <;> rfl

theorem path_of_below?_eq_some {path : List String} {o o' : Origin} (h : o.below? path = some o') :
    o.path = path ++ o'.path ∧ o'.column = o.column := by
  obtain ⟨rest, found, rfl⟩ := Option.map_eq_some_iff.mp h
  exact ⟨Asked.rest?_eq_some.mp found, rfl⟩

/-- Columns on the way behind a path have names with a seam, and only those. -/
theorem hasSeam_name_iff {o : Origin} (plain : ¬ HasSeam o.column) :
    HasSeam o.name ↔ o.path ≠ [] := by
  obtain ⟨path, column⟩ := o
  cases path with
  | nil => simpa using plain
  | cons first path =>
    rw [name_cons]
    exact iff_of_true (hasSeam_append _ _) (List.cons_ne_nil first path)

end Origin

/-! ## One relation further -/

namespace Row

/-- The cells of a row: names and values. -/
def cells (r : Row) : List (String × Value) :=
  r.columns.zip r.values

@[simp] theorem cells_ofPairs (pairs : List (String × Value)) : (ofPairs pairs).cells = pairs :=
  (List.zip_of_prod rfl rfl).symm

theorem prefixed_eq (r : Row) (aliasName : String) :
    r.prefixed aliasName =
      ofPairs (r.cells.filterMap fun c => (nestedColumn? aliasName c.1).map (·, c.2)) := rfl

theorem dropBeginning?_eq_some {beginning s rest : List Char} :
    dropBeginning? beginning s = some rest ↔ s = beginning ++ rest := by
  rw [dropBeginning?]
  by_cases starts : beginning.isPrefixOf s = true
  · obtain ⟨behind, rfl⟩ := List.isPrefixOf_iff_prefix.mp starts
    rw [if_pos starts, List.drop_left, Option.some.injEq, List.append_cancel_left_eq]
  · rw [if_neg starts]
    refine iff_of_false nofun ?_
    intro same
    exact starts (List.isPrefixOf_iff_prefix.mpr ⟨rest, same.symm⟩)

/-- The columns of an alias are those that begin with it and a seam. -/
theorem nestedColumn?_eq_some {aliasName column rest : String} :
    nestedColumn? aliasName column = some rest ↔ column = aliasName ++ "__" ++ rest := by
  have chars : column = aliasName ++ "__" ++ rest ↔
      column.toList = aliasName.toList ++ (['_', '_'] ++ rest.toList) := by
    rw [← String.toList_inj, String.toList_append, String.toList_append, List.append_assoc]
    rfl
  rw [chars, nestedColumn?, Option.map_eq_some_iff]
  simp only [Option.bind_eq_some_iff, dropBeginning?_eq_some]
  constructor
  · rintro ⟨_, ⟨_, begins, rfl⟩, rfl⟩
    rw [begins, String.toList_ofList]
  · intro begins
    exact ⟨rest.toList, ⟨_, begins, rfl⟩, String.ofList_toList⟩

theorem nestedColumn?_of_not_hasSeam {column : String} (h : ¬ HasSeam column)
    (aliasName : String) : nestedColumn? aliasName column = none := by
  apply Option.eq_none_iff_forall_not_mem.mpr
  intro rest found
  obtain rfl := nestedColumn?_eq_some.mp found
  exact h (hasSeam_append aliasName rest)

/-- An alias leads to the columns whose way begins with its form. -/
theorem nestedColumn?_name_of_eq {relation first : String}
    (h : snakeCase first = snakeCase relation) (path : List String) (column : String) :
    nestedColumn? (snakeCase relation) (Origin.name ⟨first :: path, column⟩) =
      some (Origin.name ⟨path, column⟩) := by
  rw [nestedColumn?_eq_some, Origin.name_cons, h]

theorem nestedColumn?_name_of_ne {relation first : String}
    (h : snakeCase first ≠ snakeCase relation) (path : List String) (column : String) :
    nestedColumn? (snakeCase relation) (Origin.name ⟨first :: path, column⟩) = none := by
  apply Option.eq_none_iff_forall_not_mem.mpr
  intro rest found
  have parts := nestedColumn?_eq_some.mp found
  rw [Origin.name_cons] at parts
  exact h (eq_of_snakeCase_append_seam parts).1

/-- A row whose columns are named by their origins. -/
def ofOrigins (cells : List (Origin × Value)) : Row :=
  ofPairs (cells.map fun c => (c.1.name, c.2))

/-- The cells that stand at the end of a way or further on, as they are seen from there. -/
def cellsBelow (path : List String) (cells : List (Origin × Value)) : List (Origin × Value) :=
  cells.filterMap fun c => (c.1.below? path).map (·, c.2)

theorem cellsBelow_nil (cells : List (Origin × Value)) : cellsBelow [] cells = cells := by
  simp [cellsBelow, Origin.below?_nil]

theorem cellsBelow_append (path path' : List String) (cells : List (Origin × Value)) :
    cellsBelow (path ++ path') cells = cellsBelow path' (cellsBelow path cells) := by
  rw [cellsBelow, cellsBelow, cellsBelow, List.filterMap_filterMap]
  congr 1
  funext c
  rw [Origin.below?_append]
  cases c.1.below? path <;> rfl

theorem mem_cellsBelow {path : List String} {cells : List (Origin × Value)} {c : Origin × Value}
    (h : c ∈ cellsBelow path cells) : ∃ c' ∈ cells, c'.1.below? path = some c.1 := by
  obtain ⟨c', hc', found⟩ := List.mem_filterMap.mp h
  obtain ⟨o, below, rfl⟩ := Option.map_eq_some_iff.mp found
  exact ⟨c', hc', below⟩

section

variable {schema : Schema} {base : Table} {cells : List (Origin × Value)}

/-- One relation is taken off the names. -/
theorem prefixed_ofOrigins (distinct : base.HasDistinctAliases) {name : String}
    {relation : Relation} (found : base.relation? name = some relation)
    (leads : ∀ c ∈ cells, ∃ target, base.follow schema c.1.path = some target)
    (plain : ∀ c ∈ cells, ¬ HasSeam c.1.column) :
    (ofOrigins cells).prefixed (snakeCase name) = ofOrigins (cellsBelow [name] cells) := by
  have each : ∀ c ∈ cells, (nestedColumn? (snakeCase name) c.1.name).map (·, c.2) =
      ((c.1.below? [name]).map (·, c.2)).map fun c => (c.1.name, c.2) := by
    intro c hc
    obtain ⟨⟨path, column⟩, v⟩ := c
    cases path with
    | nil =>
      rw [Origin.name_nil, nestedColumn?_of_not_hasSeam (plain _ hc)]
      rfl
    | cons first path =>
      obtain ⟨target, leads⟩ := leads _ hc
      obtain ⟨r, declared, -⟩ := Option.bind_eq_some_iff.mp leads
      obtain ⟨rfl, member⟩ := Table.relation?_eq_some found
      obtain ⟨rfl, member'⟩ := Table.relation?_eq_some declared
      by_cases same : r.name = relation.name
      · rw [nestedColumn?_name_of_eq (congrArg snakeCase same), same, Origin.below?_cons_self]
        rfl
      · -- Both are relations of one table, so that their forms differ as their names do.
        have other : snakeCase r.name ≠ snakeCase relation.name :=
          fun forms => same (congrArg Relation.name (distinct r member' relation member forms))
        rw [nestedColumn?_name_of_ne other, Origin.below?_cons_of_ne same]
        rfl
  have same := List.filterMap_congr each
  rw [prefixed_eq, ofOrigins, cells_ofPairs, List.filterMap_map, ofOrigins, cellsBelow,
    List.map_filterMap, ← same, Function.comp_def]

end

/-! ## Along a way -/

/-- The row that is left after reading along a way, one relation after the other. -/
def along (path : List String) (r : Row) : Row :=
  path.foldl (fun r name => r.prefixed (snakeCase name)) r

theorem along_ofOrigins {schema : Schema} (readable : ∀ n, (schema.table n).HasReadableAliases)
    {base target : Table} (h : base.HasReadableAliases) {path : List String}
    {cells : List (Origin × Value)} (there : base.follow schema path = some target)
    (leads : ∀ c ∈ cells, ∃ target, base.follow schema c.1.path = some target)
    (plain : ∀ c ∈ cells, ¬ HasSeam c.1.column) :
    (ofOrigins cells).along path = ofOrigins (cellsBelow path cells) := by
  -- One relation is taken off row and path at a time; what is left starts from its table.
  induction path generalizing base cells with
  | nil => rw [cellsBelow_nil, along, List.foldl_nil]
  | cons name path ih =>
    obtain ⟨relation, found, there⟩ := Option.bind_eq_some_iff.mp there
    have step := prefixed_ofOrigins h.distinct found leads plain
    have further : cellsBelow (name :: path) cells = cellsBelow path (cellsBelow [name] cells) :=
      cellsBelow_append [name] path cells
    rw [along, List.foldl_cons, step, ← along, further]
    apply ih (readable relation.target) there
    · intro c hc
      obtain ⟨c', hc', below⟩ := mem_cellsBelow hc
      obtain ⟨target, leads⟩ := leads c' hc'
      rw [(Origin.path_of_below?_eq_some below).1, List.singleton_append, Table.follow, found]
        at leads
      exact ⟨target, leads⟩
    · intro c hc
      obtain ⟨c', hc', below⟩ := mem_cellsBelow hc
      rw [(Origin.path_of_below?_eq_some below).2]
      exact plain c' hc'

end Row

/-! ## Columns of flattened relations -/

/-- Where the columns of a result come from: first those of the base, then those of the relations
that are flattened. -/
def Select.origins (s : Select) (base : List String) : List Origin :=
  base.map (⟨[], ·⟩) ++ s.flattened.flatMap fun j => j.selectedColumns.map (⟨j.path, ·⟩)

/-- The names of a result's columns: first those of the base, then those that the relations add to
the SELECT list. -/
def Select.resultNames (s : Select) (base : List String) : List String :=
  base ++ (JoinTree.joinedItems s.visits).flatMap ColumnItem.names

namespace JoinTree

theorem flatMap_names_joinedItems (visits : List Visit) :
    (joinedItems visits).flatMap ColumnItem.names =
      (visits.filterMap Except.toOption).flatMap fun j =>
        j.selectedColumns.map fun c => j.aliasName ++ "__" ++ c := by
  induction visits with
  | nil => rfl
  | cons visit rest ih =>
    cases visit with
    | error e => exact ih
    | ok j =>
      have own : (j.selectedColumns.map fun c => ColumnItem.renamed j.aliasName c
          (j.aliasName ++ "__" ++ c)).flatMap ColumnItem.names =
            j.selectedColumns.map fun c => j.aliasName ++ "__" ++ c := by
        rw [List.flatMap_map, List.map_eq_flatMap]
        rfl
      rw [joinedItems, List.flatMap_cons, List.flatMap_append, ← joinedItems, ih, own]
      rfl

section

variable {schema : Schema} {table : Table} {requests : List (String × List JoinScope.Call)}
  {s : Select} (h : IsRequested schema table requests s.relations)
include h

/-- A flattened relation is joined where its path leads, under the alias of its path. -/
theorem IsRequested.of_mem_flattened {j : Join} (joined : j ∈ s.flattened) :
    j.path ≠ [] ∧ j.aliasName = aliasAt j.path ∧
      ∃ target, table.follow schema j.path = some target := by
  have node := (sublist_nodesAll_of_visitsAll 0 s.relations).subset joined
  obtain ⟨⟨path, t⟩, mem, rfl⟩ := List.mem_map.mp node
  obtain ⟨before, last, rfl⟩ := exists_snoc_of_mem_nodesAll mem
  obtain ⟨base, relation, leads, found, joins⟩ := h.joins before last t mem
  dsimp only
  rw [joins]
  exact ⟨by simp, rfl, _, Table.follow_snoc leads found⟩

/-- No two flattened relations have one path. -/
theorem IsRequested.nodup_flattened : (s.flattened.map (·.path)).Nodup := by
  have paths : (nodesAll s.relations).map (·.2.join.path) = (nodesAll s.relations).map (·.1) := by
    apply List.map_congr_left
    intro n hn
    obtain ⟨path, t⟩ := n
    obtain ⟨before, last, rfl⟩ := exists_snoc_of_mem_nodesAll hn
    obtain ⟨base, relation, -, -, joins⟩ := h.joins before last t hn
    dsimp only
    rw [joins]
  have nodup := h.once
  rw [← paths] at nodup
  have sublist := (sublist_nodesAll_of_visitsAll 0 s.relations).map (·.path)
  rw [List.map_map] at sublist
  exact nodup.sublist sublist

/-- The origins of a result stand under the names of its columns. -/
theorem IsRequested.map_name_origins (base : List String) :
    (s.origins base).map Origin.name = s.resultNames base := by
  have each : ∀ j ∈ s.flattened,
      (j.selectedColumns.map fun c => Origin.name ⟨j.path, c⟩) =
        j.selectedColumns.map fun c => j.aliasName ++ "__" ++ c := by
    intro j hj
    obtain ⟨deep, named, -⟩ := h.of_mem_flattened hj
    rw [named]
    exact List.map_congr_left fun c _ => Origin.name_eq_append deep c
  have joined : (s.flattened.flatMap fun j => j.selectedColumns.map fun c =>
      Origin.name ⟨j.path, c⟩) =
        s.flattened.flatMap fun j => j.selectedColumns.map fun c => j.aliasName ++ "__" ++ c := by
    rw [List.flatMap_def, List.flatMap_def, List.map_congr_left each]
  rw [Select.origins, Select.resultNames, flatMap_names_joinedItems, List.map_append, List.map_map,
    List.map_flatMap]
  simp only [List.map_map, Function.comp_def, Origin.name_nil, List.map_id']
  rw [joined]
  rfl

end

end JoinTree

/-! ## What is found at the end of a way -/

/-- What is left of a row after reading along the path of a join. -/
structure Row.HoldsNested (row : Row) (cells : List (Origin × Value)) (j : Join) (nested : Row) :
    Prop where
  /-- The cells are those of the row, each with its origin. -/
  named : ofOrigins cells = row
  /-- What stands at the end of the path or further on is left, in order, and nothing else. -/
  left : nested.cells = (cellsBelow j.path cells).map fun c => (c.1.name, c.2)
  /-- Columns without a seam are those of the join itself. -/
  own : nested.cells.filter (fun c => ¬ HasSeam c.1) =
    cells.filterMap fun c => if c.1.path = j.path then some (c.1.column, c.2) else none
  columns : nested.columns.filter (fun c => ¬ HasSeam c) = j.selectedColumns
  /-- The others are those of the joins further on. -/
  further : nested.cells.filter (fun c => HasSeam c.1) =
    cells.filterMap fun c =>
      ((c.1.below? j.path).filter (·.path ≠ [])).map fun o => (o.name, c.2)

section

variable {path : List String} {cells : List (Origin × Value)}
  (plain : ∀ c ∈ cells, ¬ HasSeam c.1.column)
include plain

theorem Row.filter_not_hasSeam_cellsBelow :
    ((cellsBelow path cells).map fun c => (c.1.name, c.2)).filter (fun c => ¬ HasSeam c.1) =
      cells.filterMap fun c => if c.1.path = path then some (c.1.column, c.2) else none := by
  rw [cellsBelow, List.map_filterMap, List.filter_filterMap]
  apply List.filterMap_congr
  intro c hc
  cases below : c.1.below? path with
  | none =>
    have elsewhere : c.1.path ≠ path := by
      intro same
      rw [← same, Origin.below?_self] at below
      cases below
    rw [if_neg elsewhere]
    rfl
  | some o =>
    obtain ⟨there, column⟩ := Origin.path_of_below?_eq_some below
    have seam := Origin.hasSeam_name_iff (column ▸ plain c hc)
    by_cases ends : o.path = []
    · rw [ends, List.append_nil] at there
      have unseamed : ¬ HasSeam o.name := mt seam.mp (not_not.mpr ends)
      rw [if_pos there, Option.map_some, Option.map_some, Option.filter_some,
        if_pos (decide_eq_true unseamed), Origin.name_of_nil ends, column]
    · have elsewhere : c.1.path ≠ path := by
        rw [there]
        simpa using ends
      have seamed : HasSeam o.name := seam.mpr ends
      rw [if_neg elsewhere, Option.map_some, Option.map_some, Option.filter_some]
      rw [if_neg (by simpa using seamed)]

theorem Row.filter_hasSeam_cellsBelow :
    ((cellsBelow path cells).map fun c => (c.1.name, c.2)).filter (fun c => HasSeam c.1) =
      cells.filterMap fun c =>
        ((c.1.below? path).filter (·.path ≠ [])).map fun o => (o.name, c.2) := by
  rw [cellsBelow, List.map_filterMap, List.filter_filterMap]
  apply List.filterMap_congr
  intro c hc
  cases below : c.1.below? path with
  | none => rfl
  | some o =>
    have seam := Origin.hasSeam_name_iff ((Origin.path_of_below?_eq_some below).2 ▸ plain c hc)
    rw [Option.map_some, Option.map_some, Option.filter_some, Option.filter_some]
    simp only [seam]
    by_cases ends : o.path = [] <;> simp [ends]

/-- What a row holds at the end of a path, once it has been read along it. -/
theorem Row.holdsNested_of_along {row : Row} {j : Join} (named : ofOrigins cells = row)
    (read : row.along j.path = ofOrigins (cellsBelow j.path cells))
    (own : (cells.map (·.1)).filterMap
      (fun o => if o.path = j.path then some o.column else none) = j.selectedColumns) :
    row.HoldsNested cells j (row.along j.path) := by
  have left : (row.along j.path).cells =
      (cellsBelow j.path cells).map fun c => (c.1.name, c.2) := by
    rw [read, ofOrigins, cells_ofPairs]
  have names : (row.along j.path).columns = (row.along j.path).cells.map (·.1) := by
    rw [read, ofOrigins, cells_ofPairs]
    rfl
  refine
    { named := named
      left := left
      own := ?own
      columns := ?columns
      further := ?further }
  case own =>
    rw [left]
    exact filter_not_hasSeam_cellsBelow plain
  case columns =>
    have unseamed : ((row.along j.path).cells.filter (fun c => ¬ HasSeam c.1)).map (·.1) =
        cells.filterMap fun c => if c.1.path = j.path then some c.1.column else none := by
      rw [left, filter_not_hasSeam_cellsBelow plain, List.map_filterMap]
      apply List.filterMap_congr
      intro c hc
      by_cases ends : c.1.path = j.path <;> simp [ends]
    rw [names, List.filter_map, ← own, List.filterMap_map]
    exact unseamed
  case further =>
    rw [left]
    exact filter_hasSeam_cellsBelow plain

end

/-- A row is one of origins when its columns are named by them. -/
theorem Row.ofOrigins_zip {row : Row} {origins : List Origin}
    (named : row.columns = origins.map Origin.name)
    (whole : row.values.length = row.columns.length) :
    ofOrigins (origins.zip row.values) = row := by
  obtain ⟨columns, values⟩ := row
  obtain rfl : columns = origins.map Origin.name := named
  have same : origins.length = values.length := by simpa using whole.symm
  have first : (origins.zip values).map (fun c => c.1.name) = origins.map Origin.name := by
    have zipped := List.map_fst_zip (Nat.le_of_eq same)
    have names : (origins.zip values).map (fun c => c.1.name) =
        ((origins.zip values).map Prod.fst).map Origin.name := by
      rw [List.map_map]
      rfl
    rw [names, zipped]
  have second : (origins.zip values).map (·.2) = values :=
    List.map_snd_zip (Nat.le_of_eq same.symm)
  rw [ofOrigins, ofPairs, List.map_map, List.map_map]
  exact congrArg₂ Row.mk first second

/-- Among joins on different paths, one finds its own columns behind its path. -/
theorem Join.filterMap_origins {joins : List Join} (nodup : (joins.map (·.path)).Nodup) {j : Join}
    (mem : j ∈ joins) :
    ((joins.flatMap fun j => j.selectedColumns.map (Origin.mk j.path ·)).filterMap fun o =>
      if o.path = j.path then some o.column else none) = j.selectedColumns := by
  have own (i : Join) : (i.selectedColumns.map (Origin.mk i.path ·)).filterMap (fun o =>
      if o.path = j.path then some o.column else none) =
        if i.path = j.path then i.selectedColumns else [] := by
    rw [List.filterMap_map]
    by_cases same : i.path = j.path <;> simp [same]
  have none {rest : List Join} (apart : ∀ i ∈ rest, i.path ≠ j.path) :
      ((rest.flatMap fun i => i.selectedColumns.map (Origin.mk i.path ·)).filterMap fun o =>
        if o.path = j.path then some o.column else none) = [] := by
    rw [List.filterMap_flatMap, List.flatMap_eq_nil_iff]
    intro i hi
    rw [own, if_neg (apart i hi)]
  induction joins with
  | nil => cases mem
  | cons first rest ih =>
    rw [List.map_cons, List.nodup_cons] at nodup
    rw [List.flatMap_cons, List.filterMap_append, own]
    rcases List.mem_cons.mp mem with rfl | later
    · rw [if_pos rfl, none, List.append_nil]
      intro i hi same
      exact nodup.1 (List.mem_map.mpr ⟨i, hi, same⟩)
    · rw [if_neg, List.nil_append, ih nodup.2 later]
      intro same
      exact nodup.1 (List.mem_map.mpr ⟨j, later, same.symm⟩)

/-! ## Accepted requests -/

theorem Query.isLevel_relating {schema : Schema} {table : Table}
    {requests : List (String × List JoinScope.Call)} (htable : table.HasReadableAliases)
    (hschema : ∀ n, (schema.table n).HasReadableAliases)
    (accepted : (relating schema table requests).error? = none) :
    JoinTree.IsLevel schema table none [] (requests.map Asked.ofRequest)
      (relating schema table requests).select.relations := by
  rw [relating_eq] at accepted ⊢
  exact Select.isLevel_requestAll (s := { table := some table })
    (fun n => (hschema n).distinct) htable.distinct rfl accepted JoinTree.isLevel_nil

/-- The columns of a flattened relation are those behind its path. -/
theorem JoinTree.IsRequested.filterMap_origins {schema : Schema} {table : Table}
    {requests : List (String × List JoinScope.Call)} {s : Select}
    (h : IsRequested schema table requests s.relations) (base : List String) {j : Join}
    (joined : j ∈ s.flattened) :
    (s.origins base).filterMap (fun o => if o.path = j.path then some o.column else none) =
      j.selectedColumns := by
  have deep : [] ≠ j.path := (h.of_mem_flattened joined).1.symm
  have own : (base.map (Origin.mk [] ·)).filterMap
      (fun o => if o.path = j.path then some o.column else none) = [] := by
    simp [deep]
  rw [Select.origins, List.filterMap_append, own, List.nil_append]
  exact Join.filterMap_origins h.nodup_flattened joined

theorem JoinTree.IsRequested.of_mem_origins {schema : Schema} {table : Table}
    {requests : List (String × List JoinScope.Call)} {s : Select}
    (h : IsRequested schema table requests s.relations) {base : List String}
    (plain : ∀ c ∈ base, ¬ HasSeam c)
    (selected : ∀ j ∈ s.flattened, ∀ c ∈ j.selectedColumns, ¬ HasSeam c) {o : Origin}
    (mem : o ∈ s.origins base) :
    (∃ target, table.follow schema o.path = some target) ∧ ¬ HasSeam o.column := by
  rcases List.mem_append.mp mem with own | further
  · obtain ⟨column, isBase, rfl⟩ := List.mem_map.mp own
    exact ⟨⟨table, rfl⟩, plain column isBase⟩
  · obtain ⟨j, joined, further⟩ := List.mem_flatMap.mp further
    obtain ⟨column, isSelected, rfl⟩ := List.mem_map.mp further
    exact ⟨(h.of_mem_flattened joined).2.2, selected j joined column isSelected⟩

/-- Reading a row along the path of a flattened relation leaves what was selected for it and for the
relations further on, and nothing else, whatever was requested and in whatever order. -/
theorem Query.along_flattened {schema : Schema} {table : Table}
    {requests : List (String × List JoinScope.Call)} (htable : table.HasReadableAliases)
    (hschema : ∀ t ∈ schema.tables, t.HasReadableAliases)
    (accepted : (relating schema table requests).error? = none) {q : Query}
    (built : q.select.relations = (relating schema table requests).select.relations)
    {base : List String} (plain : ∀ c ∈ base, ¬ HasSeam c)
    (selected : ∀ j ∈ q.select.flattened, ∀ c ∈ j.selectedColumns, ¬ HasSeam c) {row : Row}
    (named : row.columns = q.select.resultNames base)
    (whole : row.values.length = row.columns.length) {j : Join} (joined : j ∈ q.select.flattened) :
    row.HoldsNested ((q.select.origins base).zip row.values) j (row.along j.path) := by
  have readable := Schema.hasReadableAliases_table hschema
  have requested := (isLevel_relating htable readable accepted).isRequested htable readable
  rw [← built] at requested
  rw [← requested.map_name_origins] at named
  have cells := Row.ofOrigins_zip named whole
  have origin {c : Origin × Value} (hc : c ∈ (q.select.origins base).zip row.values) :=
    requested.of_mem_origins plain selected (List.of_mem_zip hc).1
  obtain ⟨-, -, target, there⟩ := requested.of_mem_flattened joined
  have read := Row.along_ofOrigins readable htable there (fun c hc => (origin hc).1)
    fun c hc => (origin hc).2
  rw [cells] at read
  have length : (q.select.origins base).length = row.values.length := by
    rw [whole, named, List.length_map]
  apply Row.holdsNested_of_along (fun c hc => (origin hc).2) cells read
  rw [List.map_fst_zip (Nat.le_of_eq length), requested.filterMap_origins base joined]

/-- A parent and its own parent: read at the first, the second is still to be taken apart. -/
theorem Query.along_flattened_nodes :
    let q := relating ⟨[.nodes]⟩ .nodes [("Up.Up", [.columns ["id"]])]
    let row : Row := .ofPairs [("id", .int 1), ("parent_id", .int 2), ("up__id", .int 2),
      ("up__parent_id", .int 3), ("up__up__id", .int 3)]
    q.error? = none ∧ row.columns = q.select.resultNames ["id", "parent_id"] ∧
      ∃ j ∈ q.select.flattened, j.path = ["Up"] ∧
        (row.along ["Up"]).columns = ["id", "parent_id", "up__id"] ∧
        row.HoldsNested ((q.select.origins ["id", "parent_id"]).zip row.values) j
          (row.along j.path) := by
  intro q row
  have accepted : q.error? = none := by decide +kernel
  have named : row.columns = q.select.resultNames ["id", "parent_id"] := by decide +kernel
  have found : (q.select.flattened.head?.map (·.path)) = some ["Up"] := by decide +kernel
  obtain ⟨j, first, path⟩ := Option.map_eq_some_iff.mp found
  have joined : j ∈ q.select.flattened := List.mem_of_head? first
  refine ⟨accepted, named, j, joined, path, by decide +kernel, ?_⟩
  apply along_flattened (q := q) Table.hasReadableAliases_nodes _ accepted rfl _ _ named rfl joined
  · simpa using Table.hasReadableAliases_nodes
  · decide +kernel
  · decide +kernel

end SqlCompose
