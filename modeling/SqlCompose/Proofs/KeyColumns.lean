import SqlCompose.Proofs.ColumnItems
import SqlCompose.Proofs.Loading

/-!
# The columns that carry a key

The query for related rows names the result columns that carry an owner's key. The main statement
says which of them it selects: behind a junction table the one there is, where some columns are
wanted those that are added to them, and where all of them are wanted only the declared ones. Rows
without such a column have no key, and are handed to no one.
-/

namespace SqlCompose

open Fragment

/-! ## Items -/

theorem ColumnItem.text_ofTable_singleton (d : Dialect) (aliasName column : String) :
    (ColumnItem.ofTable aliasName [column]).text d = d.qualified aliasName column := by
  rw [text, List.map_singleton, String.intercalate_singleton]

/-- The item of a name: of a field its column, and otherwise the name itself. -/
def Table.columnItem (t : Table) (name : String) : ColumnItem :=
  if t.hasField name then .ofTable t.aliasName [t.columnOf name] else .bare name

/-- The items of all fields. -/
def Table.columnItems (t : Table) : List ColumnItem :=
  t.fields.map fun f => .ofTable t.aliasName [f.column]

theorem Table.text_columnItem_ne_empty (d : Dialect) (t : Table) (name : String) :
    (t.columnItem name).text d ≠ "" := by
  unfold columnItem
  split
  · rw [ColumnItem.text_ofTable_singleton]
    exact d.qualified_ne_empty _ _
  · exact d.ident_ne_empty name

theorem Table.text_columnItems (d : Dialect) (t : Table) :
    t.columnItems.map (ColumnItem.text d) =
      (t.fields.map (·.column)).map (d.qualified t.aliasName) := by
  simp [columnItems, ColumnItem.text_ofTable_singleton, Function.comp_def]

theorem Table.names_columnItem (t : Table) (name : String) :
    (t.columnItem name).names = [t.columnOf name] := by
  unfold columnItem hasField columnOf
  cases t.field? name <;> rfl

theorem Table.flatMap_names_columnItems (t : Table) :
    t.columnItems.flatMap ColumnItem.names = t.fields.map (·.column) := by
  rw [columnItems, List.flatMap_map, List.map_eq_flatMap]
  rfl

namespace JoinTree

/-- The key columns that are not among the wanted ones. -/
def missingKeys (j : Join) (wanted : List String) : List String :=
  (keyColumns j).filter fun k => !wanted.any fun c => j.target.columnOf c == k

/-- The requested columns of the query for related rows, each with the item it stands for. None is
requested where all columns of the related table are wanted. -/
def requested (j : Join) : List (Node × ColumnItem) :=
  match through? j, j.columns with
  | some through, some wanted =>
    (.template "? AS ?"
        [.ident (through.table ++ "." ++ through.baseColumn), .ident ownerKeyColumn],
      .renamed through.table through.baseColumn ownerKeyColumn) ::
        wanted.map fun n => (.ident n, j.target.columnItem n)
  | some through, none =>
    [(.template "? AS ?"
        [.ident (through.table ++ "." ++ through.baseColumn), .ident ownerKeyColumn],
      .renamed through.table through.baseColumn ownerKeyColumn),
      (.template "?TableColumns" [],
        .ofTable j.target.aliasName (j.target.fields.map (·.column)))]
  | none, some wanted =>
    (wanted ++ missingKeys j wanted).map fun n => (.ident n, j.target.columnItem n)
  | none, none => []

/-- What the query for related rows selects of the related table, and of the junction table. -/
def keyedItems (j : Join) : List ColumnItem :=
  match requested j with
  | [] => j.target.columnItems
  | columns => columns.map Prod.snd

theorem keyedItems_of_cons {j : Join} {first : Node × ColumnItem} {rest : List (Node × ColumnItem)}
    (some : requested j = first :: rest) : keyedItems j = (requested j).map Prod.snd := by
  rw [keyedItems, some]

/-- The result columns that carry an owner's key. -/
def carriers (j : Join) : List String :=
  match through? j with
  | some _ => [ownerKeyColumn]
  | none => keyColumns j

/-- Whether a key column is selected: always behind a junction table, as one of the wanted or added
columns, or as a declared column. -/
def SelectsKey (j : Join) (k : String) : Prop :=
  match through? j, j.columns with
  | some _, _ => True
  | none, some wanted => ∃ n ∈ wanted ++ missingKeys j wanted, j.target.columnOf n = k
  | none, none => k ∈ j.target.fields.map (·.column)

/-! ## The query -/

/-- The clauses that decide what the query for related rows selects. -/
structure SelectsFor (j : Join) (s : Select) : Prop where
  table : s.table = some j.target
  columns : s.columns = (requested j).map Prod.fst
  unexcluded : s.excluded = []
  repeated : s.distinct = false
  ungrouped : s.distinctOn = []

/-- The query for related rows and what it is made of. -/
structure IsRelated (j : Join) (q : Query) (columns : List String) : Prop where
  carriers : columns = carriers j
  selects : SelectsFor j q.select
  alone : q.ctes = [] ∧ q.members = []

variable {schema : Schema} {t : JoinTree} {keys : List OwnerKey}

theorem isRelated_junctionCalls {j : Join} {through : Junction} {relations : List JoinTree}
    (routed : through? j = some through) :
    IsRelated j ((Query.mk { table := some j.target, relations } [] []).calls schema
      (junctionCalls j through keys)) [ownerKeyColumn] := by
  have carriers : [ownerKeyColumn] = carriers j := by
    rw [JoinTree.carriers, routed]
  rw [junctionCalls]
  cases wanted : j.columns with
  | none => exact ⟨carriers, ⟨rfl, by rw [requested, routed, wanted]; rfl, rfl, rfl, rfl⟩, rfl, rfl⟩
  | some names =>
    have nodes : (requested j).map Prod.fst = .template "? AS ?"
        [.ident (through.table ++ "." ++ through.baseColumn), .ident ownerKeyColumn] ::
          names.map .ident := by
      simp [requested, routed, wanted, Function.comp_def]
    exact ⟨carriers, ⟨rfl, by rw [nodes]; rfl, rfl, rfl, rfl⟩, rfl, rfl⟩

theorem isRelated_directCalls {j : Join} {relations : List JoinTree} (direct : through? j = none) :
    IsRelated j ((Query.mk { table := some j.target, relations } [] []).calls schema
      (directCalls j keys)) (keyColumns j) := by
  have carriers : keyColumns j = carriers j := by
    rw [JoinTree.carriers, direct]
  refine ⟨carriers, ?_, ?_⟩
  · unfold directCalls
    generalize columns : keyColumns j = ks
    -- The condition depends on the number of key columns, and nothing else does.
    rcases ks with _ | ⟨k, _ | ⟨k', ks⟩⟩ <;> cases wanted : j.columns with
    | none => exact ⟨rfl, by rw [requested, direct, wanted]; rfl, rfl, rfl, rfl⟩
    | some names =>
      have nodes : (requested j).map Prod.fst =
          names.map .ident ++ (missingKeys j names).map .ident := by
        simp [requested, direct, wanted, Function.comp_def]
      exact ⟨rfl, by rw [nodes, missingKeys, columns]; rfl, rfl, rfl, rfl⟩
  · unfold directCalls
    rcases keyColumns j with _ | ⟨k, _ | ⟨k', ks⟩⟩ <;> cases j.columns <;> exact ⟨rfl, rfl⟩

theorem isRelated_relatedQuery {q : Query} {columns : List String}
    (built : t.relatedQuery schema keys = .ok (q, columns)) : IsRelated t.join q columns := by
  have narrowed {q : Query} {columns : List String} (h : IsRelated t.join q columns) :
      IsRelated t.join
        (q.mapSelect fun s => { s with wheres := s.wheres ++ t.join.on.map .cond }) columns := by
    obtain ⟨s, ctes, members⟩ := q
    exact ⟨h.carriers, ⟨h.selects.table, h.selects.columns, h.selects.unexcluded,
      h.selects.repeated, h.selects.ungrouped⟩, h.alone⟩
  obtain ⟨relations, calls, rfl, ⟨through, routed, rfl, rfl⟩ | ⟨direct, rfl, rfl⟩⟩ :=
    relatedQuery_cases built
  · exact narrowed (isRelated_junctionCalls routed)
  · exact narrowed (isRelated_directCalls direct)

/-! ## The column list -/

variable {d : Dialect} {j : Join} {s : Select}

theorem spells_column (table : s.table = some j.target) (name : String) :
    (s.column (d.target .literal) (.ident name)).Spells d ((j.target.columnItem name).text d) := by
  unfold Select.column Table.columnItem Table.hasField Table.columnOf
  simp only [table]
  cases j.target.field? name with
  | none => exact spells_text (d.ident name)
  | some f =>
    exact ColumnItem.text_ofTable_singleton d j.target.aliasName f.column ▸ spells_text _

theorem spells_renamed (a b name : String) :
    (s.column (d.target .literal) (.template "? AS ?" [.ident (a ++ "." ++ b), .ident name])).Spells
      d ((ColumnItem.renamed a b name).text d) := by
  have scanned : Template.scan "? AS ?" = [.next, .text " AS ".toList, .next] := by decide +kernel
  rw [ColumnItem.text, ← Dialect.ident_dotted, Select.column, Select.node, Node.fragment,
    Template.expand, scanned]
  · have spelled := ((spells_arg (d := d) (.ident (a ++ "." ++ b))).append
      (spells_text " AS ")).append (spells_arg (.ident name))
    rw [append_assoc] at spelled
    simpa [Template.expandItems, Template.argument, Value.literal] using spelled
  · rintro _ _ ⟨⟩

theorem spells_tableColumns (table : s.table = some j.target) :
    (s.column (d.target .literal) (.template "?TableColumns" [])).Spells d
      ((ColumnItem.ofTable j.target.aliasName (j.target.fields.map (·.column))).text d) := by
  have scanned : Template.scan "?TableColumns" = [.named "TableColumns".toList] := by
    decide +kernel
  have named : s.names (d.target .literal).dialect "TableColumns" =
      some (text (Select.qualifiedColumns d j.target (j.target.fields.map (·.column)))) := by
    simp [Select.names, table, Dialect.target]
  rw [Select.column, Select.node, Node.fragment, Template.expand, scanned]
  · have spelled := spells_text (d := d)
      (Select.qualifiedColumns d j.target (j.target.fields.map (·.column)))
    simpa [Template.expandItems, named, ColumnItem.text, Select.qualifiedColumns] using spelled
  · rintro _ _ ⟨⟩

theorem spells_requested (table : s.table = some j.target) :
    ∀ p ∈ requested j, (s.column (d.target .literal) p.1).Spells d (p.2.text d) := by
  unfold requested
  intro p member
  split at member
  · obtain rfl | ⟨n, -, rfl⟩ : _ ∨ ∃ n ∈ _, _ := by simpa using member
    · exact spells_renamed _ _ _
    · exact spells_column table n
  · obtain rfl | rfl : _ ∨ _ := by simpa using member
    · exact spells_renamed _ _ _
    · exact spells_tableColumns table
  · obtain ⟨n, -, rfl⟩ := List.mem_map.mp member
    exact spells_column table n
  · cases member

theorem baseColumns_of_nil (h : SelectsFor j s) (none : requested j = []) :
    s.baseColumns (d.target .literal) =
      text (", ".intercalate ((keyedItems j).map (ColumnItem.text d))) := by
  have columns : s.columns = [] := by rw [h.columns, none, List.map_nil]
  have all : s.modelColumns j.target = j.target.fields.map (·.column) := by
    rw [Select.modelColumns, List.filter_eq_self.mpr]
    simp [Select.isExcluded, h.unexcluded]
  simp [Select.baseColumns, columns, h.table, all, keyedItems, none, Table.text_columnItems,
    Select.qualifiedColumns, Dialect.target]

theorem baseColumns_of_cons (h : SelectsFor j s) {first : Node × ColumnItem}
    {rest : List (Node × ColumnItem)} (some : requested j = first :: rest) :
    s.baseColumns (d.target .literal) =
      .join ", " ((requested j).map fun p => s.column (d.target .literal) p.1) := by
  have all : s.requestedColumns = (requested j).map Prod.fst := by
    rw [Select.requestedColumns, h.columns]
    refine List.filter_eq_self.mpr fun n _ => ?_
    cases n <;> simp [Select.isExcluded, h.unexcluded]
  rw [Select.baseColumns, all, h.columns, some, List.map_map]
  rfl

/-- The column list without the columns of relations. -/
theorem spells_baseColumns (h : SelectsFor j s) :
    (s.baseColumns (d.target .literal)).Spells d
      (", ".intercalate ((keyedItems j).map (ColumnItem.text d))) := by
  cases columns : requested j with
  | nil => exact baseColumns_of_nil h columns ▸ spells_text _
  | cons first rest =>
    rw [baseColumns_of_cons h columns, keyedItems_of_cons columns, List.map_map]
    exact spells_join ", " (spells_requested h.table)

theorem baseColumns_of_keyedItems_nil (h : SelectsFor j s) (none : keyedItems j = []) :
    s.baseColumns (d.target .literal) = text "" := by
  cases columns : requested j with
  | nil => rw [baseColumns_of_nil h columns, none]; rfl
  | cons first rest =>
    rw [keyedItems_of_cons columns, columns] at none
    cases none

theorem text_requested_head_ne_empty (d : Dialect) (j : Join) :
    ∀ p ∈ (requested j).head?, p.2.text d ≠ "" := by
  have renamed (a b c : String) : (ColumnItem.renamed a b c).text d ≠ "" := by
    simp [ColumnItem.text]
  intro p first
  unfold requested at first
  split at first
  · cases first
    exact renamed _ _ _
  · cases first
    exact renamed _ _ _
  · rw [List.head?_map, Option.mem_def, Option.map_eq_some_iff] at first
    obtain ⟨n, -, rfl⟩ := first
    exact j.target.text_columnItem_ne_empty d n
  · cases first

theorem text_keyedItems_head_ne_empty (d : Dialect) (j : Join) :
    ∀ item ∈ (keyedItems j).head?, item.text d ≠ "" := by
  intro item first
  cases columns : requested j with
  | nil =>
    rw [keyedItems, columns, Table.columnItems, List.head?_map, Option.mem_def,
      Option.map_eq_some_iff] at first
    obtain ⟨f, -, rfl⟩ := first
    rw [ColumnItem.text_ofTable_singleton]
    exact d.qualified_ne_empty _ _
  | cons p rest =>
    rw [keyedItems_of_cons columns, List.head?_map, Option.mem_def, Option.map_eq_some_iff] at first
    obtain ⟨p, head, rfl⟩ := first
    exact text_requested_head_ne_empty d j p head

/-- The column list. -/
theorem columnList_eq_ok (h : SelectsFor j s) {ps : List Piece}
    (listed : s.columnList (d.target .literal) = .ok ps) :
    String.join (ps.map (Piece.literal d)) =
      ", ".intercalate ((keyedItems j ++ joinedItems s.visits).map (ColumnItem.text d)) :=
  Select.columnList_eq_ok (spells_baseColumns h) (baseColumns_of_keyedItems_nil h)
    (text_keyedItems_head_ne_empty d j) listed

theorem fragment_of_selectsFor (h : SelectsFor j s) :
    ∃ further, s.fragment (d.target .literal) .rows =
      text "SELECT " ++ (s.columnList (d.target .literal) ++ (text " FROM " ++ further)) := by
  have plain : s.distinctClause (d.target .literal) = empty := by
    simp [Select.distinctClause, h.repeated, h.ungrouped]
  have from_ : ∃ tables, s.fromClause (d.target .literal) = text " FROM " ++ tables := by
    rw [Select.fromClause, h.table, if_neg (by simp)]
    exact ⟨_, rfl⟩
  obtain ⟨tables, from_⟩ := from_
  rw [Select.fragment, plain, from_]
  simp only [append_empty, append_assoc, Select.selection, reduceCtorEq, false_and, if_false]
  exact ⟨_, rfl⟩

/-- The query for related rows selects the key items and those of the relations that are joined. -/
theorem sql_eq_ok {q : Query} {columns : List String} (h : IsRelated j q columns) {sql : String}
    (rendered : q.sql d .rows = .ok sql) :
    ∃ rest, sql = "SELECT " ++
      ", ".intercalate ((keyedItems j ++ joinedItems q.select.visits).map (ColumnItem.text d)) ++
        " FROM " ++ rest := by
  obtain ⟨s, ctes, members⟩ := q
  obtain ⟨rfl, rfl⟩ : ctes = [] ∧ members = [] := h.alone
  have selects : SelectsFor j s := h.selects
  obtain ⟨further, fragment⟩ := fragment_of_selectsFor (d := d) selects
  rw [Query.sql, Query.render, Query.fragment] at rendered
  cases failed : s.error with
  | some e =>
    rw [failed] at rendered
    cases rendered
  | none =>
    simp only [failed, withClause, empty_append, reduceCtorEq, false_and, if_false, fragment]
      at rendered
    cases listed : s.columnList (d.target .literal) with
    | fail e =>
      rw [listed] at rendered
      cases rendered
    | ok ps =>
      cases behind : further with
      | fail e =>
        rw [listed, behind] at rendered
        cases rendered
      | ok qs =>
        rw [listed, behind] at rendered
        cases rendered
        refine ⟨String.join (qs.map (Piece.literal d)), ?_⟩
        rw [show (Query.mk s [] []).select = s from rfl, ← columnList_eq_ok selects listed]
        simp [Piece.write, Piece.literal, String.append_assoc]

/-! ## Keys of rows -/

theorem mem_names_keyedItems {k : String} (carries : k ∈ carriers j) :
    k ∈ (keyedItems j).flatMap ColumnItem.names ↔ SelectsKey j k := by
  unfold SelectsKey
  split
  · rename_i through routed
    obtain rfl : k = ownerKeyColumn := by simpa [carriers, routed] using carries
    cases wanted : j.columns <;>
      simp [keyedItems, requested, routed, wanted, ColumnItem.names]
  · rename_i wanted direct some
    cases asked : wanted ++ missingKeys j wanted with
    | nil =>
      -- Nothing is asked for only where no key column is missing, so there is none.
      obtain ⟨rfl, missing⟩ := List.append_eq_nil_iff.mp asked
      have none : keyColumns j = [] :=
        (List.filter_eq_self.mpr fun _ _ => rfl).symm.trans missing
      simp [carriers, direct, none] at carries
    | cons first rest =>
      have named : (keyedItems j).flatMap ColumnItem.names =
          (first :: rest).map j.target.columnOf := by
        have items : requested j =
            (first :: rest).map fun n => (.ident n, j.target.columnItem n) := by
          simp only [requested, direct, some, asked]
        rw [keyedItems_of_cons items, items, List.map_map, List.flatMap_map, List.map_eq_flatMap]
        exact congrArg (List.flatMap · (first :: rest)) (funext j.target.names_columnItem)
      rw [named, List.mem_map]
  · rename_i direct all
    simp only [keyedItems, requested, direct, all, Table.flatMap_names_columnItems]

end JoinTree

theorem OwnerKey.isSome_joined? {parts : List (Option String)} :
    (OwnerKey.joined? parts).isSome ↔ ∀ p ∈ parts, p.isSome := by
  rw [joined?, Option.isSome_map]
  induction parts with
  | nil => simp
  | cons p rest ih =>
    cases p with
    | none => simp
    | some text =>
      rw [List.forall_mem_cons, ← ih, List.mapM_cons]
      cases rest.mapM id with
      | none => simp
      | some texts => simp

theorem Row.value?_eq_none_iff {row : Row} (full : row.values.length = row.columns.length)
    {k : String} : row.value? k = none ↔ k ∉ row.columns := by
  rw [value?]
  cases place : row.columns.idxOf? k with
  | none => simpa using List.idxOf?_eq_none_iff.mp place
  | some i =>
    obtain ⟨inside, found, -⟩ := List.idxOf?_eq_some_iff.mp place
    have member : k ∈ row.columns := found ▸ List.getElem_mem inside
    simp [member, full, inside]

/-- A row has a key if it has all the key columns, and no value in them lacks a key text. -/
theorem OwnerKey.isSome_ofRow? {row : Row} (full : row.values.length = row.columns.length)
    {columns : List String} :
    (OwnerKey.ofRow? columns row).isSome ↔
      (∀ k ∈ columns, k ∈ row.columns) ∧
        ∀ k ∈ columns, ∀ v, row.value? k = some v → v.key?.isSome := by
  have each (k : String) : ((row.value? k).bind Value.key?).isSome ↔
      k ∈ row.columns ∧ ∀ v, row.value? k = some v → v.key?.isSome := by
    have present := not_congr (Row.value?_eq_none_iff full (k := k))
    cases found : row.value? k with
    | none => simpa [found] using present
    | some v => simpa [found] using fun _ => present
  rw [ofRow?, isSome_joined?, List.forall_mem_map]
  exact ⟨fun h => ⟨fun k m => ((each k).mp (h k m)).1, fun k m => ((each k).mp (h k m)).2⟩,
    fun h k m => (each k).mpr ⟨h.1 k m, h.2 k m⟩⟩

namespace JoinTree

/-- What the query for related rows selects. -/
def selectedItems (j : Join) (q : Query) : List ColumnItem :=
  keyedItems j ++ joinedItems q.select.visits

/-- The names of the result columns. -/
def selectedNames (j : Join) (q : Query) : List String :=
  (selectedItems j q).flatMap ColumnItem.names

/-- What the query for related rows selects, and whether its rows have a key. -/
structure SelectsKeys (j : Join) (q : Query) (columns : List String) : Prop where
  /-- The SQL lists the items. -/
  listed : ∀ (d : Dialect) sql, q.sql d .rows = .ok sql → ∃ rest, sql = "SELECT " ++
    ", ".intercalate ((selectedItems j q).map (ColumnItem.text d)) ++ " FROM " ++ rest
  /-- A key column is among them by itself, or because a joined relation has one of its name. -/
  selected : ∀ k ∈ columns, k ∈ selectedNames j q ↔
    SelectsKey j k ∨ k ∈ (joinedItems q.select.visits).flatMap ColumnItem.names
  /-- A row that the database answers with has a key if all the key columns are selected and no
  value in them lacks a key text. -/
  keyed : ∀ row : Row, row.columns = selectedNames j q → row.values.length = row.columns.length →
    ((OwnerKey.ofRow? columns row).isSome ↔ (∀ k ∈ columns, k ∈ selectedNames j q) ∧
      ∀ k ∈ columns, ∀ v, row.value? k = some v → v.key?.isSome)

/-- What the query for related rows selects, and which of the key columns are part of it. -/
theorem relatedQuery_selectsKeys {schema : Schema} {t : JoinTree} {keys : List OwnerKey} {q : Query}
    {columns : List String} (built : t.relatedQuery schema keys = .ok (q, columns)) :
    SelectsKeys t.join q columns where
  listed d sql rendered := sql_eq_ok (isRelated_relatedQuery built) rendered
  selected k carries := by
    rw [(isRelated_relatedQuery built).carriers] at carries
    rw [selectedNames, selectedItems, List.flatMap_append, List.mem_append,
      mem_names_keyedItems carries]
  keyed row fits full := by
    rw [OwnerKey.isSome_ofRow? full, fits]

/-- The drafts of authors, which belong to their editor by a column that is no field. -/
def authorsDrafts (columns : Option (List String)) : JoinTree :=
  .node
    { relation := { name := "Drafts", kind := .hasMany, target := 0
                    baseFields := ["id"], joinFields := ["editor_id"] }
      base := default
      baseAlias := "author"
      target := { name := "books", aliasName := "book"
                  fields := [{ name := "id", column := "id" },
                    { name := "title", column := "title" }] }
      aliasName := "drafts"
      path := ["Drafts"]
      columns }
    []

theorem relatedQuery_authorsDrafts :
    ∃ q, (authorsDrafts (some ["title"])).relatedQuery {} [⟨"3", [.int 3]⟩] =
        .ok (q, ["editor_id"]) ∧
      (∃ rest, q.sql .postgres .rows =
        .ok ("SELECT \"book\".\"title\", \"editor_id\"" ++ " FROM " ++ rest)) ∧
      ∀ title,
        (OwnerKey.ofRow? ["editor_id"] ⟨["title", "editor_id"], [title, .int 3]⟩).isSome := by
  have built : ((authorsDrafts (some ["title"])).relatedQuery {} [⟨"3", [.int 3]⟩]).toOption.map
      (fun r => (r.2, (r.1.sql .postgres .rows).toOption.isSome,
        selectedNames (authorsDrafts (some ["title"])).join r.1,
        (selectedItems (authorsDrafts (some ["title"])).join r.1).map
          (ColumnItem.text .postgres))) =
      some (["editor_id"], true, ["title", "editor_id"],
        ["\"book\".\"title\"", "\"editor_id\""]) := by
    decide +kernel
  obtain ⟨⟨q, columns⟩, built, rest⟩ := Option.map_eq_some_iff.mp built
  simp only [Prod.mk.injEq] at rest
  obtain ⟨rfl, rendered, names, texts⟩ := rest
  have selects := relatedQuery_selectsKeys (Except.eq_ok_of_toOption built)
  refine ⟨q, Except.eq_ok_of_toOption built, ?_, fun title => ?_⟩
  · obtain ⟨sql, rendered⟩ := Option.isSome_iff_exists.mp rendered
    have rendered := Except.eq_ok_of_toOption rendered
    obtain ⟨rest, rfl⟩ := selects.listed .postgres sql rendered
    rw [texts] at rendered
    exact ⟨rest, by simpa using rendered⟩
  · refine (selects.keyed _ names.symm rfl).mpr ?_
    have carried : Row.value? ⟨["title", "editor_id"], [title, .int 3]⟩ "editor_id" =
        some (.int 3) := rfl
    simp [names, carried, Value.key?]

/-- Where all columns are wanted, a key column that is no field is not selected, and the rows are
handed to no one. -/
theorem relatedQuery_unselected :
    let d : Destination := .entities default false [.mk {} [("id", .int 3)] [] [] 0]
    let run := (loadRelation {} {} (authorsDrafts none) d).respond fun _ _ =>
      some { result := .ok { rows := [⟨["id", "title"], [.int 7, .text "x"]⟩] } }
    ((authorsDrafts none).relatedQuery {} [⟨"3", [.int 3]⟩]).toOption.map Prod.snd =
        some ["editor_id"] ∧
      Conversation.statements run.1 =
        ["SELECT \"book\".\"id\", \"book\".\"title\" FROM \"books\" AS \"book\" " ++
          "WHERE (\"book\".\"editor_id\" IN (3))"] ∧
      (Conversation.attachments run.1).map (·.rows.length) = [0] := by
  decide +kernel

end JoinTree

end SqlCompose
