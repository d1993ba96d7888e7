import SqlCompose.Proofs.FirstError
import SqlCompose.Proofs.Aliases
import SqlCompose.Query.Render

/-!
# Column lists

A column list as items, each of which stands for columns by their names in the result. What
relations to at most one row add to a list is told by their items, and a fragment that spells the
items before them goes on with theirs.
-/

namespace SqlCompose

/-- What stands between two commas of a column list, or several such columns of one table. -/
inductive ColumnItem where
  /-- Columns of a table, behind its alias. -/
  | ofTable (aliasName : String) (columns : List String)
  | bare (column : String)
  | renamed (aliasName column name : String)

namespace ColumnItem

def text (d : Dialect) : ColumnItem → String
  | .ofTable aliasName columns => ", ".intercalate (columns.map (d.qualified aliasName))
  | .bare column => d.ident column
  | .renamed aliasName column name => d.qualified aliasName column ++ " AS " ++ d.ident name

/-- The names of the columns in the result, as they are written: `*` and dotted names, too, stand
for themselves. -/
def names : ColumnItem → List String
  | .ofTable _ columns => columns
  | .bare column => [column]
  | .renamed _ _ name => [name]

end ColumnItem

/-! ## Names in SQL -/

namespace Dialect

variable (d : Dialect)

theorem ident_dotted (a b : String) : d.ident (a ++ "." ++ b) = d.qualified a b := by
  have parts : (a ++ "." ++ b).toList.splitOn '.' =
      a.toList.splitOn '.' ++ b.toList.splitOn '.' := by
    rw [String.toList_append, String.toList_append, show ".".toList = ['.'] from rfl,
      List.append_assoc, List.singleton_append, List.splitOn_append_cons_self]
  rw [qualified, ← String.toList_inj, ident, ident, ident, String.toList_ofList, identChars, parts,
    List.map_append, JoinTree.intercalate_append (by simp) (by simp)]
  simp [identChars]

theorem identSegment_ne_nil (segment : List Char) : d.identSegment segment ≠ [] := by
  unfold identSegment
  split <;> simp

theorem ident_ne_empty (name : String) : d.ident name ≠ "" := by
  intro empty
  obtain ⟨first, rest, segments⟩ := List.exists_cons_of_ne_nil
    (List.splitOn_ne_nil '.' name.toList)
  have chars : d.identChars name.toList = [] := by
    rw [← String.toList_ofList (l := d.identChars name.toList), ← ident, empty]
    rfl
  rw [identChars, segments, List.map_cons] at chars
  have nonempty := d.identSegment_ne_nil first
  by_cases last : rest = []
  · exact nonempty (by simpa [last] using chars)
  · rw [List.intercalate_cons_of_ne_nil (by simpa using last)] at chars
    simp [nonempty] at chars

theorem qualified_ne_empty (a b : String) : d.qualified a b ≠ "" := by
  simp [qualified]

end Dialect

/-! ## Spelling -/

namespace Value

theorem literal_of_isBlank (d : Dialect) {v : Value} (h : v.isBlank = true) :
    v.literal d = "" := by
  fun_induction isBlank v with
  | case1 sql => exact String.isEmpty_iff.mp h
  | case2 v ih => exact ih h
  | case3 => cases h

end Value

theorem Piece.literal_of_isBlank (d : Dialect) {p : Piece} (h : p.isBlank false = true) :
    p.literal d = "" := by
  cases p with
  | text s => exact String.isEmpty_iff.mp h
  | arg v => exact Value.literal_of_isBlank d (by simpa [isBlank] using h)

namespace Fragment

variable {d : Dialect}

/-- Whether a fragment, if it does not fail, is a text when its arguments are literals. -/
def Spells (d : Dialect) (f : Fragment) (s : String) : Prop :=
  ∀ ps, f = .ok ps → String.join (ps.map (Piece.literal d)) = s

theorem spells_empty : Spells d empty "" := by
  rintro _ ⟨⟩
  rfl

theorem spells_text (s : String) : Spells d (text s) s := by
  rintro _ ⟨⟩
  simp [Piece.literal]

theorem spells_arg (v : Value) : Spells d (arg v) (v.literal d) := by
  rintro _ ⟨⟩
  simp [Piece.literal]

theorem Spells.append {f g : Fragment} {s t : String} (hf : Spells d f s) (hg : Spells d g t) :
    Spells d (f ++ g) (s ++ t) := by
  intro ps h
  obtain ⟨qs, rs, rfl, rfl, rfl⟩ := append_eq_ok_iff.mp h
  rw [List.map_append, String.join_append, hf qs rfl, hg rs rfl]

theorem spells_join {α : Type} {f : α → Fragment} {text : α → String} (separator : String)
    {items : List α} (h : ∀ a ∈ items, Spells d (f a) (text a)) :
    Spells d (join separator (items.map f)) (separator.intercalate (items.map text)) := by
  induction items with
  | nil => exact spells_empty
  | cons a rest ih =>
    obtain ⟨first, later⟩ := List.forall_mem_cons.mp h
    cases rest with
    | nil => simpa [join, concat] using first
    | cons b rest =>
      have further := (first.append (spells_text separator)).append (ih later)
      simpa only [List.map_cons, String.intercalate_cons_cons, join, concat, append_assoc]
        using further

/-- A fragment that spells some text is not blank. -/
theorem Spells.isBlank_eq_false {ps : List Piece} {s : String} (h : Spells d (.ok ps) s)
    (some : s ≠ "") : (Fragment.ok ps).isBlank false = false := by
  refine Bool.eq_false_iff.mpr fun blank => some ?_
  rw [← h ps rfl]
  clear h
  induction ps with
  | nil => rfl
  | cons p rest ih =>
    obtain ⟨first, later⟩ := Bool.and_eq_true_iff.mp blank
    have own := Piece.literal_of_isBlank d first
    rw [List.map_cons, String.join_cons, own, ih later]
    rfl

end Fragment

/-! ## Relations to at most one row -/

namespace JoinTree

/-- What a walk adds to a column list. -/
def joinedItems (visits : List Visit) : List ColumnItem :=
  visits.flatMap fun
    | .ok j => j.selectedColumns.map fun c => .renamed j.aliasName c (j.aliasName ++ "__" ++ c)
    | .error _ => []

theorem intercalate_continued (before items : List String) (nonempty : items ≠ []) :
    ", ".intercalate before ++
        ((if (!before.isEmpty) = true then ", " else "") ++ ", ".intercalate items) =
      ", ".intercalate (before ++ items) := by
  cases before with
  | nil => simp
  | cons first rest =>
    rw [String.intercalate_append_of_ne_nil (List.cons_ne_nil first rest) nonempty]
    simp [String.append_assoc]

/-- A walk goes on with a column list behind the texts that are there. -/
theorem columnItems_eq_ok {d : Dialect} {visits : List Visit} {ps : List Piece}
    (before : List String) (h : columnItems d (!before.isEmpty) visits = .ok ps) :
    ", ".intercalate before ++ String.join (ps.map (Piece.literal d)) =
      ", ".intercalate (before ++ (joinedItems visits).map (ColumnItem.text d)) := by
  induction visits generalizing before ps with
  | nil =>
    cases h
    simp [joinedItems]
  | cons visit rest ih =>
    cases visit with
    | error e => cases h
    | ok j =>
      have own : j.columnItems d = (j.selectedColumns.map fun c => ColumnItem.renamed j.aliasName c
          (j.aliasName ++ "__" ++ c)).map (ColumnItem.text d) := by
        rw [List.map_map]
        rfl
      have items : (joinedItems (.ok j :: rest)).map (ColumnItem.text d) =
          j.columnItems d ++ (joinedItems rest).map (ColumnItem.text d) := by
        rw [own, joinedItems, List.flatMap_cons, List.map_append]
        rfl
      rw [items]
      rw [columnItems] at h
      split at h
      · rename_i none
        rw [none, List.nil_append]
        exact ih before h
      · rename_i nonempty
        obtain ⟨_, qs, ⟨⟩, later, rfl⟩ := Fragment.append_eq_ok_iff.mp h
        have started : (!(before ++ j.columnItems d).isEmpty) = true := by
          simpa using fun _ => nonempty
        have further := ih (before ++ j.columnItems d) (started ▸ later)
        rw [List.append_assoc, ← intercalate_continued before _ nonempty] at further
        rw [← further, List.map_append, String.join_append, String.append_assoc]
        simp [Piece.literal]

end JoinTree

/-! ## Whole lists -/

namespace Select

/-- A column list spells the items of its base and of the relations that are joined. -/
theorem columnList_eq_ok {d : Dialect} {s : Select} {items : List ColumnItem} {ps : List Piece}
    (base : (s.baseColumns (d.target .literal)).Spells d
      (", ".intercalate (items.map (ColumnItem.text d))))
    (none : items = [] → s.baseColumns (d.target .literal) = .text "")
    (first : ∀ item ∈ items.head?, item.text d ≠ "")
    (h : s.columnList (d.target .literal) = .ok ps) :
    String.join (ps.map (Piece.literal d)) =
      ", ".intercalate ((items ++ JoinTree.joinedItems s.visits).map (ColumnItem.text d)) := by
  obtain ⟨own, later, based, joined, rfl⟩ := Fragment.append_eq_ok_iff.mp h
  rw [based] at base joined none
  have spelled := base own rfl
  have started : (!(Fragment.ok own).isBlank (d.target .literal).shapeOnly) =
      !(items.map (ColumnItem.text d)).isEmpty := by
    cases items with
    | nil =>
      rw [none rfl]
      rfl
    | cons item rest =>
      have some : ", ".intercalate ((item :: rest).map (ColumnItem.text d)) ≠ "" := by
        have own := first item rfl
        cases rest <;> simp [own]
      rw [show (d.target .literal).shapeOnly = false from rfl, base.isBlank_eq_false some]
      rfl
  rw [started] at joined
  rw [List.map_append, String.join_append, spelled, List.map_append]
  exact JoinTree.columnItems_eq_ok _ joined

end Select

end SqlCompose
