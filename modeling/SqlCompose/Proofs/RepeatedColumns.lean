import SqlCompose.Proofs.DynamicRows
import SqlCompose.Proofs.NestedRows

/-!
# Columns that repeat a name

A row finds a column by the first of its name, and the map of a row keeps the last one. The main
statement is that both have a value for the same names, and that they agree on a name just when its
first and its last column hold one value.
-/

namespace SqlCompose

/-! ## Maps of pairs -/

namespace ValueMap

theorem keys_insert (m : ValueMap) (key : String) (value : Value) :
    (m.insert key value).keys = if key ∈ m.keys then m.keys else m.keys ++ [key] := by
  have step (k : String) (v : Value) (rest : ValueMap) : keys ((k, v) :: rest) = k :: rest.keys :=
    rfl
  induction m with
  | nil => rfl
  | cons entry rest ih =>
    obtain ⟨k, v⟩ := entry
    rw [insert, step]
    by_cases here : k = key
    · rw [if_pos here, step, here, if_pos List.mem_cons_self]
    · rw [if_neg here, step, ih]
      by_cases later : key ∈ keys rest
      · rw [if_pos later, if_pos (List.mem_cons_of_mem k later)]
      · have fresh : key ∉ k :: keys rest := by simpa [Ne.symm here] using later
        rw [if_neg later, if_neg fresh, List.cons_append]

theorem HasDistinctKeys.insert {m : ValueMap} (distinct : m.HasDistinctKeys) (key : String)
    (value : Value) : (m.insert key value).HasDistinctKeys := by
  rw [HasDistinctKeys, keys_insert]
  split
  · exact distinct
  · rename_i fresh
    refine List.nodup_append.mpr ⟨distinct, List.pairwise_singleton _ key, ?_⟩
    intro k member k' single
    rw [List.mem_singleton.mp single]
    rintro rfl
    exact fresh member

theorem hasDistinctKeys_ofPairs (pairs : List (String × Value)) :
    (ofPairs pairs).HasDistinctKeys := by
  have kept (m : ValueMap) (distinct : m.HasDistinctKeys) :
      HasDistinctKeys (pairs.foldl (fun m pair => m.insert pair.1 pair.2) m) := by
    induction pairs generalizing m with
    | nil => exact distinct
    | cons pair rest ih => exact ih _ (distinct.insert pair.1 pair.2)
  exact kept [] List.nodup_nil

/-- Of the pairs with one key the last one is kept. -/
theorem lookup_ofPairs (pairs : List (String × Value)) (key : String) :
    (ofPairs pairs).lookup key = pairs.reverse.lookup key := by
  have folded (m : ValueMap) :
      (pairs.foldl (fun m pair => m.insert pair.1 pair.2) m).lookup key =
        (pairs.reverse.lookup key).or (m.lookup key) := by
    induction pairs generalizing m with
    | nil => rfl
    | cons pair rest ih =>
      obtain ⟨k, v⟩ := pair
      rw [List.foldl_cons, ih, lookup_insert, List.reverse_cons, List.lookup_append,
        List.lookup_cons, Option.or_assoc]
      by_cases same : key = k
      · simp [same]
      · have other : (key == k) = false := by simpa using same
        simp [same, other]
  have empty := folded []
  rw [List.lookup_nil, Option.or_none] at empty
  exact empty

end ValueMap

/-! ## Two readings of a row -/

namespace Row

variable {r : Row} {column : String}

/-- The value stands in the first column of a name that has a value. -/
def IsFirst (r : Row) (column : String) (v : Value) : Prop :=
  ∃ before behind, r.cells = before ++ (column, v) :: behind ∧ ∀ cell ∈ before, cell.1 ≠ column

/-- The value stands in the last column of a name that has a value. -/
def IsLast (r : Row) (column : String) (v : Value) : Prop :=
  ∃ before behind, r.cells = before ++ (column, v) :: behind ∧ ∀ cell ∈ behind, cell.1 ≠ column

/-- Names and values pair up as far as both go, so that a column found behind the last value has
none. -/
theorem value?_eq_lookup (r : Row) (column : String) :
    r.value? column = r.cells.lookup column := by
  obtain ⟨columns, values⟩ := r
  simp only [value?, cells]
  induction columns generalizing values with
  | nil => rfl
  | cons name columns ih =>
    rw [List.idxOf?_cons, BEq.comm]
    cases values with
    | nil => simp
    | cons v values =>
      rw [List.zip_cons_cons, List.lookup_cons, ← ih]
      cases column == name with
      | true => rfl
      | false => exact Option.bind_map

theorem lookup_toMap (r : Row) (column : String) :
    r.toMap.lookup column = r.cells.reverse.lookup column :=
  ValueMap.lookup_ofPairs r.cells column

theorem value?_eq_some_iff {v : Value} : r.value? column = some v ↔ r.IsFirst column v := by
  rw [value?_eq_lookup, List.lookup_eq_some_iff]
  simp only [bne_iff_ne, ne_comm, IsFirst]

theorem lookup_toMap_eq_some_iff {v : Value} :
    r.toMap.lookup column = some v ↔ r.IsLast column v := by
  rw [lookup_toMap, List.lookup_eq_some_iff]
  simp only [bne_iff_ne, ne_comm, IsLast]
  constructor
  · rintro ⟨behind, before, split, others⟩
    refine ⟨before.reverse, behind.reverse, ?_, fun cell hcell => ?_⟩
    · rw [List.reverse_eq_iff.mp split]
      simp
    · exact others cell (List.mem_reverse.mp hcell)
  · rintro ⟨before, behind, split, others⟩
    refine ⟨behind.reverse, before.reverse, ?_, fun cell hcell => ?_⟩
    · rw [split]
      simp
    · exact others cell (List.mem_reverse.mp hcell)

/-- The map has a value for the names that have one in the row. -/
theorem isSome_lookup_toMap (r : Row) (column : String) :
    (r.toMap.lookup column).isSome = (r.value? column).isSome := by
  rw [Bool.eq_iff_iff, lookup_toMap, value?_eq_lookup, List.lookup_isSome_iff,
    List.lookup_isSome_iff]
  simp only [List.mem_reverse]

/-- How a row and a map show the values of the columns of a name. -/
structure ShownBy (r : Row) (m : ValueMap) (column : String) : Prop where
  held_iff : (m.lookup column).isSome ↔ (r.value? column).isSome
  first_iff : ∀ v, r.value? column = some v ↔ r.IsFirst column v
  last_iff : ∀ v, m.lookup column = some v ↔ r.IsLast column v
  agree_iff : m.lookup column = r.value? column ↔
    ∀ v w, r.IsFirst column v → r.IsLast column w → v = w

/-- The map of a row has each key once. It holds the value of the last column of a name, where the
row shows that of the first one. -/
theorem shownBy_toMap (r : Row) :
    r.toMap.HasDistinctKeys ∧ ∀ column, r.ShownBy r.toMap column := by
  refine ⟨ValueMap.hasDistinctKeys_ofPairs _, fun column => ⟨?_, ?_, ?_, ?_⟩⟩
  · rw [isSome_lookup_toMap]
  · exact fun v => value?_eq_some_iff
  · exact fun v => lookup_toMap_eq_some_iff
  · have known := r.isSome_lookup_toMap column
    simp only [← value?_eq_some_iff, ← lookup_toMap_eq_some_iff]
    cases first : r.value? column with
    | none => simpa [first] using known
    | some v =>
      rw [first] at known
      obtain ⟨w, last⟩ := Option.isSome_iff_exists.mp known
      simp [last, eq_comm]

/-- A join whose two sides both have a column `id`: the row shows the first one, its map the
other. -/
theorem toMap_ne_of_repeated :
    let r : Row := ⟨["id", "id"], [.int 1, .int 2]⟩
    r.value? "id" = some (.int 1) ∧ r.toMap.lookup "id" = some (.int 2) ∧
      ¬ ∀ column, r.toMap.lookup column = r.value? column := by
  intro r
  have first : r.value? "id" = some (.int 1) := rfl
  have last : r.toMap.lookup "id" = some (.int 2) := rfl
  refine ⟨first, last, fun agree => ?_⟩
  have same := (last.symm.trans (agree "id")).trans first
  cases same

end Row

end SqlCompose
