import Mathlib.Data.List.Basic
import Mathlib.Data.List.Forall2
import Mathlib.Data.List.Perm.Subperm
import Mathlib.Data.List.TakeWhile
import SqlCompose.Values

/-!
# Dynamic rows in columns

Dynamic rows become tuples of one column list if they all have the keys of the first row that has
any. The main statement says just when they do, that each tuple holds its row, which row is blamed
if they do not, and that the order in which a row lists its keys plays no part.
-/

namespace SqlCompose

/-! ## Keys -/

namespace ValueMap

def HasDistinctKeys (m : ValueMap) : Prop :=
  m.keys.Nodup

instance (m : ValueMap) : Decidable m.HasDistinctKeys :=
  inferInstanceAs (Decidable (List.Nodup _))

def SameKeys (m n : ValueMap) : Prop :=
  ∀ k, k ∈ m.keys ↔ k ∈ n.keys

@[simp] theorem isEmpty_iff_keys (m : ValueMap) : m.isEmpty = true ↔ m.keys = [] := by
  cases m <;> simp [keys]

/-- The columns are the keys of the row in ascending order. -/
structure Lists (m : ValueMap) (columns : List String) : Prop where
  ascending : columns.Pairwise (· < ·)
  mem_iff : ∀ k, k ∈ columns ↔ k ∈ m.keys

/-- The tuple has one value for each column, and paired with the columns it is the row again. -/
def HeldBy (m : ValueMap) (columns : List String) (tuple : List Value) : Prop :=
  tuple.length = columns.length ∧ (columns.zip tuple).Perm m

theorem Lists.eq {m : ValueMap} {a b : List String} (ha : m.Lists a) (hb : m.Lists b) : a = b := by
  have distinct {l : List String} (h : l.Pairwise (· < ·)) : l.Nodup :=
    h.imp fun lt => Std.ne_of_lt lt
  have same : a.Perm b := (List.perm_ext_iff_of_nodup (distinct ha.ascending)
    (distinct hb.ascending)).mpr fun k => (ha.mem_iff k).trans (hb.mem_iff k).symm
  exact same.eq_of_pairwise
    (fun _ _ _ _ lt gt => absurd (String.lt_trans lt gt) (String.lt_irrefl _))
    ha.ascending hb.ascending

theorem perm_sortedKeys (m : ValueMap) : m.sortedKeys.Perm m.keys :=
  List.mergeSort_perm _ _

theorem lists_sortedKeys {m : ValueMap} (distinct : m.HasDistinctKeys) : m.Lists m.sortedKeys where
  ascending := by
    have weakly : m.sortedKeys.Pairwise (· ≤ ·) := by
      have trans (a b c : String) (hab : decide (a ≤ b) = true) (hbc : decide (b ≤ c) = true) :
          decide (a ≤ c) = true := by
        simpa using String.le_trans (of_decide_eq_true hab) (of_decide_eq_true hbc)
      have total (a b : String) : (decide (a ≤ b) || decide (b ≤ a)) = true := by
        simpa using String.le_total a b
      exact (List.pairwise_mergeSort trans total m.keys).imp of_decide_eq_true
    have apart : m.sortedKeys.Nodup := m.perm_sortedKeys.nodup_iff.mpr distinct
    exact (weakly.and apart).imp fun h => Std.lt_of_le_of_ne h.1 h.2
  mem_iff k := m.perm_sortedKeys.mem_iff

theorem sortedKeys_eq_iff {m n : ValueMap} (hm : m.HasDistinctKeys) (hn : n.HasDistinctKeys) :
    m.sortedKeys = n.sortedKeys ↔ m.SameKeys n := by
  constructor
  · intro same k
    rw [← (lists_sortedKeys hm).mem_iff, same, (lists_sortedKeys hn).mem_iff]
  · intro same
    refine (lists_sortedKeys hm).eq ⟨(lists_sortedKeys hn).ascending, fun k => ?_⟩
    rw [(lists_sortedKeys hn).mem_iff, same]

theorem lookup_eq_some_iff {m : ValueMap} (distinct : m.HasDistinctKeys) {k : String} {v : Value} :
    m.lookup k = some v ↔ (k, v) ∈ m := by
  induction m with
  | nil => simp
  | cons entry rest ih =>
    obtain ⟨key, value⟩ := entry
    obtain ⟨fresh, distinct⟩ := List.nodup_cons.mp distinct
    rw [List.lookup_cons, List.mem_cons, Prod.mk.injEq]
    by_cases here : k = key
    · subst here
      have elsewhere : (k, v) ∉ rest := fun h =>
        fresh (List.mem_map.mpr ⟨(k, v), h, rfl⟩)
      simp [elsewhere, eq_comm]
    · have other : (k == key) = false := by simpa using here
      simp [other, here, ih distinct]

theorem isSome_lookup_iff {m : ValueMap} (distinct : m.HasDistinctKeys) {k : String} :
    (m.lookup k).isSome = true ↔ k ∈ m.keys := by
  rw [Option.isSome_iff_exists]
  simp only [lookup_eq_some_iff distinct]
  simp [keys]

/-- As many keys as columns, and every column among the keys: then the keys are the columns. -/
theorem hasKeys_sortedKeys_iff {m n : ValueMap} (hm : m.HasDistinctKeys)
    (hn : n.HasDistinctKeys) : m.hasKeys n.sortedKeys = true ↔ m.SameKeys n := by
  have columns : n.sortedKeys.Nodup := n.perm_sortedKeys.nodup_iff.mpr hn
  have size : m.keys.length = m.length := List.length_map _
  simp only [hasKeys, Bool.and_eq_true, decide_eq_true_eq, List.all_eq_true, isSome_lookup_iff hm]
  constructor
  · rintro ⟨length, among⟩ k
    -- Keys are distinct, so that no key is left over beside the columns.
    have perm : n.sortedKeys.Perm m.keys :=
      (List.subperm_of_subset columns among).perm_of_length_le (by omega)
    rw [← perm.mem_iff, n.perm_sortedKeys.mem_iff]
  · intro same
    have perm : m.keys.Perm n.sortedKeys := by
      refine (List.perm_ext_iff_of_nodup hm columns).mpr fun k => ?_
      rw [same, n.perm_sortedKeys.mem_iff]
    exact ⟨size ▸ perm.length_eq, fun c => perm.mem_iff.mpr⟩

theorem get_of_mem {m : ValueMap} (distinct : m.HasDistinctKeys) {k : String} {v : Value}
    (h : (k, v) ∈ m) : m.get k = v := by
  rw [get, (lookup_eq_some_iff distinct).mpr h]
  rfl

theorem heldBy_sortedKeys {m : ValueMap} (distinct : m.HasDistinctKeys) :
    m.HeldBy m.sortedKeys (m.sortedKeys.map m.get) := by
  have entries : (m.keys.map fun k => (k, m.get k)) = m := by
    rw [keys, List.map_map]
    refine (List.map_congr_left fun entry hentry => ?_).trans (List.map_id m)
    exact congrArg (entry.1, ·) (get_of_mem distinct hentry)
  refine ⟨List.length_map _, ?_⟩
  rw [← List.map_prod_left_eq_zip]
  exact (m.perm_sortedKeys.map fun k => (k, m.get k)).trans (.of_eq entries)

/-- What a row shows to those who read it by key. -/
structure Alike (m n : ValueMap) : Prop where
  isEmpty_eq : m.isEmpty = n.isEmpty
  sortedKeys_eq : m.sortedKeys = n.sortedKeys
  hasKeys_eq : m.hasKeys = n.hasKeys
  get_eq : m.get = n.get

/-- The order of the entries does not show. -/
theorem Alike.of_perm {m n : ValueMap} (distinct : m.HasDistinctKeys) (perm : m.Perm n) :
    Alike m n := by
  have other : n.HasDistinctKeys := (perm.map Prod.fst).nodup_iff.mp distinct
  have lookups (k : String) : m.lookup k = n.lookup k := by
    refine Option.ext fun v => ?_
    rw [lookup_eq_some_iff distinct, lookup_eq_some_iff other, perm.mem_iff]
  refine ⟨?_, ?_, funext fun columns => ?_, funext fun k => ?_⟩
  · rw [Bool.eq_iff_iff, List.isEmpty_iff, List.isEmpty_iff]
    exact ⟨fun empty => (empty ▸ perm).nil_eq.symm, fun empty => (empty ▸ perm).eq_nil⟩
  · exact (sortedKeys_eq_iff distinct other).mpr fun k => (perm.map Prod.fst).mem_iff
  · simp only [hasKeys, perm.length_eq, lookups]
  · rw [get, get, lookups]

end ValueMap

/-! ## Rows -/

namespace RowSource

/-- Rows in three parts: those without keys that come first, the first one with keys, and what
follows it. -/
structure FirstKeyed (maps leading : List ValueMap) (first : ValueMap) (rest : List ValueMap) :
    Prop where
  eq : maps = leading ++ first :: rest
  empty : ∀ m ∈ leading, m.keys = []
  keyed : first.keys ≠ []

theorem FirstKeyed.exists_of_keyed {maps : List ValueMap} (h : ∃ m ∈ maps, m.keys ≠ []) :
    ∃ leading first rest, FirstKeyed maps leading first rest := by
  induction maps with
  | nil => simp at h
  | cons m maps ih =>
    by_cases keyed : m.keys = []
    · obtain ⟨leading, first, rest, parts⟩ := ih (by simpa [keyed] using h)
      refine ⟨m :: leading, first, rest, ?_, ?_, parts.keyed⟩
      · rw [parts.eq, List.cons_append]
      · exact List.forall_mem_cons.mpr ⟨keyed, parts.empty⟩
    · exact ⟨[], m, maps, rfl, by simp, keyed⟩

section

variable {maps leading rest : List ValueMap} {first : ValueMap}

theorem ofMaps_of_empty (h : ∀ m ∈ maps, m.keys = []) : ofMaps maps = .error .emptyInput := by
  have none : maps.dropWhile List.isEmpty = [] :=
    List.dropWhile_eq_nil_iff.mpr fun m hm => (ValueMap.isEmpty_iff_keys m).mpr (h m hm)
  rw [ofMaps, none]

theorem FirstKeyed.ofMaps_eq (h : FirstKeyed maps leading first rest) :
    ofMaps maps = (rowsOfMaps first.sortedKeys (leading.length + 1) rest).map
      (.dynamic first.sortedKeys (first.sortedKeys.map first.get)) := by
  have skipped : ∀ m ∈ leading, m.isEmpty = true := fun m hm =>
    m.isEmpty_iff_keys.mpr (h.empty m hm)
  have kept : ¬ first.isEmpty = true := fun empty => h.keyed (first.isEmpty_iff_keys.mp empty)
  rw [ofMaps, h.eq, List.dropWhile_append_of_pos skipped, List.takeWhile_append_of_pos skipped,
    List.dropWhile_cons_of_neg kept, List.takeWhile_cons_of_neg kept, List.append_nil]
  dsimp only
  cases rowsOfMaps first.sortedKeys (leading.length + 1) rest <;> rfl

theorem rowsOfMaps_of_forall {columns : List String} (position : Nat) {maps : List ValueMap}
    (same : ∀ m ∈ maps, m.hasKeys columns = true) :
    rowsOfMaps columns position maps = .ok (maps.map fun m => columns.map m.get) := by
  induction maps generalizing position with
  | nil => rfl
  | cons m rest ih =>
    rw [List.forall_mem_cons] at same
    rw [rowsOfMaps, if_pos same.1, ih (position + 1) same.2]
    rfl

theorem rowsOfMaps_of_not_hasKeys {columns : List String} (position : Nat)
    {before : List ValueMap} {m : ValueMap} (same : ∀ n ∈ before, n.hasKeys columns = true)
    (other : ¬ m.hasKeys columns = true) (later : List ValueMap) :
    rowsOfMaps columns position (before ++ m :: later) =
      .error (.mismatchedKeys (position + before.length) columns m.sortedKeys) := by
  induction before generalizing position with
  | nil => rw [List.nil_append, rowsOfMaps, if_neg other]; rfl
  | cons n before ih =>
    rw [List.forall_mem_cons] at same
    rw [List.cons_append, rowsOfMaps, if_pos same.1, ih (position + 1) same.2, List.length_cons]
    dsimp only
    rw [Nat.add_assoc, Nat.add_comm 1]

theorem FirstKeyed.mem_first (h : FirstKeyed maps leading first rest) : first ∈ maps := by
  simp [h.eq]

theorem FirstKeyed.subset_rest (h : FirstKeyed maps leading first rest) : rest ⊆ maps := by
  intro m hm
  simp [h.eq, hm]

/-- Either all rows behind the first one with keys have its keys, or there is a first one of them
that has not. -/
theorem FirstKeyed.outcome (h : FirstKeyed maps leading first rest)
    (distinct : ∀ m ∈ maps, m.HasDistinctKeys) :
    (∀ m ∈ rest, m.SameKeys first) ∧
        ofMaps maps = .ok (.dynamic first.sortedKeys (first.sortedKeys.map first.get)
          (rest.map fun m => first.sortedKeys.map m.get)) ∨
      ∃ same m later, rest = same ++ m :: later ∧ (∀ n ∈ same, n.SameKeys first) ∧
        ¬ m.SameKeys first ∧
        ofMaps maps = .error (.mismatchedKeys (leading ++ first :: same).length first.sortedKeys
          m.sortedKeys) := by
  have sameKeys {m : ValueMap} (hm : m ∈ rest) :
      m.hasKeys first.sortedKeys = true ↔ m.SameKeys first :=
    ValueMap.hasKeys_sortedKeys_iff (distinct m (h.subset_rest hm)) (distinct first h.mem_first)
  -- Rows behind the first one with other keys are not looked at.
  cases found : rest.find? fun m => !m.hasKeys first.sortedKeys with
  | none =>
    have same : ∀ m ∈ rest, m.hasKeys first.sortedKeys = true := by
      simpa using List.find?_eq_none.mp found
    refine .inl ⟨fun m hm => (sameKeys hm).mp (same m hm), ?_⟩
    rw [h.ofMaps_eq, rowsOfMaps_of_forall _ same]
    rfl
  | some m =>
    obtain ⟨other, same, later, rfl, before⟩ := List.find?_eq_some_iff_append.mp found
    simp only [Bool.not_not] at before
    rw [Bool.not_eq_true', Bool.eq_false_iff] at other
    refine .inr ⟨same, m, later, rfl, fun n hn => ?_, fun keys => ?_, ?_⟩
    · exact (sameKeys (by simp [hn])).mp (before n hn)
    · exact other ((sameKeys (by simp)).mpr keys)
    · rw [h.ofMaps_eq, rowsOfMaps_of_not_hasKeys _ before other, List.length_append,
        List.length_cons, Nat.add_assoc, Nat.add_comm 1]
      rfl

/-- In the order of the keys of the first row, every row with the same keys is held. -/
theorem FirstKeyed.forall₂_heldBy (h : FirstKeyed maps leading first rest)
    (distinct : ∀ m ∈ maps, m.HasDistinctKeys) (same : ∀ m ∈ rest, m.SameKeys first) :
    List.Forall₂ (fun m tuple => m.HeldBy first.sortedKeys tuple) (first :: rest)
      (first.sortedKeys.map first.get :: rest.map fun m => first.sortedKeys.map m.get) := by
  have own := distinct first h.mem_first
  refine .cons (ValueMap.heldBy_sortedKeys own) ?_
  refine List.forall₂_map_right_iff.mpr (List.forall₂_same.mpr fun m hm => ?_)
  have other := distinct m (h.subset_rest hm)
  rw [← (ValueMap.sortedKeys_eq_iff other own).mpr (same m hm)]
  exact ValueMap.heldBy_sortedKeys other

end

/-! ### Rows that list their entries in another order -/

theorem rowsOfMaps_congr {columns : List String} (position : Nat) {maps maps' : List ValueMap}
    (alike : List.Forall₂ ValueMap.Alike maps maps') :
    rowsOfMaps columns position maps = rowsOfMaps columns position maps' := by
  induction alike generalizing position with
  | nil => rfl
  | cons one _ ih => rw [rowsOfMaps, rowsOfMaps, one.hasKeys_eq, one.sortedKeys_eq, one.get_eq, ih]

/-- Rows that show the same are skipped alike. -/
theorem skip_congr {maps maps' : List ValueMap} (alike : List.Forall₂ ValueMap.Alike maps maps') :
    (maps.takeWhile List.isEmpty).length = (maps'.takeWhile List.isEmpty).length ∧
      List.Forall₂ ValueMap.Alike (maps.dropWhile List.isEmpty)
        (maps'.dropWhile List.isEmpty) := by
  induction alike with
  | nil => exact ⟨rfl, .nil⟩
  | cons one further ih =>
    rw [List.takeWhile_cons, List.takeWhile_cons, List.dropWhile_cons, List.dropWhile_cons,
      one.isEmpty_eq]
    split
    · exact ⟨congrArg Nat.succ ih.1, ih.2⟩
    · exact ⟨rfl, .cons one further⟩

theorem ofMaps_congr {maps maps' : List ValueMap}
    (alike : List.Forall₂ ValueMap.Alike maps maps') : ofMaps maps = ofMaps maps' := by
  obtain ⟨skipped, kept⟩ := skip_congr alike
  rw [ofMaps, ofMaps, skipped]
  generalize maps.dropWhile List.isEmpty = rows, maps'.dropWhile List.isEmpty = rows' at kept
  cases kept with
  | nil => rfl
  | cons one further =>
    dsimp only
    rw [one.sortedKeys_eq, one.get_eq, rowsOfMaps_congr _ further]

theorem ofMaps_perm {maps maps' : List ValueMap} (distinct : ∀ m ∈ maps, m.HasDistinctKeys)
    (perm : List.Forall₂ List.Perm maps maps') : ofMaps maps' = ofMaps maps := by
  have alike : List.Forall₂ ValueMap.Alike maps maps' := by
    induction perm with
    | nil => exact .nil
    | cons one further ih =>
      rw [List.forall_mem_cons] at distinct
      exact .cons (.of_perm distinct.1 one) (ih distinct.2)
  exact (ofMaps_congr alike).symm

/-! ### Acceptance -/

/-- What becomes of dynamic rows. -/
structure ArrangesMaps (maps : List ValueMap) : Prop where
  /-- There is no input if no row has a key. -/
  emptyInput_iff : ofMaps maps = .error .emptyInput ↔ ∀ m ∈ maps, m.keys = []
  /-- Rows are accepted if some row has a key, and all rows from the first such row on have its
  keys. -/
  accepted_iff : (∃ source, ofMaps maps = .ok source) ↔
    ∃ leading first rest, FirstKeyed maps leading first rest ∧ ∀ m ∈ rest, m.SameKeys first
  /-- Then the columns are these keys in ascending order, and the tuples hold the rows from the
  first one with keys on, one by one. -/
  held : ∀ {leading first rest source}, FirstKeyed maps leading first rest →
    ofMaps maps = .ok source →
    ∃ columns tuple further, source = .dynamic columns tuple further ∧ first.Lists columns ∧
      List.Forall₂ (fun m tuple => m.HeldBy columns tuple) (first :: rest) (tuple :: further)
  /-- Otherwise the first row with other keys is named, by its position among all rows, with its
  keys and those of the first row that has any. -/
  mismatched : ∀ {leading first rest e}, FirstKeyed maps leading first rest →
    ofMaps maps = .error e →
    ∃ same m later expected found, rest = same ++ m :: later ∧
      (∀ n ∈ same, n.SameKeys first) ∧ ¬ m.SameKeys first ∧ first.Lists expected ∧ m.Lists found ∧
      e = .mismatchedKeys (leading ++ first :: same).length expected found
  /-- The order in which rows list their entries plays no part. -/
  reordered : ∀ {maps'}, List.Forall₂ List.Perm maps maps' → ofMaps maps' = ofMaps maps

/-- Dynamic rows are accepted just when they have one key set, their tuples hold them in the order
of the keys, and a refusal names the first row with other keys. -/
theorem ofMaps_arrangesMaps {maps : List ValueMap} (distinct : ∀ m ∈ maps, m.HasDistinctKeys) :
    ArrangesMaps maps where
  emptyInput_iff := by
    refine ⟨fun refused m hm => ?_, ofMaps_of_empty⟩
    by_contra keyed
    obtain ⟨leading, first, rest, parts⟩ := FirstKeyed.exists_of_keyed ⟨m, hm, keyed⟩
    rcases parts.outcome distinct with ⟨-, accepted⟩ | ⟨same, m, later, -, -, -, named⟩
    · exact absurd (accepted.symm.trans refused) nofun
    · exact absurd (named.symm.trans refused) nofun
  accepted_iff := by
    constructor
    · rintro ⟨source, accepted⟩
      have keyed : ∃ m ∈ maps, m.keys ≠ [] := by
        by_contra none
        push Not at none
        exact absurd ((ofMaps_of_empty none).symm.trans accepted) nofun
      obtain ⟨leading, first, rest, parts⟩ := FirstKeyed.exists_of_keyed keyed
      rcases parts.outcome distinct with ⟨same, -⟩ | ⟨same, m, later, -, -, -, named⟩
      · exact ⟨leading, first, rest, parts, same⟩
      · exact absurd (named.symm.trans accepted) nofun
    · rintro ⟨leading, first, rest, parts, same⟩
      rcases parts.outcome distinct with ⟨-, accepted⟩ | ⟨before, m, later, rfl, -, other, -⟩
      · exact ⟨_, accepted⟩
      · exact absurd (same m (by simp)) other
  held {leading first rest source} parts accepted := by
    rcases parts.outcome distinct with ⟨same, ok⟩ | ⟨before, m, later, -, -, -, named⟩
    · obtain rfl := Except.ok.inj (ok.symm.trans accepted)
      exact ⟨_, _, _, rfl, ValueMap.lists_sortedKeys (distinct first parts.mem_first),
        parts.forall₂_heldBy distinct same⟩
    · exact absurd (named.symm.trans accepted) nofun
  mismatched {leading first rest e} parts refused := by
    rcases parts.outcome distinct with ⟨-, accepted⟩ | ⟨same, m, later, rfl, before, other, named⟩
    · exact absurd (accepted.symm.trans refused) nofun
    · obtain rfl := Except.error.inj (named.symm.trans refused)
      exact ⟨same, m, later, _, _, rfl, before, other,
        ValueMap.lists_sortedKeys (distinct first parts.mem_first),
        ValueMap.lists_sortedKeys (distinct m (parts.subset_rest (by simp))), rfl⟩
  reordered := ofMaps_perm distinct

/-- Rows without keys are skipped before the first keys and nowhere else, and keys are compared in
whatever order they come. -/
theorem ofMaps_arrangesMaps_points :
    let points : List ValueMap :=
      [[], [("y", .int 1), ("x", .int 2)], [("x", .int 3), ("y", .null)]]
    let mixed : List ValueMap := points ++ [[("x", .int 5), ("z", .int 6)], []]
    (∀ m ∈ points, m.HasDistinctKeys) ∧ (∀ m ∈ mixed, m.HasDistinctKeys) ∧
      ArrangesMaps points ∧ ArrangesMaps mixed ∧
      ofMaps points =
        .ok (.dynamic ["x", "y"] [.int 2, .int 1] [[.int 3, .null]]) ∧
      ofMaps mixed = .error (.mismatchedKeys 3 ["x", "y"] ["x", "z"]) := by
  intro points mixed
  have distinct : ∀ m ∈ points, m.HasDistinctKeys := by decide +kernel
  have distinct' : ∀ m ∈ mixed, m.HasDistinctKeys := by decide +kernel
  have swapped : ValueMap.sortedKeys [("y", .int 1), ("x", .int 2)] = ["x", "y"] :=
    (ValueMap.lists_sortedKeys (by decide +kernel)).eq
      ⟨by decide +kernel, by simp [ValueMap.keys, or_comm]⟩
  have ascending : ValueMap.sortedKeys [("x", .int 3), ("y", .null)] = ["x", "y"] :=
    List.mergeSort_of_pairwise (by decide +kernel)
  have others : ValueMap.sortedKeys [("x", .int 5), ("z", .int 6)] = ["x", "z"] :=
    List.mergeSort_of_pairwise (by decide +kernel)
  refine ⟨distinct, distinct', ofMaps_arrangesMaps distinct, ofMaps_arrangesMaps distinct', ?_, ?_⟩
  · simp [points, ofMaps, rowsOfMaps, ValueMap.hasKeys, swapped, ValueMap.get, List.lookup_cons]
  · simp [mixed, points, ofMaps, rowsOfMaps, ValueMap.hasKeys, swapped, others, List.lookup_cons]

end RowSource

end SqlCompose
