import SqlCompose.Proofs.Aliases
import SqlCompose.Proofs.DynamicRows
import SqlCompose.Proofs.QuotedNames

/-!
# Column lists of dynamic rows

The keys of dynamic rows are any texts, and the column list of the rows is to name one column for
each of them. The main statement is that it does just when each key is a name of one segment: a dot
in a key takes it apart, and a key that is a star is not quoted.
-/

namespace SqlCompose

/-! ## Names of one segment -/

namespace Text

theorem map_ahead_eq_some {s name rest : List Char} {read : Option (List Char × List Char)}
    (h : read.map (ahead s) = some (name, rest)) :
    ∃ inner, read = some (inner, rest) ∧ name = s ++ inner := by
  obtain ⟨⟨inner, behind⟩, found, same⟩ := Option.map_eq_some_iff.mp h
  obtain ⟨rfl, rfl⟩ := Prod.mk.inj same
  exact ⟨inner, found, rfl⟩

/-- What is read of quoted text was written by doubling its quotes. -/
theorem eq_of_readQuoted {quote : Char} {text name rest : List Char}
    (h : readQuoted quote none text = some (name, rest)) :
    text = name.flatMap (fun c => if c = quote then [c, c] else [c]) ++ quote :: rest := by
  fun_induction readQuoted quote none text generalizing name with
  | case1 => cases h
  | case2 =>
    obtain ⟨rfl, rfl⟩ := Prod.mk.inj (Option.some.inj h)
    rfl
  | case3 c other => cases h
  | case4 text ih =>
    obtain ⟨inner, found, rfl⟩ := map_ahead_eq_some h
    simp [ih found]
  | case5 b text other =>
    obtain ⟨rfl, rfl⟩ := Prod.mk.inj (Option.some.inj h)
    rfl
  | case6 c b text unquoted escaped => cases escaped
  | case7 c b text unquoted plain ih =>
    obtain ⟨inner, found, rfl⟩ := map_ahead_eq_some h
    simp [ih found, unquoted]

end Text

/-- A name that is written as one quoted segment: it has no dot, and is not a star. -/
def IsSingleSegment (name : List Char) : Prop :=
  '.' ∉ name ∧ name ≠ ['*']

instance (name : List Char) : Decidable (IsSingleSegment name) :=
  inferInstanceAs (Decidable (_ ∧ _))

namespace Dialect

variable (d : Dialect)

/-- The name that a text is the quoted form of, in one segment. -/
def unquote? : List Char → Option (List Char)
  | [] => none
  | c :: rest =>
    if c = d.quote then
      match Text.readQuoted d.quote none rest with
      | some (name, []) => some name
      | _ => none
    else none

theorem unquote?_eq_some_iff {text name : List Char} :
    d.unquote? text = some name ↔ text = d.quoted name := by
  constructor
  · intro h
    cases text with
    | nil => cases h
    | cons c rest =>
      rw [unquote?] at h
      split at h
      · rename_i same
        split at h
        · rename_i found
          obtain rfl := Option.some.inj h
          rw [Text.eq_of_readQuoted found, same]
          rfl
        · cases h
      · cases h
  · rintro rfl
    have read := @readSegment_quoted d name [] (by simp)
    have apart : d.quote ≠ '*' := by cases d <;> decide
    rw [List.append_nil, quoted, List.cons_append, readSegment, if_neg apart, if_pos rfl] at read
    rw [quoted, List.cons_append, unquote?, if_pos rfl, read]

/-- A dotted name begins with its first segment and a dot. -/
theorem identChars_of_dotted {name first second : List Char} {further : List (List Char)}
    (parts : name.splitOn '.' = first :: second :: further) :
    ∃ behind, d.identChars name = d.identSegment first ++ '.' :: behind := by
  refine ⟨['.'].intercalate ((second :: further).map d.identSegment), ?_⟩
  rw [identChars, parts, List.map_cons, List.intercalate_cons_of_ne_nil (by simp),
    List.append_assoc, List.singleton_append]

/-- A name is written as one quoted segment just when it is one, whatever stands behind it. -/
theorem identChars_append_eq_iff {name a b : List Char} (hb : b.head? ≠ some d.quote) :
    d.identChars name ++ a = d.quoted name ++ b ↔ IsSingleSegment name ∧ a = b := by
  have joined := @List.intercalate_splitOn _ name _ _ '.'
  cases parts : name.splitOn '.' with
  | nil => exact absurd parts (List.splitOn_ne_nil '.' name)
  | cons first further =>
    rw [parts] at joined
    cases further with
    | nil =>
      rw [List.intercalate_singleton] at joined
      subst joined
      have undotted : '.' ∉ first := by
        intro dot
        have other := Text.not_of_mem_splitOnP (parts ▸ List.mem_singleton_self first) '.' dot
        simp at other
      rw [identChars, parts, List.map_singleton, List.intercalate_singleton]
      by_cases star : first = ['*']
      · have apart : '*' ≠ d.quote := by cases d <;> decide
        refine iff_of_false (fun same => apart ?_) fun single => single.1.2 star
        rw [star] at same
        exact (List.cons.inj same).1
      · rw [identSegment, if_neg star, quoted, List.append_cancel_left_eq]
        exact (and_iff_right ⟨undotted, star⟩).symm
    | cons second further =>
      have dotted : '.' ∈ name := by
        rw [← joined, List.intercalate_cons_of_ne_nil (by simp)]
        simp
      refine iff_of_false (fun same => ?_) fun single => single.1.1 dotted
      -- What is read of the two texts is the first segment of the name and the whole of it.
      obtain ⟨behind, written⟩ := d.identChars_of_dotted parts
      have apart : '.' ≠ d.quote := by cases d <;> decide
      have read := congrArg d.readSegment same
      rw [written, List.append_assoc, d.readSegment_identSegment first (by simpa using apart),
        d.readSegment_quoted name hb] at read
      have whole := (Prod.mk.inj (Option.some.inj read)).1
      have longer := congrArg List.length joined
      rw [List.intercalate_cons_of_ne_nil (by simp), whole] at longer
      simp at longer

theorem intercalate_identChars_eq_iff (names : List (List Char)) :
    [',', ' '].intercalate (names.map d.identChars) = [',', ' '].intercalate (names.map d.quoted) ↔
      ∀ name ∈ names, IsSingleSegment name := by
  have apart : ',' ≠ d.quote := by cases d <;> decide
  induction names with
  | nil => simp
  | cons name further ih =>
    rw [List.forall_mem_cons]
    refine Iff.trans ?_ (and_congr_right fun _ => ih)
    by_cases last : further = []
    · have alone := @identChars_append_eq_iff d name [] [] (by simp)
      simpa [last] using alone
    · rw [List.map_cons, List.map_cons, List.intercalate_cons_of_ne_nil (by simpa using last),
        List.intercalate_cons_of_ne_nil (by simpa using last), List.append_assoc, List.append_assoc,
        d.identChars_append_eq_iff (by simpa using apart), List.append_cancel_left_eq]

/-! ## Lists of names -/

/-- Whether a text is a list of quoted names of one segment each, with commas between them. -/
def ListsNames (text : String) (names : List String) : Prop :=
  ∃ items : List String, text = ", ".intercalate items ∧
    List.Forall₂ (fun item name => d.unquote? item.toList = some name.toList) items names

theorem listsNames_iff {text : String} {names : List String} :
    d.ListsNames text names ↔
      text.toList = [',', ' '].intercalate ((names.map String.toList).map d.quoted) := by
  have comma : ", ".toList = [',', ' '] := rfl
  constructor
  · rintro ⟨items, rfl, each⟩
    have quoted : items.map String.toList = (names.map String.toList).map d.quoted := by
      rw [← List.forall₂_eq_eq_eq]
      simpa [List.forall₂_map_left_iff, List.forall₂_map_right_iff, unquote?_eq_some_iff] using each
    rw [String.toList_intercalate, comma, quoted]
  · intro written
    refine ⟨names.map fun name => String.ofList (d.quoted name.toList), ?_, ?_⟩
    · rw [← String.toList_inj, written, String.toList_intercalate, comma]
      simp [Function.comp_def]
    · rw [List.forall₂_map_left_iff, List.forall₂_same]
      intro name _
      rw [String.toList_ofList]
      exact d.unquote?_eq_some_iff.mpr rfl

/-- Names written as a list are listed one by one just when each of them is one segment. -/
theorem listsNames_intercalate_ident_iff (names : List String) :
    d.ListsNames (", ".intercalate (names.map d.ident)) names ↔
      ∀ name ∈ names, IsSingleSegment name.toList := by
  have written : (", ".intercalate (names.map d.ident)).toList =
      [',', ' '].intercalate ((names.map String.toList).map d.identChars) := by
    rw [String.toList_intercalate, List.map_map, List.map_map]
    refine congrArg _ (List.map_congr_left fun name _ => ?_)
    exact String.toList_ofList
  rw [listsNames_iff, written, intercalate_identChars_eq_iff, List.forall_mem_map]

end Dialect

/-! ## Columns of dynamic rows -/

namespace Values

/-- What the column list of dynamic rows shows of their keys. -/
structure NamesColumns (d : Dialect) (maps : List ValueMap) (keys : List String) (text : String) :
    Prop where
  /-- The keys are those of every row that has any, each once and in ascending order. -/
  lists : ∀ m ∈ maps, m.keys ≠ [] → m.Lists keys
  /-- They are written one by one, as dotted names. -/
  text_eq : text = ", ".intercalate (keys.map d.ident)
  /-- What is written for a key is its quoted form just when the key is one segment. -/
  unquote_iff : ∀ k ∈ keys,
    d.unquote? (d.ident k).toList = some k.toList ↔ IsSingleSegment k.toList
  /-- The list names one column for each key just when all keys are one segment. -/
  listsNames_iff : d.ListsNames text keys ↔ ∀ k ∈ keys, IsSingleSegment k.toList

theorem lists_of_accepted {maps : List ValueMap} {source : RowSource}
    (distinct : ∀ m ∈ maps, m.HasDistinctKeys) (accepted : RowSource.ofMaps maps = .ok source) :
    ∀ m ∈ maps, m.keys ≠ [] → m.Lists source.columnNames := by
  intro m hm keyed
  obtain ⟨leading, first, rest, parts⟩ := RowSource.FirstKeyed.exists_of_keyed ⟨m, hm, keyed⟩
  rcases parts.outcome distinct with ⟨same, ok⟩ | ⟨_, _, _, -, -, -, refused⟩
  · obtain rfl := Except.ok.inj (ok.symm.trans accepted)
    have own := ValueMap.lists_sortedKeys (distinct first parts.mem_first)
    rw [parts.eq, List.mem_append, List.mem_cons] at hm
    rcases hm with empty | rfl | further
    · exact absurd (parts.empty m empty) keyed
    · exact own
    · exact ⟨own.ascending, fun k => (own.mem_iff k).trans (same m further k).symm⟩
  · exact absurd (refused.symm.trans accepted) nofun

theorem columns_ofMaps {maps : List ValueMap} {source : RowSource}
    (accepted : RowSource.ofMaps maps = .ok source) (d : Dialect) :
    (ofMaps maps).columns d = .text (", ".intercalate (source.columnNames.map d.ident)) := by
  simp [columns, ofMaps, error?, accepted, columnsText]

/-- The column list of dynamic rows names one column for each key, which can be read back from it,
just when no key has a dot or is a star. -/
theorem columns_namesColumns {maps : List ValueMap} {source : RowSource}
    (distinct : ∀ m ∈ maps, m.HasDistinctKeys) (accepted : RowSource.ofMaps maps = .ok source)
    (d : Dialect) :
    ∃ text, (ofMaps maps).columns d = .text text ∧
      NamesColumns d maps source.columnNames text := by
  refine ⟨_, columns_ofMaps accepted d, lists_of_accepted distinct accepted, rfl, fun k _ => ?_,
    d.listsNames_intercalate_ident_iff _⟩
  have alone := @Dialect.identChars_append_eq_iff d k.toList [] [] (by simp)
  simpa [Dialect.unquote?_eq_some_iff, Dialect.ident] using alone

/-- A quote in a key is doubled, and rows without keys play no part. -/
theorem columns_namesColumns_quote :
    let maps : List ValueMap := [[], [("id", .int 1), ("we\"ird", .null)]]
    let source : RowSource := .dynamic ["id", "we\"ird"] [.int 1, .null] []
    (∀ m ∈ maps, m.HasDistinctKeys) ∧ RowSource.ofMaps maps = .ok source ∧
      ∃ text, (ofMaps maps).columns .postgres = .text text ∧
        NamesColumns .postgres maps source.columnNames text ∧
        Dialect.ListsNames .postgres text ["id", "we\"ird"] := by
  intro maps source
  have distinct : ∀ m ∈ maps, m.HasDistinctKeys := by decide +kernel
  have keys : ValueMap.sortedKeys [("id", .int 1), ("we\"ird", .null)] = ["id", "we\"ird"] :=
    List.mergeSort_of_pairwise (by decide +kernel)
  have accepted : RowSource.ofMaps maps = .ok source := by
    simp [maps, source, RowSource.ofMaps, RowSource.rowsOfMaps, keys, ValueMap.get,
      List.lookup_cons]
  obtain ⟨text, listed, names⟩ := columns_namesColumns distinct accepted .postgres
  exact ⟨distinct, accepted, text, listed, names, names.listsNames_iff.mpr (by decide +kernel)⟩

/-- A star stays bare, and a dot makes two names of one key. -/
theorem columns_unnamed_dot :
    let maps : List ValueMap := [[("*", .int 1), ("a.b", .int 2)]]
    RowSource.ofMaps maps = .ok (.dynamic ["*", "a.b"] [.int 1, .int 2] []) ∧
      (ofMaps maps).columns .postgres = .text "*, \"a\".\"b\"" ∧
      ¬ Dialect.ListsNames .postgres "*, \"a\".\"b\"" ["*", "a.b"] := by
  intro maps
  have keys : ValueMap.sortedKeys [("*", .int 1), ("a.b", .int 2)] = ["*", "a.b"] :=
    List.mergeSort_of_pairwise (by decide +kernel)
  have accepted : RowSource.ofMaps maps = .ok (.dynamic ["*", "a.b"] [.int 1, .int 2] []) := by
    simp [maps, RowSource.ofMaps, RowSource.rowsOfMaps, keys, ValueMap.get, List.lookup_cons]
  have text : ", ".intercalate (["*", "a.b"].map (Dialect.ident .postgres)) =
      "*, \"a\".\"b\"" := by
    decide +kernel
  refine ⟨accepted, (columns_ofMaps accepted .postgres).trans (congrArg Fragment.text text), ?_⟩
  rw [← text, Dialect.listsNames_intercalate_ident_iff]
  decide +kernel

end Values

end SqlCompose
