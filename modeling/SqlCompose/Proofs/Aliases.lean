import SqlCompose.Relation.Join

/-!
# Aliases can be read back

The alias of a relation joins the snake-case forms of the names on its path by two underscores. No
form begins or ends with an underscore or has two of them in a row, so that an alias falls into its
forms in one way only, and different forms make different aliases.
-/

namespace SqlCompose

namespace Text

/-! ## Words without underscores -/

theorem not_of_mem_splitOnP {α : Type} {p : α → Bool} {xs w : List α} (h : w ∈ xs.splitOnP p) :
    ∀ x ∈ w, p x = false := by
  induction xs generalizing w with
  | nil =>
    rw [List.splitOnP_nil, List.mem_singleton] at h
    simp [h]
  | cons x xs ih =>
    rw [List.splitOnP_cons_eq_if_modifyHead] at h
    split at h
    · rcases List.mem_cons.mp h with rfl | h
      · simp
      · exact ih h
    · rename_i plain
      obtain ⟨first, rest, parts⟩ := List.exists_cons_of_ne_nil (List.splitOnP_ne_nil p xs)
      rw [parts] at h ih
      rcases List.mem_cons.mp h with rfl | h
      · intro y hy
        rcases List.mem_cons.mp hy with rfl | hy
        · simpa using plain
        · exact ih List.mem_cons_self y hy
      · exact ih (List.mem_cons_of_mem first h)

/-- The words of a stretch make up the stretch. -/
theorem flatten_splitHumps (h : Hump) (word : List Char) {cs : List Char} (nonempty : cs ≠ []) :
    (splitHumps h word cs).flatten = word.reverse ++ cs := by
  fun_induction splitHumps h word cs with
  | case1 => exact absurd rfl nonempty
  | case2 h word c => simp
  | case3 h word c next rest _ ih => simp [ih]
  | case4 h word c next rest _ _ ih => simp [ih]
  | case5 h word c next rest _ _ ih => simp [ih]

/-- No word is empty: once a case has been seen, the word has been begun. -/
theorem ne_nil_of_mem_splitHumps {h : Hump} {word cs w : List Char}
    (begun : h = .none ∨ word ≠ []) (mem : w ∈ splitHumps h word cs) : w ≠ [] := by
  fun_induction splitHumps h word cs with
  | case1 => simp at mem
  | case2 h word c =>
    obtain rfl := List.mem_singleton.mp mem
    simp
  | case3 h word c next rest _ ih =>
    rcases List.mem_cons.mp mem with rfl | mem
    · simp
    · exact ih (.inl rfl) mem
  | case4 h word c next rest _ run ih =>
    rcases List.mem_cons.mp mem with rfl | mem
    · simpa using begun.resolve_left (by simp [run.1])
    · exact ih (.inl rfl) mem
  | case5 h word c next rest _ _ ih => exact ih (.inr (by simp)) mem

theorem isAlphanumeric_of_mem_words {name w : List Char} (h : w ∈ words name) :
    ∀ c ∈ w, isAlphanumeric c = true := by
  intro c hc
  obtain ⟨stretch, hstretch, mem⟩ := List.mem_flatMap.mp h
  have nonempty : stretch ≠ [] := by
    rintro rfl
    simp [splitHumps] at mem
  have inside : c ∈ stretch := by
    have flat := List.mem_flatten.mpr ⟨w, mem, hc⟩
    simpa [flatten_splitHumps .none [] nonempty] using flat
  simpa using not_of_mem_splitOnP hstretch c inside

theorem ne_nil_of_mem_words {name w : List Char} (h : w ∈ words name) : w ≠ [] := by
  obtain ⟨stretch, -, mem⟩ := List.mem_flatMap.mp h
  exact ne_nil_of_mem_splitHumps (.inl rfl) mem

theorem ofNat_ne_underscore {n : Nat} (h : n ≠ 0x5f) : Char.ofNat n ≠ '_' := by
  intro same
  unfold Char.ofNat at same
  by_cases valid : n.isValidChar
  · rw [dif_pos valid] at same
    have code : (Char.ofNatAux n valid).toNat = n := rfl
    rw [same] at code
    exact h code.symm
  · rw [dif_neg valid] at same
    cases congrArg Char.toNat same

/-- No lower-case form is an underscore. -/
theorem underscore_not_mem_lowercase {c : Char} (h : c ≠ '_') : '_' ∉ lowercase c := by
  have high : ∀ shift ∈ lowercaseShifts, 0x5f < shift.span.first + shift.distance := by
    decide +kernel
  unfold lowercase
  split
  · rename_i ascii
    have lower : ∀ n < 0x80, Char.ofNat n ≠ '_' → (Char.ofNat n).toLower ≠ '_' := by decide +kernel
    have own := lower c.toNat ascii
    rw [Char.ofNat_toNat] at own
    simpa using (own h).symm
  · split
    · decide
    · split
      · rename_i shift found
        have on : shift.span.has c.toNat = true := by simpa using List.find?_some found
        have beyond := high shift (List.mem_of_find?_eq_some found)
        have reached := (Span.has_iff _ _).mp on
        have far : (c.toNat + shift.distance).toNat ≠ 0x5f := by omega
        rw [List.mem_singleton]
        exact (ofNat_ne_underscore far).symm
      · simpa using h.symm

theorem underscore_not_mem_lowercaseWord {word : List Char} (h : ∀ c ∈ word, c ≠ '_') :
    '_' ∉ lowercaseWord word := by
  fun_induction lowercaseWord word with
  | case1 => simp
  | case2 => decide
  | case3 c _ => exact underscore_not_mem_lowercase (h c List.mem_cons_self)
  | case4 c rest _ ih =>
    rw [List.forall_mem_cons] at h
    simp [underscore_not_mem_lowercase h.1, ih h.2]

theorem lowercaseWord_ne_nil {word : List Char} (h : word ≠ []) : lowercaseWord word ≠ [] := by
  fun_cases lowercaseWord word with
  | case1 => exact absurd rfl h
  | case2 => simp
  | case3 c _ => exact lowercase_ne_nil c
  | case4 c rest => simp [lowercase_ne_nil c]

/-- The words of a snake-case form. -/
def snakeWords (name : String) : List (List Char) :=
  (words name.toList).map lowercaseWord

theorem toList_snakeCase (name : String) :
    (snakeCase name).toList = ['_'].intercalate (snakeWords name) :=
  String.toList_ofList

theorem ne_nil_of_mem_snakeWords {name : String} {w : List Char} (h : w ∈ snakeWords name) :
    w ≠ [] := by
  obtain ⟨word, hword, rfl⟩ := List.mem_map.mp h
  exact lowercaseWord_ne_nil (ne_nil_of_mem_words hword)

theorem underscore_not_mem_of_mem_snakeWords {name : String} {w : List Char}
    (h : w ∈ snakeWords name) : '_' ∉ w := by
  obtain ⟨word, hword, rfl⟩ := List.mem_map.mp h
  apply underscore_not_mem_lowercaseWord
  rintro c hc rfl
  have alphanumeric := isAlphanumeric_of_mem_words hword '_' hc
  revert alphanumeric
  decide

theorem snakeWords_ne_nil {name : String} (h : snakeCase name ≠ "") : snakeWords name ≠ [] := by
  intro none
  apply h
  rw [snakeCase, snakeChars, ← snakeWords, none]
  rfl

end Text

/-! ## Aliases of paths -/

namespace JoinTree

open Text

/-- The alias at the end of a path of relation names. -/
def aliasAt (names : List String) : String :=
  "__".intercalate (names.map snakeCase)

/-- The words on a path, with an empty one between those of two names. -/
def wordsAt (names : List String) : List (List Char) :=
  [[]].intercalate (names.map snakeWords)

theorem intercalate_append {sep : List Char} {xs ys : List (List Char)} (hxs : xs ≠ [])
    (hys : ys ≠ []) :
    sep.intercalate (xs ++ ys) = sep.intercalate xs ++ sep ++ sep.intercalate ys := by
  induction xs with
  | nil => exact absurd rfl hxs
  | cons x xs ih =>
    by_cases last : xs = []
    · rw [last, List.singleton_append, List.intercalate_cons_of_ne_nil hys,
        List.intercalate_singleton]
    · have further : xs ++ ys ≠ [] := List.append_ne_nil_of_left_ne_nil last ys
      rw [List.cons_append, List.intercalate_cons_of_ne_nil further, ih last,
        List.intercalate_cons_of_ne_nil last]
      simp only [List.append_assoc]

theorem wordsAt_ne_nil {names : List String} (hne : names ≠ [])
    (h : ∀ name ∈ names, snakeCase name ≠ "") : wordsAt names ≠ [] := by
  cases names with
  | nil => exact absurd rfl hne
  | cons name rest =>
    have own := snakeWords_ne_nil (h name List.mem_cons_self)
    cases rest with
    | nil => simpa [wordsAt] using own
    | cons next rest => simp [wordsAt]

theorem wordsAt_cons_cons (name next : String) (rest : List String) :
    wordsAt (name :: next :: rest) = snakeWords name ++ [[]] ++ wordsAt (next :: rest) := by
  simp [wordsAt, List.intercalate_cons_cons]

theorem underscore_not_mem_of_mem_wordsAt {names : List String} {w : List Char}
    (h : w ∈ wordsAt names) : '_' ∉ w := by
  induction names with
  | nil => simp [wordsAt] at h
  | cons name rest ih =>
    cases rest with
    | nil =>
      have own : w ∈ snakeWords name := by simpa [wordsAt] using h
      exact underscore_not_mem_of_mem_snakeWords own
    | cons next rest =>
      rw [wordsAt_cons_cons, List.mem_append, List.mem_append, List.mem_singleton] at h
      rcases h with (own | rfl) | further
      · exact underscore_not_mem_of_mem_snakeWords own
      · simp
      · exact ih further

/-- An alias is what the words on its path make with single underscores. -/
theorem toList_aliasAt {names : List String} (h : ∀ name ∈ names, snakeCase name ≠ "") :
    (aliasAt names).toList = ['_'].intercalate (wordsAt names) := by
  induction names with
  | nil => rfl
  | cons name rest ih =>
    rw [List.forall_mem_cons] at h
    cases rest with
    | nil => simp [aliasAt, wordsAt, toList_snakeCase]
    | cons next rest =>
      have own := snakeWords_ne_nil h.1
      have further := wordsAt_ne_nil (List.cons_ne_nil next rest) h.2
      have joined : aliasAt (name :: next :: rest) =
          snakeCase name ++ "__" ++ aliasAt (next :: rest) := by
        simp [aliasAt, String.intercalate_cons_cons]
      rw [joined, wordsAt_cons_cons, intercalate_append (by simp) further,
        intercalate_append own (by simp), ← ih h.2, ← toList_snakeCase]
      simp

/-- Split at the underscores, and then at the empty words, an alias gives the words back. -/
theorem splitOn_aliasAt {names : List String} (hne : names ≠ [])
    (h : ∀ name ∈ names, snakeCase name ≠ "") :
    ((aliasAt names).toList.splitOn '_').splitOn [] = names.map snakeWords := by
  have single : ∀ w ∈ wordsAt names, '_' ∉ w := fun w hw => underscore_not_mem_of_mem_wordsAt hw
  have whole : ∀ ws ∈ names.map snakeWords, [] ∉ ws := by
    intro ws hws empty
    obtain ⟨name, -, rfl⟩ := List.mem_map.mp hws
    exact ne_nil_of_mem_snakeWords empty rfl
  rw [toList_aliasAt h, List.splitOn_intercalate '_' single (wordsAt_ne_nil hne h), wordsAt,
    List.splitOn_intercalate [] whole (by simpa using hne)]

/-- Different snake-case forms on the way make different aliases. -/
theorem map_snakeCase_eq_of_aliasAt_eq {names names' : List String} (hne : names ≠ [])
    (hne' : names' ≠ []) (h : ∀ name ∈ names, snakeCase name ≠ "")
    (h' : ∀ name ∈ names', snakeCase name ≠ "") (same : aliasAt names = aliasAt names') :
    names.map snakeCase = names'.map snakeCase := by
  have words : names.map snakeWords = names'.map snakeWords := by
    rw [← splitOn_aliasAt hne h, same, splitOn_aliasAt hne' h']
  have form : snakeCase = fun name => String.ofList (['_'].intercalate (snakeWords name)) := rfl
  have forms := congrArg (List.map fun ws => String.ofList (['_'].intercalate ws)) words
  simpa [form, List.map_map, Function.comp_def] using forms

end JoinTree

end SqlCompose
