import SqlCompose.Proofs.Aliases

/-!
# The seams of aliases

Two underscores stand between the forms of an alias, and between an alias and a column. A form has
no two underscores in a row and does not end in one, so that the first two underscores in a row are
always such a seam: what stands before them and what stands behind them can be told apart, also
where a form is empty and where a column begins or ends with an underscore.
-/

namespace SqlCompose

namespace Text

/-- Each underscore has another character behind it. -/
inductive IsTight : List Char → Prop
  | nil : IsTight []
  | plain {c : Char} {rest : List Char} : c ≠ '_' → IsTight rest → IsTight (c :: rest)
  | single {c : Char} {rest : List Char} :
      c ≠ '_' → IsTight (c :: rest) → IsTight ('_' :: c :: rest)

/-- Whether there are two underscores in a row. -/
def HasSeam (s : String) : Prop :=
  ['_', '_'] <:+: s.toList

instance (s : String) : Decidable (HasSeam s) :=
  inferInstanceAs (Decidable (_ <:+: _))

theorem isTight_append {word rest : List Char} (h : '_' ∉ word) (tight : IsTight rest) :
    IsTight (word ++ rest) := by
  induction word with
  | nil => exact tight
  | cons c word ih =>
    rw [List.mem_cons, not_or] at h
    apply IsTight.plain
    · exact fun same => h.1 same.symm
    · exact ih h.2

/-- Words without underscores are tight behind single ones. -/
theorem isTight_intercalate {words : List (List Char)}
    (h : ∀ w ∈ words, w ≠ [] ∧ '_' ∉ w) : IsTight (['_'].intercalate words) := by
  induction words with
  | nil => exact .nil
  | cons word rest ih =>
    rw [List.forall_mem_cons] at h
    have later := ih h.2
    cases rest with
    | nil =>
      rw [List.intercalate_singleton, ← List.append_nil word]
      exact isTight_append h.1.2 .nil
    | cons next rest =>
      obtain ⟨nonempty, without⟩ := h.2 next List.mem_cons_self
      obtain ⟨c, cs, rfl⟩ := List.exists_cons_of_ne_nil nonempty
      have other : c ≠ '_' := fun same => without (same ▸ List.mem_cons_self)
      have begins : ∃ cs', ['_'].intercalate ((c :: cs) :: rest) = c :: cs' := by
        cases rest with
        | nil => exact ⟨cs, List.intercalate_singleton⟩
        | cons word' rest =>
          rw [List.intercalate_cons_cons]
          exact ⟨_, rfl⟩
      obtain ⟨cs', begins⟩ := begins
      rw [List.intercalate_cons_cons, List.append_assoc]
      apply isTight_append h.1.2
      rw [begins] at later ⊢
      exact .single other later

theorem isTight_snakeCase (name : String) : IsTight (snakeCase name).toList := by
  rw [toList_snakeCase]
  apply isTight_intercalate
  intro w hw
  exact ⟨ne_nil_of_mem_snakeWords hw, underscore_not_mem_of_mem_snakeWords hw⟩

theorem IsTight.tail {c : Char} {cs : List Char} (h : IsTight (c :: cs)) : IsTight cs := by
  cases h with
  | plain _ tight => exact tight
  | single _ tight => exact tight

theorem IsTight.of_append {before behind : List Char} (h : IsTight (before ++ behind)) :
    IsTight behind := by
  induction before with
  | nil => exact h
  | cons c before ih => exact ih h.tail

theorem IsTight.ne_seam {behind : List Char} : ¬ IsTight ('_' :: '_' :: behind) := by
  intro h
  cases h with
  | plain other => exact other rfl
  | single other => exact other rfl

theorem not_hasSeam_snakeCase (name : String) : ¬ HasSeam (snakeCase name) := by
  intro seam
  obtain ⟨before, behind, same⟩ := seam
  have tight := isTight_snakeCase name
  rw [← same, List.append_assoc] at tight
  exact IsTight.ne_seam tight.of_append

/-- No seam begins inside a tight text. -/
theorem IsTight.seam_ne_append {c : Char} {cs x y : List Char} (h : IsTight (c :: cs)) :
    '_' :: '_' :: x ≠ c :: cs ++ '_' :: '_' :: y := by
  intro same
  cases h with
  | plain other => exact other (List.cons.inj same).1.symm
  | single other => exact other (List.cons.inj (List.cons.inj same).2).1.symm

/-- The first seam parts a text in one way only. -/
theorem eq_of_append_seam {a b x y : List Char} (ha : IsTight a) (hb : IsTight b)
    (h : a ++ '_' :: '_' :: x = b ++ '_' :: '_' :: y) : a = b ∧ x = y := by
  induction a generalizing b with
  | nil =>
    cases b with
    | nil => exact ⟨rfl, (List.cons.inj (List.cons.inj h).2).2⟩
    | cons c cs =>
      -- The seam would begin inside the tight text.
      exact absurd h hb.seam_ne_append
  | cons c cs ih =>
    cases b with
    | nil => exact absurd h.symm ha.seam_ne_append
    | cons c' cs' =>
      obtain ⟨first, rest⟩ := List.cons.inj h
      obtain ⟨same, behind⟩ := ih ha.tail hb.tail rest
      exact ⟨by rw [first, same], behind⟩

/-- A form can be told from what stands behind it. -/
theorem eq_of_snakeCase_append_seam {a b x y : String}
    (h : snakeCase a ++ "__" ++ x = snakeCase b ++ "__" ++ y) :
    snakeCase a = snakeCase b ∧ x = y := by
  have chars : (snakeCase a).toList ++ '_' :: '_' :: x.toList =
      (snakeCase b).toList ++ '_' :: '_' :: y.toList := by
    simpa using congrArg String.toList h
  obtain ⟨forms, behind⟩ :=
    eq_of_append_seam (isTight_snakeCase a) (isTight_snakeCase b) chars
  exact ⟨String.toList_inj.mp forms, String.toList_inj.mp behind⟩

theorem hasSeam_append (a x : String) : HasSeam (a ++ "__" ++ x) :=
  ⟨a.toList, x.toList, by simp⟩

end Text

namespace JoinTree

open Text

theorem aliasAt_cons_cons (first second : String) (path : List String) :
    aliasAt (first :: second :: path) =
      snakeCase first ++ "__" ++ aliasAt (second :: path) := by
  simp [aliasAt, String.intercalate_cons_cons]

/-- An alias tells all forms on its path, be they empty or not. -/
theorem forms_eq_of_aliasAt_eq {path path' : List String} (hne : path ≠ []) (hne' : path' ≠ [])
    (same : aliasAt path = aliasAt path') : path.map snakeCase = path'.map snakeCase := by
  have single (name : String) : aliasAt [name] = snakeCase name := by simp [aliasAt]
  induction path generalizing path' with
  | nil => exact absurd rfl hne
  | cons first path ih =>
    obtain ⟨first', rest', rfl⟩ := List.exists_cons_of_ne_nil hne'
    cases path with
    | nil =>
      cases rest' with
      | nil =>
        rw [single, single] at same
        rw [List.map_singleton, List.map_singleton, same]
      | cons second' rest' =>
        rw [single, aliasAt_cons_cons] at same
        exact absurd (same ▸ hasSeam_append _ _) (not_hasSeam_snakeCase first)
    | cons second path =>
      cases rest' with
      | nil =>
        rw [single, aliasAt_cons_cons] at same
        exact absurd (same ▸ hasSeam_append _ _) (not_hasSeam_snakeCase first')
      | cons second' rest' =>
        rw [aliasAt_cons_cons, aliasAt_cons_cons] at same
        obtain ⟨head, behind⟩ := eq_of_snakeCase_append_seam same
        have rest := ih (List.cons_ne_nil second path) (List.cons_ne_nil second' rest') behind
        rw [List.map_cons, head, rest, ← List.map_cons]

end JoinTree

end SqlCompose
