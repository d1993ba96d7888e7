import SqlCompose.Proofs.Mirror
import SqlCompose.Query.Render

/-!
# One query in three modes

Literals and placeholders are two readings of the same pieces. The shape of a query is rendered
apart, because wide column lists and the rows of VALUES lists do not show in it, but it goes wrong
together with the query, whatever is nested in it. Where neither of the two occurs, the shape is a
third reading, with a question mark for each argument.
-/

namespace SqlCompose

/-! ## Queries whose shape leaves nothing out -/

/-- The columns of the bound table are written out in a shape too, if they are the column list. -/
def Select.HasNarrowColumns (s : Select) : Prop :=
  s.columns = [] → ∀ table, s.table = some table → table.fields.length ≤ Select.widestTable

/-- The column list, if there is one in this form, is written out in a shape too. -/
def Select.ShowsColumns (s : Select) (form : Form) : Prop :=
  form = .count ∧ s.needsCountWrapper = false ∨ s.HasNarrowColumns

mutual

/-- Nothing that is rendered is left out of the shape: no wide column list and no row of a VALUES
list, here or in a nested query. -/
def Query.ShowsAll (form : Form) : Query → Prop
  | .mk s ctes members => s.ShowsColumns form ∧ Cte.AllShowAll ctes ∧ Member.AllShowAll members

def Cte.AllShowAll : List Cte → Prop
  | [] => True
  | c :: rest => c.ShowsAll ∧ Cte.AllShowAll rest

def Cte.ShowsAll : Cte → Prop
  | .query _ q => q.ShowsAll .rows
  | .values .. => False

def Member.AllShowAll : List Member → Prop
  | [] => True
  | .mk _ q :: rest => q.ShowsAll .rows ∧ Member.AllShowAll rest

end

section

open Fragment (Mirrors)

variable {counted same : Prop} (d : Dialect) (fs : Features)

/-! ## Column lists -/

/-- A comma more or less carries no argument, and cannot go wrong. -/
theorem JoinTree.columnItems_mirrors (a b : Bool) (vs : List JoinTree.Visit) :
    Mirrors counted False (columnItems d a vs) (columnItems d b vs) := by
  induction vs generalizing a b with
  | nil => exact .refl _
  | cons v rest ih =>
    cases v with
    | error e => exact .refl _
    | ok j =>
      rw [columnItems, columnItems]
      cases j.columnItems d with
      | nil => exact ih a b
      | cons item items => exact .append (.ok (fun _ => rfl) False.elim) (.refl _)

namespace Select

theorem baseColumns_mirrors (s : Select) :
    Mirrors s.HasNarrowColumns s.HasNarrowColumns (s.baseColumns ⟨d, fs, false⟩)
      (s.baseColumns ⟨d, fs, true⟩) := by
  unfold baseColumns
  split
  · rename_i hcolumns
    cases htable : s.table with
    | none => exact .refl _
    | some table =>
      by_cases wide : widestTable < table.fields.length
      · have unequal : ¬ s.HasNarrowColumns := fun h =>
          absurd (h (by simpa using hcolumns) table htable) (Nat.not_le_of_lt wide)
        simp only [wide, and_true, if_true]
        exact .ok (fun h => absurd h unequal) fun h => absurd h unequal
      · simp only [wide, and_false, if_false]
        exact .refl _
  · exact .refl _

theorem columnList_mirrors (s : Select) :
    Mirrors s.HasNarrowColumns s.HasNarrowColumns (s.columnList ⟨d, fs, false⟩)
      (s.columnList ⟨d, fs, true⟩) :=
  Mirrors.append_flagged (g := fun _ started => JoinTree.columnItems d started s.visits) not
    (s.baseColumns_mirrors d fs) (fun _ => .refl _)
    fun a b => JoinTree.columnItems_mirrors d a b s.visits

theorem selection_mirrors (s : Select) (form : Form) :
    Mirrors (s.ShowsColumns form) (s.ShowsColumns form) (s.selection ⟨d, fs, false⟩ form)
      (s.selection ⟨d, fs, true⟩ form) := by
  by_cases h : form = .count ∧ s.needsCountWrapper = false
  · simp only [selection, h.1, h.2, Bool.not_false, and_self, if_true]
    exact .refl _
  · have list : ¬ (form = .count ∧ (!s.needsCountWrapper) = true) := by simpa using h
    simp only [selection, if_neg list]
    exact (s.columnList_mirrors d fs).mono (fun hs => hs.resolve_left h)
      fun hs => hs.resolve_left h

/-! ## Tables -/

theorem listed_mirrors_of_started (a b : Bool) (fragments : List Fragment) :
    Mirrors counted False (listed false a fragments) (listed true b fragments) := by
  induction fragments generalizing a b with
  | nil => exact .refl _
  | cons f rest ih =>
    have comma : Mirrors counted False (.text (if a then ", " else ""))
        (.text (if b then ", " else "")) := .ok (fun _ => rfl) False.elim
    exact (comma.append (.refl f)).append (ih _ _)

theorem listed_mirrors (started : Bool) (fragments : List Fragment) :
    Mirrors counted same (listed false started fragments) (listed true started fragments) := by
  induction fragments generalizing started with
  | nil => exact .refl _
  | cons f rest ih =>
    have tail : Mirrors counted same
        (f ++ listed false (started || !f.isBlank false) rest)
        (f ++ listed true (started || !f.isBlank true) rest) :=
      Mirrors.append_flagged (g := fun shapeOnly b => listed shapeOnly b rest)
        (fun blank => started || !blank) (.refl f) ih fun a b => listed_mirrors_of_started a b rest
    simpa only [listed, Fragment.append_assoc] using (Mirrors.refl _).append tail

theorem fromClause_mirrors (s : Select) :
    Mirrors counted same (s.fromClause ⟨d, fs, false⟩) (s.fromClause ⟨d, fs, true⟩) := by
  unfold fromClause
  split
  · exact .refl _
  · exact (Mirrors.refl _).append (listed_mirrors false _)

/-! ## Conditions -/

section

variable {t t' : Target} {s s' : Select}

mutual

/-- Conditions are written as the nodes in them are. -/
theorem whereItem_congr (h : ∀ n, s.node t n = s'.node t' n) (i : WhereItem) :
    s.whereItem t i = s'.whereItem t' i := by
  cases i with
  | cond c => rw [whereItem, whereItem, h]
  | group connective items => rw [whereItem, whereItem, whereItems_congr h items]

theorem whereItems_congr (h : ∀ n, s.node t n = s'.node t' n) (items : List WhereItem) :
    s.whereItems t items = s'.whereItems t' items := by
  cases items with
  | nil => rw [whereItems, whereItems]
  | cons i rest => rw [whereItems, whereItems, whereItem_congr h i, tiedItems_congr h rest]

theorem tiedItems_congr (h : ∀ n, s.node t n = s'.node t' n) (items : List WhereItem) :
    s.tiedItems t items = s'.tiedItems t' items := by
  cases items with
  | nil => rw [tiedItems, tiedItems]
  | cons i rest => rw [tiedItems, tiedItems, whereItem_congr h i, tiedItems_congr h rest]

end

theorem whereClause_congr (h : ∀ n, s.node t n = s'.node t' n) (ht : t.dialect = t'.dialect)
    (wheres : s.wheres = s'.wheres) (test : ∀ d, s.deletionTest? d = s'.deletionTest? d) :
    s.whereClause t = s'.whereClause t' := by
  unfold whereClause
  simp only [ht, wheres, test, whereItem_congr h, whereItems_congr h]

end

/-- Conditions are rendered for a dialect and nothing else. -/
theorem whereClause_target (t t' : Target) (ht : t.dialect = t'.dialect) (s : Select) :
    s.whereClause t = s.whereClause t' :=
  whereClause_congr (fun n => by simp only [node, ht]) ht rfl fun _ => rfl

/-- Only the column list and the list of tables look at what the text is rendered for. -/
theorem fragment_mirrors (s : Select) (form : Form) :
    Mirrors (s.ShowsColumns form) (s.ShowsColumns form) (s.fragment ⟨d, fs, false⟩ form)
      (s.fragment ⟨d, fs, true⟩ form) := by
  have head := ((Mirrors.refl (.text "SELECT " ++ s.distinctClause ⟨d, fs, false⟩)).append
    (s.selection_mirrors d fs form)).append (s.fromClause_mirrors d fs)
  have joined := head.append (.refl (s.joinClauses ⟨d, fs, false⟩))
  unfold fragment
  rw [whereClause_target ⟨d, fs, true⟩ ⟨d, fs, false⟩ rfl s]
  exact (((joined.append (.refl _)).append (.refl _)).append (.refl _)).append (.refl _)

end Select

/-! ## VALUES lists -/

namespace Values

theorem error?_typedValue (t : Target) (f : Field) (value : Value) :
    (typedValue t f value).error? = none := by
  unfold typedValue
  split
  · rfl
  · split <;> rfl

/-- What can go wrong in a row is in the templates, which every row has in the same places. -/
theorem map_error?_cells (t t' : Target) (ht : t.dialect = t'.dialect) (v : Values)
    (row row' : List Value) (source : RowSource) :
    (v.cells t row source).map Fragment.error? = (v.cells t' row' source).map Fragment.error? := by
  cases source with
  | typed table first further =>
    refine List.ext_getElem (by simp [cells]) fun i hi _ => ?_
    have hi : i < table.fields.length := by simpa [cells] using hi
    simp only [cells, List.getElem_map, List.getElem_mapIdx, cell, ht]
    cases overrideOf? v.overrides table.fields[i] with
    | some o => rfl
    | none => rw [error?_typedValue, error?_typedValue]
  | dynamic columns first further =>
    exact List.ext_getElem (by simp [cells]) fun i _ _ => by simp [cells]

theorem error?_tuple (t t' : Target) (ht : t.dialect = t'.dialect) (v : Values)
    (source : RowSource) (row row' : List Value) (i i' : Nat) :
    (v.tuple t source row i).error? = (v.tuple t' source row' i').error? := by
  have first (l : List Fragment) : l.findSome? Fragment.error? =
      (l.map Fragment.error?).findSome? id := by
    rw [List.findSome?_map]; rfl
  simp only [tuple, Fragment.error?_append, Fragment.error?_text, Option.none_or, Option.or_none,
    Fragment.error?_join]
  rw [first, first, map_error?_cells t t' ht v row row' source]

theorem writtenRows_ne_nil (t : Target) (source : RowSource) : writtenRows t source ≠ [] := by
  unfold writtenRows
  split
  · simp
  · cases source <;> simp [RowSource.rows]

theorem error?_rows (t t' : Target) (ht : t.dialect = t'.dialect) (v : Values)
    (source : RowSource) :
    (Fragment.join ", "
        ((writtenRows t source).mapIdx fun i row => v.tuple t source row i)).error? =
      (v.tuple t' source [] 0).error? := by
  refine Fragment.error?_join_of_forall ?_ fun f hf => ?_
  · simpa using writtenRows_ne_nil t source
  · obtain ⟨i, _, rfl⟩ := List.mem_mapIdx.mp hf
    exact v.error?_tuple t t' ht source _ _ _ _

/-- A VALUES list goes wrong whether or not its rows are looked at. -/
theorem fragment_mirrors (v : Values) :
    Mirrors False False (v.fragment ⟨d, fs, false⟩) (v.fragment ⟨d, fs, true⟩) := by
  refine .of_error?_eq ?_
  unfold fragment
  split
  · rfl
  · rfl
  · rename_i source _ _
    rw [Fragment.error?_append, Fragment.error?_append,
      v.error?_rows ⟨d, fs, false⟩ ⟨d, fs, true⟩ rfl source,
      v.error?_rows ⟨d, fs, true⟩ ⟨d, fs, true⟩ rfl source]

end Values

/-! ## Nested queries -/

theorem countWrapper_mirrors (form : Form) (s : Select) {f f' : Fragment}
    (h : Mirrors counted same f f') :
    Mirrors counted same
      (if form = .count ∧ s.needsCountWrapper then countWrapper ⟨d, fs, false⟩ f else f)
      (if form = .count ∧ s.needsCountWrapper then countWrapper ⟨d, fs, true⟩ f' else f') := by
  split
  · unfold countWrapper
    dsimp only
    split
    · exact ((((Mirrors.refl _).append h.parens).append (.refl _)).append (.refl _)).append
        (.refl _)
    · exact ((Mirrors.refl _).append h.parens).append (.refl _)
  · exact h

mutual

/-- A query and its shape go wrong together. -/
theorem Query.fragment_mirrors (form : Form) (q : Query) :
    Mirrors (q.ShowsAll form) (q.ShowsAll form) (q.fragment ⟨d, fs, false⟩ form)
      (q.fragment ⟨d, fs, true⟩ form) := by
  obtain ⟨s, ctes, members⟩ := q
  rw [Query.fragment, Query.fragment, Query.ShowsAll]
  cases s.error with
  | some e => exact .refl _
  | none =>
    have inFront : s.ShowsColumns form ∧ Cte.AllShowAll ctes ∧ Member.AllShowAll members →
        Cte.AllShowAll ctes := fun h => h.2.1
    have after : s.ShowsColumns form ∧ Cte.AllShowAll ctes ∧ Member.AllShowAll members →
        Member.AllShowAll members := fun h => h.2.2
    have first := ((withClause_mirrors ctes).mono inFront inFront).append
      ((s.fragment_mirrors d fs form).mono And.left And.left)
    have behind := (memberFragments_mirrors members).mono after after
    cases members with
    | nil => exact countWrapper_mirrors d fs form s first
    | cons m rest => exact countWrapper_mirrors d fs form s (first.parens.append behind)

theorem withClause_mirrors (ctes : List Cte) :
    Mirrors (Cte.AllShowAll ctes) (Cte.AllShowAll ctes) (withClause ⟨d, fs, false⟩ ctes)
      (withClause ⟨d, fs, true⟩ ctes) := by
  cases ctes with
  | nil => exact .refl _
  | cons c rest =>
    rw [withClause, withClause, Cte.AllShowAll]
    exact (((Mirrors.refl _).append ((Cte.fragment_mirrors c).mono And.left And.left)).append
      ((furtherCtes_mirrors rest).mono And.right And.right)).append (.refl _)

theorem furtherCtes_mirrors (ctes : List Cte) :
    Mirrors (Cte.AllShowAll ctes) (Cte.AllShowAll ctes) (furtherCtes ⟨d, fs, false⟩ ctes)
      (furtherCtes ⟨d, fs, true⟩ ctes) := by
  cases ctes with
  | nil => exact .refl _
  | cons c rest =>
    rw [furtherCtes, furtherCtes, Cte.AllShowAll]
    exact ((Mirrors.refl _).append ((Cte.fragment_mirrors c).mono And.left And.left)).append
      ((furtherCtes_mirrors rest).mono And.right And.right)

theorem Cte.fragment_mirrors (c : Cte) :
    Mirrors c.ShowsAll c.ShowsAll (c.fragment ⟨d, fs, false⟩) (c.fragment ⟨d, fs, true⟩) := by
  cases c with
  | query name q => exact (Mirrors.refl _).append (Query.fragment_mirrors .rows q).parens
  | values name v => exact (Mirrors.refl _).append (v.fragment_mirrors d fs).parens

theorem memberFragments_mirrors (members : List Member) :
    Mirrors (Member.AllShowAll members) (Member.AllShowAll members)
      (memberFragments ⟨d, fs, false⟩ members) (memberFragments ⟨d, fs, true⟩ members) := by
  cases members with
  | nil => exact .refl _
  | cons m rest =>
    obtain ⟨operator, q⟩ := m
    rw [memberFragments, memberFragments, Member.AllShowAll]
    exact ((Mirrors.refl _).append
      ((Query.fragment_mirrors .rows q).parens.mono And.left And.left)).append
      ((memberFragments_mirrors rest).mono And.right And.right)

end

end

/-! ## The three texts -/

/-- The texts of a query: one sequence of text and data for literals and for placeholders, and the
sequence behind its shape. -/
structure Query.Readings (d : Dialect) (form : Form) (q : Query)
    (pieces shaped : List Piece) : Prop where
  /-- Names and trusted SQL count as text. -/
  data : ∀ v ∈ Piece.args (pieces ++ shaped), v.isStructural = false
  literal : q.render d .literal form = .ok { sql := String.join (pieces.map (Piece.literal d)) }
  bind : q.render d .bind form =
    .ok { sql := String.join (Piece.slots d 0 (pieces.flatMap (Piece.leaves d)))
          args := Piece.args (pieces.flatMap (Piece.leaves d)) }
  /-- What is bound is neither a list with items nor a part of the text. -/
  leaves : ∀ v ∈ Piece.args (pieces.flatMap (Piece.leaves d)), v.isLeaf = true
  /-- With literals for the placeholders the bound text is the literal text. -/
  unbound : String.join ((pieces.flatMap (Piece.leaves d)).map (Piece.literal d)) =
    String.join (pieces.map (Piece.literal d))
  shape : q.render d .shape form = .ok { sql := String.join (shaped.map Piece.mark) }
  /-- Each argument shows as one question mark, and in its place. -/
  shown : q.ShowsAll form → Piece.args pieces = Piece.args shaped ∧
    ((∀ v ∈ Piece.args pieces, v.isBlank = false) → pieces = shaped)

theorem Query.readings_of_ok {d : Dialect} {form : Form} {q : Query} {ps qs : List Piece}
    (hdata : ∀ m, m ≠ .shape → q.fragment (d.target m) form = .ok ps)
    (hshape : q.fragment (d.target .shape) form = .ok qs)
    (counted : q.ShowsAll form → Piece.args ps = Piece.args qs)
    (same : q.ShowsAll form → (∀ v ∈ Piece.args ps, v.isHidden = false) → ps = qs) :
    q.Readings d form (ps.map (Piece.settled d)) (qs.map (Piece.settled d)) where
  data := by
    intro v hv
    rw [← List.map_append] at hv
    exact Piece.not_isStructural_of_mem_settled d _ v hv
  literal := by
    rw [render, hdata .literal (by decide), Fragment.write, ← Piece.write_settled]
    rfl
  bind := by
    rw [render, hdata .bind (by decide), Fragment.write, ← Piece.write_settled, Piece.write,
      Piece.number_eq]
  leaves := Piece.isLeaf_of_mem_leaves d _
  unbound := Piece.join_literal_leaves d _
  shape := by
    rw [render, hshape, Fragment.write, ← Piece.write_settled, Piece.write,
      Piece.map_shape_eq_map_mark d (Piece.not_isStructural_of_mem_settled d qs)]
  shown := by
    intro h
    refine ⟨by rw [Piece.args_settled, Piece.args_settled, counted h], fun visible => ?_⟩
    rw [same h fun v hv => ?_]
    cases hs : v.isStructural with
    | true => simp [Value.isHidden, hs]
    | false =>
      have : v.isBlank = false := visible v (by simp [Piece.args_settled, hv, hs])
      simp [Value.isHidden, this]

/-- A query goes wrong in every mode, with one error, or in none. Its literals and its placeholders
are then two readings of the same text and data, and its shape is a third one unless rows or a wide
column list are left out of it. -/
theorem Query.render_modes (d : Dialect) (form : Form) (q : Query) :
    (∃ e, ∀ m, q.render d m form = .error e) ∨
      ∃ pieces shaped, q.Readings d form pieces shaped := by
  have mirrors := Query.fragment_mirrors d d.features form q
  generalize hdata : q.fragment ⟨d, d.features, false⟩ form = f at mirrors
  generalize hshape : q.fragment ⟨d, d.features, true⟩ form = g at mirrors
  -- The targets of the two modes with data are one and the same.
  have target (m : Mode) (hm : m ≠ .shape) : d.target m = ⟨d, d.features, false⟩ := by
    simp [Dialect.target, hm]
  cases mirrors with
  | fail e =>
    refine .inl ⟨e, fun m => ?_⟩
    by_cases hm : m = .shape
    · subst hm
      rw [render, show d.target .shape = ⟨d, d.features, true⟩ from rfl, hshape, Fragment.write]
    · rw [render, target m hm, hdata, Fragment.write]
  | ok counted same =>
    exact .inr ⟨_, _, Query.readings_of_ok (fun m hm => by rw [target m hm, hdata]) hshape counted
      same⟩

end SqlCompose
