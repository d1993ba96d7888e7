import Mathlib.Algebra.GroupWithZero.Nat
import Mathlib.Data.List.Forall2
import SqlCompose.Proofs.FirstError
import SqlCompose.Proofs.Groups
import SqlCompose.Proofs.Modes

/-!
# Rows and their columns

A VALUES list names its columns and writes a tuple for each row. The main statement tells the sizes
of the tuples, and when they are those of the column list: a value that falls into several elements
moves the ones behind it into the wrong columns.
-/

namespace SqlCompose

/-! ## Fragments as lists -/

namespace Fragment

variable {d : Dialect} {allowed : Value → Prop} {f g : Fragment} {t t' t'' : Tally}

/-- A fragment whose arguments are allowed, and what its text changes in a tally when each of the
values in it is written as one element. -/
def Leads (d : Dialect) (allowed : Value → Prop) (f : Fragment) (t t' : Tally) : Prop :=
  ∃ ps, f = .ok ps ∧ (∀ v ∈ Piece.args ps, allowed v) ∧
    ∀ s, Spelled d (ps.flatMap (Piece.leaves d)) s → d.Leads s t t'

theorem leads_empty (t : Tally) : Leads d allowed empty t t := by
  refine ⟨[], rfl, by simp, fun s spelled => ?_⟩
  cases spelled
  exact Dialect.leads_empty t

theorem leads_text {s : String} (h : d.Leads s t t') : Leads d allowed (text s) t t' := by
  refine ⟨[.text s], rfl, by simp, fun s' spelled => ?_⟩
  cases spelled with
  | text a rest =>
    cases rest
    simpa using h

theorem leads_arg {v : Value} (ok : allowed v) (untrusted : v.holdsTrusted = false) (t : Tally) :
    Leads d allowed (arg v) t (t.more (v.width - 1)) := by
  refine ⟨[.arg v], rfl, by simpa using ok, fun s spelled => ?_⟩
  exact v.leads_of_spelled untrusted (by simpa [Piece.leaves] using spelled) t

theorem Leads.append (hf : f.Leads d allowed t t') (hg : g.Leads d allowed t' t'') :
    (f ++ g).Leads d allowed t t'' := by
  obtain ⟨ps, rfl, allowedPs, leadsPs⟩ := hf
  obtain ⟨qs, rfl, allowedQs, leadsQs⟩ := hg
  refine ⟨ps ++ qs, rfl, ?_, fun s spelled => ?_⟩
  · rw [Piece.args_append]
    exact List.forall_mem_append.mpr ⟨allowedPs, allowedQs⟩
  · rw [List.flatMap_append] at spelled
    obtain ⟨a, b, rfl, first, second⟩ := spelled.exists_append
    exact (leadsPs a first).append (leadsQs b second)

/-- What a join changes, one item after the other, if every item counts up from where it finds the
tally. -/
theorem leads_join {α : Type} {P : Tally → Prop} {c : Tally → α → Tally} {x : α}
    {fs : List Fragment} {xs : List α}
    (own : ∀ t, P t → f.Leads d allowed t (c t x))
    (further : List.Forall₂ (fun f x => ∀ t, P t → f.Leads d allowed t (c t x)) fs xs)
    (comma : ∀ t, P t → P (t.more 1)) (stays : ∀ t x, P t → P (c t x)) (ht : P t) :
    (join ", " (f :: fs)).Leads d allowed t (xs.foldl (fun t x => c (t.more 1) x) (c t x)) := by
  refine (own t ht).append ?_
  have behind := stays t x ht
  generalize c t x = t at behind
  induction further generalizing t with
  | nil => exact leads_empty t
  | cons first rest ih =>
    have separated := (leads_text (Value.leads_comma t)).append (first _ (comma t behind))
    exact separated.append (ih _ (stays _ _ (comma t behind)))

/-- What is written in a mode leads where the fragment leads. In a shape only nulls are allowed. -/
theorem Leads.exists_write (h : f.Leads d allowed t t') (m : Mode)
    (nulls : m = .shape → ∀ v, allowed v → v = .null) :
    ∃ r, f.write d m = .ok r ∧ d.Leads r.sql t t' := by
  obtain ⟨ps, rfl, args, leads⟩ := h
  refine ⟨Piece.write d ps m, rfl, leads _ ?_⟩
  cases m with
  | literal =>
    rw [Piece.write, ← Piece.join_literal_leaves]
    exact .of_map (fun _ => rfl) fun v hv =>
      Value.isAtom_literal_of_isLeaf d (Piece.isLeaf_of_mem_leaves d ps v hv)
  | bind => exact .of_number d 0 _
  | shape =>
    have null (v : Value) (hv : v ∈ Piece.args ps) : v = .null := nulls rfl v (args v hv)
    have leaves : ps.flatMap (Piece.leaves d) = ps := by
      clear args leads nulls
      induction ps with
      | nil => rfl
      | cons p ps ih =>
        cases p with
        | text a => simpa [Piece.leaves] using ih null
        | arg v =>
          obtain ⟨rfl, later⟩ := List.forall_mem_cons.mp null
          simpa [Piece.leaves, Value.leaves] using ih later
    rw [leaves]
    refine .of_map (fun _ => rfl) fun v hv => ?_
    rw [null v hv]
    exact d.isAtom_word (s := "?") (by decide) (by decide)

end Fragment

/-! ## Type names -/

/-- Whether every parenthesis is closed, of which some are open, and commas stand only between
them. -/
def isClosed : Nat → List Char → Bool
  | n, [] => n == 0
  | n, '(' :: rest => isClosed (n + 1) rest
  | n, ')' :: rest => n != 0 && isClosed (n - 1) rest
  | n, ',' :: rest => n != 0 && isClosed n rest
  | n, _ :: rest => isClosed n rest

/-- Whether SQL text can name one type, as `numeric(10, 2)` does. -/
def Dialect.IsTypeName (d : Dialect) (sqlType : String) : Prop :=
  Spot.read d .code sqlType.toList = .code ∧
    isClosed 0 (Spot.bare d .code sqlType.toList) = true

instance (d : Dialect) (sqlType : String) : Decidable (d.IsTypeName sqlType) :=
  inferInstanceAs (Decidable (_ ∧ _))

theorem Tally.foldl_next_of_isClosed {n : Nat} {cs : List Char} (h : isClosed n cs = true)
    {t : Tally} (inside : t.depth ≠ 0) :
    cs.foldl next { t with depth := t.depth + n } = t := by
  have outer : t.depth + n ≠ 0 := by omega
  fun_induction isClosed n cs with
  | case1 n =>
    obtain rfl := beq_iff_eq.mp h
    rfl
  | case2 n rest ih =>
    have opened : next { t with depth := t.depth + n } '(' =
        { t with depth := t.depth + (n + 1) } := by
      simp [next, inside, Nat.add_assoc]
    rw [List.foldl_cons, opened]
    exact ih h (by omega)
  | case3 n rest ih =>
    obtain ⟨open_, h⟩ := Bool.and_eq_true_iff.mp h
    have some : n ≠ 0 := by simpa using open_
    have closed : next { t with depth := t.depth + n } ')' =
        { t with depth := t.depth + (n - 1) } := by
      have deep : t.depth + n ≠ 1 := by omega
      simp [next, deep, Nat.add_sub_assoc (Nat.one_le_iff_ne_zero.mpr some)]
    rw [List.foldl_cons, closed]
    exact ih h (by omega)
  | case4 n rest ih =>
    obtain ⟨open_, h⟩ := Bool.and_eq_true_iff.mp h
    have some : n ≠ 0 := by simpa using open_
    have same : next { t with depth := t.depth + n } ',' = { t with depth := t.depth + n } := by
      have deep : t.depth + n ≠ 1 := by omega
      simp [next, deep]
    rw [List.foldl_cons, same]
    exact ih h outer
  | case5 n c rest opening closing comma ih =>
    have same : next { t with depth := t.depth + n } c = { t with depth := t.depth + n } := by
      have h₁ : c ≠ '(' := fun same => opening same
      have h₂ : c ≠ ')' := fun same => closing same
      have h₃ : c ≠ ',' := fun same => comma same
      simp [next, h₁, h₂, h₃]
    rw [List.foldl_cons, same]
    exact ih h outer

theorem Dialect.IsTypeName.leads {d : Dialect} {sqlType : String} (h : d.IsTypeName sqlType)
    {t : Tally} (inside : t.depth ≠ 0) : d.Leads sqlType t t :=
  ⟨h.1, Tally.foldl_next_of_isClosed h.2 inside⟩

/-! ## Cells -/

/-- The sizes of the cells of a row: a cast in the form of a call encloses its value. -/
def RowSource.widths (castOperator : Bool) (row : List Value) : RowSource → List Nat
  | .typed table .. => table.fields.mapIdx fun i f =>
    if f.sqlType.isSome ∧ castOperator = false then 1 else (row.getD i .null).width
  | .dynamic columns .. => columns.mapIdx fun i _ => (row.getD i .null).width

/-- The number of elements in the tuple of a row. -/
def RowSource.tupleSize (castOperator withOrder : Bool) (source : RowSource) (row : List Value) :
    Nat :=
  (source.widths castOperator row).sum + if withOrder then 1 else 0

theorem RowSource.length_widths (castOperator : Bool) (source : RowSource) (row : List Value) :
    (source.widths castOperator row).length = source.columnNames.length := by
  cases source <;> simp [widths, columnNames]

theorem RowSource.widths_pos {castOperator : Bool} {source : RowSource} {row : List Value} :
    ∀ w ∈ source.widths castOperator row, 0 < w := by
  intro w hw
  cases source with
  | typed table first further =>
    obtain ⟨i, _, rfl⟩ := List.mem_mapIdx.mp hw
    split
    · exact Nat.one_pos
    · exact Value.width_pos _
  | dynamic columns first further =>
    obtain ⟨i, _, rfl⟩ := List.mem_mapIdx.mp hw
    exact Value.width_pos _

/-- Each cell of a row is one element. -/
def RowSource.Fits (castOperator : Bool) (source : RowSource) (row : List Value) : Prop :=
  ∀ w ∈ source.widths castOperator row, w = 1

theorem RowSource.tupleSize_eq_iff {castOperator withOrder : Bool} {source : RowSource}
    {row : List Value} :
    source.tupleSize castOperator withOrder row =
        source.columnNames.length + (if withOrder then 1 else 0) ↔
      source.Fits castOperator row := by
  have ones (ws : List Nat) (positive : ∀ w ∈ ws, 0 < w) :
      ws.length ≤ ws.sum ∧ (ws.sum = ws.length ↔ ∀ w ∈ ws, w = 1) := by
    induction ws with
    | nil => simp
    | cons w ws ih =>
      obtain ⟨own, later⟩ := List.forall_mem_cons.mp positive
      obtain ⟨least, ones⟩ := ih later
      rw [List.forall_mem_cons, List.sum_cons, List.length_cons, ← ones]
      omega
  rw [tupleSize, Nat.add_right_cancel_iff, ← length_widths castOperator source row]
  exact (ones _ widths_pos).2

/-- A row without data has nulls for its cells. -/
theorem RowSource.fits_nil (castOperator : Bool) (source : RowSource) :
    source.Fits castOperator [] := by
  intro w hw
  cases source with
  | typed table first further =>
    obtain ⟨i, _, rfl⟩ := List.mem_mapIdx.mp hw
    split <;> rfl
  | dynamic columns first further =>
    obtain ⟨i, _, rfl⟩ := List.mem_mapIdx.mp hw
    rfl

/-- The declared types of fields are names of types. -/
def RowSource.HasTypeNames (d : Dialect) : RowSource → Prop
  | .typed table .. => ∀ f ∈ table.fields, ∀ sqlType ∈ f.sqlType, d.IsTypeName sqlType
  | .dynamic .. => True

namespace Tally

@[simp] theorem depth_more (t : Tally) (n : Nat) : (t.more n).depth = t.depth := by
  unfold more
  split <;> rfl

@[simp] theorem sizes_more (t : Tally) (n : Nat) : (t.more n).sizes = t.sizes := by
  unfold more
  split <;> rfl

/-- A list of `n` elements behind a tally. -/
def closed (t : Tally) (n : Nat) : Tally :=
  { depth := 0, commas := n - 1, sizes := t.sizes ++ [n] }

theorem foldl_more {w : Nat} {ws : List Nat} (positive : ∀ n ∈ w :: ws, 0 < n) (t : Tally) :
    ws.foldl (fun t n => (t.more 1).more (n - 1)) (t.more (w - 1)) =
      t.more ((w :: ws).sum - 1) := by
  induction ws generalizing w with
  | nil => simp
  | cons n ws ih =>
    have first := positive w List.mem_cons_self
    have second := positive n (by simp)
    have joined : w - 1 + (1 + (n - 1)) = w + n - 1 := by omega
    rw [List.foldl_cons, more_more, more_more, joined, ih (w := w + n), List.sum_cons,
      List.sum_cons, List.sum_cons, Nat.add_assoc]
    intro k hk
    rcases List.mem_cons.mp hk with rfl | hk
    · omega
    · exact positive k (by simp [hk])

theorem foldl_closed (n : Nat) (ns : List Nat) (t : Tally) :
    (ns.foldl (fun t n => (t.more 1).closed n) (t.closed n)).sizes = t.sizes ++ n :: ns := by
  induction ns generalizing n t with
  | nil => rfl
  | cons m ns ih =>
    rw [List.foldl_cons, ih]
    simp [closed]

/-- A list whose elements have been counted, from the parenthesis before it on. -/
theorem next_closing {t : Tally} (outside : t.depth = 0) {n : Nat} (nonempty : 0 < n) :
    ((t.next '(').more (n - 1)).next ')' = t.closed n := by
  have size : n - 1 + 1 = n := by omega
  simp [next, more, closed, outside, size]

end Tally

namespace Dialect

variable (d : Dialect)

theorem leads_opening (t : Tally) : d.Leads "(" t (t.next '(') := by
  cases d <;> exact ⟨rfl, rfl⟩

theorem leads_closing (t : Tally) : d.Leads ")" t (t.next ')') := by
  cases d <;> exact ⟨rfl, rfl⟩

end Dialect

namespace Values

open Fragment

variable {allowed : Value → Prop} {target : Target} {t : Tally}

/-- A value is cast without changing how many elements it is written as, unless the cast encloses
it. -/
theorem leads_typedValue {f : Field} {value : Value} (ok : allowed value)
    (untrusted : value.holdsTrusted = false)
    (types : ∀ sqlType ∈ f.sqlType, target.dialect.IsTypeName sqlType) (inside : t.depth ≠ 0) :
    (typedValue target f value).Leads target.dialect allowed t
      (t.more ((if f.sqlType.isSome ∧ target.features.has .castOperator = false then 1
        else value.width) - 1)) := by
  unfold typedValue
  cases declared : f.sqlType with
  | none => simpa using leads_arg ok untrusted t
  | some sqlType =>
    have name := types sqlType declared
    dsimp only
    split
    · rename_i castOperator
      have colons : target.dialect.IsAtom "::" :=
        target.dialect.isAtom_word (by decide) (by decide)
      have both := (leads_arg ok untrusted t).append
        (leads_text ((colons.leads _).append (name.leads (by simpa using inside))))
      simpa [castOperator] using both
    · rename_i castOperator
      have word : target.dialect.IsAtom "CAST" :=
        target.dialect.isAtom_word (by decide) (by decide)
      have as : target.dialect.IsAtom " AS " := target.dialect.isAtom_word (by decide) (by decide)
      have opened : t.next '(' = { t with depth := t.depth + 1 } := by
        simp [Tally.next, inside]
      have deep : ({ t with depth := t.depth + 1 } : Tally).more (value.width - 1) =
          { t with depth := t.depth + 1 } := by
        simp [Tally.more, inside]
      have closed : ({ t with depth := t.depth + 1 } : Tally).next ')' = t := by
        simp [Tally.next, inside]
      have before := (word.leads t).append (target.dialect.leads_opening t)
      have behind := ((as.leads _).append (name.leads (Nat.succ_ne_zero t.depth))).append
        (target.dialect.leads_closing { t with depth := t.depth + 1 })
      rw [opened] at before
      rw [closed] at behind
      have value := leads_arg (d := target.dialect) ok untrusted { t with depth := t.depth + 1 }
      rw [deep] at value
      have all := ((leads_text before).append value).append (leads_text behind)
      simpa [castOperator] using all

theorem leads_cells {v : Values} {source : RowSource} {row : List Value}
    (plain : v.overrides = []) (ok : ∀ i : Nat, allowed (row.getD i .null))
    (untrusted : ∀ i : Nat, (row.getD i .null).holdsTrusted = false)
    (types : source.HasTypeNames target.dialect) :
    List.Forall₂ (fun f w => ∀ t : Tally, t.depth ≠ 0 →
        f.Leads target.dialect allowed t (t.more (w - 1)))
      (v.cells target row source) (source.widths (target.features.has .castOperator) row) := by
  cases source with
  | typed table first further =>
    simp only [cells, RowSource.widths, List.mapIdx_eq_zipIdx_map, List.forall₂_map_left_iff,
      List.forall₂_map_right_iff, List.forall₂_same]
    intro x hx t inside
    have field : x.1 ∈ table.fields := (List.mem_zipIdx' hx).2 ▸ List.getElem_mem _
    simpa [cell, overrideOf?, plain] using
      leads_typedValue (ok x.2) (untrusted x.2) (types x.1 field) inside
  | dynamic columns first further =>
    simp only [cells, RowSource.widths, List.mapIdx_eq_zipIdx_map, List.forall₂_map_left_iff,
      List.forall₂_map_right_iff, List.forall₂_same]
    exact fun x _ t _ => leads_arg (ok x.2) (untrusted x.2) t

/-- Cells between parentheses, with the number of the row behind them when rows are counted. -/
theorem leads_tuple {v : Values} {source : RowSource} {row : List Value}
    (plain : v.overrides = []) (columns : source.columnNames ≠ [])
    (ok : ∀ i : Nat, allowed (row.getD i .null))
    (untrusted : ∀ i : Nat, (row.getD i .null).holdsTrusted = false)
    (types : source.HasTypeNames target.dialect) (number : Nat) (outside : t.depth = 0) :
    (v.tuple target source row number).Leads target.dialect allowed t
      (t.closed (source.tupleSize (target.features.has .castOperator) v.withOrder row)) := by
  have opening : target.dialect.Leads (if target.features.has .valuesRow then "ROW(" else "(") t
      (t.next '(') := by
    split
    · have word : target.dialect.IsAtom "ROW" :=
        target.dialect.isAtom_word (by decide) (by decide)
      exact (word.leads t).append (target.dialect.leads_opening t)
    · exact target.dialect.leads_opening t
  have inside : (t.next '(').depth ≠ 0 := by simp [Tally.next]
  have own := leads_cells plain ok untrusted types
  have positive := @RowSource.widths_pos (target.features.has .castOperator) source row
  have count := source.length_widths (target.features.has .castOperator) row
  unfold tuple RowSource.tupleSize
  generalize v.cells target row source = fs at own
  generalize source.widths (target.features.has .castOperator) row = ws at own positive count
  cases own with
  | nil => exact absurd (List.length_eq_zero_iff.mp count.symm) columns
  | @cons f w fs ws first further =>
    have cells := leads_join (P := fun t => t.depth ≠ 0)
      (c := fun t w => t.more (w - 1)) first further
      (fun t ht => by simpa using ht) (fun t w ht => by simpa using ht) inside
    rw [Tally.foldl_more positive] at cells
    have some : 0 < (w :: ws).sum := by
      have := positive w List.mem_cons_self
      rw [List.sum_cons]
      omega
    refine ((leads_text opening).append cells).append (leads_text ?_)
    cases v.withOrder with
    | false =>
      have closing := target.dialect.leads_closing ((t.next '(').more ((w :: ws).sum - 1))
      rw [Tally.next_closing outside some] at closing
      simpa using closing
    | true =>
      have closing := ((Value.leads_comma _).append
        ((Dialect.isAtom_nat (d := target.dialect) number).leads _)).append
        (target.dialect.leads_closing (((t.next '(').more ((w :: ws).sum - 1)).more 1))
      rw [Tally.more_more, show (w :: ws).sum - 1 + 1 = (w :: ws).sum + 1 - 1 by omega,
        Tally.next_closing outside (Nat.succ_pos _)] at closing
      simpa using closing

theorem leads_rows {v : Values} {source : RowSource} (plain : v.overrides = [])
    (columns : source.columnNames ≠ []) {rows : List (List Value)} (nonempty : rows ≠ [])
    (ok : ∀ row ∈ rows, ∀ i : Nat, allowed (row.getD i .null))
    (untrusted : ∀ row ∈ rows, ∀ i : Nat, (row.getD i .null).holdsTrusted = false)
    (types : source.HasTypeNames target.dialect) :
    ∃ t, t.sizes = rows.map (source.tupleSize (target.features.has .castOperator) v.withOrder) ∧
      (text "VALUES " ++
        join ", " (rows.mapIdx fun i row => v.tuple target source row i)).Leads
          target.dialect allowed {} t := by
  have word : target.dialect.IsAtom "VALUES " :=
    target.dialect.isAtom_word (by decide) (by decide)
  cases rows with
  | nil => exact absurd rfl nonempty
  | cons first further =>
    have own (row : List Value) (hrow : row ∈ first :: further) (number : Nat) (t : Tally)
        (outside : t.depth = 0) :=
      leads_tuple plain columns (ok row hrow) (untrusted row hrow) types number outside
    have later : List.Forall₂ (fun f n => ∀ t : Tally, t.depth = 0 →
        f.Leads target.dialect allowed t (t.closed n))
        (further.mapIdx fun i row => v.tuple target source row (i + 1))
        (further.map (source.tupleSize (target.features.has .castOperator) v.withOrder)) := by
      refine List.forall₂_iff_get.mpr ⟨by simp, fun i hi _ => ?_⟩
      have hi : i < further.length := by simpa using hi
      simpa using own further[i] (by simp) (i + 1)
    have tuples := leads_join (P := fun t => t.depth = 0) (c := Tally.closed) (t := {})
      (own first List.mem_cons_self 0) later (fun t ht => by simpa using ht) (fun _ _ _ => rfl) rfl
    rw [List.mapIdx_cons]
    refine ⟨_, ?_, (leads_text (word.leads {})).append tuples⟩
    rw [Tally.foldl_closed]
    simp

/-- A VALUES list as SQL of a dialect that may have other features than usual. -/
def renderWith (d : Dialect) (fs : Features) (m : Mode) (v : Values) :
    Except RenderError Rendered :=
  (v.fragment ⟨d, fs, decide (m = .shape)⟩).write d m

theorem render_eq_renderWith (d : Dialect) (m : Mode) (v : Values) :
    v.render d m = v.renderWith d d.features m := rfl

theorem leads_columnsText (d : Dialect) (withOrder : Bool) {source : RowSource}
    (columns : source.columnNames ≠ []) (t : Tally) :
    d.Leads (columnsText d withOrder source) t
      (t.more (source.columnNames.length - 1 + if withOrder then 1 else 0)) := by
  have names : d.Leads (", ".intercalate (source.columnNames.map d.ident)) t
      (t.more (source.columnNames.length - 1)) := by
    generalize source.columnNames = names at columns
    induction names generalizing t with
    | nil => exact absurd rfl columns
    | cons name rest ih =>
      have own := (d.isAtom_ident name).leads t
      cases rest with
      | nil => simpa using own
      | cons next rest =>
        have all := (own.append (Value.leads_comma t)).append (ih (t.more 1) (by simp))
        rw [Tally.more_more] at all
        simpa [String.intercalate_cons_cons, String.append_assoc, Nat.add_comm] using all
  cases withOrder with
  | false => simpa [columnsText] using names
  | true =>
    have order : d.IsAtom orderColumn := d.isAtom_word (by decide) (by decide)
    have all := (names.append (Value.leads_comma _)).append (order.leads _)
    rw [Tally.more_more] at all
    simpa [columnsText, String.append_assoc] using all

theorem groupSizes_columnsText (d : Dialect) (withOrder : Bool) {source : RowSource}
    (columns : source.columnNames ≠ []) :
    d.groupSizes ("(" ++ columnsText d withOrder source ++ ")") =
      [source.columnNames.length + if withOrder then 1 else 0] := by
  have some : 0 < source.columnNames.length := List.length_pos_iff.mpr columns
  have size : source.columnNames.length - 1 + (if withOrder then 1 else 0) =
      source.columnNames.length + (if withOrder then 1 else 0) - 1 := by omega
  have all := ((d.leads_opening {}).append (leads_columnsText d withOrder columns _)).append
    (d.leads_closing _)
  rw [size, Tally.next_closing rfl (by omega)] at all
  exact all.groupSizes_eq

theorem forall_mem_writtenRows {t : Target} {source : RowSource} {P : List Value → Prop} :
    (∀ row ∈ writtenRows t source, P row) ↔
      if t.shapeOnly then P [] else ∀ row ∈ source.rows, P row := by
  unfold writtenRows
  split <;> simp

/-- Each tuple of a VALUES list has an element for each leaf of the values of its row, but a single
one for a value in a cast that encloses it. It has as many as there are columns if no value falls
into several, and always where no values are written. -/
theorem tuples_fit_iff (d : Dialect) (fs : Features) (m : Mode) (v : Values) (source : RowSource)
    (built : v.error? = none ∧ v.source = .ok source) (plain : v.overrides = [])
    (columns : source.columnNames ≠ [])
    (untrusted : ∀ row ∈ source.rows, ∀ x ∈ row, x.holdsTrusted = false)
    (types : source.HasTypeNames d) :
    let columnCount := source.columnNames.length + if v.withOrder then 1 else 0
    (v.columns d = .text (columnsText d v.withOrder source) ∧
      d.groupSizes ("(" ++ columnsText d v.withOrder source ++ ")") = [columnCount]) ∧
    ∃ r, v.renderWith d fs m = .ok r ∧
      d.groupSizes r.sql = (writtenRows ⟨d, fs, decide (m = .shape)⟩ source).map
        (source.tupleSize (fs.has .castOperator) v.withOrder) ∧
      ((∀ n ∈ d.groupSizes r.sql, n = columnCount) ↔
        m = .shape ∨ ∀ row ∈ source.rows, source.Fits (fs.has .castOperator) row) := by
  intro columnCount
  refine ⟨⟨by simp [Values.columns, built.1, built.2], groupSizes_columnsText d _ columns⟩, ?_⟩
  have nulls : ∀ row ∈ writtenRows ⟨d, fs, decide (m = .shape)⟩ source, ∀ i : Nat,
      m = .shape → row.getD i .null = .null := by
    refine forall_mem_writtenRows.mpr ?_
    by_cases shape : m = .shape
    · simp [shape]
    · simp [shape]
  have untrusted : ∀ row ∈ writtenRows ⟨d, fs, decide (m = .shape)⟩ source, ∀ i : Nat,
      (row.getD i .null).holdsTrusted = false := by
    refine forall_mem_writtenRows.mpr ?_
    split
    · exact fun i => rfl
    · intro row hrow i
      rw [List.getD_eq_getElem?_getD]
      cases here : row[i]? with
      | none => rfl
      | some x => exact untrusted row hrow x (List.mem_of_getElem? here)
  obtain ⟨t, sizes, leads⟩ := @leads_rows (fun x => m = .shape → x = .null)
    ⟨d, fs, decide (m = .shape)⟩ v source plain columns _ (writtenRows_ne_nil _ source) nulls
    untrusted types
  obtain ⟨r, written, read⟩ := leads.exists_write m fun shape x ok => ok shape
  have rendered : v.renderWith d fs m = .ok r := by
    rw [renderWith, fragment, built.1, built.2]
    exact written
  refine ⟨r, rendered, read.groupSizes_eq.trans sizes, ?_⟩
  rw [read.groupSizes_eq, sizes, List.forall_mem_map]
  simp only [columnCount, RowSource.tupleSize_eq_iff]
  rw [forall_mem_writtenRows]
  by_cases shape : m = .shape
  · simp [shape, source.fits_nil]
  · simp [shape]

/-- Prices in a typed column, where a cast encloses even a list, and notes in another one. -/
def priced : Values :=
  { source := .ok (.typed
      { name := "prices", aliasName := "price", fields :=
        [{ name := "price", column := "price", sqlType := some "DECIMAL(10, 2)" },
          { name := "note", column := "note" }] }
      [.list [.int 1, .int 2], .text "1, (2"] [[.null, .list [.text "a", .list []]]])
    withOrder := true }

theorem tuples_fit_iff_priced :
    (priced.renderWith .mySql Dialect.mySql.features .literal).toOption.map (·.sql) =
      some ("VALUES ROW(CAST(1, 2 AS DECIMAL(10, 2)), '1, (2', 0), " ++
        "ROW(CAST(NULL AS DECIMAL(10, 2)), 'a', NULL, 1)") ∧
    ∃ r, priced.renderWith .mySql Dialect.mySql.features .literal = .ok r ∧
      Dialect.mySql.groupSizes r.sql = [3, 4] ∧ ¬ ∀ n ∈ Dialect.mySql.groupSizes r.sql, n = 3 := by
  refine ⟨by decide +kernel, ?_⟩
  have types : RowSource.HasTypeNames .mySql (.typed
      { name := "prices", aliasName := "price", fields :=
        [{ name := "price", column := "price", sqlType := some "DECIMAL(10, 2)" },
          { name := "note", column := "note" }] } [] []) := by
    simp only [RowSource.HasTypeNames]
    decide +kernel
  obtain ⟨_, r, rendered, sizes, fit⟩ := tuples_fit_iff .mySql Dialect.mySql.features .literal
    priced _ ⟨rfl, rfl⟩ rfl (by decide) (by decide) types
  have counted : Dialect.mySql.groupSizes r.sql = [3, 4] := sizes
  exact ⟨r, rendered, counted, by rw [counted]; decide⟩

/-- A list and what stands behind it, in a row of two columns. -/
theorem tuple_misfit_list :
    let v := ofMaps [[("a", .list [.int 1, .int 2]), ("b", .int 3)]]
    (v.render .postgres .literal).toOption.map (·.sql) = some "VALUES (1, 2, 3)" ∧
      Dialect.postgres.groupSizes "VALUES (1, 2, 3)" = [3] ∧
      v.columns .postgres = .text "\"a\", \"b\"" ∧
      Dialect.postgres.groupSizes "(\"a\", \"b\")" = [2] := by
  intro v
  have keys : ValueMap.sortedKeys [("a", .list [.int 1, .int 2]), ("b", .int 3)] = ["a", "b"] :=
    List.mergeSort_of_pairwise (by decide)
  have built : v = { source := .ok (.dynamic ["a", "b"] [.list [.int 1, .int 2], .int 3] []) } := by
    simp [v, ofMaps, RowSource.ofMaps, RowSource.rowsOfMaps, keys, ValueMap.get, List.lookup_cons]
  have columns : columnsText .postgres false
      (.dynamic ["a", "b"] [.list [.int 1, .int 2], .int 3] []) = "\"a\", \"b\"" := by
    decide +kernel
  rw [built]
  exact ⟨by decide +kernel, by decide +kernel, congrArg Fragment.text columns, by decide +kernel⟩

end Values

end SqlCompose
