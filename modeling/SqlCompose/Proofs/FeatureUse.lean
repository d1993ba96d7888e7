import Mathlib.Data.List.Forall2
import SqlCompose.Proofs.CountForm

/-!
# What rendering asks of a dialect

Three features are required where they are used: without them a query is refused. Three others only
decide how something is written. The main statement is that a query is written just with the
features that its parts ask for, at any depth, and that a refusal names one of these which is
missing.
-/

namespace SqlCompose

open Fragment

/-! ## Required features -/

theorem Target.error?_require {t : Target} {f : Feature} :
    (t.require f).error? = none ↔ t.features.has f = true := by
  unfold require
  split <;> rename_i h <;> simp [h]

section

variable {t : Target} {form : Form}

/-- What a query needs for its own clauses is there if it is written. -/
theorem Query.Needs.has {q : Query} {f : Feature} (h : q.Needs form f)
    (written : (q.fragment t form).error? = none) : t.features.has f = true := by
  obtain ⟨s, ctes, members⟩ := q
  obtain ⟨-, before, own, -⟩ := Query.parts_of_error?_eq_none t written
  simp only [Select.fragment, error?_append, Option.or_eq_none_iff] at own
  obtain ⟨⟨⟨⟨⟨⟨⟨⟨-, distinct⟩, -⟩, -⟩, -⟩, -⟩, -⟩, -⟩, tail⟩ := own
  cases f with
  | cte =>
    obtain ⟨c, rest, rfl⟩ := List.exists_cons_of_ne_nil h
    simp only [withClause, error?_append, Option.or_eq_none_iff] at before
    exact Target.error?_require.mp before.1.1.1.1
  | distinctOn =>
    have given : s.distinctOn ≠ [] := h
    rw [Select.distinctClause, if_neg (by simpa using given)] at distinct
    simp only [error?_append, Option.or_eq_none_iff] at distinct
    exact Target.error?_require.mp distinct.1.1.1
  | selectFor =>
    obtain ⟨rfl, given⟩ := h
    obtain ⟨n, found⟩ := Option.ne_none_iff_exists'.mp given
    have lock : s.lock = some n := found
    simp only [Select.tail, Select.lockClause, lock, error?_append, Option.or_eq_none_iff] at tail
    exact Target.error?_require.mp tail.2.1.1
  | returning => exact h.elim
  | valuesRow => exact h.elim
  | castOperator => exact h.elim

/-- A part stands in what is written for a query, behind its heading. -/
theorem Query.HasPart.exists_fragment_eq {kind : PartKind} {q : Query} {part : Part kind}
    (h : q.HasPart part) (t : Target) (form : Form) :
    ∃ before after, q.fragment t form = before ++ part.fragment t ++ after := by
  obtain ⟨place, rfl⟩ := Query.hasPart_iff.mp h
  obtain ⟨before, after, around⟩ := place.fragment_surrounds t form
  refine ⟨before ++ part.heading t.dialect, after, ?_⟩
  rw [append_assoc before]
  exact around part

theorem Query.Asks.has {q : Query} {f : Feature} (h : q.Asks form f)
    (written : (q.fragment t form).error? = none) : t.features.has f = true := by
  obtain own | ⟨body, part, needs⟩ := h
  · exact own.has written
  · obtain ⟨before, after, around⟩ := part.exists_fragment_eq t form
    simp only [around, error?_append, Option.or_eq_none_iff] at written
    exact needs.has written.1.2

end

/-- What is unsupported is a missing feature that is asked for. -/
def RenderError.IsRefusal (t : Target) (asks : Feature → Prop) (e : RenderError) : Prop :=
  ∀ d need, e = .unsupported d need →
    d = t.dialect ∧ ∃ f, need = .feature f ∧ t.features.has f = false ∧ asks f

/-- A query is refused only for a feature that it asks for, itself or in a part of it. -/
theorem Query.failsOnly_refusal (t : Target) (form : Form) (q : Query) :
    (q.fragment t form).FailsOnly (RenderError.IsRefusal t (q.Asks form)) := by
  have template (e : RenderError) (h : e.OfTemplate) : e.IsRefusal t (q.Asks form) := by
    rintro d need rfl
    cases h
  have build (e : BuildError) : (RenderError.build e).IsRefusal t (q.Asks form) := nofun
  apply Query.failsOnly_fragment t template form (.inl build)
  rintro f asks missing d need same
  cases same
  exact ⟨rfl, f, rfl, missing, asks⟩

/-! ## Tuples and casts -/

namespace Values

/-- A tuple of a VALUES list as the features of a target have it written. -/
structure IsTuple (t : Target) (v : Values) (source : RowSource) (row : List Value)
    (tuple : Fragment) : Prop where
  cells : ∃ closing, tuple = .text (if t.features.has .valuesRow then "ROW(" else "(") ++
    .join ", " (v.cells t row source) ++ .text closing
  opens : ∀ d m r, tuple.write d m = .ok r →
    ("ROW(".toList <+: r.sql.toList ↔ t.features.has .valuesRow = true) ∧
      ("(".toList <+: r.sql.toList ↔ t.features.has .valuesRow = false)
  /-- The value of a field with a declared type is cast to it. -/
  casts : ∀ (table : Table) (first : List Value) (further : List (List Value)),
    source = .typed table first further → ∀ (i : Nat) (f : Field) (sqlType : String),
      table.fields[i]? = some f → f.sqlType = some sqlType → overrideOf? v.overrides f = none →
        ∃ cell, (v.cells t row source)[i]? = some cell ∧
          ∀ d m r, (Fragment.arg (row.getD i .null)).write d m = .ok r →
            cell.write d m = .ok
              ⟨if t.features.has .castOperator then r.sql ++ "::" ++ sqlType
                else "CAST(" ++ r.sql ++ " AS " ++ sqlType ++ ")", r.args⟩
  /-- The template of an overridden field stands in place of the value and its cast. -/
  overridden : ∀ (table : Table) (first : List Value) (further : List (List Value)),
    source = .typed table first further → ∀ (i : Nat) (f : Field) (o : Override),
      table.fields[i]? = some f → overrideOf? v.overrides f = some o →
        (v.cells t row source)[i]? = some (o.node.fragment t.dialect (v.names t.dialect))

theorem write_typedValue (t : Target) (d : Dialect) (m : Mode) {f : Field} {sqlType : String}
    (declared : f.sqlType = some sqlType) {value : Value} {r : Rendered}
    (written : (Fragment.arg value).write d m = .ok r) :
    (typedValue t f value).write d m = .ok
      ⟨if t.features.has .castOperator then r.sql ++ "::" ++ sqlType
        else "CAST(" ++ r.sql ++ " AS " ++ sqlType ++ ")", r.args⟩ := by
  rw [typedValue, declared]
  dsimp only
  split
  · simp [write_text_behind, written, Except.map, String.append_assoc]
  · simp [write_text_behind, write_text_before, written, Except.map, String.append_assoc]

theorem isTuple_tuple (t : Target) (v : Values) (source : RowSource) (row : List Value)
    (number : Nat) : v.IsTuple t source row (v.tuple t source row number) where
  cells := ⟨_, rfl⟩
  opens d m r written := by
    rw [tuple, append_assoc, write_text_before] at written
    generalize Fragment.write d m _ = rest at written
    cases rest with
    | error e => cases written
    | ok behind =>
      cases written
      cases t.features.has .valuesRow <;> simp
  casts := by
    rintro table first further rfl i f sqlType field declared none
    refine ⟨typedValue t f (row.getD i .null), ?_, ?_⟩
    · simp [Values.cells, field, cell, none]
    · exact fun d m r written => write_typedValue t d m declared written
  overridden := by
    rintro table first further rfl i f o field found
    simp [Values.cells, field, cell, found]

/-- A VALUES list that is written has a tuple for each row. -/
theorem exists_tuples {t : Target} {v : Values} (written : (v.fragment t).error? = none) :
    ∃ source tuples, v.source = .ok source ∧
      List.Forall₂ (v.IsTuple t source) (writtenRows t source) tuples ∧
      v.fragment t = .text "VALUES " ++ .join ", " tuples := by
  have built := error?_eq_none_of_fragment t written
  cases source : v.source with
  | error e => simp [error?, source] at built
  | ok rows =>
    refine ⟨rows, _, rfl, ?_, by rw [fragment, built, source]⟩
    rw [List.forall₂_iff_get]
    refine ⟨List.length_mapIdx.symm, fun i _ _ => ?_⟩
    simpa using v.isTuple_tuple t rows _ i

end Values

/-! ## Queries -/

namespace Query

/-- What the features of a target make of a query that is written: each of those that it asks for is
there, and the others decide how it is counted and how rows are written. -/
structure FitsFeatures (d : Dialect) (fs : Features) (m : Mode) (form : Form) (q : Query)
    (r : Rendered) : Prop where
  asked : ∀ f, q.Asks form f → fs.has f = true
  counted : form = .count → q.select.needsCountWrapper = true →
    ∃ inner, (q.mapSelect Select.stripped).renderWith d fs m .rows = .ok inner ∧
      r = inner.counted fs
  /-- VALUES lists stand in the text tuple by tuple, each tuple as the features have it. -/
  values : ∀ v, q.HasPart (.values v) → ∃ source tuples opening alone inside behind,
    v.source = .ok source ∧
      List.Forall₂ (v.IsTuple ⟨d, fs, decide (m = .shape)⟩ source)
        (Values.writtenRows ⟨d, fs, decide (m = .shape)⟩ source) tuples ∧
      (Fragment.text "VALUES " ++ .join ", " tuples).write d m = .ok alone ∧
      r.Holds d m opening alone inside behind

section

variable {d : Dialect} {fs : Features} {m : Mode} {form : Form} {q : Query}

/-- What is written between other fragments is held by the whole text. -/
theorem exists_holds {before inner after : Fragment} {r : Rendered}
    (h : (before ++ inner ++ after).write d m = .ok r) :
    ∃ opening alone inside behind, inner.write d m = .ok alone ∧
      r.Holds d m opening alone inside behind := by
  obtain ⟨ps, whole, rfl⟩ := write_eq_ok_iff.mp h
  obtain ⟨qs, as, first, -, rfl⟩ := append_eq_ok_iff.mp whole
  obtain ⟨bs, is, -, rfl, rfl⟩ := append_eq_ok_iff.mp first
  obtain ⟨inside, behind, holds⟩ := Piece.holds_write d m bs is as
  exact ⟨_, _, inside, behind, rfl, holds⟩

theorem fitsFeatures_of_renderWith {r : Rendered} (h : q.renderWith d fs m form = .ok r) :
    q.FitsFeatures d fs m form r := by
  have written := error?_eq_none_of_write h
  refine ⟨fun f asks => asks.has written, ?counted, ?values⟩
  case counted =>
    rintro rfl wrapped
    have whole := (renderWith_count d fs m q).1 (Select.needsCountWrapper_iff.mp wrapped)
    rw [h] at whole
    cases plain : (q.mapSelect Select.stripped).renderWith d fs m .rows with
    | error e =>
      rw [plain] at whole
      cases whole
    | ok inner =>
      rw [plain] at whole
      cases whole
      exact ⟨inner, rfl, rfl⟩
  case values =>
    intro v part
    obtain ⟨before, after, around⟩ :=
      part.exists_fragment_eq ⟨d, fs, decide (m = .shape)⟩ form
    rw [renderWith, around] at h
    have own : (v.fragment ⟨d, fs, decide (m = .shape)⟩).error? = none := by
      simp only [around, error?_append, Option.or_eq_none_iff] at written
      exact written.1.2
    obtain ⟨source, tuples, rows, fits, list⟩ := Values.exists_tuples own
    obtain ⟨opening, alone, inside, behind, shown, holds⟩ := exists_holds h
    rw [Part.fragment, list] at shown
    exact ⟨source, tuples, opening, alone, inside, behind, rows, fits, shown, holds⟩

end

/-- A query is written just with the features that it asks for, itself or in a part at any depth,
and refused only for one of these that is missing. -/
theorem renderWith_fitsFeatures (d : Dialect) (fs : Features) (m : Mode) (form : Form)
    (q : Query) :
    (∀ r, q.renderWith d fs m form = .ok r → q.FitsFeatures d fs m form r) ∧
      ∀ d' need, q.renderWith d fs m form = .error (.unsupported d' need) →
        d' = d ∧ ∃ f, need = .feature f ∧ fs.has f = false ∧ q.Asks form f := by
  refine ⟨fun r => fitsFeatures_of_renderWith, fun d' need refused => ?_⟩
  apply q.failsOnly_refusal ⟨d, fs, decide (m = .shape)⟩ form (.unsupported d' need) _ d' need rfl
  rw [renderWith] at refused
  cases whole : q.fragment ⟨d, fs, decide (m = .shape)⟩ form with
  | ok ps =>
    rw [whole] at refused
    cases refused
  | fail e =>
    rw [whole] at refused
    cases refused
    rfl

/-- Ages in a typed column, each of them once, and in a second member the rows of a locked table. -/
def agesOnce : Query :=
  .mk { tables := [.ident "ages"], distinctOn := [.ident "n"] }
    [.values "ages" (.ofRows { name := "ages", aliasName := "age"
                               fields := [{ name := "n", column := "n", sqlType := some "int" }] }
      [[.int 5], [.int 6]])]
    [.mk .union (.mk { tables := [.ident "old"], lock := some (.template "UPDATE" []) } [] [])]

/-- With the features that are asked for the query is counted; without the lock it is refused. -/
theorem renderWith_fitsFeatures_agesOnce :
    let fs : Features := .ofList [.cte, .distinctOn, .valuesRow, .selectFor]
    (∃ r, agesOnce.renderWith .mySql fs .literal .count = .ok r ∧
      r.sql = "WITH _count_wrapper AS ((WITH \x60ages\x60 (\x60n\x60) AS (VALUES " ++
        "ROW(CAST(5 AS int)), ROW(CAST(6 AS int))) SELECT DISTINCT ON (\x60n\x60) * " ++
        "FROM \x60ages\x60) UNION (SELECT * FROM \x60old\x60 FOR UPDATE)) " ++
        "SELECT count(*) FROM _count_wrapper" ∧
      agesOnce.FitsFeatures .mySql fs .literal .count r) ∧
    agesOnce.renderWith .mySql (fs.erase .selectFor) .literal .count =
      .error (.unsupported .mySql (.feature .selectFor)) ∧
    agesOnce.Asks .count .selectFor := by
  intro fs
  have shown : ((agesOnce.renderWith .mySql fs .literal .count).toOption.map (·.sql)) =
      some ("WITH _count_wrapper AS ((WITH \x60ages\x60 (\x60n\x60) AS (VALUES " ++
        "ROW(CAST(5 AS int)), ROW(CAST(6 AS int))) SELECT DISTINCT ON (\x60n\x60) * " ++
        "FROM \x60ages\x60) UNION (SELECT * FROM \x60old\x60 FOR UPDATE)) " ++
        "SELECT count(*) FROM _count_wrapper") := by
    decide +kernel
  obtain ⟨r, written, sql⟩ := Option.map_eq_some_iff.mp shown
  have ok := Except.eq_ok_of_toOption written
  have refused : agesOnce.renderWith .mySql (fs.erase .selectFor) .literal .count =
      .error (.unsupported .mySql (.feature .selectFor)) := rfl
  obtain ⟨f, same, -, asks⟩ := ((renderWith_fitsFeatures .mySql (fs.erase .selectFor) .literal
    .count agesOnce).2 _ _ refused).2
  cases same
  exact ⟨⟨r, ok, sql, (renderWith_fitsFeatures .mySql fs .literal .count agesOnce).1 r ok⟩,
    refused, asks⟩

end Query

end SqlCompose
