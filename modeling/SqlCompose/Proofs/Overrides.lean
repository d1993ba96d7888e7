import SqlCompose.Proofs.Refusals

/-!
# Overridden fields

A call overrides a field of typed rows by a template. The main statement says what one more call
changes in the rows that are written: the fields it names show its template in every row if no
earlier call names them, and everything else stays as it was. Of several calls that name a field the
earliest one shows, and the later ones are taken without effect.
-/

namespace SqlCompose

namespace Values

/-! ## Calls -/

namespace Call

/-- Whether a call overrides a field. -/
def names (f : Field) : Call → Bool
  | .withOrder => false
  | .value field _ _ => f.answersTo field

def override? : Call → Option Override
  | .withOrder => none
  | .value field template args => some ⟨field, .template template args⟩

/-- The template of a call with its arguments. -/
def expansion (known : Template.Names) : Call → Fragment
  | .withOrder => .empty
  | .value _ template args => Template.expand known template args

end Call

section

variable {v : Values} {table : Table} {first : List Value} {further : List (List Value)}

theorem call_value_of_typed (typed : v.source = .ok (.typed table first further))
    (unrefused : v.refused = none) (field template : String) (args : List Value) :
    v.call (.value field template args) =
      { v with overrides := v.overrides ++ [⟨field, .template template args⟩] } := by
  have accepted : v.error? = none := by rw [error?, typed, unrefused]
  have source : v.source? = some (.typed table first further) := by rw [source?, typed]; rfl
  rw [call, accepted, source]

/-- Typed rows take every call: they stay the same rows, and the overrides line up. -/
theorem calls_of_typed (typed : v.source = .ok (.typed table first further))
    (unrefused : v.refused = none) (cs : List Call) :
    (v.calls cs).source = v.source ∧ (v.calls cs).refused = none ∧
      (v.calls cs).overrides = v.overrides ++ cs.filterMap Call.override? := by
  induction cs generalizing v with
  | nil => exact ⟨rfl, unrefused, (List.append_nil _).symm⟩
  | cons c cs ih =>
    have step : (v.call c).source = v.source ∧ (v.call c).refused = none ∧
        (v.call c).overrides = v.overrides ++ [c].filterMap Call.override? := by
      cases c with
      | withOrder => exact ⟨rfl, unrefused, (List.append_nil _).symm⟩
      | value field template args =>
        rw [call_value_of_typed typed unrefused]
        exact ⟨rfl, unrefused, rfl⟩
    obtain ⟨source, refused, overrides⟩ := step
    obtain ⟨source', refused', overrides'⟩ := ih (source.trans typed) refused
    refine ⟨source'.trans source, refused', overrides'.trans ?_⟩
    rw [overrides, List.append_assoc, ← List.filterMap_append, List.singleton_append]

end

/-! ## Cells -/

/-- A field shows the template of the earliest call that names it, and its value if none does. -/
theorem cell_filterMap (t : Target) (known : Template.Names) (cs : List Call) (row : List Value)
    (f : Field) (position : Nat) :
    cell t known (cs.filterMap Call.override?) row f position =
      match cs.find? (Call.names f) with
      | some c => c.expansion known
      | none => typedValue t f (row.getD position .null) := by
  rw [cell, overrideOf?, List.find?_filterMap]
  have same : (fun c => (Call.override? c).any fun o => f.answersTo o.field) = Call.names f := by
    funext c
    cases c <;> rfl
  rw [same]
  cases found : cs.find? (Call.names f) with
  | none => rfl
  | some c =>
    cases c with
    | withOrder => cases List.find?_some found
    | value field template args => rfl

theorem cell_snoc (t : Target) (known : Template.Names) (cs : List Call)
    (field template : String) (args : List Value) (row : List Value) (f : Field)
    (position : Nat) :
    cell t known ((cs ++ [Call.value field template args]).filterMap Call.override?) row f
        position =
      if f.answersTo field = true ∧ cs.any (Call.names f) = false then
        Template.expand known template args
      else cell t known (cs.filterMap Call.override?) row f position := by
  rw [cell_filterMap, cell_filterMap, List.find?_append]
  cases earlier : cs.find? (Call.names f) with
  | some c =>
    have named : cs.any (Call.names f) = true :=
      List.any_eq_true.mpr ⟨c, List.mem_of_find?_eq_some earlier, List.find?_some earlier⟩
    simp [named]
  | none =>
    have unnamed : cs.any (Call.names f) = false :=
      List.any_eq_false.mpr (List.find?_eq_none.mp earlier)
    rw [List.find?_singleton, Option.none_or, unnamed]
    by_cases here : f.answersTo field = true
    · have found : Call.names f (.value field template args) = true := here
      rw [if_pos found, if_pos ⟨here, rfl⟩]
      rfl
    · have none : ¬ Call.names f (.value field template args) = true := here
      rw [if_neg none, if_neg fun both => here both.1]

/-- No fragment is what every template expands to. -/
theorem exists_expand_ne (known : Template.Names) (shown : Fragment) :
    ∃ template, Template.expand known template [] ≠ shown := by
  have blank : Template.scan "" = [] := by decide +kernel
  have letter : Template.scan "x" = [.text ['x']] := by decide +kernel
  have differ : Template.expand known "" [] ≠ Template.expand known "x" [] := by
    rw [Template.expand, Template.expand, blank, letter]
    intro same
    cases same
  by_cases same : Template.expand known "" [] = shown
  · exact ⟨"x", fun other => differ (same.trans other.symm)⟩
  · exact ⟨"", same⟩

/-! ## Rows -/

/-- Rows as they are written, each with its number when rows are counted. -/
def laidOut (t : Target) (withOrder : Bool) (rows : List (List Value))
    (cells : List Value → List Fragment) : Fragment :=
  .text "VALUES " ++ .join ", " (rows.mapIdx fun number row =>
    .text (if t.features.has .valuesRow then "ROW(" else "(") ++ .join ", " (cells row) ++
      .text (if withOrder then ", " ++ Nat.repr number ++ ")" else ")"))

/-- The cell of a field in a row. -/
def cellAt (v : Values) (t : Target) (row : List Value) (position : Nat) (f : Field) : Fragment :=
  cell t (v.names t.dialect) v.overrides row f position

theorem fragment_of_typed {v : Values} {table : Table} {first : List Value}
    {further : List (List Value)} (typed : v.source = .ok (.typed table first further))
    (unrefused : v.refused = none) (t : Target) :
    v.fragment t = laidOut t v.withOrder (if t.shapeOnly then [[]] else first :: further) fun row =>
      table.fields.mapIdx (v.cellAt t row) := by
  have accepted : v.error? = none := by rw [error?, typed, unrefused]
  rw [fragment, accepted, typed]
  rfl

/-- What one more call that overrides a field comes to, behind earlier calls. -/
structure OverridesField (table : Table) (rows : List (List Value)) (earlier : List Call)
    (field template : String) (args : List Value) (before after : Values) (t : Target) : Prop where
  /-- Rows have one cell for each field, before the call … -/
  before_eq : before.fragment t =
    laidOut t before.withOrder rows fun row => table.fields.mapIdx (before.cellAt t row)
  /-- … and after it. The fields that the call names and no earlier call does show its template in
  every row, and the other cells stay as they were. -/
  after_eq : after.fragment t =
    laidOut t before.withOrder rows fun row => table.fields.mapIdx fun i f =>
      if f.answersTo field = true ∧ earlier.any (Call.names f) = false then
        Template.expand (after.names t.dialect) template args
      else before.cellAt t row i f
  /-- A cell that stays as it was shows the earliest call for its field, or its value. -/
  stays_eq : ∀ row i f, before.cellAt t row i f =
    match earlier.find? (Call.names f) with
    | some c => c.expansion (after.names t.dialect)
    | none => typedValue t f (row.getD i .null)
  /-- A field that the call names shows just any template in place of this one if no earlier call
  names it, and only then. -/
  effect_iff : ∀ f, f.answersTo field = true →
    ((∀ template args row i,
        (before.call (.value field template args)).cellAt t row i f =
          Template.expand (after.names t.dialect) template args) ↔
      earlier.any (Call.names f) = false)

section

variable {v : Values} {table : Table} {first : List Value} {further : List (List Value)}
  {earlier : List Call} (typed : v.source = .ok (.typed table first further))
  (unrefused : v.refused = none) (taken : v.overrides = earlier.filterMap Call.override?)
  (t : Target) (field : String)
include typed unrefused taken

/-- The calls before this one are told apart by the fields that they name. -/
theorem cellAt_call_value (template : String) (args row : List Value) (i : Nat) (f : Field) :
    (v.call (.value field template args)).cellAt t row i f =
      if f.answersTo field = true ∧ earlier.any (Call.names f) = false then
        Template.expand (v.names t.dialect) template args
      else v.cellAt t row i f := by
  have cells := cell_snoc t (v.names t.dialect) earlier field template args row f i
  rw [List.filterMap_append, ← taken] at cells
  rw [call_value_of_typed typed unrefused]
  exact cells

/-- A call shows its template whatever the template is only where no earlier call is in its way. -/
theorem cellAt_call_value_iff {f : Field} (named : f.answersTo field = true) :
    (∀ template args row i, (v.call (.value field template args)).cellAt t row i f =
        Template.expand (v.names t.dialect) template args) ↔
      earlier.any (Call.names f) = false := by
  constructor
  · intro shows
    rw [← Bool.not_eq_true]
    intro hidden
    obtain ⟨template, differ⟩ := exists_expand_ne (v.names t.dialect) (v.cellAt t [] 0 f)
    apply differ
    rw [← shows template [] [] 0, cellAt_call_value typed unrefused taken,
      if_neg fun both => Bool.false_ne_true (both.2.symm.trans hidden)]
  · intro free template args row i
    rw [cellAt_call_value typed unrefused taken, if_pos ⟨named, free⟩]

theorem overridesField_call (template : String) (args : List Value) :
    OverridesField table (if t.shapeOnly then [[]] else first :: further) earlier field template
      args v (v.call (.value field template args)) t := by
  have step := call_value_of_typed typed unrefused field template args
  have names : (v.call (.value field template args)).names t.dialect = v.names t.dialect := by
    rw [step]
    rfl
  refine
    { before_eq := fragment_of_typed typed unrefused t
      after_eq := ?after
      stays_eq := ?stays
      effect_iff := ?effect }
  case after =>
    have still : (v.call (.value field template args)).source =
        .ok (.typed table first further) := by
      rw [step]
      exact typed
    have unrefused' : (v.call (.value field template args)).refused = none := by
      rw [step]
      exact unrefused
    have order : (v.call (.value field template args)).withOrder = v.withOrder := by
      rw [step]
    have cells (row : List Value) := funext fun i => funext
      (cellAt_call_value typed unrefused taken t field template args row i)
    rw [fragment_of_typed still unrefused' t, order, names]
    simp only [cells]
  case stays =>
    intro row i f
    rw [names, cellAt, taken]
    exact cell_filterMap t (v.names t.dialect) earlier row f i
  case effect =>
    intro f named
    rw [names]
    exact cellAt_call_value_iff typed unrefused taken t field named

end

/-- A call that overrides a field of typed rows takes effect in the fields that no earlier call
names, and changes nothing else. -/
theorem value_overridesField {table : Table} {rows : List (List Value)} {earlier : List Call}
    {field template : String} {args : List Value}
    (accepted : ((ofRows table rows).calls (earlier ++ [.value field template args])).error? = none)
    (t : Target) :
    OverridesField table (if t.shapeOnly then [[]] else rows) earlier field template args
      ((ofRows table rows).calls earlier)
      ((ofRows table rows).calls (earlier ++ [.value field template args])) t := by
  cases rows with
  | nil =>
    have refused : (ofRows table []).error? = some .emptyInput := rfl
    rw [error?_calls refused] at accepted
    cases accepted
  | cons first further =>
    have typed : (ofRows table (first :: further)).source = .ok (.typed table first further) := rfl
    obtain ⟨source, unrefused, taken⟩ := calls_of_typed typed rfl earlier
    have last : (ofRows table (first :: further)).calls (earlier ++ [.value field template args]) =
        ((ofRows table (first :: further)).calls earlier).call (.value field template args) := by
      simp only [calls, List.foldl_append, List.foldl_cons, List.foldl_nil]
    rw [last]
    exact overridesField_call (source.trans typed) unrefused taken t field template args

/-- A template of its own for each of two fields, one of which goes by its column. -/
theorem value_overridesField_books :
    let books : Table :=
      { name := "books", aliasName := "book"
        fields := [{ name := "id", column := "id" }, { name := "title", column := "name" }] }
    let rows : List (List Value) := [[.int 1, .text "a"], [.int 2, .text "b"]]
    let earlier : List Call := [.withOrder, .value "id" "? + 1" [.int 7]]
    let before := (ofRows books rows).calls earlier
    let after := (ofRows books rows).calls (earlier ++ [.value "name" "upper(?)" [.text "x"]])
    after.error? = none ∧
      (before.render .postgres .literal).toOption.map (·.sql) =
        some "VALUES (7 + 1, 'a', 0), (7 + 1, 'b', 1)" ∧
      (after.render .postgres .literal).toOption.map (·.sql) =
        some "VALUES (7 + 1, upper('x'), 0), (7 + 1, upper('x'), 1)" ∧
      ∀ t, OverridesField books (if t.shapeOnly then [[]] else rows) earlier "name" "upper(?)"
        [.text "x"] before after t := by
  intro books rows earlier before after
  have accepted : after.error? = none := by decide +kernel
  exact ⟨accepted, by decide +kernel, by decide +kernel, value_overridesField accepted⟩

/-- A second call for a field is taken, and the field goes on showing the template of the first. -/
theorem value_ignored :
    let books : Table :=
      { name := "books", aliasName := "book"
        fields := [{ name := "id", column := "id" }, { name := "title", column := "title" }] }
    let before := (ofRows books [[.int 1, .text "a"]]).call (.value "title" "upper(?)" [.text "x"])
    let after := before.call (.value "title" "lower(?)" [.text "y"])
    let shown := Template.expand (after.names .postgres) "lower(?)" [.text "y"]
    after.error? = none ∧ (∀ t, after.fragment t = before.fragment t) ∧
      (after.render .postgres .literal).toOption.map (·.sql) = some "VALUES (1, upper('x'))" ∧
      (shown.write .postgres .literal).toOption.map (·.sql) = some "lower('y')" :=
  ⟨by decide +kernel, fun _ => rfl, by decide +kernel, by decide +kernel⟩

end Values

end SqlCompose
