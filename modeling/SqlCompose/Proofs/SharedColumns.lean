import SqlCompose.Backend.Wire

/-!
# Columns shared by the rows of a response

Each data row of a response brings its column names, and the rows that are made of them share the
names of the first one. The main statement says what becomes of the data rows of any messages, and
that the rows of several statements carry their own names just when all of these statements have the
same columns.
-/

namespace SqlCompose

/-! ## Data rows -/

/-- Fields under columns, as text or null. -/
def Row.ofFields (columns : List String) (fields : List (Option String)) : Row :=
  ⟨columns, fields.map fun field => field.elim .null .text⟩

namespace BackendMessage

/-- The row that a message amounts to by itself: its columns and its fields. -/
def ownRow? : BackendMessage → Option Row
  | .row columns fields => some (.ofFields columns fields)
  | .completed _ => none
  | .other => none

/-- The rows that messages amount to by themselves. -/
def ownRows (messages : List BackendMessage) : List Row :=
  messages.filterMap ownRow?

theorem fieldValue_eq_elim (field : Option String) : fieldValue field = field.elim .null .text := by
  cases field <;> rfl

/-- Names that are there already are given to every row. -/
theorem rowsWith_some (names : List String) (messages : List BackendMessage) :
    rowsWith (some names) messages = (ownRows messages).map fun r => ⟨names, r.values⟩ := by
  induction messages with
  | nil => rfl
  | cons message rest ih =>
    cases message with
    | row columns fields =>
      simp only [rowsWith, ih, Option.getD_some, funext fieldValue_eq_elim]
      rfl
    | completed n => exact ih
    | other => exact ih

/-- The columns of the first data row. -/
def firstColumns (messages : List BackendMessage) : List String :=
  ((ownRows messages).head?.map Row.columns).getD []

theorem rows_eq_map (messages : List BackendMessage) :
    rows messages = (ownRows messages).map fun r => ⟨firstColumns messages, r.values⟩ := by
  rw [rows]
  induction messages with
  | nil => rfl
  | cons message rest ih =>
    cases message with
    | row columns fields =>
      simp only [rowsWith, rowsWith_some, Option.getD_none, funext fieldValue_eq_elim]
      rfl
    | completed n => exact ih
    | other => exact ih

/-- What becomes of the data rows among messages. -/
structure SharesColumns (messages : List BackendMessage) : Prop where
  /-- Each becomes one row, in order, with its fields and the columns of the first one. -/
  rows_eq : rows messages = (ownRows messages).map fun r => ⟨firstColumns messages, r.values⟩
  /-- A row has its own columns just when they are those of the first one. -/
  own_iff : ∀ i : Nat, (rows messages)[i]? = (ownRows messages)[i]? ↔
    ∀ r : Row, (ownRows messages)[i]? = some r → r.columns = firstColumns messages
  /-- All rows have their own columns just when no two of these differ. -/
  all_own_iff : rows messages = ownRows messages ↔
    ∀ a ∈ ownRows messages, ∀ b ∈ ownRows messages, a.columns = b.columns

theorem sharesColumns (messages : List BackendMessage) : SharesColumns messages := by
  have relabelled (r : Row) :
      (⟨firstColumns messages, r.values⟩ : Row) = r ↔ r.columns = firstColumns messages := by
    obtain ⟨columns, values⟩ := r
    simp [eq_comm]
  have all := rows_eq_map messages
  refine ⟨all, fun i => ?_, ?_⟩
  · rw [all, List.getElem?_map]
    cases (ownRows messages)[i]? with
    | none => simp
    | some r => simpa using relabelled r
  · have each : rows messages = ownRows messages ↔
        ∀ r ∈ ownRows messages, r.columns = firstColumns messages := by
      have kept := List.map_inj_left (l := ownRows messages)
        (f := fun r => (⟨firstColumns messages, r.values⟩ : Row)) (g := id)
      simpa only [List.map_id, id, relabelled, ← all] using kept
    rw [each]
    constructor
    · intro first a ha b hb
      exact (first a ha).trans (first b hb).symm
    · intro same r hr
      obtain ⟨head, further, own⟩ := List.exists_cons_of_ne_nil (List.ne_nil_of_mem hr)
      have first : firstColumns messages = head.columns := by
        rw [firstColumns, own]
        rfl
      exact (same r hr head (by simp [own])).trans first.symm

end BackendMessage

/-! ## Several statements -/

/-- What one statement of a text is answered with. -/
inductive StatementResult where
  | selected (columns : List String) (rows : List (List (Option String))) (tag : String)
  | changed (tag : String)
deriving DecidableEq, Repr

namespace StatementResult

def messages : StatementResult → List WireMessage
  | .selected columns rows tag => .description columns :: (rows.map .row ++ [.complete tag])
  | .changed tag => [.complete tag]

def ownRows : StatementResult → List Row
  | .selected columns rows _ => rows.map (.ofFields columns)
  | .changed _ => []

theorem responseFrom_rows {columns : List String} {rest : List WireMessage}
    {response : List BackendMessage} (h : WireMessage.responseFrom columns rest = .ok response)
    (rows : List (List (Option String))) :
    WireMessage.responseFrom columns (rows.map .row ++ rest) =
      .ok (rows.map (.row columns) ++ response) := by
  induction rows with
  | nil => exact h
  | cons fields rows ih =>
    rw [List.map_cons, List.cons_append, WireMessage.responseFrom, ih]
    rfl

/-- The data rows of a response bring the columns that their own statement has described. -/
theorem exists_responseFrom (columns : List String) (results : List StatementResult) :
    ∃ response, WireMessage.responseFrom columns (results.flatMap messages) = .ok response ∧
      BackendMessage.ownRows response = results.flatMap ownRows := by
  induction results generalizing columns with
  | nil => exact ⟨[], rfl, rfl⟩
  | cons result results ih =>
    cases result with
    | selected own rows tag =>
      obtain ⟨response, further, later⟩ := ih own
      have completed : WireMessage.responseFrom own (.complete tag :: results.flatMap messages) =
          .ok (.completed (WireMessage.countOfTag tag) :: response) := by
        rw [WireMessage.responseFrom, further]
        rfl
      refine ⟨.other ::
        (rows.map (.row own) ++ .completed (WireMessage.countOfTag tag) :: response), ?_, ?_⟩
      · rw [List.flatMap_cons, messages, List.cons_append, List.append_assoc,
          WireMessage.responseFrom, List.singleton_append, responseFrom_rows completed]
        rfl
      · rw [List.flatMap_cons, ← later, BackendMessage.ownRows, List.filterMap_cons_none rfl,
          List.filterMap_append, List.filterMap_map]
        exact congrArg (· ++ _) (congrFun List.filterMap_eq_map' rows)
    | changed tag =>
      obtain ⟨response, further, later⟩ := ih columns
      refine ⟨.completed (WireMessage.countOfTag tag) :: response, ?_, later⟩
      rw [List.flatMap_cons, messages, List.singleton_append, WireMessage.responseFrom, further]
      rfl

end StatementResult

namespace BackendMessage

/-- The rows of a response are its data rows under the columns of the first one, so that the rows of
several statements have the columns of their own statement just when all of these are the same. -/
theorem rows_shareColumns (messages : List BackendMessage) (results : List StatementResult) :
    SharesColumns messages ∧
      ∃ response, WireMessage.response (results.flatMap StatementResult.messages) = .ok response ∧
        ownRows response = results.flatMap StatementResult.ownRows ∧
        (rows response = results.flatMap StatementResult.ownRows ↔
          ∀ a ∈ results.flatMap StatementResult.ownRows,
            ∀ b ∈ results.flatMap StatementResult.ownRows, a.columns = b.columns) := by
  obtain ⟨response, received, own⟩ := StatementResult.exists_responseFrom [] results
  refine ⟨sharesColumns messages, response, received, own, ?_⟩
  rw [← own]
  exact (sharesColumns response).all_own_iff

/-- The second of two statements selects a name, which is called by the column of the first. -/
theorem rows_mislabelled :
    let results : List StatementResult :=
      [.selected ["id"] [[some "1"]] "SELECT 1", .selected ["name"] [[some "x"]] "SELECT 1"]
    let messages : List BackendMessage :=
      [.other, .row ["id"] [some "1"], .completed 1, .other, .row ["name"] [some "x"], .completed 1]
    WireMessage.response (results.flatMap StatementResult.messages) = .ok messages ∧
      rows messages = [⟨["id"], [.text "1"]⟩, ⟨["id"], [.text "x"]⟩] ∧
      ownRows messages = [⟨["id"], [.text "1"]⟩, ⟨["name"], [.text "x"]⟩] ∧
      rows messages ≠ ownRows messages := by
  intro results messages
  have counted : WireMessage.countOfTag "SELECT 1" = 1 := by decide +kernel
  refine ⟨?_, rfl, rfl, fun same => ?_⟩
  · simp [results, StatementResult.messages, WireMessage.response, WireMessage.responseFrom,
      counted]
    rfl
  · have columns := congrArg (List.map Row.columns) same
    revert columns
    decide

end BackendMessage

end SqlCompose
