import SqlCompose.Run.Session

/-!
# What a conversation does when it is answered

The marks of a conversation that goes on with the result of another one are those of the one and
then those of the other.
-/

namespace SqlCompose

namespace Conversation

section

variable {α β : Type} (answer : String → Option Nat → Option Answer)

theorem respond_effect (e : Effect) (next : Conversation α) :
    (effect e next).respond answer =
      (.did e :: (next.respond answer).1, (next.respond answer).2) := rfl

theorem respond_send (sql : String) (timeout : Option Nat) (next : Answer → Conversation α) :
    (send sql timeout next).respond answer =
      match answer sql timeout with
      | some a => (.sent sql :: ((next a).respond answer).1, ((next a).respond answer).2)
      | none => ([.sent sql], none) := by
  cases answered : answer sql timeout <;> simp only [respond, answered]

theorem respond_bind (p : Conversation α) (f : α → Conversation β) :
    (p.bind f).respond answer =
      match (p.respond answer).2 with
      | some a => ((p.respond answer).1 ++ ((f a).respond answer).1, ((f a).respond answer).2)
      | none => ((p.respond answer).1, none) := by
  induction p with
  | done a => rfl
  | effect e next ih =>
    rw [bind, respond_effect, respond_effect, ih]
    cases (next.respond answer).2 <;> rfl
  | send sql timeout next ih =>
    rw [bind, respond_send, respond_send]
    cases answer sql timeout with
    | none => rfl
    | some a =>
      dsimp only
      rw [ih a]
      cases ((next a).respond answer).2 <;> rfl

/-- A conversation that ends, and what it has done until then. -/
theorem respond_bind_of_some {p : Conversation α} (f : α → Conversation β) {marks : List Mark}
    {a : α} (h : p.respond answer = (marks, some a)) :
    (p.bind f).respond answer =
      (marks ++ ((f a).respond answer).1, ((f a).respond answer).2) := by
  rw [respond_bind, h]

theorem respond_bind_of_none {p : Conversation α} (f : α → Conversation β) {marks : List Mark}
    (h : p.respond answer = (marks, none)) : (p.bind f).respond answer = (marks, none) := by
  rw [respond_bind, h]

end

/-! ## Marks -/

/-- Rows of a relation handed to an entity, which is inside the one at a position. -/
structure Attachment where
  entity : Nat
  path : List String
  relation : String
  rows : List Row

/-- The rows handed out among marks. -/
def attachments (marks : List Mark) : List Attachment :=
  marks.filterMap fun
    | .did (.attach entity path relation rows) => some ⟨entity, path, relation, rows⟩
    | _ => none

@[simp] theorem attachments_attach (entity : Nat) (path : List String) (relation : String)
    (rows : List Row) (marks : List Mark) :
    attachments (.did (.attach entity path relation rows) :: marks) =
      ⟨entity, path, relation, rows⟩ :: attachments marks := rfl

end Conversation

namespace Session

variable {answer : String → Option Nat → Option Answer} (s : Session) (sql : String)

/-- A statement is sent and its answer logged. -/
theorem respond_query_of_some {a : Answer} (h : answer sql s.config.queryTimeout = some a) :
    (s.query sql).respond answer =
      ([.sent sql, .did (.log (s.report sql (·.rows.length) a))],
        some (a.result.map (·.rows))) := by
  simp only [query, statement, Conversation.bind, Conversation.respond, h]

theorem respond_query_of_none (h : answer sql s.config.queryTimeout = none) :
    (s.query sql).respond answer = ([.sent sql], none) := by
  simp only [query, statement, Conversation.bind, Conversation.respond, h]

end Session

end SqlCompose
