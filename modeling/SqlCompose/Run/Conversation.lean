import SqlCompose.Config
import SqlCompose.Row
import SqlCompose.Run.Error

/-!
# Conversations

Executing a query is a conversation with a database. A `Conversation` is the querying side of it: a
tree of statements sent, each followed by what happens for any answer, with the visible effects in
between. Nothing in it depends on how the answers come about; `Conversation.respond` runs it against
answers that depend on the statement alone, and `Run.Race` runs two of them side by side.
-/

namespace SqlCompose

/-- What is logged. -/
inductive Event where
  | statement (level : LogLevel) (sql : String) (rows : Nat)
  | slowStatement (sql : String) (rows : Nat)
  | failedStatement (sql : String) (error : String)
  /-- Related rows are about to be loaded for so many parents with so many keys. -/
  | loading (relation : String) (parents keys : Nat)
deriving DecidableEq, Repr

namespace Event

def level : Event → LogLevel
  | .statement level .. => level
  | .slowStatement .. => .warn
  | .failedStatement .. => .warn
  | .loading .. => .trace

def message? : Event → Option String
  | .statement .. => none
  | .slowStatement .. => some "slow query"
  | .failedStatement .. => some "query failed"
  | .loading .. => some "loading relation"

end Event

/-- What a database answers to a statement: rows, and the number of rows affected. -/
structure Reply where
  rows : List Row := []
  affected : Nat := 0

/-- A reply or an error, and the milliseconds it was measured to take. -/
structure Answer where
  elapsed : Nat := 0
  result : Except RunError Reply

/-- Something that a conversation does besides sending statements. Entities are named by their
position in the destination, and entities inside them by the relations that lead there. -/
inductive Effect where
  | log (e : Event)
  /-- Hands rows of a to-many relation to an entity. -/
  | attach (entity : Nat) (path : List String) (relation : String) (rows : List Row)
  /-- Tells an entity that it was selected. -/
  | selected (entity : Nat)

/-- The querying side of a conversation with a database, with a result of type `α`. A statement may
come with the milliseconds after which its answer no longer counts. -/
inductive Conversation (α : Type) where
  | done (result : α)
  | effect (e : Effect) (next : Conversation α)
  | send (sql : String) (timeout : Option Nat) (next : Answer → Conversation α)

namespace Conversation

/-- A conversation that goes on with the result of another one. -/
def bind {α β : Type} (f : α → Conversation β) : Conversation α → Conversation β
  | .done a => f a
  | .effect e next => .effect e (bind f next)
  | .send sql timeout next => .send sql timeout fun a => bind f (next a)

/-- Something a conversation has done. -/
inductive Mark where
  | sent (sql : String)
  | did (e : Effect)

/-- The statements among marks. -/
def statements (marks : List Mark) : List String :=
  marks.filterMap fun
    | .sent sql => some sql
    | .did _ => none

/-- The log among marks. -/
def events (marks : List Mark) : List Event :=
  marks.filterMap fun
    | .did (.log e) => some e
    | _ => none

/-- A conversation up to its next statement, which is sent, or to its end. -/
def settle {α : Type} : Conversation α → List Mark × Conversation α
  | .done a => ([], .done a)
  | .effect e next =>
    let (marks, p) := settle next
    (.did e :: marks, p)
  | .send sql timeout next => ([.sent sql], .send sql timeout next)

/-- A conversation whose last statement is answered. -/
def answered {α : Type} (p : Conversation α) (a : Answer) : Conversation α :=
  match p with
  | .send _ _ next => next a
  | p => p

def result? {α : Type} : Conversation α → Option α
  | .done a => some a
  | _ => none

/-- A conversation run against answers that depend on the statement and its time limit; nothing when
a statement is never answered. -/
def respond {α : Type} (answer : String → Option Nat → Option Answer) :
    Conversation α → List Mark × Option α
  | .done a => ([], some a)
  | .effect e next =>
    let (marks, result) := respond answer next
    (.did e :: marks, result)
  | .send sql timeout next =>
    match answer sql timeout with
    | some a =>
      let (marks, result) := respond answer (next a)
      (.sent sql :: marks, result)
    | none => ([.sent sql], none)

@[simp] theorem bind_done {α β : Type} (a : α) (f : α → Conversation β) :
    (Conversation.done a).bind f = f a := rfl

theorem bind_assoc {α β γ : Type} (p : Conversation α) (f : α → Conversation β)
    (g : β → Conversation γ) : (p.bind f).bind g = p.bind fun a => (f a).bind g := by
  induction p with
  | done a => rfl
  | effect e next ih => simp [bind, ih]
  | send sql timeout next ih => simp [bind, ih]

end Conversation

end SqlCompose
