import SqlCompose.Run.Conversation

/-!
# Backend messages

A backend answers a text of statements with a list of messages: data rows, which bring their own
column names, and one note for each completed statement. The rows of an answer share the column
names of the first of them.
-/

namespace SqlCompose

inductive BackendMessage where
  /-- A data row; absent fields are null. -/
  | row (columns : List String) (fields : List (Option String))
  /-- A completed statement and the number of rows it counts. -/
  | completed (rows : Nat)
  /-- Anything else. -/
  | other
deriving DecidableEq, Repr

namespace BackendMessage

/-- A field as a value. -/
def fieldValue : Option String → Value
  | some s => .text s
  | none => .null

/-- The rows among messages. `columns` are the names that the rows share, once there are any. -/
def rowsWith (columns : Option (List String)) : List BackendMessage → List Row
  | [] => []
  | .row own fields :: rest =>
    let names := columns.getD own
    ⟨names, fields.map fieldValue⟩ :: rowsWith (some names) rest
  | .completed _ :: rest => rowsWith columns rest
  | .other :: rest => rowsWith columns rest

/-- The rows among messages. -/
def rows (messages : List BackendMessage) : List Row :=
  rowsWith none messages

/-- The number of rows that the last completed statement counts. -/
def affected (messages : List BackendMessage) : Nat :=
  (messages.reverse.findSome? fun
    | .completed n => some n
    | _ => none).getD 0

/-- The reply that messages amount to. -/
def reply (messages : List BackendMessage) : Reply :=
  ⟨rows messages, affected messages⟩

end BackendMessage

end SqlCompose
