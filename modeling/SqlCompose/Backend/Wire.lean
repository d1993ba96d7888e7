import SqlCompose.Backend.Message
import SqlCompose.Number.Reading

/-!
# Messages on the wire

What a backend sends for a text of statements: a description of the columns before the rows that
have them, the tag of each completed statement, and possibly an error, which spoils the whole
response. `WireMessage.response` turns this into messages whose rows bring their own columns.
-/

namespace SqlCompose

inductive WireMessage where
  /-- The columns of the rows that follow. -/
  | description (columns : List String)
  | row (fields : List (Option String))
  | complete (tag : String)
  /-- The answer to a text without a statement. -/
  | emptyQuery
  | error
deriving DecidableEq, Repr

namespace WireMessage

/-- The rows that a tag counts: the number after its last space, or zero where there is none. -/
def countOfTag (tag : String) : Nat :=
  match (IntegerRange.unsigned 64).read ((tag.toList.splitOn ' ').getLastD []) with
  | .ok n => n.toNat
  | .error _ => 0

/-- The response that messages amount to, with `columns` described last. -/
def responseFrom (columns : List String) : List WireMessage → Except RunError (List BackendMessage)
  | [] => .ok []
  | .description own :: rest => (responseFrom own rest).map (.other :: ·)
  | .row fields :: rest => (responseFrom columns rest).map (.row columns fields :: ·)
  | .complete tag :: rest => (responseFrom columns rest).map (.completed (countOfTag tag) :: ·)
  | .emptyQuery :: rest => (responseFrom columns rest).map (.completed 0 :: ·)
  | .error :: _ => .error (.query "db error")

/-- The response that messages amount to. -/
def response (messages : List WireMessage) : Except RunError (List BackendMessage) :=
  responseFrom [] messages

/-- The answer that messages give to a statement. -/
def answer (messages : List WireMessage) : Answer :=
  { result := (response messages).map BackendMessage.reply }

example : countOfTag "INSERT 0 5" = 5 := by decide +kernel
example : countOfTag "CREATE TABLE" = 0 := by decide +kernel

end WireMessage

end SqlCompose
