import SqlCompose.Run.Scan

/-!
# Two conversations side by side

Scanning and counting run at the same time. A `Race` is the state of two conversations between
answers, and a move lets one side go on: first from its beginning, later with the answer to its last
statement. The moves can come in any order. The race remembers in which order the sides came to
their ends, because of two errors the earlier one is reported.
-/

namespace SqlCompose

inductive Side where
  | left
  | right
deriving DecidableEq, Repr

/-- One side goes on, with an answer unless it is only beginning. -/
structure Move where
  side : Side
  answer : Option Answer

/-- Two conversations, what they have done, and the sides that have come to their ends. -/
structure Race (α β : Type) where
  left : Conversation α
  right : Conversation β
  marks : List (Side × Conversation.Mark) := []
  finished : List Side := []

namespace Race

variable {α β : Type}

/-- A conversation after a move: what it does, and where it stops. -/
def goOn {γ : Type} (p : Conversation γ) (answer : Option Answer) :
    List Conversation.Mark × Conversation γ :=
  match answer with
  | none => p.settle
  | some a => (p.answered a).settle

/-- The race after a move. -/
def move (r : Race α β) (m : Move) : Race α β :=
  let ended (done : Bool) : List Side :=
    if done ∧ m.side ∉ r.finished then r.finished ++ [m.side] else r.finished
  match m.side with
  | .left =>
    let (marks, p) := goOn r.left m.answer
    { r with
      left := p
      marks := r.marks ++ marks.map (.left, ·)
      finished := ended p.result?.isSome }
  | .right =>
    let (marks, p) := goOn r.right m.answer
    { r with
      right := p
      marks := r.marks ++ marks.map (.right, ·)
      finished := ended p.result?.isSome }

/-- The race after moves. -/
def moves (r : Race α β) (ms : List Move) : Race α β :=
  ms.foldl move r

end Race

/-- The outcome of scanning and counting at the same time. Both sides run to their ends; the first
error is kept. -/
structure ScanCount where
  count : Int
  rows : Nat
  error : Option RunError

namespace Query

/-- Whether only the count is wanted. -/
def skipsScan (q : Query) : Bool :=
  q.select.limit.any (· < 0)

variable {μ ε : Type} [EntityType ε μ]

/-- The scanning side. -/
def scanSide (schema : Schema) (models : Nat → μ) (session : Session) (q : Query)
    (d : Destination μ ε) : Conversation (Destination μ ε × Except RunError Nat) :=
  if q.skipsScan then .done (d, .ok 0) else q.scan schema models session d

/-- Scanning and counting at the same time, before any move. -/
def scanAndCount (schema : Schema) (models : Nat → μ) (session : Session) (q : Query)
    (d : Destination μ ε) : Race (Destination μ ε × Except RunError Nat) (Except RunError Int) :=
  { left := q.scanSide schema models session d, right := q.count session }

end Query

namespace ScanCount

/-- The error of one side. -/
def errorOf (scan : Except RunError Nat) (count : Except RunError Int) : Side → Option RunError
  | .left => match scan with
    | .error e => some e
    | .ok _ => none
  | .right => match count with
    | .error e => some e
    | .ok _ => none

/-- The outcome of both sides, which ended in an order. -/
def ofResults (finished : List Side) (scan : Except RunError Nat) (count : Except RunError Int) :
    ScanCount :=
  { count := count.toOption.getD 0
    rows := scan.toOption.getD 0
    error := finished.findSome? (errorOf scan count) }

/-- The destination and the outcome of a race whose sides have both ended. -/
def ofRace? {μ ε : Type} (r : Race (Destination μ ε × Except RunError Nat) (Except RunError Int)) :
    Option (Destination μ ε × ScanCount) :=
  match r.left, r.right with
  | .done (d, scan), .done count => some (d, .ofResults r.finished scan count)
  | _, _ => none

end ScanCount

end SqlCompose
