import SqlCompose.Run.Race

/-!
# Scripted databases

A database whose answers are written down beforehand: a statement gets the first reply that goes
with it, after the delay that goes with the reply. Time is counted in milliseconds and passes only
while somebody waits, so that no statement is ever measured to take any. A conversation run alone
sees nothing of the delays but the limits they exceed; in a race they decide who goes on first.
-/

namespace SqlCompose

/-- A reply that is given to statements with a certain text in them. -/
structure ScriptedReply where
  contains : String := ""
  delay : Nat := 0
  /-- The reply never comes. -/
  hangs : Bool := false
  result : Except RunError Reply

/-- Whether a text occurs in another one. -/
def occursIn (part : List Char) : List Char → Bool
  | [] => part.isEmpty
  | c :: rest => part.isPrefixOf (c :: rest) || occursIn part rest

/-- The replies of a scripted database; statements that none of them goes with have no rows. -/
abbrev Script := List ScriptedReply

namespace Script

/-- The reply to a statement. -/
def replyTo (script : Script) (sql : String) : ScriptedReply :=
  (script.find? fun r => occursIn r.contains.toList sql.toList).getD { result := .ok {} }

/-- How long a statement waits for its answer, and the answer; nothing when it waits forever. -/
def serve (script : Script) (sql : String) (timeout : Option Nat) : Option (Nat × Answer) :=
  let reply := script.replyTo sql
  match reply.hangs, timeout with
  | true, none => none
  | true, some limit => some (limit, { result := .error (.timeout limit) })
  | false, none => some (reply.delay, { result := reply.result })
  | false, some limit =>
    if limit < reply.delay then some (limit, { result := .error (.timeout limit) })
    else some (reply.delay, { result := reply.result })

/-- A conversation run alone. -/
def run {α : Type} (script : Script) (p : Conversation α) : List Conversation.Mark × Option α :=
  p.respond fun sql timeout => (script.serve sql timeout).map (·.2)

/-- The moves of a conversation that begins at time `now`, with the times at which they happen. -/
def timetable {α : Type} (script : Script) (side : Side) (now : Nat) :
    Conversation α → List (Nat × Move)
  | .done _ => []
  | .effect _ next => timetable script side now next
  | .send sql timeout next =>
    match script.serve sql timeout with
    | some (wait, a) => (now + wait, ⟨side, some a⟩) :: timetable script side (now + wait) (next a)
    | none => []

/-- Two timetables as one. All moves of a time come together, one side after the other; the sides
take turns in being the first, beginning with the left one. -/
def merge (leftFirst : Bool) : (fuel : Nat) → List (Nat × Move) → List (Nat × Move) → List Move
  | 0, _, _ => []
  | fuel + 1, ls, rs =>
    match (ls.head?.map Prod.fst).toList ++ (rs.head?.map Prod.fst).toList with
    | [] => []
    | t :: ts =>
      let now := ts.foldl min t
      let left := (ls.takeWhile (·.1 = now)).map Prod.snd
      let right := (rs.takeWhile (·.1 = now)).map Prod.snd
      (if leftFirst then left ++ right else right ++ left) ++
        merge (!leftFirst) fuel (ls.dropWhile (·.1 = now)) (rs.dropWhile (·.1 = now))

/-- The moves of a race in the order of their times. -/
def schedule {α β : Type} (script : Script) (r : Race α β) : List Move :=
  let ls := (0, ⟨.left, none⟩) :: script.timetable .left 0 r.left
  let rs := (0, ⟨.right, none⟩) :: script.timetable .right 0 r.right
  merge true (ls.length + rs.length) ls rs

/-- A race run to its end. -/
def runRace {α β : Type} (script : Script) (r : Race α β) : Race α β :=
  r.moves (script.schedule r)

end Script

end SqlCompose
