import SqlCompose.Proofs.Responses
import SqlCompose.Run.Relations

/-!
# Conversations with a database that may answer anything

A conversation is replayed against answers in the order in which they come, whatever they are and
whatever was asked; once they have run out, the statement that is waiting waits forever. The marks
of a run can be followed on the destination that it fills: each of them goes well, or the run stops.
-/

namespace SqlCompose

namespace Conversation

/-- What comes of a conversation: what it does, the answers that it does not ask for, and its result
if it has one. -/
structure Course (α : Type) where
  marks : List Mark
  left : List Answer
  result : Option α

/-- A conversation that is given answers one after the other. -/
def replay {α : Type} (answers : List Answer) : Conversation α → Course α
  | .done a => ⟨[], answers, some a⟩
  | .effect e next =>
    let c := replay answers next
    ⟨.did e :: c.marks, c.left, c.result⟩
  | .send sql _ next =>
    match answers with
    | [] => ⟨[.sent sql], [], none⟩
    | a :: later =>
      let c := replay later (next a)
      ⟨.sent sql :: c.marks, c.left, c.result⟩

section

variable {α β : Type} (answers : List Answer)

@[simp] theorem replay_done (a : α) : (done a).replay answers = ⟨[], answers, some a⟩ := rfl

theorem replay_effect (e : Effect) (next : Conversation α) :
    (effect e next).replay answers =
      ⟨.did e :: (next.replay answers).marks, (next.replay answers).left,
        (next.replay answers).result⟩ := rfl

theorem replay_bind (p : Conversation α) (f : α → Conversation β) :
    (p.bind f).replay answers =
      match (p.replay answers).result with
      | some a =>
        ⟨(p.replay answers).marks ++ ((f a).replay (p.replay answers).left).marks,
          ((f a).replay (p.replay answers).left).left,
          ((f a).replay (p.replay answers).left).result⟩
      | none => ⟨(p.replay answers).marks, (p.replay answers).left, none⟩ := by
  -- Along the first conversation; the second one is given the answers that are left.
  induction p generalizing answers with
  | done a => rfl
  | effect e next ih =>
    rw [bind, replay_effect, replay_effect, ih]
    cases (next.replay answers).result <;> rfl
  | send sql timeout next ih =>
    cases answers with
    | nil => rfl
    | cons a later =>
      rw [bind]
      simp only [replay]
      rw [ih]
      cases ((next a).replay later).result <;> rfl

theorem replay_bind_of_some {p : Conversation α} (f : α → Conversation β) {marks : List Mark}
    {left : List Answer} {a : α} (h : p.replay answers = ⟨marks, left, some a⟩) :
    (p.bind f).replay answers =
      ⟨marks ++ ((f a).replay left).marks, ((f a).replay left).left,
        ((f a).replay left).result⟩ := by
  rw [replay_bind, h]

theorem replay_bind_of_none {p : Conversation α} (f : α → Conversation β) {marks : List Mark}
    {left : List Answer} (h : p.replay answers = ⟨marks, left, none⟩) :
    (p.bind f).replay answers = ⟨marks, left, none⟩ := by
  rw [replay_bind, h]

/-- A run against a database whose answers depend on the statement is one of these runs. -/
theorem exists_replay_eq_respond (answer : String → Option Nat → Option Answer)
    (p : Conversation α) :
    ∃ answers, p.respond answer = ((p.replay answers).marks, (p.replay answers).result) := by
  induction p with
  | done a => exact ⟨[], rfl⟩
  | effect e next ih =>
    obtain ⟨answers, same⟩ := ih
    refine ⟨answers, ?_⟩
    rw [respond_effect, same, replay_effect]
  | send sql timeout next ih =>
    rw [respond_send]
    cases answer sql timeout with
    | none => exact ⟨[], rfl⟩
    | some a =>
      obtain ⟨answers, same⟩ := ih a
      refine ⟨a :: answers, ?_⟩
      dsimp only
      rw [same]
      rfl

end

/-! ## Following the marks of a run -/

/-- Why a run goes no further. -/
inductive Stop where
  | failed (e : RunError)
  /-- A statement is never answered. -/
  | waiting

/-- Where a run stands: the answers to come, and the destination as it is now. -/
structure Standing (μ ε : Type) where
  answers : List Answer
  destination : Destination μ ε

section

variable {μ ε : Type}

namespace Mark

def isNote : Mark → Bool
  | .did (.log _) => true
  | _ => false

/-- The standing after a change of an entity, which may fail. -/
def changed (s : Standing μ ε) (f : Hook ε) (position : Nat) : Standing μ ε × Option Stop :=
  let change := s.destination.change f position
  (⟨s.answers, change.1⟩, change.2.map .failed)

theorem changed_of_change (answers : List Answer) {d d' : Destination μ ε} {f : Hook ε}
    {position : Nat} {error : Option RunError} (h : d.change f position = (d', error)) :
    changed ⟨answers, d⟩ f position = (⟨answers, d'⟩, error.map .failed) := by
  rw [changed, h]

/-- Entities stay in their places. -/
theorem length_items_changed (s : Standing μ ε) (f : Hook ε) (position : Nat) :
    (changed s f position).1.destination.items.length = s.destination.items.length := by
  obtain ⟨answers, d⟩ := s
  cases d with
  | maps rows => rfl
  | entities m plain es =>
    dsimp only [changed, Destination.change]
    split
    · rfl
    · split
      · exact List.length_set
      · rfl

variable [EntityType ε μ]

/-- How a mark goes: a statement takes the next answer, and entities are changed. -/
def outcome (s : Standing μ ε) : Mark → Standing μ ε × Option Stop
  | .sent _ =>
    match s.answers with
    | [] => (s, some .waiting)
    | a :: later =>
      match a.result with
      | .ok _ => (⟨later, s.destination⟩, none)
      | .error e => (⟨later, s.destination⟩, some (.failed e))
  | .did (.log _) => (s, none)
  | .did (.attach position path relation rows) =>
    changed s (EntityType.changeAt (EntityType.attach relation rows) path) position
  | .did (.selected position) => changed s EntityType.select position

end Mark

variable [EntityType ε μ]

/-- Marks followed up to the first that does not go well, and the marks behind it. -/
def follow (s : Standing μ ε) : List Mark → Standing μ ε × Option Stop × List Mark
  | [] => (s, none, [])
  | m :: rest =>
    match m.outcome s with
    | (s, none) => follow s rest
    | (s, some stop) => (s, some stop, rest)

/-- Marks of a run that leads from one standing to another. All of them go well, unless the run
stops: then they end with the mark that does not, but for what is logged about it. -/
def Performs (s : Standing μ ε) (marks : List Mark) (s' : Standing μ ε) (stop : Option Stop) :
    Prop :=
  ∃ notes, follow s marks = (s', stop, notes) ∧ ∀ m ∈ notes, m.isNote = true

section

variable {s s₁ s' : Standing μ ε} {m : Mark} {marks rest : List Mark} {stop : Option Stop}

theorem performs_nil (s : Standing μ ε) : Performs s [] s none :=
  ⟨[], rfl, by simp⟩

theorem Performs.cons (well : m.outcome s = (s₁, none)) (h : Performs s₁ rest s' stop) :
    Performs s (m :: rest) s' stop := by
  obtain ⟨notes, followed, quiet⟩ := h
  refine ⟨notes, ?_, quiet⟩
  rw [follow, well]
  exact followed

theorem Performs.note (e : Event) (h : Performs s rest s' stop) :
    Performs s (.did (.log e) :: rest) s' stop :=
  .cons rfl h

theorem performs_of_stop {why : Stop} (stops : m.outcome s = (s', some why))
    (quiet : ∀ m ∈ rest, m.isNote = true) : Performs s (m :: rest) s' (some why) := by
  refine ⟨rest, ?_, quiet⟩
  rw [follow, stops]

end

/-! ### The number of entities -/

theorem Mark.length_items_outcome (s : Standing μ ε) (m : Mark) :
    (m.outcome s).1.destination.items.length = s.destination.items.length := by
  cases m with
  | sent sql =>
    rw [outcome]
    cases s.answers with
    | nil => rfl
    | cons a later =>
      dsimp only
      split <;> rfl
  | did e =>
    cases e with
    | log e => rfl
    | attach position path relation rows => exact length_items_changed s _ position
    | selected position => exact length_items_changed s _ position

theorem length_items_follow (s : Standing μ ε) (marks : List Mark) :
    (follow s marks).1.destination.items.length = s.destination.items.length := by
  induction marks generalizing s with
  | nil => rfl
  | cons m rest ih =>
    have step := m.length_items_outcome s
    rw [follow]
    split
    · rename_i s₁ well
      rw [well] at step
      exact (ih s₁).trans step
    · rename_i s₁ stop stops
      rw [stops] at step
      exact step

theorem Performs.length_items {s s' : Standing μ ε} {marks : List Mark} {stop : Option Stop}
    (h : Performs s marks s' stop) :
    s'.destination.items.length = s.destination.items.length := by
  obtain ⟨notes, followed, -⟩ := h
  have same := length_items_follow s marks
  rwa [followed] at same

end

end Conversation

/-! ## Statements of a session -/

namespace Session

variable (s : Session) (sql : String)

theorem replay_query_nil : (s.query sql).replay [] = ⟨[.sent sql], [], none⟩ := rfl

theorem replay_query_cons (a : Answer) (later : List Answer) :
    (s.query sql).replay (a :: later) =
      ⟨[.sent sql, .did (.log (s.report sql (·.rows.length) a))], later,
        some (a.result.map (·.rows))⟩ := rfl

end Session

end SqlCompose
