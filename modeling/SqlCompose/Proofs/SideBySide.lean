import Mathlib.Data.List.Induction
import SqlCompose.Proofs.Loading
import SqlCompose.Proofs.Replay
import SqlCompose.Run.Race

/-!
# Scanning and counting at the same time

Two conversations that run side by side do not disturb each other. Whatever order their answers come
in, each of them does what it does alone with the answers that are its own, and ends as it ends
alone; the order decides only which of two failures is reported.
-/

namespace SqlCompose

open Conversation

/-! ## Interleavings -/

namespace Race

/-- The moves of a side that begins and is then given answers. -/
def turns (side : Side) (answers : List Answer) : List Move :=
  ⟨side, none⟩ :: answers.map fun a => ⟨side, some a⟩

/-- The moves of one side among moves. -/
def movesOf (side : Side) (ms : List Move) : List Move :=
  ms.filter (·.side = side)

/-- Moves in which both sides begin and are given their answers, in any order. -/
structure Interleaves (lefts rights : List Answer) (ms : List Move) : Prop where
  left : movesOf .left ms = turns .left lefts
  right : movesOf .right ms = turns .right rights

/-- The answers that a side has been given; nothing if it has not begun. -/
def given? (side : Side) (ms : List Move) : Option (List Answer) :=
  match movesOf side ms with
  | [] => none
  | _ :: rest => some (rest.filterMap (·.answer))

/-- What one side does, without the other one. -/
def marksOf (side : Side) (marks : List (Side × Mark)) : List Mark :=
  marks.filterMap fun m => if m.1 = side then some m.2 else none

section

variable {side other : Side} {before later : List Move}

@[simp] theorem movesOf_cons_own (side : Side) (answer : Option Answer) (ms : List Move) :
    movesOf side (⟨side, answer⟩ :: ms) = ⟨side, answer⟩ :: movesOf side ms :=
  List.filter_cons_of_pos (by simp)

theorem movesOf_cons_other (h : other ≠ side) (answer : Option Answer) (ms : List Move) :
    movesOf side (⟨other, answer⟩ :: ms) = movesOf side ms :=
  List.filter_cons_of_neg (by simpa using h)

@[simp] theorem movesOf_append (side : Side) (before later : List Move) :
    movesOf side (before ++ later) = movesOf side before ++ movesOf side later :=
  List.filter_append ..

@[simp] theorem marksOf_append (side : Side) (ms ns : List (Side × Mark)) :
    marksOf side (ms ++ ns) = marksOf side ms ++ marksOf side ns :=
  List.filterMap_append

@[simp] theorem marksOf_own (side : Side) (marks : List Mark) :
    marksOf side (marks.map (side, ·)) = marks := by
  rw [marksOf, List.filterMap_map]
  simp only [Function.comp_def, if_true, List.filterMap_some]

theorem marksOf_other (h : other ≠ side) (marks : List Mark) :
    marksOf side (marks.map (other, ·)) = [] := by
  simp [marksOf, h]

/-- Up to any point, a side has not begun or has been given the first of its answers. -/
theorem movesOf_of_turns {answers : List Answer}
    (h : movesOf side (before ++ later) = turns side answers) :
    movesOf side before = [] ∧ given? side before = none ∨
      ∃ as, movesOf side before = turns side as ∧ given? side before = some as := by
  rw [movesOf_append, turns] at h
  cases own : movesOf side before with
  | nil => exact .inl ⟨rfl, by rw [given?, own]⟩
  | cons first rest =>
    rw [own] at h
    obtain ⟨rfl, further⟩ := List.cons.inj h
    obtain ⟨as, bs, -, rfl, -⟩ := List.append_eq_map_iff.mp further
    refine .inr ⟨as, rfl, ?_⟩
    rw [given?, own]
    simp only [Function.comp_def, List.filterMap_map, List.filterMap_some]

end

/-! ## One side alone -/

section

variable {γ : Type} (p : Conversation γ)

/-- A conversation taken through moves: what it does, and where it stands. -/
def goThrough (p : Conversation γ) : List Move → List Mark × Conversation γ
  | [] => ([], p)
  | m :: rest =>
    ((goOn p m.answer).1 ++ (goThrough (goOn p m.answer).2 rest).1,
      (goThrough (goOn p m.answer).2 rest).2)

/-- What has ended does nothing any more. -/
theorem goOn_done (a : γ) (answer : Option Answer) : goOn (.done a) answer = ([], .done a) := by
  cases answer <;> rfl

theorem goOn_of_ended {p : Conversation γ} (ended : p.result?.isSome = true)
    (answer : Option Answer) : (goOn p answer).2 = p := by
  cases p with
  | done a => rw [goOn_done]
  | effect e next => cases ended
  | send sql timeout next => cases ended

theorem goThrough_done (a : γ) (ms : List Move) : goThrough (.done a) ms = ([], .done a) := by
  induction ms with
  | nil => rfl
  | cons m rest ih => simp [goThrough, goOn_done, ih]

/-- A side that begins and is given answers does what it does with them alone. -/
theorem goThrough_turns (side : Side) (answers : List Answer) :
    (goThrough p (turns side answers)).1 = (p.replay answers).marks ∧
      (goThrough p (turns side answers)).2.result? = (p.replay answers).result := by
  -- Along the conversation; a statement takes the next answer and goes on as one that begins.
  induction p generalizing answers with
  | done a =>
    rw [goThrough_done]
    exact ⟨rfl, rfl⟩
  | effect e next ih =>
    obtain ⟨marks, result⟩ := ih answers
    exact ⟨congrArg (Mark.did e :: ·) marks, result⟩
  | send sql timeout next ih =>
    cases answers with
    | nil => exact ⟨rfl, rfl⟩
    | cons a later =>
      obtain ⟨marks, result⟩ := ih a later
      exact ⟨congrArg (Mark.sent sql :: ·) marks, result⟩

end

/-! ## Both sides -/

section

variable {α β : Type} (r : Race α β) (m : Move) (ms : List Move)

@[simp] theorem moves_nil : r.moves [] = r := rfl

@[simp] theorem moves_cons : r.moves (m :: ms) = (r.move m).moves ms := rfl

theorem moves_append (ns : List Move) : r.moves (ms ++ ns) = (r.moves ms).moves ns :=
  List.foldl_append

theorem move_left (answer : Option Answer) :
    r.move ⟨.left, answer⟩ =
      { left := (goOn r.left answer).2
        right := r.right
        marks := r.marks ++ (goOn r.left answer).1.map (.left, ·)
        finished := if (goOn r.left answer).2.result?.isSome ∧ .left ∉ r.finished then
          r.finished ++ [.left] else r.finished } := rfl

theorem move_right (answer : Option Answer) :
    r.move ⟨.right, answer⟩ =
      { left := r.left
        right := (goOn r.right answer).2
        marks := r.marks ++ (goOn r.right answer).1.map (.right, ·)
        finished := if (goOn r.right answer).2.result?.isSome ∧ .right ∉ r.finished then
          r.finished ++ [.right] else r.finished } := rfl

/-- Neither side takes notice of the moves of the other one. -/
theorem left_moves :
    (r.moves ms).left = (goThrough r.left (movesOf .left ms)).2 ∧
      marksOf .left (r.moves ms).marks =
        marksOf .left r.marks ++ (goThrough r.left (movesOf .left ms)).1 := by
  induction ms generalizing r with
  | nil => exact ⟨rfl, (List.append_nil _).symm⟩
  | cons m rest ih =>
    obtain ⟨side, answer⟩ := m
    obtain ⟨stands, marks⟩ := ih (r.move ⟨side, answer⟩)
    rw [moves_cons, stands, marks]
    cases side with
    | left =>
      rw [movesOf_cons_own, move_left, goThrough]
      simp
    | right =>
      rw [movesOf_cons_other (show Side.right ≠ .left by decide), move_right]
      simp [marksOf_other]

theorem right_moves :
    (r.moves ms).right = (goThrough r.right (movesOf .right ms)).2 ∧
      marksOf .right (r.moves ms).marks =
        marksOf .right r.marks ++ (goThrough r.right (movesOf .right ms)).1 := by
  induction ms generalizing r with
  | nil => exact ⟨rfl, (List.append_nil _).symm⟩
  | cons m rest ih =>
    obtain ⟨side, answer⟩ := m
    obtain ⟨stands, marks⟩ := ih (r.move ⟨side, answer⟩)
    rw [moves_cons, stands, marks]
    cases side with
    | left =>
      rw [movesOf_cons_other (show Side.left ≠ .right by decide), move_left]
      simp [marksOf_other]
    | right =>
      rw [movesOf_cons_own, move_right, goThrough]
      simp

end

/-! ## The order in which the sides end -/

section

variable {α β ε : Type} (r : Race α β) (m : Move) (ms : List Move)

def hasEnded (r : Race α β) : Side → Bool
  | .left => r.left.result?.isSome
  | .right => r.right.result?.isSome

theorem finished_move :
    (r.move m).finished = if (r.move m).hasEnded m.side ∧ m.side ∉ r.finished then
      r.finished ++ [m.side] else r.finished := by
  obtain ⟨side, answer⟩ := m
  cases side <;> rfl

/-- What has ended stays as it is, and so does the side that does not move. -/
theorem move_of_ended_or_ne {side : Side} (h : r.hasEnded side = true ∨ m.side ≠ side) :
    match side with
    | .left => (r.move m).left = r.left
    | .right => (r.move m).right = r.right := by
  obtain ⟨mover, answer⟩ := m
  cases side with
  | left =>
    cases mover with
    | right => rfl
    | left =>
      have ended : r.left.result?.isSome = true := h.resolve_right fun ne => ne rfl
      rw [move_left]
      exact goOn_of_ended ended answer
  | right =>
    cases mover with
    | left => rfl
    | right =>
      have ended : r.right.result?.isSome = true := h.resolve_right fun ne => ne rfl
      rw [move_right]
      exact goOn_of_ended ended answer

theorem hasEnded_move {side : Side} (h : r.hasEnded side = true ∨ m.side ≠ side) :
    (r.move m).hasEnded side = r.hasEnded side := by
  have same := r.move_of_ended_or_ne m h
  cases side <;> simp only [hasEnded, same]

/-- A side has finished once it has begun and come to its end. -/
theorem mem_finished_moves (fresh : r.finished = []) (side : Side) :
    side ∈ (r.moves ms).finished ↔
      movesOf side ms ≠ [] ∧ (r.moves ms).hasEnded side = true := by
  induction ms using List.reverseRecOn with
  | nil => simp [fresh, movesOf]
  | append_singleton ms m ih =>
    rw [moves_append, moves_cons, moves_nil, movesOf_append, finished_move]
    by_cases own : m.side = side
    · subst own
      have moved : movesOf m.side [m] ≠ [] := by simp [movesOf]
      by_cases before : m.side ∈ (r.moves ms).finished
      · have ended := (ih.mp before).2
        simp [before, moved, hasEnded_move _ m (.inl ended), ended]
      · by_cases ends : ((r.moves ms).move m).hasEnded m.side = true
        · simp [before, moved, ends]
        · simp [before, moved, ends]
    · have still : movesOf side [m] = [] := by simp [movesOf, own]
      have other : side ≠ m.side := fun same => own same.symm
      rw [still, List.append_nil, hasEnded_move _ m (.inr own), ← ih]
      split
      · simp [other]
      · rfl

/-! ### Failures -/

variable (f : α → Option ε) (g : β → Option ε)

/-- How a side has failed, if it has ended. -/
def failure (r : Race α β) : Side → Option ε
  | .left => r.left.result?.bind f
  | .right => r.right.result?.bind g

/-- The failure of the side that finished first, or else that of the other one. -/
def firstFailure (r : Race α β) : Option ε :=
  r.finished.findSome? (r.failure f g)

theorem failure_move {side : Side} (h : r.hasEnded side = true ∨ m.side ≠ side) :
    (r.move m).failure f g side = r.failure f g side := by
  have same := r.move_of_ended_or_ne m h
  cases side <;> simp only [failure, same]

/-- The failure of a side that has finished. -/
def reported (r : Race α β) (side : Side) : Option ε :=
  if side ∈ r.finished then r.failure f g side else none

theorem firstFailure_eq_none_iff :
    r.firstFailure f g = none ↔ ∀ side, r.reported f g side = none := by
  simp [firstFailure, reported]

theorem firstFailure_of_reported {side : Side} {e : ε} (failed : r.reported f g side = some e)
    (alone : ∀ other, other ≠ side → r.reported f g other = none) :
    r.firstFailure f g = some e := by
  cases first : r.firstFailure f g with
  | none =>
    rw [(r.firstFailure_eq_none_iff f g).mp first side] at failed
    cases failed
  | some e' =>
    obtain ⟨other, finished, same⟩ := List.exists_of_findSome?_eq_some first
    have reported : r.reported f g other = some e' := (if_pos finished).trans same
    by_cases own : other = side
    · rw [← failed, ← own, reported]
    · rw [alone other own] at reported
      cases reported

theorem reported_move_of_ne {side : Side} (h : m.side ≠ side) :
    (r.move m).reported f g side = r.reported f g side := by
  have finished : side ∈ (r.move m).finished ↔ side ∈ r.finished := by
    rw [finished_move]
    split
    · simp [h.symm]
    · rfl
  simp only [reported, finished, r.failure_move m f g (.inr h)]

/-- A failure is kept; where there is none, the side that moves can leave one. -/
theorem firstFailure_move (ended : ∀ side ∈ r.finished, r.hasEnded side = true) :
    (r.move m).firstFailure f g = (r.firstFailure f g).or ((r.move m).reported f g m.side) := by
  have kept : r.finished.findSome? ((r.move m).failure f g) = r.firstFailure f g := by
    have same : r.finished.map ((r.move m).failure f g) = r.finished.map (r.failure f g) :=
      List.map_congr_left fun side hside => r.failure_move m f g (.inl (ended side hside))
    simpa [firstFailure, List.findSome?_map] using congrArg (List.findSome? id) same
  by_cases finishes : (r.move m).hasEnded m.side = true ∧ m.side ∉ r.finished
  · have finished : (r.move m).finished = r.finished ++ [m.side] := by
      rw [finished_move, if_pos finishes]
    rw [firstFailure, reported, finished, List.findSome?_append, kept, if_pos (by simp)]
    simp
  · have finished : (r.move m).finished = r.finished := by
      rw [finished_move, if_neg finishes]
    rw [firstFailure, finished, kept, reported, finished]
    cases first : r.firstFailure f g with
    | some e => rfl
    | none =>
      split
      · rename_i before
        have none := (r.firstFailure_eq_none_iff f g).mp first m.side
        rw [r.failure_move m f g (.inl (ended _ before))]
        rw [reported, if_pos before] at none
        rw [none]
        rfl
      · rfl

section

variable {r : Race α β} (fresh : r.finished = [])
include fresh

theorem hasEnded_of_mem_finished_moves (ms : List Move) :
    ∀ side ∈ (r.moves ms).finished, (r.moves ms).hasEnded side = true := fun side hside =>
  ((r.mem_finished_moves ms fresh side).mp hside).2

theorem firstFailure_moves_snoc (ms : List Move) (m : Move) :
    (r.moves (ms ++ [m])).firstFailure f g =
      ((r.moves ms).firstFailure f g).or ((r.moves (ms ++ [m])).reported f g m.side) := by
  rw [moves_append]
  exact firstFailure_move _ m f g (hasEnded_of_mem_finished_moves fresh ms)

/-- The failure that is kept is that of a side that failed before the other one did. -/
theorem firstFailure_moves_eq_some_iff (ms : List Move) (e : ε) :
    (r.moves ms).firstFailure f g = some e ↔
      ∃ before later side, ms = before ++ later ∧
        (r.moves before).reported f g side = some e ∧
        ∀ other, other ≠ side → (r.moves before).reported f g other = none := by
  induction ms using List.reverseRecOn with
  | nil =>
    constructor
    · intro first
      simp [firstFailure, fresh] at first
    · rintro ⟨before, later, side, none, failed, -⟩
      obtain ⟨rfl, -⟩ := List.append_eq_nil_iff.mp none.symm
      simp [reported, fresh] at failed
  | append_singleton ms m ih =>
    rw [firstFailure_moves_snoc f g fresh]
    constructor
    · intro first
      cases earlier : (r.moves ms).firstFailure f g with
      | some e' =>
        rw [earlier] at first
        obtain ⟨before, later, side, rfl, failed, alone⟩ := ih.mp (earlier.trans first)
        exact ⟨before, later ++ [m], side, List.append_assoc .., failed, alone⟩
      | none =>
        rw [earlier, Option.none_or] at first
        refine ⟨ms ++ [m], [], m.side, (List.append_nil _).symm, first, fun other ne => ?_⟩
        rw [moves_append, moves_cons, moves_nil, reported_move_of_ne _ m f g ne.symm]
        exact (firstFailure_eq_none_iff _ f g).mp earlier other
    · rintro ⟨before, later, side, same, failed, alone⟩
      rcases List.eq_nil_or_concat later with rfl | ⟨later, last, rfl⟩
      · rw [List.append_nil] at same
        rw [← firstFailure_moves_snoc f g fresh, same]
        exact firstFailure_of_reported _ f g failed alone
      · rw [List.concat_eq_append, ← List.append_assoc] at same
        obtain ⟨rfl, -⟩ := List.append_inj' same rfl
        rw [ih.mpr ⟨before, later, side, rfl, failed, alone⟩]
        rfl

end

end

/-! ### Failures of a side by itself -/

section

variable {γ ε : Type}

/-- How a side fails with the answers that it has been given; nothing if it has not begun, has not
ended or has not failed. -/
def failed? (failure : γ → Option ε) (side : Side) (p : Conversation γ) (ms : List Move) :
    Option ε :=
  (given? side ms).bind fun answers => (p.replay answers).result.bind failure

/-- After some of the moves one side had failed with an error, and the other one had not failed. -/
def FailsFirst {α β : Type} (f : α → Option ε) (g : β → Option ε) (left : Conversation α)
    (right : Conversation β) (ms : List Move) (e : ε) : Prop :=
  ∃ before later, ms = before ++ later ∧
    (failed? f .left left before = some e ∧ failed? g .right right before = none ∨
      failed? g .right right before = some e ∧ failed? f .left left before = none)

end

section

variable {α β ε : Type} {r : Race α β} (fresh : r.finished = []) {lefts rights : List Answer}
  {ms before later : List Move} (f : α → Option ε) (g : β → Option ε)
include fresh

/-- What is reported of a side is how it fails by itself, wherever it stands. -/
theorem reported_eq_failed? {γ : Type} {side : Side} {p stands : Conversation γ}
    {failure : γ → Option ε} {answers : List Answer}
    (h : movesOf side (before ++ later) = turns side answers)
    (moved : stands = (goThrough p (movesOf side before)).2)
    (ends : (r.moves before).hasEnded side = stands.result?.isSome)
    (fails : (r.moves before).failure f g side = stands.result?.bind failure) :
    (r.moves before).reported f g side = failed? failure side p before := by
  have finished := r.mem_finished_moves before fresh side
  rw [reported, failed?, fails]
  rcases movesOf_of_turns h with ⟨none, given⟩ | ⟨as, own, given⟩
  · rw [if_neg fun h => (finished.mp h).1 none, given]
    rfl
  · have result : stands.result? = (p.replay as).result := by
      rw [moved, own, (goThrough_turns p side as).2]
    rw [given, Option.bind_some, ← result]
    cases ended : stands.result? with
    | none => simp
    | some a => rw [if_pos (finished.mpr ⟨by simp [own, turns], by simp [ends, ended]⟩)]

theorem reported_left (h : movesOf .left (before ++ later) = turns .left lefts) :
    (r.moves before).reported f g .left = failed? f .left r.left before :=
  reported_eq_failed? fresh f g h (r.left_moves before).1 rfl rfl

theorem reported_right (h : movesOf .right (before ++ later) = turns .right rights) :
    (r.moves before).reported f g .right = failed? g .right r.right before :=
  reported_eq_failed? fresh f g h (r.right_moves before).1 rfl rfl

theorem firstFailure_moves_iff_failsFirst (h : Interleaves lefts rights ms) (e : ε) :
    (r.moves ms).firstFailure f g = some e ↔ FailsFirst f g r.left r.right ms e := by
  rw [firstFailure_moves_eq_some_iff f g fresh]
  constructor
  · rintro ⟨before, later, side, rfl, failed, alone⟩
    refine ⟨before, later, rfl, ?_⟩
    rw [← reported_left fresh f g h.left, ← reported_right fresh f g h.right]
    cases side with
    | left => exact .inl ⟨failed, alone .right (by decide)⟩
    | right => exact .inr ⟨failed, alone .left (by decide)⟩
  · rintro ⟨before, later, rfl, which⟩
    rw [← reported_left fresh f g h.left, ← reported_right fresh f g h.right] at which
    rcases which with ⟨failed, alone⟩ | ⟨failed, alone⟩
    · refine ⟨before, later, .left, rfl, failed, fun other ne => ?_⟩
      cases other with
      | left => exact absurd rfl ne
      | right => exact alone
    · refine ⟨before, later, .right, rfl, failed, fun other ne => ?_⟩
      cases other with
      | left => exact alone
      | right => exact absurd rfl ne

end

end Race

/-! ## Scanning and counting -/

/-- The error of a result. -/
def RunError.of? {α : Type} : Except RunError α → Option RunError
  | .error e => some e
  | .ok _ => none

namespace ScanCount

/-- What is reported of a scan and a count that have both ended: the number that each of them gives,
or zero for one that failed, and the error of the one that failed first. -/
structure Reports (scanned : Except RunError Nat) (counted : Except RunError Int)
    (first : RunError → Prop) (o : ScanCount) : Prop where
  rows : o.rows = match scanned with
    | .ok n => n
    | .error _ => 0
  count : o.count = match counted with
    | .ok n => n
    | .error _ => 0
  succeeded : o.error = none ↔ (∃ n, scanned = .ok n) ∧ ∃ n, counted = .ok n
  failed : ∀ e, o.error = some e ↔ first e

section

variable {μ ε : Type}

/-- Two conversations side by side, with the answers that each of them is given, and what comes of
them. -/
structure SideBySide (scan : Conversation (Destination μ ε × Except RunError Nat))
    (count : Conversation (Except RunError Int)) (lefts rights : List Answer) (ms : List Move)
    (r : Race (Destination μ ε × Except RunError Nat) (Except RunError Int)) : Prop where
  /-- Each does what it does alone, whatever becomes of the other one. -/
  scans : Race.marksOf .left r.marks = (scan.replay lefts).marks
  counts : Race.marksOf .right r.marks = (count.replay rights).marks
  /-- There is an outcome unless one of them waits forever. -/
  waits : ofRace? r = none ↔
    (scan.replay lefts).result = none ∨ (count.replay rights).result = none
  /-- The destination is what the scan alone makes of it. -/
  ends : ∀ d rows n, (scan.replay lefts).result = some (d, rows) →
    (count.replay rights).result = some n → ∃ o, ofRace? r = some (d, o) ∧
      Reports rows n (Race.FailsFirst (fun s => RunError.of? s.2) RunError.of? scan count ms) o

theorem ofRace?_eq (r : Race (Destination μ ε × Except RunError Nat) (Except RunError Int)) :
    ofRace? r = r.left.result?.bind fun s => r.right.result?.map fun n =>
      (s.1, .ofResults r.finished s.2 n) := by
  unfold ofRace?
  cases r.left <;> cases r.right <;> rfl

/-- What is reported is the first failure of the race. -/
theorem error_ofResults {r : Race (Destination μ ε × Except RunError Nat) (Except RunError Int)}
    {d : Destination μ ε} {scanned : Except RunError Nat} {counted : Except RunError Int}
    (left : r.left.result? = some (d, scanned)) (right : r.right.result? = some counted) :
    (ofResults r.finished scanned counted).error =
      r.firstFailure (fun s => RunError.of? s.2) RunError.of? := by
  have same : errorOf scanned counted = r.failure (fun s => RunError.of? s.2) RunError.of? := by
    funext side
    cases side with
    | left =>
      rw [Race.failure, left]
      cases scanned <;> rfl
    | right =>
      rw [Race.failure, right]
      cases counted <;> rfl
  rw [ofResults, Race.firstFailure, same]

theorem error_ofResults_eq_none_iff {finished : List Side} (both : ∀ side, side ∈ finished)
    (scanned : Except RunError Nat) (counted : Except RunError Int) :
    (ofResults finished scanned counted).error = none ↔
      (∃ n, scanned = .ok n) ∧ ∃ n, counted = .ok n := by
  rw [ofResults, List.findSome?_eq_none_iff]
  constructor
  · intro none
    have left := none .left (both .left)
    have right := none .right (both .right)
    cases scanned with
    | error e => cases left
    | ok rows =>
      cases counted with
      | error e => cases right
      | ok n => exact ⟨⟨rows, rfl⟩, n, rfl⟩
  · rintro ⟨⟨rows, rfl⟩, n, rfl⟩ side -
    cases side <;> rfl

variable {scan : Conversation (Destination μ ε × Except RunError Nat)}
  {count : Conversation (Except RunError Int)} {lefts rights : List Answer} {ms : List Move}

theorem sideBySide_moves (h : Race.Interleaves lefts rights ms) :
    SideBySide scan count lefts rights ms
      (({ left := scan, right := count } : Race _ _).moves ms) := by
  generalize start : ({ left := scan, right := count } : Race _ _) = r
  have fresh : r.finished = [] := by rw [← start]
  have quiet : r.marks = [] := by rw [← start]
  obtain rfl : r.left = scan := by rw [← start]
  obtain rfl : r.right = count := by rw [← start]
  obtain ⟨left, leftMarks⟩ := r.left_moves ms
  obtain ⟨right, rightMarks⟩ := r.right_moves ms
  obtain ⟨scans, scanned⟩ := Race.goThrough_turns r.left .left lefts
  obtain ⟨counts, counted⟩ := Race.goThrough_turns r.right .right rights
  rw [← h.left] at scans scanned
  rw [← h.right] at counts counted
  rw [← left] at scanned
  rw [← right] at counted
  refine
    { scans := by rw [leftMarks, quiet, scans]; rfl
      counts := by rw [rightMarks, quiet, counts]; rfl
      waits := ?waits
      ends := ?ends }
  case waits =>
    rw [ofRace?_eq, scanned, counted]
    cases (r.left.replay lefts).result <;> cases (r.right.replay rights).result <;> simp
  case ends =>
    intro d rows n hrows hn
    rw [hrows] at scanned
    rw [hn] at counted
    have both (side : Side) : side ∈ (r.moves ms).finished := by
      rw [r.mem_finished_moves ms fresh side]
      cases side with
      | left => exact ⟨by simp [h.left, Race.turns], by simp [Race.hasEnded, scanned]⟩
      | right => exact ⟨by simp [h.right, Race.turns], by simp [Race.hasEnded, counted]⟩
    refine ⟨.ofResults (r.moves ms).finished rows n, ?_, ?_⟩
    · rw [ofRace?_eq, scanned, counted]
      rfl
    · refine
        { rows := by cases rows <;> rfl
          count := by cases n <;> rfl
          succeeded := error_ofResults_eq_none_iff both rows n
          failed := fun e => ?_ }
      rw [error_ofResults scanned counted]
      exact Race.firstFailure_moves_iff_failsFirst fresh _ _ h e

end

end ScanCount

/-- Scanning and counting do not disturb each other, in whatever order their statements are
answered. With a negative limit nothing is scanned. -/
theorem Query.scanAndCount_sideBySide {μ ε : Type} [EntityType ε μ] (schema : Schema)
    (models : Nat → μ) (session : Session) (q : Query) (d : Destination μ ε) {lefts rights : List Answer} {ms : List Move}
    (interleaved : Race.Interleaves lefts rights ms) :
    ((∀ n ∈ q.select.limit, 0 ≤ n) →
      ScanCount.SideBySide (q.scan schema models session d) (q.count session) lefts rights ms
        ((q.scanAndCount schema models session d).moves ms)) ∧
    (∀ n ∈ q.select.limit, n < 0 →
      ScanCount.SideBySide (.done (d, .ok 0)) (q.count session) lefts rights ms
        ((q.scanAndCount schema models session d).moves ms)) := by
  constructor
  · intro unlimited
    have runs : q.skipsScan = false := by
      cases limit : q.select.limit with
      | none => simp [skipsScan, limit]
      | some n => simpa [skipsScan, limit] using unlimited n limit
    have side : q.scanSide schema models session d = q.scan schema models session d :=
      if_neg (by simp [runs])
    rw [scanAndCount, side]
    exact ScanCount.sideBySide_moves interleaved
  · intro n limit negative
    have skips : q.skipsScan = true := by
      rw [skipsScan, Option.mem_def.mp limit]
      simpa using negative
    have side : q.scanSide schema models session d = .done (d, .ok 0) := if_pos skips
    rw [scanAndCount, side]
    exact ScanCount.sideBySide_moves interleaved

def Model.authors : Model where
  table := { name := "authors", aliasName := "author", fields := [⟨"id", "id", none, true, false⟩] }
  fields := [(⟨"id", "id", none, true, false⟩, none)]

/-- Authors with their books. -/
def Query.authorsBooks : Query :=
  .mk { table := some Model.authors.table, relations := [.authorsBooks] } [] []

/-- The authors come, the count fails, and then the books are refused, too. -/
theorem Query.scanAndCount_sideBySide_authors :
    let authors : Answer := { result := .ok { rows := [⟨["id"], [.text "1"]⟩] } }
    let refused (message : String) : Answer := { result := .error (.query message) }
    let lefts := [authors, refused "no books"]
    let rights := [refused "no count"]
    let ms : List Move := [⟨.left, none⟩, ⟨.left, some authors⟩, ⟨.right, none⟩,
      ⟨.right, some (refused "no count")⟩, ⟨.left, some (refused "no books")⟩]
    let d : Destination := .entities .authors false []
    let r := (authorsBooks.scanAndCount {} (fun _ => .authors) {} d).moves ms
    statements (Race.marksOf .left r.marks) =
        ["SELECT \"author\".\"id\" FROM \"authors\" AS \"author\"",
          "SELECT \"book\".\"author_id\" FROM \"books\" AS \"book\" " ++
            "WHERE (\"book\".\"author_id\" IN ('1'))"] ∧
      (ScanCount.ofRace? r).map (fun o => (o.1.size, o.2.rows, o.2.error.map RunError.message)) =
        some (1, 0, some "Query error: no count") ∧
      Race.Interleaves lefts rights ms ∧ (∀ n ∈ authorsBooks.select.limit, 0 ≤ n) ∧
      ScanCount.SideBySide (authorsBooks.scan {} (fun _ => .authors) {} d)
        (authorsBooks.count {}) lefts rights ms r := by
  intro authors refused lefts rights ms d r
  have interleaved : Race.Interleaves lefts rights ms := ⟨rfl, rfl⟩
  have unlimited : ∀ n ∈ authorsBooks.select.limit, 0 ≤ n := nofun
  exact ⟨by decide +kernel, by decide +kernel, interleaved, unlimited,
    (scanAndCount_sideBySide {} (fun _ => .authors) {} authorsBooks d interleaved).1 unlimited⟩

end SqlCompose
