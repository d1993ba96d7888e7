import SqlCompose.Proofs.Loading
import SqlCompose.Proofs.Replay
import SqlCompose.Run.Scan

/-!
# The order of what a scan does

A scan sends its own statement first. Once the rows are in the destination it goes through stages,
one relation after the other and then one entity after the other, and the first stage that does not
end well is the last thing it does. All of this holds of any type of entities, each of which may
fail in its own way.
-/

namespace SqlCompose

open Conversation

/-! ## Stages in turn -/

/-- Stages one after the other, each from where the one before it has led, until one of them stops.
`does` tells what a stage can do: from which standing to which, with which marks. -/
inductive InTurn {ι σ : Type} (does : ι → σ → List Mark → σ → Option Stop → Prop) :
    List ι → σ → List Mark → σ → Option Stop → Prop
  | finished (s : σ) : InTurn does [] s [] s none
  | stopped {i : ι} {rest : List ι} {s s' : σ} {marks : List Mark} {why : Stop} :
      does i s marks s' (some why) → InTurn does (i :: rest) s marks s' (some why)
  | next {i : ι} {rest : List ι} {s s₁ s' : σ} {marks later : List Mark} {stop : Option Stop} :
      does i s marks s₁ none → InTurn does rest s₁ later s' stop →
        InTurn does (i :: rest) s (marks ++ later) s' stop

namespace InTurn

variable {ι σ : Type} {does : ι → σ → List Mark → σ → Option Stop → Prop}
  {is js : List ι} {s s₁ s' : σ} {marks later : List Mark} {stop : Option Stop} {why : Stop}

/-- Further stages are not reached. -/
theorem append_of_stopped (h : InTurn does is s marks s' (some why)) (js : List ι) :
    InTurn does (is ++ js) s marks s' (some why) := by
  generalize ended : some why = stop at h
  induction h with
  | finished s => cases ended
  | stopped stops => exact .stopped stops
  | next well _ ih => exact .next well (ih ended)

theorem append (h : InTurn does is s marks s₁ none) (further : InTurn does js s₁ later s' stop) :
    InTurn does (is ++ js) s (marks ++ later) s' stop := by
  generalize ended : none = stop₁ at h
  induction h with
  | finished s => exact further
  | stopped stops => cases ended
  | next well _ ih =>
    rw [List.append_assoc]
    exact .next well (ih further ended)

end InTurn

/-! ## Handing rows to owners -/

/-- The result of a stage by where it leads and why it stops. -/
def Conversation.Standing.ended {μ ε : Type} (s : Standing μ ε) :
    Option Stop → Option (Destination μ ε × Option RunError)
  | none => some (s.destination, none)
  | some (.failed e) => some (s.destination, some e)
  | some .waiting => none

/-- What loading a relation can leave behind: a statement, notes, and rows handed to its owners. -/
def JoinTree.Concerns (t : JoinTree) (m : Mark) : Prop :=
  m.isNote = true ∨ (∃ sql, m = .sent sql) ∨
    ∃ position rows, m = .did (.attach position t.join.path.dropLast t.join.relation.name rows)

section

variable {μ ε : Type} [EntityType ε μ]

section

variable (path : List String) (relation : String) (columns : List String) (rows : List Row)

/-- Owners are handed their rows until one fails to take them. -/
theorem replay_attachAll (owners : List Owner) (answers : List Answer) (d : Destination μ ε) :
    ∃ marks s' stop, (attachAll path relation columns rows owners d).replay answers =
        ⟨marks, s'.answers, s'.ended stop⟩ ∧
      Performs ⟨answers, d⟩ marks s' stop ∧
      ∀ m ∈ marks, ∃ position own, m = .did (.attach position path relation own) := by
  induction owners generalizing d with
  | nil => exact ⟨[], ⟨answers, d⟩, none, rfl, performs_nil _, by simp⟩
  | cons o rest ih =>
    rw [attachAll, replay_effect]
    generalize changed : d.change (EntityType.changeAt
      (EntityType.attach relation (rowsOf columns rows o.key)) path) o.position = change
    obtain ⟨d', error⟩ := change
    cases error with
    | some e =>
      refine ⟨_, ⟨answers, d'⟩, some (.failed e), rfl,
        performs_of_stop (Mark.changed_of_change answers changed) (by simp), ?_⟩
      intro m hm
      exact ⟨_, _, List.mem_singleton.mp hm⟩
    | none =>
      obtain ⟨marks, s', stop, same, performs, own⟩ := ih d'
      dsimp only
      rw [same]
      refine ⟨_, s', stop, rfl, .cons (Mark.changed_of_change answers changed) performs, ?_⟩
      intro m hm
      rcases List.mem_cons.mp hm with rfl | hm
      · exact ⟨_, _, rfl⟩
      · exact own m hm

end

/-! ## Loading one relation -/

/-- Why rows of a relation cannot be asked for: there are to-many relations below it, or there is no
statement by the keys of its owners. -/
inductive JoinTree.Unaskable (schema : Schema) (session : Session) (t : JoinTree)
    (d : Destination μ ε) : RunError → Prop
  | nested : toManyAll t.children ≠ [] → Unaskable schema session t d
      (.render (.unsupported session.dialect (.nestedToMany t.join.pathText)))
  | unbuilt {e : BuildError} : toManyAll t.children = [] → t.askedKeys d ≠ [] →
      t.relatedQuery schema (t.askedKeys d) = .error e →
      Unaskable schema session t d (.render (.build e))
  | unrendered {q : Query} {columns : List String} {e : RenderError} :
      toManyAll t.children = [] → t.askedKeys d ≠ [] →
      t.relatedQuery schema (t.askedKeys d) = .ok (q, columns) →
      q.sql session.dialect .rows = .error e → Unaskable schema session t d (.render e)

/-- What loading a relation does from a standing on. -/
structure JoinTree.Loads (schema : Schema) (session : Session) (t : JoinTree) (s : Standing μ ε)
    (marks : List Mark) (s' : Standing μ ε) (stop : Option Stop) : Prop where
  /-- There is at most one statement. -/
  once : (statements marks).length ≤ 1
  concerns : ∀ m ∈ marks, t.Concerns m
  /-- Where the rows cannot be asked for, nothing is done and the scan ends. -/
  unaskable : ∀ e, t.Unaskable schema session s.destination e →
    stop = some (.failed e) ∧ s' = s ∧ ∀ m ∈ marks, m.isNote = true
  /-- Where they can, all goes well, or the first thing that fails is the last one done. -/
  performs : (∀ e, ¬ t.Unaskable schema session s.destination e) → Performs s marks s' stop

section

variable {schema : Schema} {session : Session} {t : JoinTree} {s s' : Standing μ ε}
  {marks : List Mark} {stop : Option Stop}

theorem JoinTree.Unaskable.unique {d : Destination μ ε} {e e' : RunError}
    (h : t.Unaskable schema session d e) (h' : t.Unaskable schema session d e') : e = e' := by
  cases h with
  | nested below =>
    cases h' with
    | nested => rfl
    | unbuilt flat => exact absurd flat below
    | unrendered flat => exact absurd flat below
  | unbuilt flat _ built =>
    cases h' with
    | nested below => exact absurd flat below
    | unbuilt _ _ built' =>
      cases built.symm.trans built'
      rfl
    | unrendered _ _ built' => cases built.symm.trans built'
  | unrendered flat _ built rendered =>
    cases h' with
    | nested below => exact absurd flat below
    | unbuilt _ _ built' => cases built.symm.trans built'
    | unrendered _ _ built' rendered' =>
      cases built.symm.trans built'
      cases rendered.symm.trans rendered'
      rfl

/-- Loading that fails before it asks. -/
theorem JoinTree.Unaskable.loads {e : RunError} (h : t.Unaskable schema session s.destination e)
    (quiet : ∀ m ∈ marks, m.isNote = true) :
    t.Loads schema session s marks s (some (.failed e)) where
  once := by
    have unsent : statements marks = [] := by
      apply List.filterMap_eq_nil_iff.mpr
      intro m hm
      have note := quiet m hm
      cases m with
      | sent sql => cases note
      | did e => rfl
    rw [unsent]
    exact Nat.zero_le 1
  concerns := fun m hm => .inl (quiet m hm)
  unaskable := by
    intro e' h'
    obtain rfl := h.unique h'
    exact ⟨rfl, rfl, quiet⟩
  performs := fun askable => absurd h (askable e)

theorem statements_of_attachments {path : List String} {relation : String}
    (h : ∀ m ∈ marks, ∃ position rows, m = .did (.attach position path relation rows)) :
    statements marks = [] := by
  apply List.filterMap_eq_nil_iff.mpr
  intro m hm
  obtain ⟨position, rows, rfl⟩ := h m hm
  rfl

/-- Loading without keys: nothing is asked. -/
theorem JoinTree.loads_of_keyless (note : Event)
    (askable : ∀ e, ¬ t.Unaskable schema session s.destination e)
    (performs : Performs s marks s' stop)
    (own : ∀ m ∈ marks, ∃ position rows,
      m = .did (.attach position t.join.path.dropLast t.join.relation.name rows)) :
    t.Loads schema session s (.did (.log note) :: marks) s' stop where
  once := by
    rw [show statements (.did (.log note) :: marks) = statements marks from rfl,
      statements_of_attachments own]
    exact Nat.zero_le 1
  concerns := by
    intro m hm
    rcases List.mem_cons.mp hm with rfl | hm
    · exact .inl rfl
    · exact .inr (.inr (own m hm))
  unaskable := fun e h => absurd h (askable e)
  performs := fun _ => performs.note note

/-- Loading by one statement, whatever becomes of it. -/
theorem JoinTree.loads_of_asked (note : Event) {sql : String} {behind : List Mark}
    (askable : ∀ e, ¬ t.Unaskable schema session s.destination e)
    (performs : Performs s (.sent sql :: behind) s' stop)
    (unsent : statements behind = []) (concerns : ∀ m ∈ behind, t.Concerns m) :
    t.Loads schema session s (.did (.log note) :: .sent sql :: behind) s' stop where
  once := by
    rw [show statements (.did (.log note) :: .sent sql :: behind) = sql :: statements behind
      from rfl, unsent]
    exact Nat.le_refl 1
  concerns := by
    intro m hm
    rcases List.mem_cons.mp hm with rfl | hm
    · exact .inl rfl
    · rcases List.mem_cons.mp hm with rfl | hm
      · exact .inr (.inl ⟨sql, rfl⟩)
      · exact concerns m hm
  unaskable := fun e h => absurd h (askable e)
  performs := fun _ => performs.note note

end

section

variable (schema : Schema) (session : Session) (t : JoinTree) (s : Standing μ ε)

/-- Loading a relation without to-many relations below it, if there is something to ask by. -/
theorem JoinTree.loads_of_asks {q : Query} {columns : List String} {sql : String}
    (flat : toManyAll t.children = [])
    (asks : t.Asks schema session (t.askedKeys s.destination) q columns sql) (note : Event) :
    ∃ marks s' stop,
      (Conversation.effect (.log note) ((fetchRelated schema session t
          (t.askedKeys s.destination)).bind fun
        | .error e => .done (s.destination, some e)
        | .ok (rows, columns) =>
          attachAll t.join.path.dropLast t.join.relation.name columns rows
            (ownersOf s.destination t.join.path.dropLast t.join.relation.baseFields)
            s.destination)).replay s.answers =
        ⟨marks, s'.answers, s'.ended stop⟩ ∧
      t.Loads schema session s marks s' stop := by
  have askable : ∀ e, ¬ t.Unaskable schema session s.destination e := by
    intro e h
    cases h with
    | nested below => exact below flat
    | unbuilt _ _ failed => cases asks.built.symm.trans failed
    | unrendered _ _ built failed =>
      cases asks.built.symm.trans built
      cases asks.rendered.symm.trans failed
  obtain ⟨answers, d⟩ := s
  rw [fetchRelated_of_asks asks, bind_assoc, replay_effect]
  cases answers with
  | nil =>
    rw [replay_bind_of_none _ _ (session.replay_query_nil sql)]
    refine ⟨_, ⟨[], d⟩, some .waiting, rfl, loads_of_asked note askable ?_ rfl (by simp)⟩
    exact performs_of_stop rfl (by simp)
  | cons a later =>
    rw [replay_bind_of_some _ _ (session.replay_query_cons sql a later)]
    dsimp only
    cases result : a.result with
    | error e =>
      simp only [Except.map, bind_done, replay_done]
      refine ⟨_, ⟨later, d⟩, some (.failed e), rfl, loads_of_asked note askable ?_ rfl ?_⟩
      · apply performs_of_stop
        · simp only [Mark.outcome, result]
        · simp [Mark.isNote]
      · intro m hm
        rw [List.append_eq, List.append_nil, List.mem_singleton] at hm
        subst hm
        exact .inl rfl
    | ok reply =>
      obtain ⟨marks, s', stop, same, performs, own⟩ :=
        replay_attachAll t.join.path.dropLast t.join.relation.name columns reply.rows
          (ownersOf d t.join.path.dropLast t.join.relation.baseFields) later d
      simp only [Except.map, bind_done, same, List.cons_append, List.nil_append]
      refine ⟨_, s', stop, rfl, loads_of_asked note askable ?_ ?_ ?_⟩
      · have well : Mark.outcome ⟨a :: later, d⟩ (.sent sql) = (⟨later, d⟩, none) := by
          simp only [Mark.outcome, result]
        exact .cons well (.note _ performs)
      · rw [← statements_of_attachments own]
        rfl
      · intro m hm
        rcases List.mem_cons.mp hm with rfl | hm
        · exact .inl rfl
        · exact .inr (.inr (own m hm))

/-- Whatever the answers are, loading a relation does what it can. -/
theorem JoinTree.loads_loadRelation :
    ∃ marks s' stop, (loadRelation schema session t s.destination).replay s.answers =
        ⟨marks, s'.answers, s'.ended stop⟩ ∧
      t.Loads schema session s marks s' stop := by
  by_cases flat : toManyAll t.children = []
  · obtain ⟨note, loads⟩ := loadRelation_eq flat schema session s.destination
    rw [loads]
    by_cases keyless : t.askedKeys s.destination = []
    · have askable : ∀ e, ¬ t.Unaskable schema session s.destination e := by
        intro e h
        cases h with
        | nested below => exact below flat
        | unbuilt _ keyed => exact keyed keyless
        | unrendered _ keyed => exact keyed keyless
      obtain ⟨marks, s', stop, same, performs, own⟩ :=
        replay_attachAll t.join.path.dropLast t.join.relation.name [] []
          (ownersOf s.destination t.join.path.dropLast t.join.relation.baseFields) s.answers
          s.destination
      rw [keyless, replay_effect, fetchRelated, bind_done]
      dsimp only
      rw [same]
      exact ⟨_, s', stop, rfl, loads_of_keyless note askable performs own⟩
    · cases built : t.relatedQuery schema (t.askedKeys s.destination) with
      | error e =>
        rw [fetchRelated_of_unbuilt keyless built, bind_done, replay_effect]
        exact ⟨_, s, _, rfl, (Unaskable.unbuilt flat keyless built).loads (by simp [Mark.isNote])⟩
      | ok related =>
        obtain ⟨q, columns⟩ := related
        cases rendered : q.sql session.dialect .rows with
        | error e =>
          rw [fetchRelated_of_unrendered keyless built rendered, bind_done, replay_effect]
          exact ⟨_, s, _, rfl,
            (Unaskable.unrendered flat keyless built rendered).loads (by simp [Mark.isNote])⟩
        | ok sql => exact loads_of_asks schema session t s flat ⟨keyless, built, rendered⟩ note
  · -- To-many relations below this one are refused before anything is asked or logged.
    refine ⟨[], s, _, ?_, (Unaskable.nested flat).loads (by simp)⟩
    obtain ⟨first, rest, below⟩ := List.exists_cons_of_ne_nil flat
    rw [loadRelation, below]
    rfl

end

theorem JoinTree.Loads.length_items {schema : Schema} {session : Session} {t : JoinTree}
    {s s' : Standing μ ε} {marks : List Mark} {stop : Option Stop}
    (h : t.Loads schema session s marks s' stop) :
    s'.destination.items.length = s.destination.items.length := by
  by_cases askable : ∃ e, t.Unaskable schema session s.destination e
  · obtain ⟨e, unaskable⟩ := askable
    rw [(h.unaskable e unaskable).2.1]
  · exact (h.performs (not_exists.mp askable)).length_items

/-! ## All stages -/

/-- A stage of a scan once the rows are in the destination. -/
inductive Stage where
  | load (t : JoinTree)
  | select (position : Nat)

/-- What a stage does from a standing on. -/
def Stage.Does (schema : Schema) (session : Session) :
    Stage → Standing μ ε → List Mark → Standing μ ε → Option Stop → Prop
  | .load t, s, marks, s', stop => t.Loads schema session s marks s' stop
  | .select position, s, marks, s', stop =>
    marks = [.did (.selected position)] ∧ Performs s marks s' stop

section

variable (schema : Schema) (session : Session)

theorem inTurn_loadRelations (ts : List JoinTree) (s : Standing μ ε) :
    ∃ marks s' stop, (loadRelations schema session ts s.destination).replay s.answers =
        ⟨marks, s'.answers, s'.ended stop⟩ ∧
      InTurn (Stage.Does schema session) (ts.map .load) s marks s' stop ∧
      s'.destination.items.length = s.destination.items.length := by
  induction ts generalizing s with
  | nil => exact ⟨[], s, none, rfl, .finished s, rfl⟩
  | cons t rest ih =>
    obtain ⟨marks, s₁, stop, same, loads⟩ := JoinTree.loads_loadRelation schema session t s
    rw [loadRelations]
    match stop with
    | none =>
      obtain ⟨later, s', stop', same', further, length⟩ := ih s₁
      rw [replay_bind_of_some _ _ same]
      dsimp only
      rw [same']
      have first : Stage.Does schema session (.load t) s marks s₁ none := loads
      exact ⟨_, s', stop', rfl, .next first further, length.trans loads.length_items⟩
    | some (.failed e) =>
      have last : Stage.Does schema session (.load t) s marks s₁ (some (.failed e)) := loads
      rw [replay_bind_of_some _ _ same]
      refine ⟨_, s₁, some (.failed e), rfl, ?_, loads.length_items⟩
      rw [replay_done, List.append_nil]
      exact .stopped last
    | some .waiting =>
      have last : Stage.Does schema session (.load t) s marks s₁ (some .waiting) := loads
      rw [replay_bind_of_none _ _ same]
      exact ⟨_, s₁, some .waiting, rfl, .stopped last, loads.length_items⟩

theorem inTurn_selectAll (position count : Nat) (s : Standing μ ε) :
    ∃ marks s' stop, (selectAll position count s.destination).replay s.answers =
        ⟨marks, s'.answers, s'.ended stop⟩ ∧
      InTurn (Stage.Does schema session) ((List.range' position count).map .select) s marks s'
        stop := by
  induction count generalizing position s with
  | zero => exact ⟨[], s, none, rfl, .finished s⟩
  | succ count ih =>
    rw [selectAll, replay_effect, List.range'_succ, List.map_cons]
    generalize changed : s.destination.change EntityType.select position = change
    obtain ⟨d, error⟩ := change
    cases error with
    | some e =>
      exact ⟨_, ⟨s.answers, d⟩, some (.failed e), rfl,
        .stopped ⟨rfl, performs_of_stop (Mark.changed_of_change s.answers changed) (by simp)⟩⟩
    | none =>
      obtain ⟨later, s', stop, same, further⟩ := ih (position + 1) ⟨s.answers, d⟩
      dsimp only at same ⊢
      rw [same]
      have selects : Stage.Does schema session (.select position) s [.did (.selected position)]
          ⟨s.answers, d⟩ none := ⟨rfl, .cons (Mark.changed_of_change s.answers changed) (performs_nil _)⟩
      exact ⟨_, s', stop, rfl, .next selects further⟩

end

end

/-! ## The walk through the joins -/

namespace JoinTree

mutual

/-- The nodes of a tree behind the joins above them, depth first. -/
def walk (above : List Join) : JoinTree → List (List Join × JoinTree)
  | .node j children => (above, .node j children) :: walkAll (above ++ [j]) children

def walkAll (above : List Join) : List JoinTree → List (List Join × JoinTree)
  | [] => []
  | t :: rest => t.walk above ++ walkAll above rest

end

/-- The to-many relation at a node, if only to-one relations lead there. -/
def loaded? (n : List Join × JoinTree) : Option JoinTree :=
  if n.1.all (·.relation.kind.isToOne) && !n.2.join.relation.kind.isToOne then some n.2 else none

mutual

/-- Nothing is loaded below a to-many relation. -/
theorem filterMap_loaded?_walk_of_toMany {above : List Join}
    (h : above.all (·.relation.kind.isToOne) = false) (t : JoinTree) :
    (t.walk above).filterMap loaded? = [] := by
  obtain ⟨j, children⟩ := t
  have toMany : (above ++ [j]).all (·.relation.kind.isToOne) = false := by simp [h]
  rw [walk, List.filterMap_cons, filterMap_loaded?_walkAll_of_toMany toMany children]
  simp [loaded?, h]

theorem filterMap_loaded?_walkAll_of_toMany {above : List Join}
    (h : above.all (·.relation.kind.isToOne) = false) (ts : List JoinTree) :
    (walkAll above ts).filterMap loaded? = [] := by
  cases ts with
  | nil => rw [walkAll, List.filterMap_nil]
  | cons t rest =>
    rw [walkAll, List.filterMap_append, filterMap_loaded?_walk_of_toMany h t,
      filterMap_loaded?_walkAll_of_toMany h rest]
    rfl

end

mutual

theorem filterMap_loaded?_walk {above : List Join}
    (h : above.all (·.relation.kind.isToOne) = true) (t : JoinTree) :
    (t.walk above).filterMap loaded? = t.toMany := by
  obtain ⟨j, children⟩ := t
  rw [walk, List.filterMap_cons, toMany]
  by_cases toOne : j.relation.kind.isToOne = true
  · have further : (above ++ [j]).all (·.relation.kind.isToOne) = true := by simp [h, toOne]
    rw [filterMap_loaded?_walkAll further children]
    simp [loaded?, toOne, join]
  · have toMany : (above ++ [j]).all (·.relation.kind.isToOne) = false := by simp [toOne]
    rw [filterMap_loaded?_walkAll_of_toMany toMany children]
    simp [loaded?, toOne, join, h]

theorem filterMap_loaded?_walkAll {above : List Join}
    (h : above.all (·.relation.kind.isToOne) = true) (ts : List JoinTree) :
    (walkAll above ts).filterMap loaded? = toManyAll ts := by
  cases ts with
  | nil => rw [walkAll, toManyAll, List.filterMap_nil]
  | cons t rest =>
    rw [walkAll, toManyAll, List.filterMap_append, filterMap_loaded?_walk h t,
      filterMap_loaded?_walkAll h rest]

end

end JoinTree

/-! ## Whole scans -/

namespace Query

/-- The relations that a scan loads, in the order of a walk through its joins. -/
def loadedRelations (q : Query) : List JoinTree :=
  (JoinTree.walkAll [] q.select.relations).filterMap JoinTree.loaded?

section

variable {μ ε : Type} [EntityType ε μ]

/-- The stages of a scan that was given rows: without a table there are none, and without rows no
relations are loaded. -/
def stages (q : Query) (rows : List Row) (d : Destination μ ε) : List Stage :=
  if q.select.table.isNone then []
  else
    (if rows = [] then [] else q.loadedRelations.map .load) ++
      (List.range d.items.length).map .select

/-- The result of a scan whose own statement gave so many rows. -/
def scanned (rows : Nat) (s : Standing μ ε) :
    Option Stop → Option (Destination μ ε × Except RunError Nat)
  | none => some (s.destination, .ok rows)
  | some (.failed e) => some (s.destination, .error e)
  | some .waiting => none

/-- What a scan does, in order, when it is given answers. -/
structure ScansInOrder (schema : Schema) (models : Nat → μ) (session : Session) (q : Query)
    (d : Destination μ ε) (answers : List Answer)
    (c : Course (Destination μ ε × Except RunError Nat)) : Prop where
  /-- A query that is not rendered sends nothing. -/
  unrendered : ∀ e, q.sql session.dialect .rows = .error e →
    c.marks = [] ∧ c.result = some (d, .error (.render e))
  /-- Its own statement comes first. -/
  first : ∀ sql, q.sql session.dialect .rows = .ok sql → ∃ rest, c.marks = .sent sql :: rest
  waiting : ∀ sql, q.sql session.dialect .rows = .ok sql → answers = [] →
    c.marks = [.sent sql] ∧ c.result = none
  /-- When it fails, the destination is what it was. -/
  refused : ∀ sql a later e, q.sql session.dialect .rows = .ok sql → answers = a :: later →
    a.result = .error e →
    c.marks = [.sent sql, .did (.log (session.report sql (·.rows.length) a))] ∧
    c.result = some (d, .error e)
  undecoded : ∀ sql a later reply d' e, q.sql session.dialect .rows = .ok sql →
    answers = a :: later → a.result = .ok reply → d.fill models reply.rows = (d', some e) →
    c.marks = [.sent sql, .did (.log (session.report sql (·.rows.length) a))] ∧
    c.result = some (d', .error e)
  /-- Once the rows are in the destination the stages take their turns. -/
  decoded : ∀ sql a later reply d', q.sql session.dialect .rows = .ok sql →
    answers = a :: later → a.result = .ok reply → d.fill models reply.rows = (d', none) →
    (∀ m plain es, d' = .entities m plain es → es.length = reply.rows.length) ∧
    ∃ marks s' stop,
      c.marks = .sent sql :: .did (.log (session.report sql (·.rows.length) a)) :: marks ∧
      InTurn (Stage.Does schema session) (q.stages reply.rows d') ⟨later, d'⟩ marks s' stop ∧
      c.result = scanned reply.rows.length s' stop
  /-- The number that a scan gives is the number of rows of its own statement. -/
  counted : ∀ d' n, c.result = some (d', .ok n) →
    ∃ a later reply, answers = a :: later ∧ a.result = .ok reply ∧ n = reply.rows.length

end

end Query

section

variable {μ ε : Type} [EntityType ε μ]

theorem Destination.length_of_readAll {models : Nat → μ} {m : μ} {rows : List Row}
    {es : List ε} (h : readAll models m rows = (es, none)) : es.length = rows.length := by
  induction rows generalizing es with
  | nil =>
    cases h
    rfl
  | cons row rest ih =>
    rw [readAll] at h
    cases read : (EntityType.read models m row : Except RunError ε) with
    | error e =>
      rw [read] at h
      cases h
    | ok e =>
      rw [read] at h
      obtain ⟨rfl, later⟩ := Prod.mk.inj h
      rw [List.length_cons, List.length_cons, ih (Prod.ext rfl later)]

/-- A filled destination holds as many things as there are rows. -/
theorem Destination.size_of_fill {models : Nat → μ} {rows : List Row} {d d' : Destination μ ε}
    (h : d.fill models rows = (d', none)) :
    d'.size = rows.length ∧
      ∀ m plain es, d' = .entities m plain es → es.length = rows.length := by
  cases d with
  | maps held =>
    cases h
    refine ⟨List.length_map .., ?_⟩
    intro m plain es same
    cases same
  | entities m plain held =>
    obtain ⟨rfl, read⟩ := Prod.mk.inj h
    have length := length_of_readAll (Prod.ext rfl read)
    refine ⟨length, ?_⟩
    intro m' plain' es same
    cases same
    exact length

section

variable (schema : Schema) (models : Nat → μ) (session : Session) (q : Query)
  (d : Destination μ ε) (answers : List Answer)

theorem Query.scan_of_ok {sql : String} (h : q.sql session.dialect .rows = .ok sql) :
    q.scan schema models session d =
      (session.query sql).bind fun
        | .error e => .done (d, .error e)
        | .ok rows =>
          match d.fill models rows with
          | (d, some e) => .done (d, .error e)
          | (d, none) => afterFill schema session q d.size d := by
  rw [scan]
  generalize q.sql session.dialect .rows = rendered at h ⊢
  subst h
  rfl

/-- The stages of a scan, from the filled destination on. -/
theorem Query.inTurn_afterFill (rows : List Row) (size : d.size = rows.length) :
    ∃ marks s' stop, (q.afterFill schema session d.size d).replay answers =
        ⟨marks, s'.answers, scanned rows.length s' stop⟩ ∧
      InTurn (Stage.Does schema session) (q.stages rows d) ⟨answers, d⟩ marks s' stop := by
  rw [afterFill, stages, size]
  by_cases unbound : q.select.table.isNone = true
  · rw [if_pos unbound, if_pos unbound]
    exact ⟨[], ⟨answers, d⟩, none, rfl, .finished _⟩
  · rw [if_neg unbound, if_neg unbound]
    have relations : (if rows.length = 0 then [] else JoinTree.toManyAll q.select.relations).map
        Stage.load = if rows = [] then [] else q.loadedRelations.map .load := by
      rw [loadedRelations, JoinTree.filterMap_loaded?_walkAll rfl]
      by_cases none : rows = [] <;> simp [none]
    obtain ⟨marks, s₁, stop, same, loads, length⟩ := inTurn_loadRelations schema session
      (if rows.length = 0 then [] else JoinTree.toManyAll q.select.relations) ⟨answers, d⟩
    rw [relations] at loads
    -- The entities are told only if the relations were all loaded.
    match stop with
    | none =>
      obtain ⟨later, s', stop', same', selects⟩ := inTurn_selectAll schema session 0
        s₁.destination.items.length s₁
      rw [length, ← List.range_eq_range'] at selects
      rw [replay_bind_of_some _ _ same]
      dsimp only
      match stop' with
      | none =>
        rw [replay_bind_of_some _ _ same']
        refine ⟨_, s', none, rfl, ?_⟩
        rw [replay_done, List.append_nil]
        exact loads.append selects
      | some (.failed e) =>
        rw [replay_bind_of_some _ _ same']
        refine ⟨_, s', some (.failed e), rfl, ?_⟩
        rw [replay_done, List.append_nil]
        exact loads.append selects
      | some .waiting =>
        rw [replay_bind_of_none _ _ same']
        exact ⟨_, s', some .waiting, rfl, loads.append selects⟩
    | some (.failed e) =>
      rw [replay_bind_of_some _ _ same]
      refine ⟨_, s₁, some (.failed e), rfl, ?_⟩
      rw [replay_done, List.append_nil]
      exact loads.append_of_stopped _
    | some .waiting =>
      rw [replay_bind_of_none _ _ same]
      exact ⟨_, s₁, some .waiting, rfl, loads.append_of_stopped _⟩

theorem Query.replay_scan_of_unrendered {e : RenderError}
    (h : q.sql session.dialect .rows = .error e) :
    (q.scan schema models session d).replay answers =
      ⟨[], answers, some (d, .error (.render e))⟩ := by
  rw [scan, h]
  rfl

theorem Query.replay_scan_nil {sql : String} (h : q.sql session.dialect .rows = .ok sql) :
    (q.scan schema models session d).replay [] = ⟨[.sent sql], [], none⟩ := by
  rw [scan_of_ok schema models session q d h]
  exact replay_bind_of_none _ _ (session.replay_query_nil sql)

section

variable {sql : String} (rendered : q.sql session.dialect .rows = .ok sql) (a : Answer)
  (later : List Answer)
include rendered

/-- An answer to its own statement is reported, and then it is looked at. -/
theorem Query.replay_scan_cons :
    (q.scan schema models session d).replay (a :: later) =
      let c := (match a.result with
        | .error e => .done (d, .error e)
        | .ok reply =>
          match d.fill models reply.rows with
          | (d, some e) => .done (d, .error e)
          | (d, none) => afterFill schema session q d.size d : Conversation _).replay later
      ⟨.sent sql :: .did (.log (session.report sql (·.rows.length) a)) :: c.marks, c.left,
        c.result⟩ := by
  rw [scan_of_ok schema models session q d rendered,
    replay_bind_of_some _ _ (session.replay_query_cons sql a later)]
  cases a.result <;> rfl

theorem Query.replay_scan_of_refused {e : RunError} (refused : a.result = .error e) :
    (q.scan schema models session d).replay (a :: later) =
      ⟨[.sent sql, .did (.log (session.report sql (·.rows.length) a))], later,
        some (d, .error e)⟩ := by
  rw [replay_scan_cons schema models session q d rendered, refused]
  rfl

variable {reply : Reply} (answered : a.result = .ok reply) {d' : Destination μ ε}
include answered

theorem Query.replay_scan_of_undecoded {e : RunError}
    (filled : d.fill models reply.rows = (d', some e)) :
    (q.scan schema models session d).replay (a :: later) =
      ⟨[.sent sql, .did (.log (session.report sql (·.rows.length) a))], later,
        some (d', .error e)⟩ := by
  rw [replay_scan_cons schema models session q d rendered, answered]
  dsimp only
  rw [filled]
  rfl

theorem Query.exists_replay_scan (filled : d.fill models reply.rows = (d', none)) :
    ∃ marks s' stop, (q.scan schema models session d).replay (a :: later) =
        ⟨.sent sql :: .did (.log (session.report sql (·.rows.length) a)) :: marks, s'.answers,
          scanned reply.rows.length s' stop⟩ ∧
      InTurn (Stage.Does schema session) (q.stages reply.rows d') ⟨later, d'⟩ marks s' stop := by
  obtain ⟨marks, s', stop, same, turns⟩ :=
    inTurn_afterFill schema session q d' later reply.rows (Destination.size_of_fill filled).1
  refine ⟨marks, s', stop, ?_, turns⟩
  rw [replay_scan_cons schema models session q d rendered, answered]
  dsimp only
  rw [filled]
  dsimp only
  rw [same]

end

/-- A number of rows is given by a scan whose own statement was answered with so many. -/
theorem Query.exists_reply_of_scan {d₂ : Destination μ ε} {n : Nat}
    (h : ((q.scan schema models session d).replay answers).result = some (d₂, .ok n)) :
    ∃ a later reply, answers = a :: later ∧ a.result = .ok reply ∧ n = reply.rows.length := by
  cases rendered : q.sql session.dialect .rows with
  | error e =>
    rw [replay_scan_of_unrendered schema models session q d answers rendered] at h
    cases h
  | ok sql =>
    cases answers with
    | nil =>
      rw [replay_scan_nil schema models session q d rendered] at h
      cases h
    | cons a later =>
      cases answered : a.result with
      | error e =>
        rw [replay_scan_of_refused schema models session q d rendered a later answered] at h
        cases h
      | ok reply =>
        refine ⟨a, later, reply, rfl, answered, ?_⟩
        match filled : d.fill models reply.rows with
        | (d', some e) =>
          rw [replay_scan_of_undecoded schema models session q d rendered a later answered
            filled] at h
          cases h
        | (d', none) =>
          obtain ⟨marks, s', stop, same, -⟩ :=
            exists_replay_scan schema models session q d rendered a later answered filled
          rw [same] at h
          match stop with
          | none =>
            cases h
            rfl
          | some (.failed e) => cases h
          | some .waiting => cases h

/-- A scan keeps to its order, whatever it is answered and whatever the entities do. -/
theorem Query.scan_inOrder :
    ScansInOrder schema models session q d answers
      ((q.scan schema models session d).replay answers) := by
  constructor
  case unrendered =>
    intro e failed
    rw [replay_scan_of_unrendered schema models session q d answers failed]
    exact ⟨rfl, rfl⟩
  case first =>
    intro sql rendered
    cases answers with
    | nil =>
      rw [replay_scan_nil schema models session q d rendered]
      exact ⟨[], rfl⟩
    | cons a later =>
      rw [replay_scan_cons schema models session q d rendered]
      exact ⟨_, rfl⟩
  case waiting =>
    intro sql rendered none
    rw [none, replay_scan_nil schema models session q d rendered]
    exact ⟨rfl, rfl⟩
  case refused =>
    intro sql a later e rendered some refused
    rw [some, replay_scan_of_refused schema models session q d rendered a later refused]
    exact ⟨rfl, rfl⟩
  case undecoded =>
    intro sql a later reply d' e rendered some answered filled
    rw [some, replay_scan_of_undecoded schema models session q d rendered a later answered filled]
    exact ⟨rfl, rfl⟩
  case decoded =>
    intro sql a later reply d' rendered some answered filled
    obtain ⟨marks, s', stop, same, turns⟩ :=
      exists_replay_scan schema models session q d rendered a later answered filled
    rw [some, same]
    exact ⟨(Destination.size_of_fill filled).2, marks, s', stop, rfl, turns, rfl⟩
  case counted =>
    intro d₂ n result
    exact exists_reply_of_scan schema models session q d answers result

end

end

/-- An author, who keeps the titles of its books and does not do without. -/
structure Author where
  id : Value
  titles : List Value := []

instance : EntityType Author Unit where
  read _ _ row := .ok { id := (row.value? "id").getD .null }
  value e _ := e.id
  related? _ _ := none
  withRelated e _ _ := e
  attach _ rows e :=
    match rows.mapM (·.get ⟨.text, false⟩ "title") with
    | .ok titles => ({ e with titles }, none)
    | .error failed => (e, some (.decode failed))
  select e := (e, if e.titles.isEmpty then some (.other "no books") else none)

-- The second of three authors has no books, and the third one does not hear of being selected.
example :
    let q : Query := .mk { table := some { name := "authors", aliasName := "author" }
                           relations := [.authorsBooks] } [] []
    let answers : List Answer := [
      { result := .ok { rows := [⟨["id"], [.int 1]⟩, ⟨["id"], [.int 2]⟩, ⟨["id"], [.int 3]⟩] } },
      { result := .ok { rows := [⟨["author_id", "title"], [.int 3, .text "y"]⟩,
          ⟨["author_id", "title"], [.int 1, .text "x"]⟩] } }]
    let d : Destination Unit Author := .entities () false []
    let c := (q.scan {} (fun _ => ()) {} d).replay answers
    c.marks.filterMap (fun | .did (.selected position) => some position | _ => none) = [0, 1] ∧
      c.result.map (fun r => (r.1.items.map (·.titles.map Value.key?), r.2.toOption)) =
        some ([[some "x"], [], [some "y"]], none) := by
  decide +kernel

end SqlCompose
