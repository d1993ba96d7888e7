import SqlCompose.Proofs.DepthLimit
import SqlCompose.Run.Race

/-!
# Refused builder calls

A call that made no sense is never forgotten: whatever is called afterwards, the query keeps the
error of the first such call, is rendered to nothing but this error, and sends nothing when it is
run. A query around it is not rendered either.
-/

namespace SqlCompose

/-! ## Calls keep the first error -/

namespace Select

variable {s : Select} {e : BuildError} (h : s.error = some e)
include h

theorem error_fail (e' : BuildError) : (s.fail e').error = some e := by
  simp [fail, h]

theorem error_withTable {operation : String} {f : Table → Select}
    (hf : ∀ t, (f t).error = some e) : (s.withTable operation f).error = some e := by
  rw [withTable]
  cases s.table with
  | none => exact error_fail h _
  | some t => exact hf t

theorem error_whereKey (entity : ValueMap) : (s.whereKey entity).error = some e := by
  apply error_withTable h
  intro t
  by_cases keyless : t.keys.isEmpty
  · rw [if_pos keyless]
    exact error_fail h _
  · rw [if_neg keyless]
    exact h

theorem error_seeDeleted (operation : String) (rows : DeletedRows) :
    (s.seeDeleted operation rows).error = some e := by
  apply error_withTable h
  intro t
  by_cases unmarked : t.deletionMark?.isNone
  · rw [if_pos unmarked]
    exact error_fail h _
  · rw [if_neg unmarked]
    exact h

theorem error_addJoinCondition (c : Condition) : (s.addJoinCondition c).error = some e := by
  rw [addJoinCondition]
  cases s.joins.getLast? with
  | none => exact error_fail h _
  | some j => exact h

/-- A request may fail after it has changed the relations; the error stays all the same. -/
theorem error_request_of_error (schema : Schema) (path : String) (scope : JoinScope) :
    (s.request schema path scope).error = some e := by
  apply error_withTable h
  intro t
  obtain ⟨relations, refused⟩ := JoinTree.requestPath schema t path scope s.relations
  cases refused with
  | none => exact h
  | some e' => exact error_fail (s := { s with relations := relations }) h e'

end Select

namespace Query

variable (schema : Schema)

theorem error_callSelect {s : Select} {e : BuildError} (h : s.error = some e) (c : Call) :
    (callSelect schema s c).error = some e := by
  cases c with
  | excludeColumn names => exact Select.error_withTable h fun _ => h
  | whereKey entity => exact Select.error_whereKey h entity
  | whereDeleted => exact Select.error_seeDeleted h _ _
  | whereAllWithDeleted => exact Select.error_seeDeleted h _ _
  | joinOn connective template args => exact Select.error_addJoinCondition h _
  | relation path scope => exact Select.error_request_of_error h schema path _
  | _ => exact h

mutual

theorem error?_call {q : Query} {e : BuildError} (h : q.error? = some e) (c : Call) :
    (call schema q c).error? = some e := by
  cases c with
  | withQuery name body =>
    rw [call]
    exact h
  | withValues name v =>
    rw [call]
    exact h
  | member operator body =>
    rw [call]
    exact h
  | apply cs =>
    rw [call]
    exact error?_calls h cs
  | _ => simpa [call, error?] using error_callSelect schema h _

theorem error?_calls {q : Query} {e : BuildError} (h : q.error? = some e) (cs : List Call) :
    (calls schema q cs).error? = some e := by
  cases cs with
  | nil => simpa [calls] using h
  | cons c rest =>
    rw [calls]
    exact error?_calls (error?_call h c) rest

end

end Query

theorem Values.error?_call {v : Values} {e : BuildError} (h : v.error? = some e) (c : Call) :
    (v.call c).error? = some e := by
  cases c with
  | withOrder => exact h
  | value field template args => rw [call, h, h]

theorem Values.error?_calls {v : Values} {e : BuildError} (h : v.error? = some e)
    (cs : List Call) : (v.calls cs).error? = some e := by
  induction cs generalizing v with
  | nil => exact h
  | cons c rest ih => exact ih (error?_call h c)

/-! ## What a refused query comes to -/

/-- The one error that a query gives, whatever it is asked for. No conversation sends anything. -/
structure Query.ComesTo (e : BuildError) (q : Query) : Prop where
  error : q.error? = some e
  /-- For every dialect, with any features. -/
  fragment : ∀ t form, q.fragment t form = .fail (.build e)
  render : ∀ d m form, q.render d m form = .error (.build e)
  /-- Whatever entities the rows were to become. -/
  scan : ∀ {μ ε : Type} [EntityType ε μ] schema models session (d : Destination μ ε),
    q.scan schema models session d = .done (d, .error (.render (.build e)))
  count : ∀ session, q.count session = .done (.error (.render (.build e)))
  execute : ∀ session, q.execute session = .done (.error (.render (.build e)))
  /-- Nor does either side of a race, however the sides take turns. -/
  race : ∀ {μ ε : Type} [EntityType ε μ] schema models session (d : Destination μ ε) moves,
    ((q.scanAndCount schema models session d).moves moves).marks = []

/-- The one error that a VALUES list gives. -/
structure Values.ComesTo (e : BuildError) (v : Values) : Prop where
  error : v.error? = some e
  fragment : ∀ t, v.fragment t = .fail (.build e)
  columns : ∀ d, v.columns d = .fail (.build e)
  render : ∀ d m, v.render d m = .error (.build e)

/-- Two conversations that have nothing to say do nothing. -/
theorem Race.marks_moves_of_done {α β : Type} {a : α} {b : β} (r : Race α β) (moves : List Move)
    (left : r.left = .done a) (right : r.right = .done b) (quiet : r.marks = []) :
    (r.moves moves).marks = [] := by
  induction moves generalizing r with
  | nil => exact quiet
  | cons m rest ih =>
    obtain ⟨side, answer⟩ := m
    cases side with
    | left => cases answer <;> apply ih <;> simp [move, goOn, left, right, quiet,
        Conversation.settle, Conversation.answered]
    | right => cases answer <;> apply ih <;> simp [move, goOn, left, right, quiet,
        Conversation.settle, Conversation.answered]

theorem Query.comesTo_of_error? {q : Query} {e : BuildError} (h : q.error? = some e) :
    q.ComesTo e := by
  have failed (t : Target) (form : Form) : q.fragment t form = .fail (.build e) := by
    obtain ⟨s, ctes, members⟩ := q
    have own : s.error = some e := h
    rw [Query.fragment, own]
  have rendered (d : Dialect) (m : Mode) (form : Form) :
      q.render d m form = .error (.build e) := by
    rw [Query.render, failed]
    rfl
  have unsent (d : Dialect) (form : Form) : q.sql d form = .error (.build e) := by
    rw [sql, rendered]
    rfl
  have scanned {μ ε : Type} [EntityType ε μ] (schema : Schema) (models : Nat → μ)
      (session : Session) (d : Destination μ ε) :
      q.scan schema models session d = .done (d, .error (.render (.build e))) := by
    rw [scan, unsent]
  have counted (session : Session) :
      q.count session = .done (.error (.render (.build e))) := by
    rw [count, unsent]
  refine
    { error := h
      fragment := failed
      render := rendered
      scan := scanned
      count := counted
      execute := fun session => by rw [execute, unsent]
      race := ?race }
  case race =>
    intro μ ε _ schema models session d moves
    by_cases skipped : q.skipsScan
    · apply Race.marks_moves_of_done (a := (d, .ok 0)) (b := .error (.render (.build e)))
      · exact if_pos skipped
      · exact counted session
      · rfl
    · apply Race.marks_moves_of_done (a := (d, .error (.render (.build e))))
        (b := .error (.render (.build e)))
      · exact (if_neg skipped).trans (scanned schema models session d)
      · exact counted session
      · rfl

theorem Values.comesTo_of_error? {v : Values} {e : BuildError} (h : v.error? = some e) :
    v.ComesTo e := by
  have failed (t : Target) : v.fragment t = .fail (.build e) := by
    rw [fragment, h]
  refine
    { error := h
      fragment := failed
      columns := fun d => by rw [columns, h]
      render := fun d m => by rw [render, failed]; rfl }

/-! ## Queries around a refused one -/

/-- Somewhere among the parts of a query, or among theirs, something was refused. -/
inductive Query.HasRefusedPart : Query → Prop
  | cte {q : Query} {name : String} {body : Query} (e : BuildError) :
      .query name body ∈ q.ctes → body.error? = some e → HasRefusedPart q
  | values {q : Query} {name : String} {v : Values} (e : BuildError) :
      .values name v ∈ q.ctes → v.error? = some e → HasRefusedPart q
  | member {q : Query} {operator : SetOperator} {body : Query} (e : BuildError) :
      .mk operator body ∈ q.members → body.error? = some e → HasRefusedPart q
  | insideCte {q : Query} {name : String} {body : Query} :
      .query name body ∈ q.ctes → HasRefusedPart body → HasRefusedPart q
  | insideMember {q : Query} {operator : SetOperator} {body : Query} :
      .mk operator body ∈ q.members → HasRefusedPart body → HasRefusedPart q

section

variable {P : Select → Prop} {V : Values → Prop}

theorem Cte.EveryOf.of_mem {ctes : List Cte} (h : EveryOf P V ctes) {c : Cte} (hc : c ∈ ctes) :
    c.Every P V := by
  induction ctes with
  | nil => cases hc
  | cons first rest ih =>
    rw [EveryOf] at h
    rcases List.mem_cons.mp hc with rfl | hc
    · exact h.1
    · exact ih h.2 hc

theorem Member.EveryOf.of_mem {members : List Member} (h : EveryOf P V members)
    {operator : SetOperator} {q : Query} (hm : .mk operator q ∈ members) : q.Every P V := by
  induction members with
  | nil => cases hm
  | cons first rest ih =>
    obtain ⟨operator', q'⟩ := first
    rw [EveryOf] at h
    rcases List.mem_cons.mp hm with same | hm
    · cases same
      exact h.1
    · exact ih h.2 hm

theorem Query.Every.of_cte {q body : Query} {name : String} (h : q.Every P V)
    (mem : .query name body ∈ q.ctes) : body.Every P V := by
  obtain ⟨s, ctes, members⟩ := q
  rw [Every] at h
  simpa [Cte.Every] using h.2.1.of_mem mem

theorem Query.Every.of_values {q : Query} {v : Values} {name : String} (h : q.Every P V)
    (mem : .values name v ∈ q.ctes) : V v := by
  obtain ⟨s, ctes, members⟩ := q
  rw [Every] at h
  simpa [Cte.Every] using h.2.1.of_mem mem

theorem Query.Every.of_member {q body : Query} {operator : SetOperator} (h : q.Every P V)
    (mem : .mk operator body ∈ q.members) : body.Every P V := by
  obtain ⟨s, ctes, members⟩ := q
  rw [Every] at h
  exact h.2.2.of_mem mem

theorem Query.Every.select {q : Query} (h : q.Every P V) : P q.select := by
  obtain ⟨s, ctes, members⟩ := q
  rw [Every] at h
  exact h.1

end

/-- Nothing was refused among the parts of a query that was built without an error throughout. -/
theorem Query.HasRefusedPart.not_every {q : Query} (h : q.HasRefusedPart) :
    ¬ q.Every Select.Renders (·.error? = none) := by
  induction h with
  | cte e mem refused =>
    intro every
    have fine := (every.of_cte mem).select.1
    exact absurd (refused.symm.trans fine) nofun
  | values e mem refused =>
    intro every
    exact absurd (refused.symm.trans (every.of_values mem)) nofun
  | member e mem refused =>
    intro every
    have fine := (every.of_member mem).select.1
    exact absurd (refused.symm.trans fine) nofun
  | insideCte mem _ ih =>
    intro every
    exact ih (every.of_cte mem)
  | insideMember mem _ ih =>
    intro every
    exact ih (every.of_member mem)

theorem Query.exists_fragment_eq_fail {q : Query} (h : q.HasRefusedPart) (t : Target)
    (form : Form) : ∃ e, q.fragment t form = .fail e := by
  cases rendered : (q.fragment t form).error? with
  | some e => exact ⟨e, Fragment.error?_eq_some.mp rendered⟩
  | none => exact absurd (every_of_error?_eq_none t rendered) h.not_every

/-! ## Refusals last -/

/-- The first refusal decides what a query, or a VALUES list, comes to, whatever is called after it;
and nothing around it is rendered, in either form. -/
theorem Query.refusal_lasts (schema : Schema) :
    (∀ (q : Query) (e : BuildError), q.error? = some e →
      ∀ cs, (q.calls schema cs).ComesTo e) ∧
    (∀ (v : Values) (e : BuildError), v.error? = some e → ∀ cs, (v.calls cs).ComesTo e) ∧
    ∀ q : Query, q.HasRefusedPart →
      (∀ t form, ∃ e, q.fragment t form = .fail e) ∧ ∀ d m form r, q.render d m form ≠ .ok r := by
  refine ⟨?queries, ?values, ?around⟩
  case queries =>
    intro q e h cs
    exact comesTo_of_error? (error?_calls schema h cs)
  case values =>
    intro v e h cs
    exact Values.comesTo_of_error? (Values.error?_calls h cs)
  case around =>
    intro q h
    refine ⟨exists_fragment_eq_fail h, ?_⟩
    intro d m form r rendered
    obtain ⟨e, failed⟩ := exists_fragment_eq_fail h (d.target m) form
    rw [render, failed] at rendered
    cases rendered

/-- A relation asked for before there is a table, in a member of a common table expression. Neither
the table that is bound afterwards nor further refusals change what was refused. -/
theorem Query.refusal_lasts_nodes :
    let schema : Schema := ⟨[.nodes]⟩
    let refused := ofCalls schema [.relation "Up" []]
    let later : List Call :=
      [.model .nodes, .apply [.relation "Down" [], .joinOn .and "?" []], .limit (-1)]
    let around := ofCalls schema
      [.model .nodes, .withQuery "up" (ofCalls schema [.model .nodes, .member .union refused])]
    refused.error? = some (.modelRequired "relation") ∧
      (refused.calls schema later).ComesTo (.modelRequired "relation") ∧
      (Values.ofMaps []).error? = some .emptyInput ∧
      ((Values.ofMaps []).calls [.withOrder, .value "id" "?" []]).ComesTo .emptyInput ∧
      around.HasRefusedPart ∧ ∀ d m form r, around.render d m form ≠ .ok r := by
  intro schema refused later around
  obtain ⟨queries, values, parts⟩ := refusal_lasts schema
  have first : refused.error? = some (.modelRequired "relation") := by decide +kernel
  have empty : (Values.ofMaps []).error? = some .emptyInput := by decide +kernel
  have inside : around.HasRefusedPart := by
    have member : (ofCalls schema [.model .nodes, .member .union refused]).HasRefusedPart :=
      .member _ (List.mem_singleton.mpr rfl) first
    exact .insideCte (List.mem_singleton.mpr rfl) member
  exact ⟨first, queries _ _ first later, empty, values _ _ empty _, inside, (parts _ inside).2⟩

end SqlCompose
