import Mathlib.Data.Fin.VecNotation
import Mathlib.Data.List.FinRange
import Mathlib.Data.List.Sort
import SqlCompose.Proofs.Refusals

/-!
# The order of calls

Each call is about one clause, and looks at nothing but this clause and the bound table. So a clause
is built by the calls about it alone, in their order, and the main statement is that calls may
change places with calls about other clauses: the query stays the same.
-/

namespace SqlCompose

namespace Query

/-- What a call is about. -/
inductive Clause where
  | ctes
  | distinct
  | tables
  | modelTable
  | columns
  | excluded
  | wheres
  | deleted
  | group
  | having
  | order
  | limit
  | offset
  | lock
  | members
  | joins
  | relations
deriving DecidableEq, Repr

/-- The clause that a call is about. A table is bound for all of them, and calls that the query is
passed through are about their own. -/
def Call.clause? : Call → Option Clause
  | .model _ => none
  | .withQuery .. => some .ctes
  | .withValues .. => some .ctes
  | .distinct => some .distinct
  | .distinctOn .. => some .distinct
  | .table _ => some .tables
  | .tableExpr .. => some .tables
  | .modelTableExpr .. => some .modelTable
  | .column _ => some .columns
  | .columnExpr .. => some .columns
  | .excludeColumn _ => some .excluded
  | .where .. => some .wheres
  | .whereKey _ => some .wheres
  | .whereGroup .. => some .wheres
  | .whereDeleted => some .deleted
  | .whereAllWithDeleted => some .deleted
  | .group _ => some .group
  | .groupExpr .. => some .group
  | .having .. => some .having
  | .order _ => some .order
  | .orderExpr .. => some .order
  | .limit _ => some .limit
  | .offset _ => some .offset
  | .lockFor .. => some .lock
  | .member .. => some .members
  | .join .. => some .joins
  | .joinOn .. => some .joins
  | .relation .. => some .relations
  | .apply _ => none

end Query

/-! ## One clause of a query -/

namespace Select

open Query (Clause)

/-- No clause, but the bound table and the error. -/
def bare (s : Select) : Select := { table := s.table, error := s.error }

/-- No clause but one. -/
def only (s : Select) : Clause → Select
  | .ctes => s.bare
  | .distinct => { s.bare with distinct := s.distinct, distinctOn := s.distinctOn }
  | .tables => { s.bare with tables := s.tables }
  | .modelTable => { s.bare with modelTable := s.modelTable }
  | .columns => { s.bare with columns := s.columns }
  | .excluded => { s.bare with excluded := s.excluded }
  | .wheres => { s.bare with wheres := s.wheres }
  | .deleted => { s.bare with deleted := s.deleted }
  | .group => { s.bare with group := s.group }
  | .having => { s.bare with having := s.having }
  | .order => { s.bare with order := s.order }
  | .limit => { s.bare with limit := s.limit }
  | .offset => { s.bare with offset := s.offset }
  | .lock => { s.bare with lock := s.lock }
  | .members => s.bare
  | .joins => { s.bare with joins := s.joins }
  | .relations => { s.bare with relations := s.relations }

variable {s s' : Select}

@[simp] theorem table_only (s : Select) (p : Clause) : (s.only p).table = s.table := by
  cases p <;> rfl

@[simp] theorem error_only (s : Select) (p : Clause) : (s.only p).error = s.error := by
  cases p <;> rfl

@[simp] theorem only_fail (s : Select) (e : BuildError) (p : Clause) :
    (s.fail e).only p = (s.only p).fail e := by
  cases p <;> rfl

/-- The clauses make up the statement. -/
theorem eq_of_only (h : ∀ p, s.only p = s'.only p) : s = s' := by
  cases s
  cases s'
  rw [mk.injEq]
  exact ⟨congrArg table (h .tables), congrArg distinct (h .distinct),
    congrArg distinctOn (h .distinct), congrArg modelTable (h .modelTable),
    congrArg tables (h .tables), congrArg columns (h .columns), congrArg excluded (h .excluded),
    congrArg wheres (h .wheres), congrArg deleted (h .deleted), congrArg joins (h .joins),
    congrArg relations (h .relations), congrArg group (h .group), congrArg having (h .having),
    congrArg order (h .order), congrArg limit (h .limit), congrArg offset (h .offset),
    congrArg lock (h .lock), congrArg error (h .tables)⟩

/-! ### The clause that a call is about -/

theorem only_withTable {operation : String} {f f' : Table → Select} {p : Clause}
    (same : ∀ t, (f t).only p = f' t) :
    (s.withTable operation f).only p = (s.only p).withTable operation f' := by
  rw [withTable, withTable, table_only]
  cases s.table with
  | none => exact only_fail s _ p
  | some t => exact same t

theorem only_guarded {guard : Prop} [Decidable guard] {e : BuildError} {a a' : Select} {p : Clause}
    (same : a.only p = a') :
    (if guard then s.fail e else a).only p = if guard then (s.only p).fail e else a' := by
  split
  · exact only_fail s e p
  · exact same

theorem only_whereKey (s : Select) (entity : ValueMap) :
    (s.whereKey entity).only .wheres = (s.only .wheres).whereKey entity :=
  only_withTable fun _ => only_guarded rfl

theorem only_seeDeleted (s : Select) (operation : String) (rows : DeletedRows) :
    (s.seeDeleted operation rows).only .deleted = (s.only .deleted).seeDeleted operation rows :=
  only_withTable fun _ => only_guarded rfl

theorem only_addJoinCondition (s : Select) (c : Condition) :
    (s.addJoinCondition c).only .joins = (s.only .joins).addJoinCondition c := by
  have joins : (s.only .joins).joins = s.joins := rfl
  rw [addJoinCondition, addJoinCondition, joins]
  cases s.joins.getLast? with
  | none => exact only_fail s _ _
  | some j => rfl

theorem only_request (schema : Schema) (s : Select) (path : String) (scope : JoinScope) :
    (s.request schema path scope).only .relations =
      (s.only .relations).request schema path scope := by
  apply only_withTable
  intro t
  have relations : (s.only .relations).relations = s.relations := rfl
  rw [relations]
  obtain ⟨requested, refused⟩ := JoinTree.requestPath schema t path scope s.relations
  cases refused with
  | none => rfl
  | some e => exact only_fail _ e _

/-! ### The other clauses -/

/-- An error that is kept anyway changes nothing. -/
theorem fail_eq_self {e : BuildError} (h : (s.fail e).error = s.error) : s.fail e = s := by
  cases s
  exact congrArg _ h

/-- The statement is the same up to one clause. -/
def SameBut (p : Clause) (s s' : Select) : Prop :=
  ∀ p', p' ≠ p → s'.only p' = s.only p'

variable {p : Clause}

theorem SameBut.refl (p : Clause) (s : Select) : SameBut p s s := fun _ _ => rfl

theorem sameBut_fail {e : BuildError} (h : (s'.fail e).error = s'.error) (same : SameBut p s s') :
    SameBut p s (s'.fail e) := by
  rwa [fail_eq_self h]

theorem sameBut_withTable {operation : String} {f : Table → Select}
    (kept : (s.withTable operation f).error = s.error)
    (same : ∀ t, (f t).error = s.error → SameBut p s (f t)) :
    SameBut p s (s.withTable operation f) := by
  unfold withTable at kept ⊢
  cases bound : s.table with
  | none =>
    rw [bound] at kept
    exact sameBut_fail kept (.refl p s)
  | some t =>
    rw [bound] at kept
    exact same t kept

theorem sameBut_guarded {guard : Prop} [Decidable guard] {e : BuildError}
    (kept : (if guard then s.fail e else s').error = s.error) (same : SameBut p s s') :
    SameBut p s (if guard then s.fail e else s') := by
  split at kept
  · rename_i refused
    rw [if_pos refused]
    exact sameBut_fail kept (.refl p s)
  · rename_i accepted
    rwa [if_neg accepted]

theorem sameBut_exclude {names : List String} (kept : (s.exclude names).error = s.error) :
    SameBut .excluded s (s.exclude names) := by
  refine sameBut_withTable kept fun t _ p other => ?_
  cases p <;> first | rfl | exact absurd rfl other

theorem sameBut_whereKey {entity : ValueMap} (kept : (s.whereKey entity).error = s.error) :
    SameBut .wheres s (s.whereKey entity) := by
  refine sameBut_withTable kept fun t kept => sameBut_guarded kept fun p other => ?_
  cases p <;> first | rfl | exact absurd rfl other

theorem sameBut_seeDeleted {operation : String} {rows : DeletedRows}
    (kept : (s.seeDeleted operation rows).error = s.error) :
    SameBut .deleted s (s.seeDeleted operation rows) := by
  refine sameBut_withTable kept fun t kept => sameBut_guarded kept fun p other => ?_
  cases p <;> first | rfl | exact absurd rfl other

theorem sameBut_addJoinCondition {c : Condition} (kept : (s.addJoinCondition c).error = s.error) :
    SameBut .joins s (s.addJoinCondition c) := by
  unfold addJoinCondition at kept ⊢
  cases last : s.joins.getLast? with
  | none =>
    rw [last] at kept
    exact sameBut_fail kept (.refl _ s)
  | some j =>
    intro p other
    cases p <;> first | rfl | exact absurd rfl other

theorem sameBut_request {schema : Schema} {path : String} {scope : JoinScope}
    (kept : (s.request schema path scope).error = s.error) :
    SameBut .relations s (s.request schema path scope) := by
  refine sameBut_withTable kept fun t kept => ?_
  generalize JoinTree.requestPath schema t path scope s.relations = result at kept ⊢
  obtain ⟨requested, refused⟩ := result
  have same : SameBut .relations s { s with relations := requested } := by
    intro p other
    cases p <;> first | rfl | exact absurd rfl other
  cases refused with
  | none => exact same
  | some e => exact sameBut_fail kept same

end Select

namespace Query

variable (schema : Schema)

/-- A call about a clause does to it what it does to a statement without any other clause. -/
theorem only_callSelect (s : Select) {c : Call} {p : Clause} (own : c.clause? = some p) :
    (callSelect schema s c).only p = callSelect schema (s.only p) c := by
  cases c with
  | model t => cases own
  | apply calls => cases own
  | excludeColumn names =>
    cases own
    exact Select.only_withTable fun _ => rfl
  | whereKey entity =>
    cases own
    exact s.only_whereKey entity
  | whereDeleted =>
    cases own
    exact s.only_seeDeleted _ _
  | whereAllWithDeleted =>
    cases own
    exact s.only_seeDeleted _ _
  | joinOn connective template args =>
    cases own
    exact s.only_addJoinCondition _
  | relation path scope =>
    cases own
    exact s.only_request schema path _
  | _ =>
    cases own
    rfl

/-- A call that is not refused leaves the other clauses as they are. -/
theorem sameBut_callSelect (s : Select) {c : Call} {p : Clause} (own : c.clause? = some p)
    (kept : (callSelect schema s c).error = s.error) : s.SameBut p (callSelect schema s c) := by
  cases c with
  | model t => cases own
  | apply calls => cases own
  | excludeColumn names =>
    cases own
    exact Select.sameBut_exclude kept
  | whereKey entity =>
    cases own
    exact Select.sameBut_whereKey kept
  | whereDeleted =>
    cases own
    exact Select.sameBut_seeDeleted kept
  | whereAllWithDeleted =>
    cases own
    exact Select.sameBut_seeDeleted kept
  | joinOn connective template args =>
    cases own
    exact Select.sameBut_addJoinCondition kept
  | relation path scope =>
    cases own
    exact Select.sameBut_request kept
  | _ =>
    cases own
    intro p other
    cases p <;> first | rfl | exact absurd rfl other

/-- No clause but one. -/
def only (q : Query) : Clause → Query
  | .ctes => .mk q.select.bare q.ctes []
  | .members => .mk q.select.bare [] q.members
  | p => .mk (q.select.only p) [] []

variable {q q' : Query} {c : Call} {p : Clause}

@[simp] theorem select_only (q : Query) (p : Clause) : (q.only p).select = q.select.only p := by
  cases p <;> rfl

@[simp] theorem error?_only (q : Query) (p : Clause) : (q.only p).error? = q.error? := by
  rw [error?, select_only, Select.error_only, error?]

/-- The clauses make up the query. -/
theorem eq_of_only (h : ∀ p, q.only p = q'.only p) : q = q' := by
  have select : q.select = q'.select := Select.eq_of_only fun p => by
    simpa using congrArg Query.select (h p)
  have ctes := congrArg Query.ctes (h .ctes)
  have members := congrArg Query.members (h .members)
  cases q
  cases q'
  rw [mk.injEq]
  exact ⟨select, ctes, members⟩

theorem only_mapSelect {f : Select → Select}
    (same : (f q.select).only p = f (q.select.only p)) :
    (q.mapSelect f).only p = (q.only p).mapSelect f := by
  cases q
  cases p <;> exact congrArg (Query.mk · _ _) same

theorem only_mapSelect_eq_self {f : Select → Select}
    (same : (f q.select).only p = q.select.only p) : (q.mapSelect f).only p = q.only p := by
  cases q
  cases p <;> exact congrArg (Query.mk · _ _) same

/-- A call about a clause does to it what it does to a query without any other clause. -/
theorem only_call (q : Query) (own : c.clause? = some p) :
    (call schema q c).only p = call schema (q.only p) c := by
  cases c with
  | model t => cases own
  | apply calls => cases own
  | withQuery name body =>
    cases own
    rw [call, call]
    rfl
  | withValues name v =>
    cases own
    rw [call, call]
    rfl
  | member operator body =>
    cases own
    rw [call, call]
    rfl
  | _ =>
    simp only [call]
    exact only_mapSelect (only_callSelect schema q.select own)

/-- A call that is not refused leaves the other clauses as they are. -/
theorem only_call_of_ne {p' : Clause} (own : c.clause? = some p) (other : p' ≠ p)
    (kept : (call schema q c).error? = q.error?) : (call schema q c).only p' = q.only p' := by
  cases c with
  | model t => cases own
  | apply calls => cases own
  | withQuery name body =>
    cases own
    rw [call]
    cases p' <;> first | rfl | exact absurd rfl other
  | withValues name v =>
    cases own
    rw [call]
    cases p' <;> first | rfl | exact absurd rfl other
  | member operator body =>
    cases own
    rw [call]
    cases p' <;> first | rfl | exact absurd rfl other
  | _ =>
    simp only [call, error?, select_mapSelect] at kept ⊢
    exact only_mapSelect_eq_self (sameBut_callSelect schema q.select own kept p' other)

/-! ## The calls about one clause -/

/-- The calls about a clause, in order. -/
def about (p : Clause) (cs : List Call) : List Call :=
  cs.filter (·.clause? = some p)

/-- Each call is about a clause. None binds a table. -/
def AreClauses (cs : List Call) : Prop :=
  ∀ c ∈ cs, c.clause?.isSome

theorem error?_eq_none_of_calls {cs : List Call} (h : (calls schema q cs).error? = none) :
    q.error? = none := by
  cases first : q.error? with
  | none => rfl
  | some e => exact absurd ((error?_calls schema first cs).symm.trans h) nofun

theorem error?_eq_none_of_call (h : (call schema q c).error? = none) : q.error? = none := by
  cases first : q.error? with
  | none => rfl
  | some e => exact absurd ((error?_call schema first c).symm.trans h) nofun

/-- What the calls about a clause make of it is the same before and after one call more. -/
theorem calls_about_cons (own : c.clause?.isSome) (fine : (call schema q c).error? = none)
    (p : Clause) (rest : List Call) :
    calls schema (q.only p) (about p (c :: rest)) =
      calls schema ((call schema q c).only p) (about p rest) := by
  obtain ⟨p', own⟩ := Option.isSome_iff_exists.mp own
  by_cases same : p = p'
  · subst same
    rw [about, List.filter_cons_of_pos (by simpa using own), calls, only_call schema q own, about]
  · have kept := fine.trans (error?_eq_none_of_call schema fine).symm
    have other : ¬ c.clause? = some p := by
      rw [own, Option.some_inj]
      exact Ne.symm same
    rw [about, List.filter_cons_of_neg (by simpa using other), only_call_of_ne schema own same kept,
      about]

/-- If nothing is refused, each clause is built by the calls about it alone. -/
theorem only_calls {cs : List Call} (clauses : AreClauses cs)
    (fine : (calls schema q cs).error? = none) (p : Clause) :
    (calls schema q cs).only p = calls schema (q.only p) (about p cs) := by
  induction cs generalizing q with
  | nil =>
    rw [about, List.filter_nil, calls, calls]
  | cons c rest ih =>
    obtain ⟨own, others⟩ := List.forall_mem_cons.mp clauses
    rw [calls] at fine ⊢
    rw [calls_about_cons schema own (error?_eq_none_of_calls schema fine), ih others fine]

/-- Nothing is refused if nothing is refused of any clause. -/
theorem error?_calls_eq_none_iff {cs : List Call} (clauses : AreClauses cs)
    (fine : q.error? = none) :
    (calls schema q cs).error? = none ↔
      ∀ p, (calls schema (q.only p) (about p cs)).error? = none := by
  constructor
  · intro whole p
    rw [← only_calls schema clauses whole p, error?_only]
    exact whole
  · intro apart
    induction cs generalizing q with
    | nil =>
      rw [calls]
      exact fine
    | cons c rest ih =>
      obtain ⟨own, others⟩ := List.forall_mem_cons.mp clauses
      obtain ⟨p, about_p⟩ := Option.isSome_iff_exists.mp own
      have first : (call schema q c).error? = none := by
        have alone := apart p
        rw [about, List.filter_cons_of_pos (by simpa using about_p), calls] at alone
        rw [← error?_only, only_call schema q about_p]
        exact error?_eq_none_of_calls schema alone
      rw [calls]
      refine ih others first fun p => ?_
      rw [← calls_about_cons schema own first]
      exact apart p

/-- What is called of each clause decides the query. -/
theorem calls_eq_of_about {cs cs' : List Call} (clauses : AreClauses cs) (clauses' : AreClauses cs')
    (same : ∀ p, about p cs = about p cs') (fine : (calls schema q cs).error? = none) :
    calls schema q cs' = calls schema q cs := by
  have start := error?_eq_none_of_calls schema fine
  have fine' : (calls schema q cs').error? = none := by
    rw [error?_calls_eq_none_iff schema clauses start] at fine
    rw [error?_calls_eq_none_iff schema clauses' start]
    intro p
    rw [← same]
    exact fine p
  refine eq_of_only fun p => ?_
  rw [only_calls schema clauses fine, only_calls schema clauses' fine', same]

/-! ## Calls that change places -/

/-- The same calls, each once and in another order, but in the same order among those about one
clause. -/
def Rearranges (cs cs' : List Call) : Prop :=
  ∃ σ : Fin cs.length ≃ Fin cs'.length, (∀ i, cs'.get (σ i) = cs.get i) ∧
    ∀ i j, i < j → (cs.get i).clause? = (cs.get j).clause? → σ i < σ j

/-- The calls about a clause, by their places. -/
theorem about_eq_map_get (p : Clause) (cs : List Call) :
    about p cs =
      ((List.finRange cs.length).filter fun i => (cs.get i).clause? = some p).map cs.get := by
  conv_lhs => rw [about, ← List.map_get_finRange cs, List.filter_map]
  rfl

/-- The calls about one clause stay in order. -/
theorem Rearranges.about_eq {cs cs' : List Call} (h : Rearranges cs cs') (p : Clause) :
    about p cs = about p cs' := by
  obtain ⟨σ, same, order⟩ := h
  have places : ((List.finRange cs.length).filter fun i => (cs.get i).clause? = some p).map σ =
      (List.finRange cs'.length).filter fun i => (cs'.get i).clause? = some p := by
    refine List.SortedLT.eq_of_mem_iff ?ascending ?ascending' fun j => ?places
    case ascending =>
      rw [List.sortedLT_iff_pairwise, List.pairwise_map]
      refine ((List.sortedLT_finRange _).pairwise.filter _).imp_of_mem fun first second less => ?_
      have clause := List.of_mem_filter first
      have clause' := List.of_mem_filter second
      simp only [decide_eq_true_eq] at clause clause'
      exact order _ _ less (clause.trans clause'.symm)
    case ascending' =>
      exact ((List.sortedLT_finRange _).pairwise.filter _).sortedLT
    case places =>
      obtain ⟨i, rfl⟩ := σ.surjective j
      simp only [List.mem_map, List.mem_filter, List.mem_finRange, true_and,
        EmbeddingLike.apply_eq_iff_eq, exists_eq_right, same]
  rw [about_eq_map_get, about_eq_map_get, ← places, List.map_map]
  exact List.map_congr_left fun i _ => (same i).symm

theorem Rearranges.areClauses {cs cs' : List Call} (h : Rearranges cs cs')
    (clauses : AreClauses cs) : AreClauses cs' := by
  obtain ⟨σ, same, -⟩ := h
  intro c member
  obtain ⟨j, rfl⟩ := List.mem_iff_get.mp member
  obtain ⟨i, rfl⟩ := σ.surjective j
  rw [same]
  exact clauses _ (List.get_mem cs i)

/-! ## Calls in the place of one -/

mutual

/-- A call, or the calls that it passes the query through. -/
def Call.steps : Call → List Call
  | .apply cs => steps cs
  | c => [c]

def steps : List Call → List Call
  | [] => []
  | c :: rest => c.steps ++ steps rest

end

theorem calls_append (q : Query) (cs cs' : List Call) :
    calls schema q (cs ++ cs') = calls schema (calls schema q cs) cs' := by
  induction cs generalizing q with
  | nil => rw [List.nil_append, calls]
  | cons c rest ih => rw [List.cons_append, calls, calls, ih]

mutual

theorem calls_steps_call (q : Query) (c : Call) :
    calls schema q c.steps = call schema q c := by
  cases c with
  | apply cs =>
    rw [Call.steps, call]
    exact calls_steps q cs
  | _ => simp only [Call.steps, calls]

theorem calls_steps (q : Query) (cs : List Call) :
    calls schema q (steps cs) = calls schema q cs := by
  cases cs with
  | nil => rw [steps]
  | cons c rest => rw [steps, calls_append, calls_steps_call q c, calls_steps _ rest, calls]

end

mutual

theorem clause?_of_mem_steps_call (c : Call) :
    ∀ step ∈ c.steps, (∀ t, step ≠ .model t) → step.clause?.isSome := by
  cases c with
  | model t =>
    simp only [Call.steps, List.mem_singleton]
    exact fun step same unbound => absurd same (unbound t)
  | apply cs =>
    rw [Call.steps]
    exact clause?_of_mem_steps cs
  | _ =>
    simp only [Call.steps, List.mem_singleton]
    rintro step rfl -
    rfl

/-- Every step but the binding of a table is about a clause. -/
theorem clause?_of_mem_steps (cs : List Call) :
    ∀ step ∈ steps cs, (∀ t, step ≠ .model t) → step.clause?.isSome := by
  cases cs with
  | nil => simp [steps]
  | cons c rest =>
    rw [steps]
    intro step member
    rcases List.mem_append.mp member with first | later
    · exact clause?_of_mem_steps_call c step first
    · exact clause?_of_mem_steps rest step later

end

/-- If a query begins with binding a table, binds no other one and no call is refused, the calls
behind may change places with each other as long as those about one clause stay in order. No call is
refused then, and the query is the same, so it is rendered alike. Calls that pass the query on count
as the calls that they stand for. -/
theorem ofCalls_rearranged {table : Table} {cs cs' before after : List Call}
    (first : steps cs = .model table :: before) (first' : steps cs' = .model table :: after)
    (bound : ∀ t, .model t ∉ before) (fine : (ofCalls schema cs).error? = none)
    (rearranged : Rearranges before after) :
    (ofCalls schema cs').error? = none ∧ ofCalls schema cs' = ofCalls schema cs ∧
      ∀ d m form, (ofCalls schema cs').render d m form = (ofCalls schema cs).render d m form := by
  have clauses : AreClauses before := by
    intro c member
    refine clause?_of_mem_steps cs c ?_ ?_
    · rw [first]
      exact List.mem_cons_of_mem _ member
    · rintro t rfl
      exact bound t member
  have built : ofCalls schema cs = calls schema (call schema empty (.model table)) before := by
    rw [ofCalls, ← calls_steps, first, calls]
  have built' : ofCalls schema cs' = calls schema (call schema empty (.model table)) after := by
    rw [ofCalls, ← calls_steps, first', calls]
  have same : ofCalls schema cs' = ofCalls schema cs := by
    rw [built] at fine ⊢
    rw [built']
    exact calls_eq_of_about schema clauses (rearranged.areClauses clauses) rearranged.about_eq fine
  exact ⟨by rw [same, fine], same, fun d m form => by rw [same]⟩

/-- The condition is called behind the join that it belongs to. -/
theorem ofCalls_rearranged_nodes :
    let schema : Schema := ⟨[.nodes]⟩
    let before : List Call := [.column ["id"], .join "JOIN notes AS n" [],
      .joinOn .and "n.id = 1" [], .relation "Up" [], .where .or "id > ?" [.int 7], .limit 3]
    let after : List Call := [.limit 3, .relation "Up" [], .join "JOIN notes AS n" [],
      .where .or "id > ?" [.int 7], .column ["id"], .joinOn .and "n.id = 1" []]
    let cs : List Call := [.model .nodes, .apply before]
    (steps cs = .model .nodes :: before ∧ steps (.model .nodes :: after) = .model .nodes :: after ∧
      (∀ t, .model t ∉ before) ∧ (ofCalls schema cs).error? = none ∧ Rearranges before after) ∧
      ∀ d m form, (ofCalls schema (.model .nodes :: after)).render d m form =
        (ofCalls schema cs).render d m form := by
  intro schema before after cs
  have first : steps cs = .model .nodes :: before := rfl
  have first' : steps (.model .nodes :: after) = .model .nodes :: after := rfl
  have bound (t : Table) : .model t ∉ before := by simp [before]
  have fine : (ofCalls schema cs).error? = none := by decide +kernel
  have rearranged : Rearranges before after := by
    let σ : Fin 6 ≃ Fin 6 :=
      { toFun := ![4, 2, 5, 1, 3, 0]
        invFun := ![5, 3, 1, 4, 0, 2]
        left_inv := fun i => by revert i; decide
        right_inv := fun i => by revert i; decide }
    have order : ∀ i j : Fin 6, i < j → (before.get i).clause? = (before.get j).clause? →
        σ i < σ j := by
      decide
    have same : ∀ i : Fin 6, after.get (σ i) = before.get i
      | 0 | 1 | 2 | 3 | 4 | 5 => rfl
    exact ⟨σ, same, order⟩
  exact ⟨⟨first, first', bound, fine, rearranged⟩,
    (ofCalls_rearranged schema first first' bound fine rearranged).2.2⟩

end Query

end SqlCompose
