import SqlCompose.Proofs.Places
import SqlCompose.Proofs.Precedence
import SqlCompose.Proofs.Writing
import SqlCompose.Query.Call

/-!
# Deleted rows stay hidden

A query for a table with a deletion mark tests the mark after the conditions of the caller. Read as
SQL reads it, the whole WHERE clause is the caller's clause and the test: whatever connectives and
groups the caller uses, a row that the test excludes is not selected, and a group counts as one
operand among the conditions around it.
-/

namespace SqlCompose

/-! ## Conditions as tokens -/

namespace Token

/-- The text of a token in a SELECT. -/
def fragment (t : Target) (s : Select) : Token → Fragment
  | .operand (.condition _ n) => s.node t n
  | .operand (.deletionTest test) => .text test
  | .tie c => .text c.text
  | .opening => .text "("
  | .closing => .text ")"

/-- The text of tokens in a row. -/
def fragments (t : Target) (s : Select) : List Token → Fragment
  | [] => .empty
  | x :: rest => x.fragment t s ++ fragments t s rest

variable (t : Target) (s : Select)

@[simp] theorem fragments_nil : fragments t s [] = .empty := rfl

@[simp] theorem fragments_cons (x : Token) (xs : List Token) :
    fragments t s (x :: xs) = x.fragment t s ++ fragments t s xs := rfl

@[simp] theorem fragments_append (xs ys : List Token) :
    fragments t s (xs ++ ys) = fragments t s xs ++ fragments t s ys := by
  induction xs with
  | nil => simp
  | cons x xs ih => simp [ih, Fragment.append_assoc]

end Token

namespace WhereItem

mutual

def tokens (place : List Nat) : WhereItem → List Token
  | .cond c => [.opening, .operand (.condition place c.node), .closing]
  | .group _ items => .opening :: (rowTokens place items ++ [.closing])

/-- The tokens of items in a row; the connective of the first one is not written. -/
def rowTokens (place : List Nat) : List WhereItem → List Token
  | [] => []
  | i :: rest => i.tokens (place ++ [0]) ++ tiedTokens place 1 rest

def tiedTokens (place : List Nat) (position : Nat) : List WhereItem → List Token
  | [] => []
  | i :: rest =>
    .tie i.connective :: (i.tokens (place ++ [position]) ++ tiedTokens place (position + 1) rest)

end

mutual

/-- What an item comes to. A group is one operand, whatever stands in it. -/
def value (ρ : Operand → Truth) (place : List Nat) : WhereItem → Truth
  | .cond c => ρ (.condition place c.node)
  | .group _ items => Truth.tied (operands ρ place 0 items)

/-- What items come to, each with its connective. -/
def operands (ρ : Operand → Truth) (place : List Nat) (position : Nat) :
    List WhereItem → List (Connective × Truth)
  | [] => []
  | i :: rest =>
    (i.connective, i.value ρ (place ++ [position])) :: operands ρ place (position + 1) rest

end

mutual

/-- No group is empty. -/
def IsFull : WhereItem → Prop
  | .cond _ => True
  | .group _ items => items ≠ [] ∧ AllFull items

def AllFull : List WhereItem → Prop
  | [] => True
  | i :: rest => i.IsFull ∧ AllFull rest

end

@[simp] theorem allFull_nil : AllFull [] := by
  simp [AllFull]

@[simp] theorem allFull_cons {i : WhereItem} {items : List WhereItem} :
    AllFull (i :: items) ↔ i.IsFull ∧ AllFull items := by
  rw [AllFull]

@[simp] theorem allFull_append {xs ys : List WhereItem} :
    AllFull (xs ++ ys) ↔ AllFull xs ∧ AllFull ys := by
  induction xs with
  | nil => simp
  | cons x xs ih => simp [ih, and_assoc]

section

variable {ρ : Operand → Truth}

mutual

/-- An item is read as one factor. -/
theorem reads_tokens {i : WhereItem} (h : i.IsFull) (place : List Nat) :
    Reads ρ .factor (i.tokens place) (i.value ρ place) := by
  cases i with
  | cond c =>
    rw [tokens, value]
    exact .parens (.ofTerm (.ofFactor (.operand _)))
  | group connective items =>
    rw [IsFull] at h
    rw [tokens, value]
    exact .parens (reads_rowTokens h.1 h.2 place)

theorem reads_rowTokens {items : List WhereItem} (nonempty : items ≠ []) (h : AllFull items)
    (place : List Nat) :
    Reads ρ .condition (rowTokens place items) (Truth.tied (operands ρ place 0 items)) := by
  cases items with
  | nil => exact absurd rfl nonempty
  | cons i rest =>
    obtain ⟨hi, hrest⟩ := allFull_cons.mp h
    have first := Pending.first (.ofFactor (reads_tokens hi (place ++ [0])))
    rw [rowTokens, operands, Truth.tied]
    exact (pending_tiedTokens hrest place 1 first).condition

theorem pending_tiedTokens {items : List WhereItem} (h : AllFull items) (place : List Nat)
    (position : Nat) {ts : List Token} {f : Frame} (before : Pending ρ ts f) :
    Pending ρ (ts ++ tiedTokens place position items)
      ((operands ρ place position items).foldl (fun f o => f.next o.1 o.2) f) := by
  cases items with
  | nil => simpa [tiedTokens, operands] using before
  | cons i rest =>
    obtain ⟨hi, hrest⟩ := allFull_cons.mp h
    have factor := reads_tokens hi (place ++ [position])
    have further := pending_tiedTokens hrest place (position + 1)
      (before.next i.connective factor)
    simpa [tiedTokens, operands] using further

end

end

section

variable (t : Target) (s : Select)

mutual

theorem fragments_tokens (i : WhereItem) (place : List Nat) :
    Token.fragments t s (i.tokens place) = s.whereItem t i := by
  cases i with
  | cond c =>
    simp [tokens, Select.whereItem, Fragment.parens, Token.fragment, Fragment.append_assoc]
  | group connective items =>
    simp [tokens, Select.whereItem, Fragment.parens, Token.fragment, Fragment.append_assoc,
      fragments_rowTokens items place]

theorem fragments_rowTokens (items : List WhereItem) (place : List Nat) :
    Token.fragments t s (rowTokens place items) = s.whereItems t items := by
  cases items with
  | nil => simp [rowTokens, Select.whereItems]
  | cons i rest =>
    simp [rowTokens, Select.whereItems, fragments_tokens i, fragments_tiedTokens rest]

theorem fragments_tiedTokens (items : List WhereItem) (place : List Nat) (position : Nat) :
    Token.fragments t s (tiedTokens place position items) = s.tiedItems t items := by
  cases items with
  | nil => simp [tiedTokens, Select.tiedItems]
  | cons i rest =>
    simp [tiedTokens, Select.tiedItems, Token.fragment, Fragment.append_assoc,
      fragments_tokens i, fragments_tiedTokens rest]

end

end

end WhereItem

/-! ## The clause -/

namespace Select

/-- The conditions of the caller. -/
def conditionTokens (s : Select) : List Token :=
  WhereItem.rowTokens [] s.wheres

/-- The conditions of the caller and a deletion test. -/
def guardedTokens (s : Select) (test : String) : List Token :=
  match s.wheres with
  | [] => [.operand (.deletionTest test)]
  | [i] => i.tokens [0] ++ [.tie .and, .operand (.deletionTest test)]
  | items =>
    .opening ::
      (WhereItem.rowTokens [] items ++ [.closing, .tie .and, .operand (.deletionTest test)])

/-- What the conditions of the caller come to. -/
def conditionValue (s : Select) (ρ : Operand → Truth) : Truth :=
  Truth.tied (WhereItem.operands ρ [] 0 s.wheres)

/-- The clause with the conditions of the caller alone. -/
def conditionClause (t : Target) (s : Select) : Fragment :=
  if s.wheres = [] then .empty else .text " WHERE " ++ Token.fragments t s s.conditionTokens

section

variable {s : Select} {ρ : Operand → Truth}

theorem reads_conditionTokens (nonempty : s.wheres ≠ []) (full : WhereItem.AllFull s.wheres) :
    Reads ρ .condition s.conditionTokens (s.conditionValue ρ) :=
  WhereItem.reads_rowTokens nonempty full []

/-- The test is tied to the conditions as a whole. -/
theorem reads_guardedTokens (full : WhereItem.AllFull s.wheres) (test : String) :
    Reads ρ .condition (s.guardedTokens test)
      ((s.conditionValue ρ).and (ρ (.deletionTest test))) := by
  have guard : Reads ρ .factor [.operand (.deletionTest test)] (ρ (.deletionTest test)) :=
    .operand _
  unfold guardedTokens conditionValue
  split
  case h_1 none =>
    rw [none]
    exact .ofTerm (.ofFactor guard)
  case h_2 i one =>
    rw [one] at full ⊢
    have factor := WhereItem.reads_tokens (WhereItem.allFull_cons.mp full).1 [0] (ρ := ρ)
    exact .ofTerm (.and (.ofFactor factor) guard)
  case h_3 nonempty _ =>
    have factor := Reads.parens (WhereItem.reads_rowTokens nonempty full [] (ρ := ρ))
    have both := Reads.ofTerm (.and (.ofFactor factor) guard)
    simpa using both

/-! ## The text of the clause -/

/-- The clause is written in one part less than its tokens. -/
theorem write_whereClause {t : Target} {test : String}
    (tested : s.deletionTest? t.dialect = some test) (d : Dialect) (m : Mode)
    (before after : Fragment) :
    (before ++ s.whereClause t ++ after).write d m =
      (before ++ (.text " WHERE " ++ Token.fragments t s (s.guardedTokens test)) ++
        after).write d m := by
  unfold whereClause guardedTokens
  rw [tested]
  cases s.wheres with
  | nil => simpa [Token.fragment] using Fragment.write_text_append d m before after _ _
  | cons i rest =>
    have parts (f : Fragment) := Fragment.write_text_append d m (before ++ f) after " AND " test
    cases rest with
    | nil =>
      simpa [Token.fragment, Connective.text, WhereItem.fragments_tokens, Fragment.append_assoc]
        using parts (.text " WHERE " ++ s.whereItem t i)
    | cons j rest =>
      simpa [Token.fragment, Connective.text, WhereItem.fragments_rowTokens, Fragment.parens,
        Fragment.append_assoc] using
        parts (.text " WHERE " ++ .parens (s.whereItems t (i :: j :: rest)))

theorem whereClause_of_untested {t : Target} (untested : s.deletionTest? t.dialect = none) :
    s.whereClause t = s.conditionClause t := by
  unfold whereClause conditionClause conditionTokens
  rw [untested, WhereItem.fragments_rowTokens]
  cases s.wheres <;> rfl

/-- The same SELECT with other conditions, and with other rows seen. -/
def withConditions (s : Select) (wheres : List WhereItem) (deleted : DeletedRows) : Select :=
  { s with wheres, deleted }

theorem deletionTest?_shown (d : Dialect) (wheres : List WhereItem) :
    (s.withConditions wheres .shown).deletionTest? d = none := by
  simp only [deletionTest?, withConditions]
  cases s.table with
  | none => rfl
  | some table =>
    dsimp only
    cases table.deletionMark? <;> rfl

/-- What a condition says does not depend on the other conditions. -/
theorem fragments_withConditions (t : Target) (wheres : List WhereItem) (deleted : DeletedRows)
    (ts : List Token) :
    Token.fragments t (s.withConditions wheres deleted) ts = Token.fragments t s ts := by
  induction ts with
  | nil => rfl
  | cons x rest ih =>
    have same : x.fragment t (s.withConditions wheres deleted) = x.fragment t s := by
      cases x with
      | operand o => cases o <;> rfl
      | tie c => rfl
      | opening => rfl
      | closing => rfl
    rw [Token.fragments_cons, Token.fragments_cons, same, ih]

theorem whereClause_shown (t : Target) :
    (s.withConditions s.wheres .shown).whereClause t = s.conditionClause t := by
  rw [whereClause_of_untested (deletionTest?_shown t.dialect _), conditionClause,
    fragments_withConditions]
  rfl

theorem whereClause_none (t : Target) : (s.withConditions [] .shown).whereClause t = .empty := by
  rw [whereClause_of_untested (deletionTest?_shown t.dialect _), conditionClause]
  exact if_pos rfl

/-- The conditions are written in one place, and nothing else depends on them. -/
theorem exists_around_whereClause (t : Target) (form : Form) (s : Select) :
    ∃ before after, ∀ wheres deleted, (s.withConditions wheres deleted).fragment t form =
      before ++ (s.withConditions wheres deleted).whereClause t ++ after := by
  refine ⟨.text "SELECT " ++ s.distinctClause t ++ s.selection t form ++ s.fromClause t ++
    s.joinClauses t, s.keywordList t " GROUP BY " s.group ++ s.havingClause t ++ s.tail t form, ?_⟩
  intro wheres deleted
  rw [fragment, ← Fragment.append_assoc, ← Fragment.append_assoc]
  rfl

end

end Select

/-! ## The clause in a query -/

namespace Query

open Fragment

/-- A SELECT stands in one place of its query, whatever its conditions are. -/
theorem exists_place_select (t : Target) (form : Form) (s : Select) (ctes : List Cte)
    (members : List Member) :
    ∃ place, IsPlace place ∧ ∀ wheres deleted,
      (mk (s.withConditions wheres deleted) ctes members).fragment t form =
        place ((s.withConditions wheres deleted).fragment t form) := by
  cases error : s.error with
  | some e =>
    refine ⟨_, isPlace_around (.fail (.build e)) .empty, ?_⟩
    intro wheres deleted
    have broken : (s.withConditions wheres deleted).error = some e := error
    rw [fragment_of_error t form ctes members broken]
    simp
  | none =>
    refine ⟨fun f => if form = .count ∧ s.needsCountWrapper = true then
      countWrapper t (assembled t ctes members f) else assembled t ctes members f, ?_, ?_⟩
    · split
      · exact (isPlace_countWrapper t).comp (isPlace_assembled t ctes members)
      · exact isPlace_assembled t ctes members
    · intro wheres deleted
      exact fragment_of_no_error t form ctes members error

/-- The conditions of a query are written in one place, and nothing else depends on them. -/
theorem exists_around_whereClause (t : Target) (form : Form) (q : Query) :
    ∃ before after, ∀ wheres deleted,
      (q.mapSelect (·.withConditions wheres deleted)).fragment t form =
        before ++ (q.select.withConditions wheres deleted).whereClause t ++ after := by
  obtain ⟨s, ctes, members⟩ := q
  obtain ⟨place, isPlace, outside⟩ := exists_place_select t form s ctes members
  obtain ⟨before, after, inside⟩ := s.exists_around_whereClause t form
  obtain ⟨before', after', whole⟩ := isPlace.comp (isPlace_around before after)
  refine ⟨before', after', ?_⟩
  intro wheres deleted
  rw [← whole]
  dsimp only [mapSelect, select]
  rw [← inside, ← outside]

end Query

/-! ## Builder calls -/

namespace WhereItem

mutual

/-- A group that is left empty is not kept. -/
theorem allFull_ofCall (c : Call) : AllFull (ofCall c) := by
  cases c with
  | cond connective template args => simp [ofCall, IsFull]
  | group separator calls =>
    have inside := allFull_ofCalls calls
    rw [ofCall]
    split
    · exact allFull_nil
    · rename_i nonempty
      simpa [IsFull, inside] using nonempty

theorem allFull_ofCalls (cs : List Call) : AllFull (ofCalls cs) := by
  cases cs with
  | nil => simp [ofCalls]
  | cons c rest => simp [ofCalls, allFull_ofCall c, allFull_ofCalls rest]

end

end WhereItem

namespace Select

open WhereItem

variable {s : Select}

theorem allFull_withTable {operation : String} {f : Table → Select} (h : AllFull s.wheres)
    (hf : ∀ t, AllFull (f t).wheres) : AllFull (s.withTable operation f).wheres := by
  unfold withTable
  split
  · exact hf _
  · exact h

theorem allFull_addWhere {i : WhereItem} (h : AllFull s.wheres) (hi : i.IsFull) :
    AllFull (s.addWhere i).wheres := by
  simpa [addWhere] using ⟨h, hi⟩

theorem allFull_whereKey (h : AllFull s.wheres) (entity : ValueMap) :
    AllFull (s.whereKey entity).wheres := by
  refine allFull_withTable h ?_
  intro t
  split
  · exact h
  · exact allFull_addWhere h (by simp [IsFull])

theorem allFull_seeDeleted (h : AllFull s.wheres) (operation : String) (rows : DeletedRows) :
    AllFull (s.seeDeleted operation rows).wheres := by
  refine allFull_withTable h ?_
  intro t
  split <;> exact h

theorem allFull_addJoinCondition (h : AllFull s.wheres) (c : Condition) :
    AllFull (s.addJoinCondition c).wheres := by
  unfold addJoinCondition
  split <;> exact h

theorem allFull_request (h : AllFull s.wheres) (schema : Schema) (path : String)
    (scope : JoinScope) : AllFull (s.request schema path scope).wheres := by
  refine allFull_withTable h ?_
  intro t
  split <;> exact h

end Select

/-- People who may have left, which is kept as a date. -/
def Field.leftAt : Field where
  name := "left_at"
  column := "left_at"
  marksDeletion := true

def Table.members : Table where
  name := "members"
  aliasName := "m"
  fields := [{ name := "id", column := "id", isKey := true }, .leftAt]

namespace Query

open WhereItem

theorem allFull_callSelect {s : Select} (h : AllFull s.wheres) (schema : Schema) (c : Call) :
    AllFull (callSelect schema s c).wheres := by
  cases c with
  | excludeColumn names => exact Select.allFull_withTable h fun _ => h
  | «where» connective template args => exact Select.allFull_addWhere h (by simp [IsFull])
  | whereKey entity => exact Select.allFull_whereKey h entity
  | whereDeleted => exact Select.allFull_seeDeleted h _ _
  | whereAllWithDeleted => exact Select.allFull_seeDeleted h _ _
  | whereGroup separator calls => exact allFull_append.mpr ⟨h, allFull_ofCall _⟩
  | joinOn connective template args => exact Select.allFull_addJoinCondition h _
  | relation path scope => exact Select.allFull_request h schema _ _
  | _ => exact h

mutual

theorem allFull_call {q : Query} (h : AllFull q.select.wheres) (schema : Schema) (c : Call) :
    AllFull (call schema q c).select.wheres := by
  cases c with
  | withQuery name body => simpa [call, select] using h
  | withValues name v => simpa [call, select] using h
  | member operator body => simpa [call, select] using h
  | apply cs => simpa [call] using allFull_calls h schema cs
  | _ => simpa [call] using allFull_callSelect h schema _

theorem allFull_calls {q : Query} (h : AllFull q.select.wheres) (schema : Schema)
    (cs : List Call) : AllFull (calls schema q cs).select.wheres := by
  cases cs with
  | nil => simpa [calls] using h
  | cons c rest => simpa [calls] using allFull_calls (allFull_call h schema c) schema rest

end

/-- No call leaves an empty group. -/
theorem allFull_ofCalls (schema : Schema) (cs : List Call) :
    AllFull (ofCalls schema cs).select.wheres :=
  allFull_calls (q := empty) allFull_nil schema cs

/-! ## Queries with a deletion test -/

/-- What a query says whose rows are tested for being deleted: with the test, with the conditions of
the caller alone, and with neither. -/
structure Guarded (d : Dialect) (m : Mode) (form : Form) (q : Query) (test : String) : Prop where
  rendered : ∃ before after : Fragment,
    q.render d m form = (before ++ (.text " WHERE " ++
      Token.fragments (d.target m) q.select (q.select.guardedTokens test)) ++ after).write d m ∧
    (q.mapSelect fun s => s.withConditions s.wheres .shown).render d m form =
      (before ++ q.select.conditionClause (d.target m) ++ after).write d m ∧
    (q.mapSelect fun s => s.withConditions [] .shown).render d m form =
      (before ++ after).write d m
  /-- The clause of the caller alone is read as what its conditions come to. -/
  alone : q.select.wheres ≠ [] → ∀ ρ v,
    Reads ρ .condition q.select.conditionTokens v ↔ v = q.select.conditionValue ρ
  /-- The whole clause is read as the clause of the caller and the test. -/
  together : ∀ ρ v, Reads ρ .condition (q.select.guardedTokens test) v ↔
    v = (q.select.conditionValue ρ).and (ρ (.deletionTest test))
  /-- No row gets through that the test excludes. -/
  selected : ∀ ρ, Reads ρ .condition (q.select.guardedTokens test) .yes ↔
    q.select.conditionValue ρ = .yes ∧ ρ (.deletionTest test) = .yes

/-- The test of a deletion mark. -/
def deletionTest (d : Dialect) (table : Table) (mark : Field) (rows : DeletedRows) : String :=
  d.qualified table.aliasName mark.column ++ if rows = .only then " IS NOT NULL" else " IS NULL"

theorem guarded_of_allFull {d : Dialect} {q : Query} {test : String}
    (full : AllFull q.select.wheres) (tested : q.select.deletionTest? d = some test) (m : Mode)
    (form : Form) : Guarded d m form q test := by
  have whole (ρ : Operand → Truth) := Select.reads_guardedTokens (ρ := ρ) full test
  refine
    { rendered := ?rendered
      alone := fun nonempty ρ v => (Select.reads_conditionTokens nonempty full).iff_eq
      together := fun ρ v => (whole ρ).iff_eq
      selected := fun ρ => ?selected }
  case rendered =>
    obtain ⟨before, after, around⟩ := q.exists_around_whereClause (d.target m) form
    refine ⟨before, after, ?_, ?_, ?_⟩
    · have own := around q.select.wheres q.select.deleted
      have self : q.mapSelect (·.withConditions q.select.wheres q.select.deleted) = q := by
        cases q; rfl
      rw [self] at own
      rw [render, own]
      exact Select.write_whereClause (t := d.target m) tested d m before after
    · have shown := around q.select.wheres .shown
      have self : (q.mapSelect fun s => s.withConditions s.wheres .shown) =
          q.mapSelect (·.withConditions q.select.wheres .shown) := by
        cases q; rfl
      rw [render, self, shown, Select.whereClause_shown]
    · have none := around [] .shown
      rw [render, none, Select.whereClause_none, Fragment.append_empty]
  case selected =>
    rw [(whole ρ).iff_eq, eq_comm, Truth.and_eq_yes]

/-- Unless all rows are asked for, the rows of a table with a deletion mark are tested, whatever the
conditions of the caller are. -/
theorem guarded_ofCalls {schema : Schema} {cs : List Call} {table : Table} {mark : Field}
    (bound : (ofCalls schema cs).select.table = some table)
    (marked : table.deletionMark? = some mark)
    (tested : (ofCalls schema cs).select.deleted ≠ .shown) (d : Dialect) (m : Mode)
    (form : Form) :
    Guarded d m form (ofCalls schema cs)
      (deletionTest d table mark (ofCalls schema cs).select.deleted) := by
  refine guarded_of_allFull (allFull_ofCalls schema cs) ?_ m form
  rw [Select.deletionTest?, bound]
  simp only [marked, deletionTest]
  cases rows : (ofCalls schema cs).select.deleted with
  | hidden => rfl
  | only => rfl
  | shown => exact absurd rows tested

/-- The test stands behind the parentheses around conditions that `OR` ties together. -/
theorem guarded_members :
    let q := ofCalls ⟨[]⟩ [.model .members, .where .and "age > ?" [.int 30],
      .whereGroup " Or " [.cond .and "age < ?" [.int 3], .group "and" [.cond .or "id = 1" []]],
      .whereDeleted]
    (q.sql .postgres .rows).toOption = some ("SELECT \"m\".\"id\", \"m\".\"left_at\" " ++
        "FROM \"members\" AS \"m\" WHERE ((age > 30) OR ((age < 3) AND ((id = 1)))) " ++
        "AND \"m\".\"left_at\" IS NOT NULL") ∧
      q.select.table = some .members ∧ Table.members.deletionMark? = some .leftAt ∧
      q.select.deleted ≠ .shown ∧
      Guarded .postgres .bind .count q (deletionTest .postgres .members .leftAt .only) :=
  ⟨by decide +kernel, rfl, rfl, by decide,
    guarded_ofCalls rfl rfl (by decide) .postgres .bind .count⟩

end Query

end SqlCompose
