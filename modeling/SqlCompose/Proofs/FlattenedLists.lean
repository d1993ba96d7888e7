import SqlCompose.Proofs.ColumnItems
import SqlCompose.Proofs.CountForm
import SqlCompose.Proofs.SharedNodes

/-!
# Flattened relations in a SELECT

The relations that are flattened into a SELECT are walked through twice, for their columns and for
their joins. The main statement is that both lists come from the same joins in the same order, that
a join refers to the bound table or to a join before it, and that commas stand between the columns
and nowhere else.
-/

namespace SqlCompose

/-! ## Fragments with the same text -/

namespace Piece

theorem write_text_empty (d : Dialect) (m : Mode) (ps qs : List Piece) :
    write d (ps ++ .text "" :: qs) m = write d (ps ++ qs) m := by
  cases m with
  | literal => simp [write, literal]
  | shape => simp [write, shape]
  | bind =>
    simp only [write, List.flatMap_append, List.flatMap_cons, leaves, List.singleton_append]
    simp [number_append, number]

/-- What is written first stands first, whatever comes behind it. -/
theorem exists_sql_write_append (d : Dialect) (m : Mode) (ps qs : List Piece) :
    ∃ behind, (write d (ps ++ qs) m).sql = (write d ps m).sql ++ behind := by
  cases m with
  | literal => exact ⟨String.join (qs.map (literal d)), by simp [write]⟩
  | shape => exact ⟨String.join (qs.map (shape d)), by simp [write]⟩
  | bind =>
    refine ⟨(number d (args (ps.flatMap (leaves d))).length (qs.flatMap (leaves d))).sql, ?_⟩
    simp [write, number_append]

end Piece

namespace Fragment

/-- Fragments that are written alike, wherever they stand. -/
def SameText (f g : Fragment) : Prop :=
  ∀ (before after : Fragment) (d : Dialect) (m : Mode),
    (before ++ f ++ after).write d m = (before ++ g ++ after).write d m

variable {f f' g g' h : Fragment}

theorem SameText.refl (f : Fragment) : f.SameText f := fun _ _ _ _ => rfl

theorem SameText.trans (same : f.SameText g) (same' : g.SameText h) : f.SameText h :=
  fun before after d m => (same before after d m).trans (same' before after d m)

theorem SameText.append (same : f.SameText f') (same' : g.SameText g') :
    (f ++ g).SameText (f' ++ g') := by
  intro before after d m
  have first := same before (g ++ after) d m
  have second := same' (before ++ f') after d m
  simp only [append_assoc] at first second ⊢
  exact first.trans second

theorem SameText.write_eq (same : f.SameText g) (d : Dialect) (m : Mode) :
    f.write d m = g.write d m := by
  simpa using same empty empty d m

theorem sameText_text_append (a b : String) : (text (a ++ b)).SameText (text a ++ text b) :=
  fun before after d m => write_text_append d m before after a b

theorem sameText_text_empty : (text "").SameText empty := by
  intro before after d m
  rw [append_empty]
  cases before with
  | fail e => simp
  | ok ps =>
    cases after with
    | fail e => rfl
    | ok qs =>
      have same := Piece.write_text_empty d m ps qs
      simpa [text, write] using same

/-- Fragments with separators between them, and one before them if something stands there. -/
def continued (separator : String) (started : Bool) (fs : List Fragment) : Fragment :=
  if started then concat (fs.map (text separator ++ ·)) else join separator fs

theorem continued_cons (separator : String) (started : Bool) (f : Fragment)
    (rest : List Fragment) :
    continued separator started (f :: rest) =
      (if started then text separator else empty) ++ f ++ continued separator true rest := by
  cases started <;> simp [continued, join, concat]

theorem continued_append (separator : String) (started : Bool) (fs gs : List Fragment) :
    continued separator started (fs ++ gs) =
      continued separator started fs ++ continued separator (started || !fs.isEmpty) gs := by
  induction fs generalizing started with
  | nil => cases started <;> simp [continued, join, concat]
  | cons f rest ih =>
    rw [List.cons_append, continued_cons, ih, continued_cons]
    simp [append_assoc]

/-- A text of items is written as the items are. -/
theorem sameText_intercalate (separator : String) (items : List String) :
    (text (separator.intercalate items)).SameText (join separator (items.map text)) := by
  induction items with
  | nil => exact sameText_text_empty
  | cons item rest ih =>
    cases rest with
    | nil =>
      rw [String.intercalate_singleton]
      simpa [join, concat] using SameText.refl (text item)
    | cons next rest =>
      rw [String.intercalate_cons_cons, String.append_assoc]
      have later := (sameText_text_append separator _).trans
        ((SameText.refl (text separator)).append ih)
      have whole := (sameText_text_append item _).trans ((SameText.refl (text item)).append later)
      simpa [join, concat, append_assoc] using whole

end Fragment

/-! ## Columns -/

namespace JoinTree

/-- The columns of joins go on with a list, item by item. -/
theorem sameText_columnItems (d : Dialect) (started : Bool) (joins : List Join) :
    (columnItems d started (joins.map .ok)).SameText
      (.continued ", " started ((joins.flatMap (·.columnItems d)).map .text)) := by
  induction joins generalizing started with
  | nil => cases started <;> exact Fragment.SameText.refl _
  | cons j rest ih =>
    rw [List.map_cons, columnItems, List.flatMap_cons, List.map_append,
      Fragment.continued_append]
    cases items : j.columnItems d with
    | nil =>
      have none : Fragment.continued ", " started (([] : List String).map .text) = .empty := by
        cases started <;> rfl
      rw [none, Fragment.empty_append]
      simpa using ih started
    | cons item later =>
      have going : (started || !((item :: later).map Fragment.text).isEmpty) = true := by simp
      rw [going]
      refine Fragment.SameText.append ?_ (ih true)
      cases started with
      | false => simpa [Fragment.continued] using Fragment.sameText_intercalate ", " (item :: later)
      | true =>
        have whole := (Fragment.sameText_text_append ", " (", ".intercalate (item :: later))).trans
          ((Fragment.SameText.refl (.text ", ")).append
            (Fragment.sameText_intercalate ", " (item :: later)))
        simpa [Fragment.continued, Fragment.join, Fragment.concat, Fragment.append_assoc]
          using whole

end JoinTree

/-! ### Blank text -/

theorem Value.leaves_of_isBlank (d : Dialect) {v : Value} (h : v.isBlank = true) :
    v.leaves d = [.text ""] := by
  fun_induction isBlank v with
  | case1 sql =>
    rw [leaves, String.isEmpty_iff.mp h]
  | case2 v ih =>
    rw [leaves, leavesBehind, List.append_nil]
    exact ih h
  | case3 => cases h

namespace Piece

/-- A blank piece is written as nothing in the mode in which it is blank. -/
theorem leaves_of_isBlank (d : Dialect) {p : Piece} (h : p.isBlank false = true) :
    p.leaves d = [.text ""] := by
  cases p with
  | text s => rw [leaves, String.isEmpty_iff.mp h]
  | arg v => exact Value.leaves_of_isBlank d (by simpa [isBlank] using h)

theorem shape_of_isBlank (d : Dialect) {p : Piece} (h : p.isBlank true = true) :
    p.shape d = "" := by
  cases p with
  | text s => exact String.isEmpty_iff.mp h
  | arg v =>
    obtain ⟨blank, structural⟩ : v.isBlank = true ∧ v.isStructural = true := by
      simpa [isBlank] using h
    rw [shape, Value.shape, if_pos structural, Value.literal_of_isBlank d blank]

end Piece

/-- What is blank in the mode in which it is written adds no text. -/
theorem Fragment.sql_write_of_isBlank {d : Dialect} {m : Mode} {f : Fragment} {r : Rendered}
    (blank : f.isBlank (decide (m = .shape)) = true) (written : f.write d m = .ok r) :
    r.sql = "" := by
  obtain ⟨ps, rfl, rfl⟩ := write_eq_ok_iff.mp written
  have each := List.all_eq_true.mp blank
  clear blank written
  induction ps with
  | nil => cases m <;> rfl
  | cons p rest ih =>
    obtain ⟨own, later⟩ := List.forall_mem_cons.mp each
    have further := ih later
    cases m with
    | literal =>
      have none := Piece.literal_of_isBlank d own
      simpa [Piece.write, none] using further
    | shape =>
      have none := Piece.shape_of_isBlank d own
      simpa [Piece.write, none] using further
    | bind =>
      have none := Piece.leaves_of_isBlank d own
      simpa [Piece.write, none, Piece.number] using further

theorem Fragment.write_text (d : Dialect) (m : Mode) (s : String) :
    (text s).write d m = .ok { sql := s } := by
  cases m <;>
    simp [text, write, Piece.write, Piece.literal, Piece.shape, Piece.leaves, Piece.number]

theorem Fragment.sql_write_append_ne {d : Dialect} {m : Mode} {f g : Fragment}
    (full : ∀ r, f.write d m = .ok r → r.sql ≠ "") {r : Rendered}
    (written : (f ++ g).write d m = .ok r) : r.sql ≠ "" := by
  obtain ⟨ps, whole, rfl⟩ := write_eq_ok_iff.mp written
  obtain ⟨qs, rs, rfl, rfl, rfl⟩ := append_eq_ok_iff.mp whole
  obtain ⟨behind, sql⟩ := Piece.exists_sql_write_append d m qs rs
  rw [sql]
  have own := full _ rfl
  simp [own]

namespace Select

/-- The columns of a bound table, or those that are asked for in their place, one by one. -/
def baseItems (t : Target) (table : Table) (s : Select) : List Fragment :=
  if s.columns.isEmpty then
    if t.shapeOnly ∧ widestTable < table.fields.length then
      [.text (t.dialect.ident table.aliasName ++ "." ++
        t.dialect.stringLiteral (Nat.repr table.fields.length ++ " columns"))]
    else (s.modelColumns table).map fun c => .text (t.dialect.qualified table.aliasName c)
  else s.requestedColumns.map (s.column t)

variable {t : Target} {table : Table} {s : Select}

theorem sameText_baseColumns (t : Target) (bound : s.table = some table) :
    (s.baseColumns t).SameText (.join ", " (s.baseItems t table)) := by
  rw [baseColumns, baseItems, bound]
  dsimp only
  split
  · split
    · simpa [Fragment.join, Fragment.concat] using Fragment.SameText.refl _
    · have items := Fragment.sameText_intercalate ", "
        ((s.modelColumns table).map (t.dialect.qualified table.aliasName))
      rwa [List.map_map] at items
  · exact .refl _

section

variable {m : Mode} (full : ∀ n ∈ s.requestedColumns, ∀ r,
  (s.column t n).write t.dialect m = .ok r → r.sql ≠ "")
include full

theorem sql_baseItems_ne {f : Fragment} (mem : f ∈ s.baseItems t table) {r : Rendered}
    (written : f.write t.dialect m = .ok r) : r.sql ≠ "" := by
  rw [baseItems] at mem
  split at mem
  · split at mem
    · obtain rfl := List.mem_singleton.mp mem
      obtain rfl := Except.ok.inj ((Fragment.write_text ..).symm.trans written)
      simp [t.dialect.ident_ne_empty]
    · obtain ⟨c, -, rfl⟩ := List.mem_map.mp mem
      obtain rfl := Except.ok.inj ((Fragment.write_text ..).symm.trans written)
      exact t.dialect.qualified_ne_empty _ c
  · obtain ⟨n, requested, rfl⟩ := List.mem_map.mp mem
    exact full n requested r written

variable (mode : t.shapeOnly = decide (m = .shape))
include mode

/-- The columns before those of relations are blank only where there are none. -/
theorem isBlank_baseColumns (bound : s.table = some table)
    (fine : (s.baseColumns t).error? = none) :
    (s.baseColumns t).isBlank t.shapeOnly = (s.baseItems t table).isEmpty := by
  cases items : s.baseItems t table with
  | nil =>
    rw [baseItems] at items
    rw [baseColumns, bound]
    dsimp only
    split at items
    · rename_i none
      split at items
      · cases items
      · rename_i narrow
        rw [if_pos none, if_neg narrow, qualifiedColumns]
        have columns := List.map_eq_nil_iff.mp items
        simp [columns, Fragment.isBlank, Fragment.text, Piece.isBlank]
    · rename_i some
      rw [if_neg some, items]
      rfl
  | cons f rest =>
    refine Bool.eq_false_iff.mpr fun blank => ?_
    obtain ⟨ps, ok⟩ := Fragment.error?_eq_none.mp fine
    have written : (s.baseColumns t).write t.dialect m = .ok (Piece.write t.dialect ps m) :=
      Fragment.write_eq_ok_iff.mpr ⟨ps, ok, rfl⟩
    have none := Fragment.sql_write_of_isBlank (mode ▸ blank) written
    rw [(sameText_baseColumns t bound).write_eq, items, Fragment.join] at written
    have first {r : Rendered} : f.write t.dialect m = .ok r → r.sql ≠ "" :=
      sql_baseItems_ne full (items ▸ List.mem_cons_self)
    exact Fragment.sql_write_append_ne (fun r => first) written none

/-- A column list is written as its columns with commas between them, and with no other commas. -/
theorem sameText_columnList (bound : s.table = some table) {joins : List Join}
    (walk : s.visits = joins.map .ok) (fine : (s.columnList t).error? = none) :
    (s.columnList t).SameText (.join ", "
      (s.baseItems t table ++ (joins.flatMap (·.columnItems t.dialect)).map .text)) := by
  have base : (s.baseColumns t).error? = none := by
    rw [columnList, Fragment.error?_append, Option.or_eq_none_iff] at fine
    exact fine.1
  rw [columnList, isBlank_baseColumns full mode bound base, walk]
  have whole := (sameText_baseColumns t bound).append
    (JoinTree.sameText_columnItems t.dialect (!(s.baseItems t table).isEmpty) joins)
  have parts := Fragment.continued_append ", " false (s.baseItems t table)
    ((joins.flatMap (·.columnItems t.dialect)).map .text)
  rw [Bool.false_or] at parts
  exact whole.trans (parts ▸ .refl _)

end

end Select

/-! ## Joins -/

namespace JoinTree

section

variable {depth : Nat} {j : Join} {children : List JoinTree}
  (isToOne : j.relation.kind.isToOne = true)
include isToOne

/-- A walk that comes to its end never gets too deep. -/
theorem not_le_of_walk (walk : ∀ e, .error e ∉ (node j children).visits depth) :
    ¬ greatestPathLength ≤ depth + 1 := by
  intro deep
  rw [visits, if_pos isToOne, if_pos deep] at walk
  exact walk _ (List.mem_cons_of_mem _ (List.mem_singleton_self _))

theorem visits_of_not_le (shallow : ¬ greatestPathLength ≤ depth + 1) :
    (node j children).visits depth = .ok j :: visitsAll (depth + 1) children := by
  rw [visits, if_pos isToOne, if_neg shallow]

end

mutual

/-- A walk that comes to its end visits the to-one joins, parents before children. -/
theorem visits_eq_toOne {depth : Nat} {t : JoinTree} (walk : ∀ e, .error e ∉ t.visits depth) :
    t.visits depth = t.toOne.map .ok := by
  obtain ⟨j, children⟩ := t
  by_cases isToOne : j.relation.kind.isToOne = true
  · have all : (node j children).visits depth = .ok j :: visitsAll (depth + 1) children :=
      visits_of_not_le isToOne (not_le_of_walk isToOne walk)
    rw [all] at walk ⊢
    rw [toOne, if_pos isToOne,
      visitsAll_eq_toOneAll fun e mem => walk e (List.mem_cons_of_mem _ mem)]
    rfl
  · rw [visits, toOne, if_neg isToOne, if_neg isToOne]
    rfl

theorem visitsAll_eq_toOneAll {depth : Nat} {level : List JoinTree}
    (walk : ∀ e, .error e ∉ visitsAll depth level) :
    visitsAll depth level = (toOneAll level).map .ok := by
  cases level with
  | nil => rfl
  | cons t rest =>
    rw [visitsAll] at walk ⊢
    rw [toOneAll, List.map_append,
      visits_eq_toOne fun e mem => walk e (List.mem_append_left _ mem),
      visitsAll_eq_toOneAll fun e mem => walk e (List.mem_append_right _ mem)]

end

mutual

/-- A tree without its to-many relations and what is below them. -/
def pruned : JoinTree → List JoinTree
  | .node j children =>
    if j.relation.kind.isToOne then [.node j (prunedAll children)] else []

def prunedAll : List JoinTree → List JoinTree
  | [] => []
  | t :: rest => t.pruned ++ prunedAll rest

end

theorem visitsAll_append (depth : Nat) (level further : List JoinTree) :
    visitsAll depth (level ++ further) = visitsAll depth level ++ visitsAll depth further := by
  induction level with
  | nil => rfl
  | cons t rest ih => rw [List.cons_append, visitsAll, visitsAll, ih, List.append_assoc]

mutual

/-- A walk that comes to its end never sees what is pruned. -/
theorem visitsAll_pruned {depth : Nat} {t : JoinTree} (walk : ∀ e, .error e ∉ t.visits depth) :
    visitsAll depth t.pruned = t.visits depth := by
  obtain ⟨j, children⟩ := t
  by_cases isToOne : j.relation.kind.isToOne = true
  · have shallow := not_le_of_walk isToOne walk
    rw [visits_of_not_le isToOne shallow] at walk ⊢
    rw [pruned, if_pos isToOne, visitsAll, visits_of_not_le isToOne shallow, visitsAll,
      List.append_nil, visitsAll_prunedAll fun e mem => walk e (List.mem_cons_of_mem _ mem)]
  · rw [visits, pruned, if_neg isToOne, if_neg isToOne, visitsAll]

theorem visitsAll_prunedAll {depth : Nat} {level : List JoinTree}
    (walk : ∀ e, .error e ∉ visitsAll depth level) :
    visitsAll depth (prunedAll level) = visitsAll depth level := by
  cases level with
  | nil => rfl
  | cons t rest =>
    rw [visitsAll] at walk ⊢
    rw [prunedAll, visitsAll_append,
      visitsAll_pruned fun e mem => walk e (List.mem_append_left _ mem),
      visitsAll_prunedAll fun e mem => walk e (List.mem_append_right _ mem)]

end

/-! ### What joins refer to -/

mutual

/-- Trees start at an alias, and children where their parent ends. -/
def Linked (start : String) : JoinTree → Prop
  | .node j children => j.baseAlias = start ∧ AllLinked j.aliasName children

def AllLinked (start : String) : List JoinTree → Prop
  | [] => True
  | t :: rest => t.Linked start ∧ AllLinked start rest

end

/-- Each join of a list refers to a known alias, or to one before it. -/
def Introduced (known : List String) : List Join → Prop
  | [] => True
  | j :: rest => j.baseAlias ∈ known ∧ Introduced (j.aliasName :: known) rest

section

variable {start : String}

theorem allLinked_iff {level : List JoinTree} :
    AllLinked start level ↔ ∀ t ∈ level, t.Linked start := by
  induction level with
  | nil => simp [AllLinked]
  | cons t rest ih => simp [AllLinked, ih]

theorem linked_iff {t : JoinTree} :
    t.Linked start ↔ t.join.baseAlias = start ∧ AllLinked t.join.aliasName t.children := by
  obtain ⟨j, children⟩ := t
  rw [Linked]
  rfl

/-- A request leaves trees that start where they started. -/
theorem AllLinked.request {schema : Schema} {scope : JoinScope} {base : Table}
    {parent : Option String} {above names : List String} {level : List JoinTree}
    (h : AllLinked (parent.getD base.aliasName) level) :
    AllLinked (parent.getD base.aliasName)
      (request schema scope base parent above names level).1 := by
  induction names generalizing base parent above level with
  | nil => exact h
  | cons name rest ih =>
    cases found : base.relation? name with
    | none =>
      rw [request_of_none found]
      exact h
    | some relation =>
      rw [request_of_some found]
      rw [allLinked_iff] at h ⊢
      intro u hu
      obtain old | ⟨t, stood, named, rfl⟩ := mem_change hu
      · exact h u old
      · have own : t.Linked (parent.getD base.aliasName) := by
          rcases stood with old | rfl
          · exact h t old
          · exact linked_iff.mpr ⟨rfl, trivial⟩
        obtain ⟨starts, below⟩ := linked_iff.mp own
        rw [linked_iff, baseAlias_grow, aliasName_grow, children_grow]
        rw [named] at below ⊢
        exact ⟨starts, @ih _ (some _) _ _ below⟩

theorem AllLinked.requestPath {schema : Schema} {scope : JoinScope} {table : Table}
    {path : String} {level : List JoinTree} (h : AllLinked table.aliasName level) :
    AllLinked table.aliasName (requestPath schema table path scope level).1 := by
  unfold JoinTree.requestPath
  split
  · exact h
  · have start : AllLinked ((none : Option String).getD table.aliasName) level := h
    exact start.request

theorem introduced_append {known : List String} {before after : List Join} :
    Introduced known (before ++ after) ↔
      Introduced known before ∧
        Introduced ((before.map (·.aliasName)).reverse ++ known) after := by
  induction before generalizing known with
  | nil => simp [Introduced]
  | cons j rest ih => simp [Introduced, ih, and_assoc]

theorem Introduced.baseAlias_mem {known : List String} {before after : List Join} {j : Join}
    (h : Introduced known (before ++ j :: after)) :
    j.baseAlias ∈ known ∨ ∃ i ∈ before, i.aliasName = j.baseAlias := by
  obtain ⟨mem, -⟩ := (introduced_append.mp h).2
  rcases List.mem_append.mp mem with earlier | outer
  · exact .inr (List.mem_map.mp (List.mem_reverse.mp earlier))
  · exact .inl outer

end

mutual

/-- Where trees start at a known alias, a parent is known before its children. -/
theorem Linked.introduced {start : String} {known : List String} (mem : start ∈ known)
    {t : JoinTree} (h : t.Linked start) : Introduced known t.toOne := by
  obtain ⟨j, children⟩ := t
  obtain ⟨starts, below⟩ := h
  rw [toOne]
  split
  · exact ⟨starts ▸ mem, AllLinked.introduced List.mem_cons_self below⟩
  · trivial

theorem AllLinked.introduced {start : String} {known : List String} (mem : start ∈ known)
    {level : List JoinTree} (h : AllLinked start level) : Introduced known (toOneAll level) := by
  cases level with
  | nil => trivial
  | cons t rest =>
    obtain ⟨own, later⟩ := h
    rw [toOneAll, introduced_append]
    exact ⟨own.introduced mem, later.introduced (List.mem_append_right _ mem)⟩

end

mutual

theorem isToOne_of_mem_toOne {t : JoinTree} {j : Join} (mem : j ∈ t.toOne) :
    j.relation.kind.isToOne = true := by
  obtain ⟨own, children⟩ := t
  rw [toOne] at mem
  split at mem
  · rcases List.mem_cons.mp mem with rfl | below
    · assumption
    · exact isToOne_of_mem_toOneAll below
  · cases mem

theorem isToOne_of_mem_toOneAll {level : List JoinTree} {j : Join} (mem : j ∈ toOneAll level) :
    j.relation.kind.isToOne = true := by
  cases level with
  | nil => cases mem
  | cons t rest =>
    rcases List.mem_append.mp mem with own | later
    · exact isToOne_of_mem_toOne own
    · exact isToOne_of_mem_toOneAll later

end

end JoinTree

/-! ## The statement -/

namespace Select

/-- The to-one relations that are asked for, parents before children. -/
def joined (s : Select) : List Join :=
  JoinTree.toOneAll s.relations

/-- Without to-many relations and what is below them. -/
def pruned (s : Select) : Select :=
  { s with relations := JoinTree.prunedAll s.relations }

/-- The statement for rows, with its columns and its joins each as one list. -/
def spread (t : Target) (table : Table) (s : Select) : Fragment :=
  .text "SELECT " ++ s.distinctClause t ++
    .join ", " (s.baseItems t table ++ (s.joined.flatMap (·.columnItems t.dialect)).map .text) ++
    s.fromClause t ++
    (.concat (s.joined.map fun j => .text " " ++ j.leftJoin t.dialect (s.names t.dialect)) ++
      .concat (s.joins.map (s.manualJoin t))) ++
    s.whereClause t ++ s.keywordList t " GROUP BY " s.group ++ s.havingClause t ++ s.tail t .rows

variable {s : Select} {table : Table}

/-- Requests leave trees that start at the bound table. -/
theorem allLinked_requestAll (schema : Schema) (bound : s.table = some table)
    (requests : List (String × List JoinScope.Call))
    (h : JoinTree.AllLinked table.aliasName s.relations) :
    JoinTree.AllLinked table.aliasName (s.requestAll schema requests).relations := by
  induction requests generalizing s with
  | nil => exact h
  | cons r rest ih =>
    rw [requestAll_cons]
    refine ih (table_request schema bound r.1 (.ofCalls r.2)) ?_
    rw [relations_request schema bound]
    exact h.requestPath

/-- What is pruned is not written. -/
theorem fragment_pruned (t : Target) (form : Form) (walk : ∀ e, .error e ∉ s.visits) :
    s.pruned.fragment t form = s.fragment t form := by
  have visits : s.pruned.visits = s.visits := JoinTree.visitsAll_prunedAll walk
  have columns : s.pruned.columnList t = s.columnList t := by
    rw [columnList, columnList, visits]
    rfl
  have joins : s.pruned.joinClauses t = s.joinClauses t := by
    rw [joinClauses, joinClauses, visits]
    rfl
  have conditions : s.pruned.whereClause t = s.whereClause t :=
    whereClause_congr (fun _ => rfl) rfl rfl fun _ => rfl
  rw [fragment, fragment, selection, selection, columns, joins, conditions]
  rfl

theorem sameText_spread {t : Target} {m : Mode}
    (full : ∀ n ∈ s.requestedColumns, ∀ r,
      (s.column t n).write t.dialect m = .ok r → r.sql ≠ "")
    (mode : t.shapeOnly = decide (m = .shape)) (bound : s.table = some table)
    (fine : (s.fragment t .rows).error? = none) :
    (s.fragment t .rows).SameText (s.spread t table) := by
  have walk := not_error_mem_of_fragment t fine
  have visits : s.visits = s.joined.map .ok := JoinTree.visitsAll_eq_toOneAll walk
  have joins : JoinTree.leftJoins t.dialect (s.names t.dialect) s.visits =
      .concat (s.joined.map fun j => .text " " ++ j.leftJoin t.dialect (s.names t.dialect)) := by
    have each : (s.joined.map (Except.ok : Join → JoinTree.Visit)).filterMap Except.toOption =
        s.joined := by
      simp [List.filterMap_map, Function.comp_def, Except.toOption]
    rw [JoinTree.leftJoins_eq_concat _ _ walk, visits, each]
  have listed : (s.columnList t).error? = none := by
    simp only [fragment, selection_rows, Fragment.error?_append, Option.or_eq_none_iff] at fine
    obtain ⟨⟨⟨⟨⟨⟨⟨-, listed⟩, -⟩, -⟩, -⟩, -⟩, -⟩, -⟩ := fine
    exact listed
  have columns := sameText_columnList full mode bound visits listed
  have opened := (Fragment.SameText.refl (.text "SELECT " ++ s.distinctClause t)).append columns
  rw [fragment, spread, selection_rows, joinClauses, joins]
  exact (((((opened.append (.refl _)).append (.refl _)).append (.refl _)).append
    (.refl _)).append (.refl _)).append (.refl _)

end Select

/-! ## Queries -/

/-- What is written for a query whose relations have been flattened into its SELECT. -/
structure Query.ListsFlattened (d : Dialect) (fs : Features) (m : Mode) (table : Table) (q : Query)
    (r : Rendered) : Prop where
  /-- The columns are those of the table, then those of the joins that are written, in the same
  order, with commas between columns and nowhere else. -/
  text : (assembled ⟨d, fs, decide (m = .shape)⟩ q.ctes q.members
    (q.select.spread ⟨d, fs, decide (m = .shape)⟩ table)).write d m = .ok r
  /-- No column of the table is blank, so that no commas stand side by side. -/
  full : ∀ f ∈ q.select.baseItems ⟨d, fs, decide (m = .shape)⟩ table, ∀ r,
    f.write d m = .ok r → r.sql ≠ ""
  /-- Only to-one relations are joined. -/
  toOne : ∀ j ∈ q.select.joined, j.relation.kind.isToOne = true
  /-- What is behind a to-many relation could as well not be asked for. -/
  pruned : (q.mapSelect Select.pruned).renderWith d fs m .rows = .ok r
  /-- Keys are compared with those of the table, or of a join that is written before. -/
  keys : ∀ before j after, q.select.joined = before ++ j :: after →
    ∃ base, (base = table.aliasName ∨ ∃ i ∈ before, i.aliasName = base) ∧
      ∀ test ∈ j.keyTests d, ∃ own other,
        test = d.qualified j.aliasName own ++ " = " ++ d.qualified base other

section

variable {schema : Schema} {table : Table} {requests : List (String × List JoinScope.Call)}
  {d : Dialect} {fs : Features} {m : Mode} {q : Query} {r : Rendered}

/-- However relations are requested, a SELECT lists the columns and the joins of the same to-one
relations in the same order, whatever other columns it has. -/
theorem Query.renderWith_listsFlattened (bound : q.select.table = some table)
    (built : q.select.relations = (relating schema table requests).select.relations)
    (full : ∀ n ∈ q.select.requestedColumns, ∀ r,
      (q.select.column ⟨d, fs, decide (m = .shape)⟩ n).write d m = .ok r → r.sql ≠ "")
    (rendered : q.renderWith d fs m .rows = .ok r) : q.ListsFlattened d fs m table r := by
  obtain ⟨s, ctes, members⟩ := q
  dsimp only [select] at bound built full
  have fine : ((mk s ctes members).fragment ⟨d, fs, decide (m = .shape)⟩ .rows).error? = none :=
    Fragment.error?_eq_none_of_write rendered
  obtain ⟨unbroken, -, first, -⟩ := parts_of_error?_eq_none _ fine
  have walk := Select.not_error_mem_of_fragment _ first
  rw [renderWith, fragment_rows_of_no_error _ _ _ unbroken] at rendered
  have linked : JoinTree.AllLinked table.aliasName s.relations := by
    rw [built, relating_eq]
    exact Select.allLinked_requestAll schema rfl requests trivial
  exact {
    text := by
      obtain ⟨before, after, place⟩ :=
        isPlace_assembled ⟨d, fs, decide (m = .shape)⟩ ctes members
      have same := Select.sameText_spread full rfl bound first before after d m
      rw [← place, ← place] at same
      exact same ▸ rendered
    full := fun f mem r => Select.sql_baseItems_ne full mem
    toOne := fun j => JoinTree.isToOne_of_mem_toOneAll
    pruned := by
      have unbroken' : s.pruned.error = none := unbroken
      rwa [mapSelect, renderWith, fragment_rows_of_no_error _ _ _ unbroken',
        Select.fragment_pruned _ _ walk]
    keys := by
      intro before j after split
      have each : ∀ test ∈ j.keyTests d, ∃ own other,
          test = d.qualified j.aliasName own ++ " = " ++ d.qualified j.baseAlias other := by
        intro test mem
        obtain ⟨fields, -, rfl⟩ := List.mem_map.mp mem
        exact ⟨_, _, rfl⟩
      have known := linked.introduced (List.mem_singleton_self table.aliasName)
      rw [show JoinTree.toOneAll s.relations = before ++ j :: after from split] at known
      exact ⟨j.baseAlias, known.baseAlias_mem.imp_left List.mem_singleton.mp, each⟩ }

end

/-- Folders lie in a folder and hold others. -/
def Table.folders : Table where
  name := "folders"
  aliasName := "folder"
  fields := [{ name := "id", column := "id" }, { name := "parent_id", column := "parent_id" }]
  relations := [
    { name := "Parent", kind := .belongsTo, target := 0, baseFields := ["parent_id"],
      joinFields := ["id"] },
    { name := "Children", kind := .hasMany, target := 0, baseFields := ["id"],
      joinFields := ["parent_id"] }]

/-- All columns of the table are excluded and its parent selects nothing: the list starts with a
column of the second join, or with an expression and a comma. -/
theorem Query.renderWith_listsFlattened_folders :
    let built := relating ⟨[.folders]⟩ .folders
      [("Children.Parent", []), ("Parent", [.columns []]), ("Parent.Parent", [.columns ["id"]])]
    let q (columns : List Node) : Query :=
      .mk { built.select with columns, excluded := ["id", "parent_id"] } [] []
    let listed := "\x60parent__parent\x60.\x60id\x60 AS \x60parent__parent__id\x60 " ++
      "FROM \x60folders\x60 AS \x60folder\x60 " ++
      "LEFT JOIN \x60folders\x60 AS \x60parent\x60 " ++
      "ON (\x60parent\x60.\x60id\x60 = \x60folder\x60.\x60parent_id\x60) " ++
      "LEFT JOIN \x60folders\x60 AS \x60parent__parent\x60 " ++
      "ON (\x60parent__parent\x60.\x60id\x60 = \x60parent\x60.\x60parent_id\x60)"
    let own : List Node := [.ident "id", .template "now()" []]
    built.error? = none ∧
      ((q []).renderWith .mySql Dialect.mySql.features .literal .rows).toOption.map (·.sql) =
        some ("SELECT " ++ listed) ∧
      ∃ r, (q own).renderWith .mySql Dialect.mySql.features .literal .rows = .ok r ∧
        r.sql = "SELECT now(), " ++ listed ∧
        (q own).ListsFlattened .mySql Dialect.mySql.features .literal .folders r := by
  intro built q listed own
  have shown : ((q own).renderWith .mySql Dialect.mySql.features .literal .rows).toOption.map
      (·.sql) = some ("SELECT now(), " ++ listed) := by
    decide +kernel
  obtain ⟨r, written, sql⟩ := Option.map_eq_some_iff.mp shown
  have ok := Except.eq_ok_of_toOption written
  have texts : (q own).select.requestedColumns.map (fun n => (((q own).select.column
      ⟨.mySql, Dialect.mySql.features, decide (Mode.literal = .shape)⟩ n).write
        .mySql .literal).toOption.map (·.sql)) = [some "now()"] := by
    decide +kernel
  refine ⟨by decide +kernel, by decide +kernel, r, ok, sql,
    renderWith_listsFlattened (by decide +kernel) rfl ?_ ok⟩
  intro n requested r written
  have mem : some r.sql ∈ [some "now()"] :=
    texts ▸ List.mem_map.mpr ⟨n, requested, by rw [written]; rfl⟩
  have text : r.sql = "now()" := Option.some.inj (List.mem_singleton.mp mem)
  simp [text]

end SqlCompose
