import SqlCompose.Proofs.DeletedRows
import SqlCompose.Proofs.KeyColumns

/-!
# The rows of the asked owners

The query for related rows asks for the keys of their owners in one list, or key by key where a key
has several columns. The main statement reads its whole WHERE clause as SQL does: a row is selected
just when its key columns equal one of the keys, it meets each condition of the scope, and it is not
marked as deleted.
-/

namespace SqlCompose

theorem Token.fragments_tiedBy (t : Target) (s : Select) (c : Connective)
    (parts : List (List Token)) :
    fragments t s (tiedBy c parts) = .join c.text (parts.map (fragments t s)) := by
  cases parts with
  | nil => rfl
  | cons ts rest =>
    have behind : fragments t s (rest.flatMap (.tie c :: ·)) =
        .concat ((rest.map (fragments t s)).map (.text c.text ++ ·)) := by
      induction rest with
      | nil => rfl
      | cons us rest ih => simp [Fragment.concat, ih, fragment, Fragment.append_assoc]
    rw [tiedBy, fragments_append, behind, List.map_cons, Fragment.join]

/-! ## Key comparisons as tokens -/

namespace JoinTree

/-- The comparison of a column of the related table with a value. -/
def comparison (column : String) (value : Value) : Node :=
  .template "?TableAlias.? = ?" [.ident column, value]

/-- The comparisons of several columns, as one condition. -/
def comparisons (columns : List String) (values : List Value) : Node :=
  .template (" AND ".intercalate (columns.map fun _ => "?TableAlias.? = ?"))
    ((columns.zip values).flatMap fun (c, v) => [.ident c, v])

end JoinTree

namespace Template

theorem scanFrom_cons {c : Char} (plain : c ≠ '\\') (m : Mark) (rest : List Char) :
    scanFrom m (c :: rest) =
      match m.extend? c with
      | some longer => scanFrom longer rest
      | none => m.items ++
          if c = '?' then scanFrom .bare rest else consChar c (scanFrom .none rest) := by
  rw [scanFrom.eq_def]
  dsimp only
  cases m.extend? c with
  | some longer => rfl
  | none => rw [if_neg plain]

/-- The items of one comparison. -/
def comparisonItems : List TemplateItem :=
  [.named "TableAlias".toList, .text ['.'], .next, .text " = ".toList, .next]

theorem scan_comparisons {α : Type} (x : α) (xs : List α) :
    scan (" AND ".intercalate ((x :: xs).map fun _ => "?TableAlias.? = ?")) =
      comparisonItems ++ xs.flatMap fun _ => .text " AND ".toList :: comparisonItems := by
  induction xs generalizing x with
  | nil =>
    have scanned : scan "?TableAlias.? = ?" = comparisonItems := by decide +kernel
    simpa using scanned
  | cons y xs ih =>
    have later := ih y
    rw [List.map_cons, scan] at later
    rw [List.map_cons, List.map_cons, String.intercalate_cons_cons, scan, String.toList_append,
      String.toList_append]
    generalize (" AND ".intercalate ("?TableAlias.? = ?" ::
      xs.map fun _ => "?TableAlias.? = ?")).toList = rest at later ⊢
    -- The last mark ends at the blank before the connective, whose text ends at the next mark.
    simp [scanFrom_cons, Mark.extend?, startsName, Mark.items, consChar, comparisonItems, later]

section

variable (names : Names) (template : String)

/-- What a comparison expands to. -/
def comparisonText (column : String) (value : Value) : Fragment :=
  (names "TableAlias").getD (.fail (.unknownPlaceholder "TableAlias")) ++
    (.text "." ++ (.arg (.ident column) ++ (.text " = " ++ .arg value)))

theorem expandItems_comparison (before after : List Value) (column : String) (value : Value)
    (items : List TemplateItem) :
    expandItems names template (before ++ .ident column :: value :: after) before.length
        (comparisonItems ++ items) =
      comparisonText names column value ++
        expandItems names template (before ++ .ident column :: value :: after)
          (before ++ [.ident column, value]).length items := by
  simp [comparisonItems, expandItems, argument, comparisonText, Fragment.append_assoc]

theorem expandItems_comparisons (before : List Value) (ps : List (String × Value)) :
    expandItems names template (before ++ ps.flatMap fun (c, v) => [.ident c, v]) before.length
        (ps.flatMap fun _ => .text " AND ".toList :: comparisonItems) =
      .concat ((ps.map fun (c, v) => comparisonText names c v).map (.text " AND " ++ ·)) := by
  induction ps generalizing before with
  | nil => simp [expandItems, Fragment.concat]
  | cons p ps ih =>
    obtain ⟨c, v⟩ := p
    have later := ih (before ++ [.ident c, v])
    rw [List.append_assoc] at later
    calc
      _ = .text " AND " ++ expandItems names template
          (before ++ .ident c :: v :: ps.flatMap fun (c, v) => [.ident c, v]) before.length
          (comparisonItems ++ ps.flatMap fun _ => .text " AND ".toList :: comparisonItems) := rfl
      _ = .text " AND " ++ (comparisonText names c v ++
          .concat ((ps.map fun (c, v) => comparisonText names c v).map (.text " AND " ++ ·))) := by
        rw [expandItems_comparison]
        exact congrArg (fun f => .text " AND " ++ (comparisonText names c v ++ f)) later
      _ = _ := by rw [List.map_cons, List.map_cons, Fragment.concat, Fragment.append_assoc]

/-- Several comparisons expand to what each of them does, with `AND` between them. -/
theorem expand_comparisons (ps : List (String × Value)) (nonempty : ps ≠ []) :
    expand names (" AND ".intercalate (ps.map fun _ => "?TableAlias.? = ?"))
        (ps.flatMap fun (c, v) => [.ident c, v]) =
      .join " AND " (ps.map fun (c, v) => comparisonText names c v) := by
  obtain ⟨⟨c, v⟩, rest, rfl⟩ := List.exists_cons_of_ne_nil nonempty
  rw [expand, scan_comparisons]
  generalize " AND ".intercalate _ = template
  have first := expandItems_comparison names template []
    (rest.flatMap fun (c, v) => [.ident c, v]) c v
    (rest.flatMap fun _ => .text " AND ".toList :: comparisonItems)
  rw [List.nil_append, List.nil_append] at first
  simp only [List.flatMap_cons, List.map_cons, Fragment.join]
  exact first.trans (congrArg _ (expandItems_comparisons names template [.ident c, v] rest))

end

end Template

namespace Select

variable (t : Target) (s : Select)

theorem node_comparison (column : String) (value : Value) :
    s.node t (JoinTree.comparison column value) =
      Template.comparisonText (s.names t.dialect) column value := by
  have one := Template.expand_comparisons (s.names t.dialect) [(column, value)] (by simp)
  rw [node, JoinTree.comparison, Node.fragment]
  simpa [Fragment.join, Fragment.concat] using one

theorem node_comparisons {columns : List String} {values : List Value}
    (nonempty : columns ≠ []) (same : values.length = columns.length) :
    s.node t (JoinTree.comparisons columns values) =
      .join " AND " ((columns.zip values).map fun p => s.node t (JoinTree.comparison p.1 p.2)) := by
  have templates : (columns.map fun _ => "?TableAlias.? = ?") =
      (columns.zip values).map fun _ => "?TableAlias.? = ?" := by
    rw [List.map_const', List.map_const', List.length_zip, same, Nat.min_self]
  have pairs : columns.zip values ≠ [] := by
    intro none
    have := congrArg List.length none
    simp only [List.length_zip, same, Nat.min_self, List.length_nil] at this
    exact nonempty (List.length_eq_zero_iff.mp this)
  simp only [node_comparison]
  rw [node, JoinTree.comparisons, Node.fragment, templates]
  exact Template.expand_comparisons _ _ pairs

/-- Conditions behind `OR` are in a row as they are between commas. -/
theorem whereItems_map_or {α : Type} (node : α → Node) (xs : List α) :
    s.whereItems t (xs.map fun x => .cond ⟨.or, node x⟩) =
      .join " OR " (xs.map fun x => .parens (s.node t (node x))) := by
  have behind (xs : List α) : s.tiedItems t (xs.map fun x => .cond ⟨.or, node x⟩) =
      .concat ((xs.map fun x => .parens (s.node t (node x))).map (.text " OR " ++ ·)) := by
    induction xs with
    | nil => simp [tiedItems, Fragment.concat]
    | cons x xs ih =>
      simp [tiedItems, Fragment.concat, ih, whereItem, Connective.text, WhereItem.connective]
  cases xs with
  | nil => simp [whereItems, Fragment.join]
  | cons x xs => simp [whereItems, Fragment.join, behind, whereItem]

end Select

namespace JoinTree

/-- Whether a column of the related table is among values. -/
def membership (column : String) (values : List Value) : Node :=
  .template "?TableAlias.? IN (?)" [.ident column, .list values]

/-- Whether the column of a junction table that points at the owner is among values. -/
def junctionMembership (through : Junction) (values : List Value) : Node :=
  .template "? IN (?)" [.ident (through.table ++ "." ++ through.baseColumn), .list values]

/-- The columns that carry an owner's key in the conditions: those of the related table, or that of
the junction table. -/
def comparedColumns (j : Join) : List String :=
  match through? j with
  | some through => [through.table ++ "." ++ through.baseColumn]
  | none => keyColumns j

/-- All values of keys in one list. -/
def listTokens (n : Node) : List Token :=
  [.opening, .operand (.condition [0] n), .closing]

/-- The comparisons of one key. -/
def comparisonTokens (columns : List String) (k : OwnerKey) : List Token :=
  Token.tiedBy .and ((columns.zip k.values).map fun p =>
    [.operand (.condition [0] (comparison p.1 p.2))])

/-- The condition on the keys, which is the first one of the clause. -/
def keyTokens (j : Join) (keys : List OwnerKey) : List Token :=
  match through? j, keyColumns j with
  | some through, _ => listTokens (junctionMembership through (keys.flatMap (·.values)))
  | none, [column] => listTokens (membership column (keys.flatMap (·.values)))
  | none, columns =>
    .opening :: (Token.tiedBy .or (keys.map fun k =>
      .opening :: (comparisonTokens columns k ++ [.closing])) ++ [.closing])

section

variable {j : Join} {keys : List OwnerKey} (t : Target) (s : Select)

/-- The tokens are those of the first condition, with the comparisons of keys apart. -/
theorem fragments_keyTokens (fields : comparedColumns j ≠ [])
    (complete : ∀ k ∈ keys, k.values.length = (comparedColumns j).length) :
    ∃ i, keyConditions j keys = [i] ∧
      Token.fragments t s (keyTokens j keys) = s.whereItem t i := by
  unfold comparedColumns at fields complete
  unfold keyTokens
  cases routed : through? j with
  | some through =>
    refine ⟨_, keyConditions_of_some routed, ?_⟩
    simp [listTokens, Token.fragment, Select.whereItem, Fragment.parens, junctionMembership,
      Fragment.append_assoc]
  | none =>
    rw [routed] at fields complete
    dsimp only at fields complete
    rw [keyConditions_of_none routed]
    unfold directConditions
    generalize keyColumns j = columns at fields complete
    rcases columns with _ | ⟨column, _ | ⟨next, rest⟩⟩
    · exact absurd rfl fields
    · refine ⟨_, rfl, ?_⟩
      simp [listTokens, Token.fragment, Select.whereItem, Fragment.parens, membership,
        Fragment.append_assoc]
    · refine ⟨_, rfl, ?_⟩
      have own : keys.map (fun k => Token.fragments t s
            (.opening :: (comparisonTokens (column :: next :: rest) k ++ [.closing]))) =
          keys.map fun k => .parens (s.node t (comparisons (column :: next :: rest) k.values)) := by
        refine List.map_congr_left fun k hk => ?_
        rw [s.node_comparisons t fields (complete k hk)]
        simp [comparisonTokens, Token.fragments_tiedBy, Token.fragment, Fragment.parens,
          Function.comp_def, Connective.text, Fragment.append_assoc]
      have row := s.whereItems_map_or t (fun k : OwnerKey =>
        comparisons (column :: next :: rest) k.values) keys
      have inside : Token.fragments t s (Token.tiedBy .or (keys.map fun k =>
          .opening :: (comparisonTokens (column :: next :: rest) k ++ [.closing]))) =
          s.whereItems t (keys.map fun k =>
            .cond ⟨.or, comparisons (column :: next :: rest) k.values⟩) := by
        rw [Token.fragments_tiedBy, List.map_map, row, ← own]
        rfl
      rw [Select.whereItem, Token.fragments_cons, Token.fragments_append, inside]
      simp [Token.fragment, Fragment.parens, Fragment.append_assoc, comparisons]

end

end JoinTree

/-! ## What the conditions come to -/

def Value.isList : Value → Bool
  | .list _ => true
  | _ => false

namespace JoinTree

/-- Key conditions come to what comparing the key columns of a row with values comes to: a list is
compared value by value. Values that are lists themselves are none to compare with. -/
structure Understands (equals : String → Value → Truth) (ρ : Operand → Truth) : Prop where
  comparison : ∀ column value, value.isList = false →
    ρ (.condition [0] (comparison column value)) = equals column value
  membership : ∀ column values, (∀ v ∈ values, v.isList = false) →
    ρ (.condition [0] (membership column values)) = .any (values.map (equals column))
  junctionMembership : ∀ through values, (∀ v ∈ values, v.isList = false) →
    ρ (.condition [0] (junctionMembership through values)) =
      .any (values.map (equals (through.table ++ "." ++ through.baseColumn)))

/-- Operands for a row: key conditions as its columns compare, and all else as `others` has it. -/
def answering (equals : String → Value → Truth) (others : Operand → Truth) : Operand → Truth
  | .condition [0] (.template source [.ident column, value]) =>
    if source = "?TableAlias.? = ?" then equals column value
    else match value with
      | .list values => .any (values.map (equals column))
      | _ => .unknown
  | o => others o

/-- Comparisons of key columns do not restrict what other operands come to. -/
theorem understands_answering (equals : String → Value → Truth) (others : Operand → Truth) :
    Understands equals (answering equals others) where
  comparison column value _ := by simp [answering, comparison]
  membership column values _ := by simp [answering, JoinTree.membership]
  junctionMembership through values _ := by simp [answering, JoinTree.junctionMembership]

/-- The key columns of a row equal a key. -/
def Matches (equals : String → Value → Truth) (columns : List String) (k : OwnerKey) : Prop :=
  ∀ p ∈ columns.zip k.values, equals p.1 p.2 = .yes

section

variable {equals : String → Value → Truth} {ρ : Operand → Truth} {j : Join} {keys : List OwnerKey}

theorem any_equals_iff {column : String} (single : ∀ k ∈ keys, k.values.length = 1) :
    Truth.any ((keys.flatMap (·.values)).map (equals column)) = .yes ↔
      ∃ k ∈ keys, Matches equals [column] k := by
  have own (k : OwnerKey) (hk : k ∈ keys) :
      (∃ v ∈ k.values, equals column v = .yes) ↔ Matches equals [column] k := by
    obtain ⟨v, one⟩ := List.length_eq_one_iff.mp (single k hk)
    simp [Matches, one]
  simp only [Truth.any_eq_yes, List.mem_map, List.mem_flatMap]
  constructor
  · rintro ⟨v, ⟨k, hk, hv⟩, equal⟩
    exact ⟨k, hk, (own k hk).mp ⟨v, hv, equal⟩⟩
  · rintro ⟨k, hk, matched⟩
    obtain ⟨v, hv, equal⟩ := (own k hk).mpr matched
    exact ⟨v, ⟨k, hk, hv⟩, equal⟩

theorem reads_listTokens (n : Node) :
    Reads ρ .factor (listTokens n) (ρ (.condition [0] n)) :=
  .parens (.ofTerm (.ofFactor (.operand _)))

/-- The condition on the keys is one factor, which lets the rows of the keys through. -/
theorem reads_keyTokens (understands : Understands equals ρ) (nonempty : keys ≠ [])
    (fields : comparedColumns j ≠ [])
    (complete : ∀ k ∈ keys, k.values.length = (comparedColumns j).length)
    (plain : ∀ k ∈ keys, ∀ v ∈ k.values, v.isList = false) :
    ∃ v, Reads ρ .factor (keyTokens j keys) v ∧
      (v = .yes ↔ ∃ k ∈ keys, Matches equals (comparedColumns j) k) := by
  have plainAll : ∀ v ∈ keys.flatMap (·.values), v.isList = false := by
    intro v hv
    obtain ⟨k, hk, hv⟩ := List.mem_flatMap.mp hv
    exact plain k hk v hv
  unfold keyTokens
  unfold comparedColumns at fields complete ⊢
  cases routed : through? j with
  | some through =>
    rw [routed] at complete
    refine ⟨_, reads_listTokens _, ?_⟩
    rw [understands.junctionMembership through _ plainAll]
    exact any_equals_iff complete
  | none =>
    rw [routed] at fields complete
    dsimp only at fields complete ⊢
    generalize keyColumns j = columns at fields complete
    rcases columns with _ | ⟨column, _ | ⟨next, rest⟩⟩
    · exact absurd rfl fields
    · refine ⟨_, reads_listTokens _, ?_⟩
      rw [understands.membership column _ plainAll]
      exact any_equals_iff complete
    · let columns := column :: next :: rest
      have own (k : OwnerKey) (hk : k ∈ keys) :
          Reads ρ .term (.opening :: (comparisonTokens columns k ++ [.closing]))
            (.all ((columns.zip k.values).map fun p => equals p.1 p.2)) := by
        have pairs : columns.zip k.values ≠ [] := by
          intro none
          have count := congrArg List.length none
          simp [columns, complete k hk] at count
        have compared : (columns.zip k.values).map (fun p => equals p.1 p.2) =
            (columns.zip k.values).map
              fun p => ρ (.condition [0] (comparison p.1 p.2)) := by
          refine List.map_congr_left fun p hp => ?_
          exact (understands.comparison p.1 p.2
            (plain k hk p.2 (List.of_mem_zip hp).2)).symm
        rw [compared]
        exact .ofFactor (.parens (.ofTerm (Token.reads_tiedBy_and pairs fun p _ => .operand _)))
      have matched (k : OwnerKey) :
          Truth.all ((columns.zip k.values).map fun p => equals p.1 p.2) = .yes ↔
            Matches equals columns k := by
        rw [Truth.all_eq_yes, List.forall_mem_map]
        rfl
      refine ⟨_, .parens (Token.reads_tiedBy_or nonempty own), ?_⟩
      simp only [Truth.any_eq_yes, List.mem_map, matched]
      rfl

end

/-! ## The whole clause -/

/-- The conditions of the query for related rows: on the keys, and of the scope. -/
def relatedConditions (j : Join) (keys : List OwnerKey) : List Token :=
  keyTokens j keys ++ WhereItem.tiedTokens [] 1 (j.on.map .cond)

/-- The WHERE clause of the query for related rows. -/
def relatedTokens (d : Dialect) (j : Join) (keys : List OwnerKey) : List Token :=
  match j.target.deletionMark? with
  | none => relatedConditions j keys
  | some mark =>
    (if j.on.isEmpty then keyTokens j keys
      else .opening :: (relatedConditions j keys ++ [.closing])) ++
      [.tie .and, .operand (.deletionTest (Query.deletionTest d j.target mark .hidden))]

section

variable {ρ : Operand → Truth} {on : List Condition}

/-- Conditions behind `AND` let the rows through that meet each of them. -/
theorem pending_scope (ands : ∀ c ∈ on, c.connective = .and) (position : Nat) {ts : List Token}
    {v : Truth} (before : Pending ρ ts ⟨.no, v⟩) :
    ∃ u, Pending ρ (ts ++ WhereItem.tiedTokens [] position (on.map .cond)) ⟨.no, u⟩ ∧
      (u = .yes ↔ v = .yes ∧
        ∀ i (h : i < on.length), ρ (.condition [position + i] on[i].node) = .yes) := by
  induction on generalizing position ts v with
  | nil => exact ⟨v, by simpa [WhereItem.tiedTokens] using before, by simp⟩
  | cons c rest ih =>
    obtain ⟨own, later⟩ := List.forall_mem_cons.mp ands
    have factor : Reads ρ .factor (WhereItem.tokens [position] (.cond c))
        (ρ (.condition [position] c.node)) := .parens (.ofTerm (.ofFactor (.operand _)))
    obtain ⟨u, pending, met⟩ := ih later (position + 1) (before.next .and factor)
    refine ⟨u, ?_, ?_⟩
    · simpa [WhereItem.tiedTokens, WhereItem.connective, own] using pending
    · have place (i : Nat) : position + 1 + i = position + (i + 1) := by omega
      rw [met, Truth.and_eq_yes, and_assoc]
      simp only [place]
      refine and_congr_right fun _ => ⟨?_, ?_⟩
      · rintro ⟨first, further⟩ i hi
        cases i with
        | zero => exact first
        | succ i => exact further i (Nat.lt_of_succ_lt_succ hi)
      · intro all
        exact ⟨all 0 (Nat.succ_pos _), fun i hi => all (i + 1) (Nat.succ_lt_succ hi)⟩

end

section

variable {equals : String → Value → Truth} {ρ : Operand → Truth} {j : Join} {keys : List OwnerKey}

/-- The whole clause lets the rows of the keys through that meet each condition of the scope and are
not deleted. -/
theorem reads_relatedTokens (understands : Understands equals ρ) (nonempty : keys ≠ [])
    (fields : comparedColumns j ≠ [])
    (complete : ∀ k ∈ keys, k.values.length = (comparedColumns j).length)
    (plain : ∀ k ∈ keys, ∀ v ∈ k.values, v.isList = false)
    (ands : ∀ c ∈ j.on, c.connective = .and) (d : Dialect) :
    ∃ v, Reads ρ .condition (relatedTokens d j keys) v ∧
      (v = .yes ↔ (∃ k ∈ keys, Matches equals (comparedColumns j) k) ∧
        (∀ i (h : i < j.on.length), ρ (.condition [i + 1] j.on[i].node) = .yes) ∧
        ∀ mark ∈ j.target.deletionMark?,
          ρ (.deletionTest (Query.deletionTest d j.target mark .hidden)) = .yes) := by
  obtain ⟨key, factor, matched⟩ := reads_keyTokens understands nonempty fields complete plain
  obtain ⟨u, pending, met⟩ := pending_scope ands 1 (Pending.first (.ofFactor factor))
  have conditions : Reads ρ .condition (relatedConditions j keys) u := pending.condition
  simp only [Nat.add_comm 1] at met
  unfold relatedTokens
  cases j.target.deletionMark? with
  | none => exact ⟨u, conditions, by simp [met, Frame.start, matched]⟩
  | some mark =>
    let test := Operand.deletionTest (Query.deletionTest d j.target mark .hidden)
    have guarded {ts : List Token} {v : Truth} (all : Reads ρ .factor ts v) :
        Reads ρ .condition (ts ++ [.tie .and, .operand test]) (v.and (ρ test)) :=
      .ofTerm (.and (.ofFactor all) (.operand test))
    -- One condition stands before the test as it is, and several in parentheses.
    cases alone : j.on.isEmpty with
    | true =>
      have none : j.on = [] := List.isEmpty_iff.mp alone
      refine ⟨_, guarded factor, ?_⟩
      simp [Truth.and_eq_yes, matched, none, test]
    | false =>
      refine ⟨_, guarded (.parens conditions), ?_⟩
      simp [Truth.and_eq_yes, met, Frame.start, matched, test, and_assoc]

end

end JoinTree

namespace Select

open JoinTree

variable {t : Target} {s : Select} {j : Join} {keys : List OwnerKey}

theorem fragments_relatedConditions (fields : comparedColumns j ≠ [])
    (complete : ∀ k ∈ keys, k.values.length = (comparedColumns j).length)
    (wheres : s.wheres = keyConditions j keys ++ j.on.map .cond) :
    Token.fragments t s (relatedConditions j keys) = s.whereItems t s.wheres := by
  obtain ⟨i, one, first⟩ := fragments_keyTokens t s fields complete
  rw [wheres, one, relatedConditions, Token.fragments_append, first,
    WhereItem.fragments_tiedTokens, List.singleton_append, whereItems]

/-- The clause of the query for related rows is written as its tokens are. -/
theorem write_relatedTokens (table : s.table = some j.target) (hidden : s.deleted = .hidden)
    (fields : comparedColumns j ≠ [])
    (complete : ∀ k ∈ keys, k.values.length = (comparedColumns j).length)
    (wheres : s.wheres = keyConditions j keys ++ j.on.map .cond) (d : Dialect) (m : Mode)
    (before after : Fragment) :
    (before ++ s.whereClause t ++ after).write d m =
      (before ++ (.text " WHERE " ++ Token.fragments t s (relatedTokens t.dialect j keys)) ++
        after).write d m := by
  obtain ⟨i, one, first⟩ := fragments_keyTokens t s fields complete
  have conditions := fragments_relatedConditions (t := t) fields complete wheres
  rw [one, List.singleton_append] at wheres
  unfold relatedTokens
  cases marked : j.target.deletionMark? with
  | none =>
    have untested : s.deletionTest? t.dialect = none := by
      simp [deletionTest?, table, marked]
    have written : s.whereClause t =
        .text " WHERE " ++ Token.fragments t s (relatedConditions j keys) := by
      rw [whereClause_of_untested untested, conditionClause, conditionTokens,
        WhereItem.fragments_rowTokens, if_neg (by simp [wheres]), conditions]
    rw [written]
  | some mark =>
    have tested : s.deletionTest? t.dialect =
        some (Query.deletionTest t.dialect j.target mark .hidden) := by
      simp [deletionTest?, table, hidden, marked, Query.deletionTest]
    have same : Token.fragments t s
          (s.guardedTokens (Query.deletionTest t.dialect j.target mark .hidden)) =
        Token.fragments t s ((if j.on.isEmpty then keyTokens j keys
          else .opening :: (relatedConditions j keys ++ [.closing])) ++
          [.tie .and, .operand
            (.deletionTest (Query.deletionTest t.dialect j.target mark .hidden))]) := by
      cases scope : j.on with
      | nil =>
        rw [scope, List.map_nil] at wheres
        simp [guardedTokens, wheres, WhereItem.fragments_tokens, first]
      | cons c rest =>
        rw [scope, List.map_cons] at wheres
        rw [wheres] at conditions
        simp [guardedTokens, wheres, WhereItem.fragments_rowTokens, conditions]
    rw [write_whereClause tested, same]

end Select

/-! ## The query for related rows -/

namespace JoinTree

variable {schema : Schema} {t : JoinTree} {keys : List OwnerKey} {q : Query}
  {columns : List String}

/-- The query does not ask for deleted rows. -/
theorem deleted_relatedQuery (built : t.relatedQuery schema keys = .ok (q, columns)) :
    q.select.deleted = .hidden := by
  obtain ⟨relations, calls, rfl, ⟨through, -, rfl, -⟩ | ⟨-, rfl, -⟩⟩ := relatedQuery_cases built
  · rw [junctionCalls]
    cases t.join.columns <;> rfl
  · unfold directCalls
    rcases keyColumns t.join with _ | ⟨c, _ | ⟨c', cs⟩⟩ <;> cases t.join.columns <;> rfl

/-- Which rows a query for related rows selects. -/
structure SelectsOwned (d : Dialect) (m : Mode) (form : Form) (j : Join) (keys : List OwnerKey)
    (q : Query) : Prop where
  /-- The tokens of the clause are what the query has more than one without conditions. -/
  rendered : ∃ before after : Fragment,
    q.render d m form = (before ++ (.text " WHERE " ++
      Token.fragments (d.target m) q.select (relatedTokens d j keys)) ++ after).write d m ∧
    (q.mapSelect fun s => s.withConditions [] .shown).render d m form =
      (before ++ after).write d m
  /-- The clause is true for a row whose key columns equal one of the keys, that meets each
  condition of the scope and is not deleted, and for no other. -/
  selected : ∀ equals ρ, Understands equals ρ →
    (Reads ρ .condition (relatedTokens d j keys) .yes ↔
      (∃ k ∈ keys, Matches equals (comparedColumns j) k) ∧
      (∀ i (h : i < j.on.length), ρ (.condition [i + 1] j.on[i].node) = .yes) ∧
      ∀ mark ∈ j.target.deletionMark?,
        ρ (.deletionTest (Query.deletionTest d j.target mark .hidden)) = .yes)

theorem relatedQuery_selectsOwned (built : t.relatedQuery schema keys = .ok (q, columns))
    (nonempty : keys ≠ []) (fields : comparedColumns t.join ≠ [])
    (complete : ∀ k ∈ keys, k.values.length = (comparedColumns t.join).length)
    (plain : ∀ k ∈ keys, ∀ v ∈ k.values, v.isList = false)
    (ands : ∀ c ∈ t.join.on, c.connective = .and) (d : Dialect) (m : Mode) (form : Form) :
    SelectsOwned d m form t.join keys q where
  rendered := by
    have related := isRelated_relatedQuery built
    obtain ⟨before, after, around⟩ := q.exists_around_whereClause (d.target m) form
    refine ⟨before, after, ?_, ?_⟩
    · have own := around q.select.wheres q.select.deleted
      have self : q.mapSelect (·.withConditions q.select.wheres q.select.deleted) = q := by
        cases q; rfl
      rw [self] at own
      rw [Query.render, own]
      exact Select.write_relatedTokens (t := d.target m) related.selects.table
        (deleted_relatedQuery built) fields complete (wheres_relatedQuery nonempty built) d m _ _
    · have none := around [] .shown
      rw [Query.render, none, Select.whereClause_none, Fragment.append_empty]
  selected := by
    intro equals ρ understands
    obtain ⟨v, reads, selected⟩ :=
      reads_relatedTokens understands nonempty fields complete plain ands d
    rw [reads.iff_eq, eq_comm, selected]

/-- The lines of orders, which belong to them by two columns. Lines of nothing are left out, and
lines that are gone are marked. -/
def openLines : JoinTree :=
  .node
    { relation := { name := "Lines", kind := .hasMany, target := 0
                    baseFields := ["shop", "no"], joinFields := ["shop", "order_no"] }
      base := default
      baseAlias := "order"
      target := { name := "lines", aliasName := "line"
                  fields := [{ name := "shop", column := "shop" },
                    { name := "order_no", column := "order_no" },
                    { name := "gone_at", column := "gone_at", marksDeletion := true }] }
      aliasName := "lines"
      path := ["Lines"]
      on := [⟨.and, .template "quantity > ?" [.int 0]⟩] }
    []

/-- A line of the second of two orders is selected. -/
theorem relatedQuery_openLines :
    let keys : List OwnerKey := [⟨"a 1", [.text "a", .int 1]⟩, ⟨"b 2", [.text "b", .int 2]⟩]
    let line : String → Value → Truth
      | "shop", .text s => if s = "b" then .yes else .no
      | "order_no", .int n => if n = 2 then .yes else .no
      | _, _ => .unknown
    ∃ q, openLines.relatedQuery {} keys = .ok (q, ["shop", "order_no"]) ∧
      (q.sql .postgres .rows).toOption =
        some ("SELECT \"line\".\"shop\", \"line\".\"order_no\", \"line\".\"gone_at\" " ++
          "FROM \"lines\" AS \"line\" WHERE (((\"line\".\"shop\" = 'a' AND " ++
          "\"line\".\"order_no\" = 1) OR (\"line\".\"shop\" = 'b' AND " ++
          "\"line\".\"order_no\" = 2)) AND (quantity > 0)) AND " ++
          "\"line\".\"gone_at\" IS NULL") ∧
      SelectsOwned .postgres .literal .rows openLines.join keys q ∧
      Reads (answering line fun _ => .yes) .condition (relatedTokens .postgres openLines.join keys)
        .yes := by
  intro keys line
  have asked : (openLines.relatedQuery {} keys).toOption.map (fun r =>
      (r.2, (r.1.sql .postgres .rows).toOption)) = some (["shop", "order_no"],
        some ("SELECT \"line\".\"shop\", \"line\".\"order_no\", \"line\".\"gone_at\" " ++
          "FROM \"lines\" AS \"line\" WHERE (((\"line\".\"shop\" = 'a' AND " ++
          "\"line\".\"order_no\" = 1) OR (\"line\".\"shop\" = 'b' AND " ++
          "\"line\".\"order_no\" = 2)) AND (quantity > 0)) AND " ++
          "\"line\".\"gone_at\" IS NULL")) := by
    decide +kernel
  obtain ⟨⟨q, columns⟩, built, rest⟩ := Option.map_eq_some_iff.mp asked
  obtain ⟨rfl, rendered⟩ := Prod.mk.inj rest
  have selects : SelectsOwned .postgres .literal .rows openLines.join keys q :=
    relatedQuery_selectsOwned (Except.eq_ok_of_toOption built) (by decide) (by decide) (by decide)
      (by decide) (by simp [openLines, JoinTree.join]) .postgres .literal .rows
  refine ⟨q, Except.eq_ok_of_toOption built, rendered, selects, ?_⟩
  refine (selects.selected line _ (understands_answering line _)).mpr ⟨?_, ?_, ?_⟩
  · refine ⟨⟨"b 2", [.text "b", .int 2]⟩, List.mem_cons_of_mem _ List.mem_cons_self, ?_⟩
    have own : ∀ p ∈ [("shop", Value.text "b"), ("order_no", Value.int 2)],
        line p.1 p.2 = .yes := by
      simp [line]
    exact own
  · exact fun i h => rfl
  · exact fun mark _ => rfl

end JoinTree

end SqlCompose
