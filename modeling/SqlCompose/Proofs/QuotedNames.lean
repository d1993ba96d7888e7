import SqlCompose.Proofs.ColumnItems
import SqlCompose.Proofs.QuotedText
import SqlCompose.Proofs.TemplateTexts
import SqlCompose.Query.Call

/-!
# Reading names back

A dotted name is read segment by segment, a bare star or quoted text each. The main statement is
that names are read back from what is written for them, and that a column behind the alias of its
table is written in one way, whether it is one of a column list or compared with a key.
-/

namespace SqlCompose

/-! ## Names -/

namespace Dialect

variable (d : Dialect)

/-- The segment of a name that a text begins with, and the text behind it. -/
def readSegment : List Char → Option (List Char × List Char)
  | [] => none
  | c :: rest =>
    if c = '*' then some (['*'], rest)
    else if c = d.quote then Text.readQuoted d.quote none rest
    else none

/-- The segments of a dotted name. -/
def readName (text : List Char) : Option (List (List Char) × List Char) :=
  Text.readItems d.readSegment ['.'] text

/-- A name between quotes, whatever characters it has. -/
def quoted (name : List Char) : List Char :=
  d.quote :: name.flatMap (fun c => if c = d.quote then [c, c] else [c]) ++ [d.quote]

theorem readSegment_quoted (name : List Char) {behind : List Char}
    (ends : behind.head? ≠ some d.quote) :
    d.readSegment (d.quoted name ++ behind) = some (name, behind) := by
  have apart : d.quote ≠ '*' := by cases d <;> decide
  have one (c : Char) (rest : List Char) :
      Text.readQuoted d.quote none ((if c = d.quote then [c, c] else [c]) ++ rest) =
        (Text.readQuoted d.quote none rest).map (Text.ahead [c]) := by
    split
    · rename_i quote
      rw [quote]
      exact Text.readQuoted_doubled rest
    · rename_i other
      exact Text.readQuoted_plain other (by simp) rest
  have content := Text.readQuoted_flatMap one name ends
  rw [List.flatMap_singleton'] at content
  simpa [quoted, readSegment, apart] using content

theorem readSegment_identSegment (segment : List Char) {behind : List Char}
    (ends : behind.head? ≠ some d.quote) :
    d.readSegment (d.identSegment segment ++ behind) = some (segment, behind) := by
  unfold identSegment
  split
  · rename_i star
    rw [star]
    rfl
  · exact d.readSegment_quoted segment ends

/-- A name is read back as its segments, whatever stands behind it but a dot or a quote. -/
theorem readName_ident (name : String) {behind : List Char} (dot : behind.head? ≠ some '.')
    (quote : behind.head? ≠ some d.quote) :
    d.readName ((d.ident name).toList ++ behind) = some (name.toList.splitOn '.', behind) := by
  have apart : '.' ≠ d.quote := by cases d <;> decide
  have last : ¬ ['.'] <+: behind := by
    rintro ⟨more, rfl⟩
    exact dot rfl
  have one (segment text : List Char) (ends : text.head? ≠ some d.quote) :
      d.readSegment (d.identSegment segment ++ text) = some (id segment, text) :=
    d.readSegment_identSegment segment ends
  have segments := Text.readItems_intercalate (fun text => text.head? ≠ some d.quote)
    (List.cons_ne_nil '.' []) (by simpa using apart) one (List.splitOn_ne_nil '.' name.toList) quote
  rw [readName, ident, String.toList_ofList, identChars, segments,
    Text.readFurther_of_not_prefix last]
  simp [Text.ahead]

theorem ident_injective : Function.Injective d.ident := by
  intro a b same
  have read (name : String) := @readName_ident d name [] (by simp) (by simp)
  have segments := (read a).symm.trans (same ▸ read b)
  rw [Option.some.injEq, Prod.mk.injEq] at segments
  have joined := congrArg (List.intercalate ['.']) segments.1
  rwa [List.intercalate_splitOn, List.intercalate_splitOn, String.toList_inj] at joined

end Dialect

/-! ### Conditions on keys -/

theorem Fragment.join_ok {α : Type} (separator : String) (pieces : α → List Piece) (x : α)
    (xs : List α) :
    join separator ((x :: xs).map fun x => .ok (pieces x)) =
      .ok (pieces x ++ xs.flatMap fun x => .text separator :: pieces x) := by
  have behind : concat ((xs.map fun x => .ok (pieces x)).map (text separator ++ ·)) =
      .ok (xs.flatMap fun x => .text separator :: pieces x) := by
    induction xs with
    | nil => rfl
    | cons y xs ih =>
      rw [List.map_cons, List.map_cons, concat, ih]
      rfl
  rw [List.map_cons, join, behind]
  rfl

namespace Select

/-- The values of the template that matches an entity by key, each with the text behind it. -/
def keyParts (t : Table) (entity : ValueMap) : List Field → List (Value × String)
  | [] => []
  | f :: rest =>
    (.ident (t.aliasName ++ "." ++ f.column), " = ") ::
      (entity.get f.name, if rest.isEmpty then "" else " AND ") :: keyParts t entity rest

/-- The comparison of one field with its value. -/
def keyPieces (t : Table) (entity : ValueMap) (f : Field) : List Piece :=
  [.arg (.ident (t.aliasName ++ "." ++ f.column)), .text " = ", .arg (entity.get f.name)]

section

variable (t : Table) (entity : ValueMap)

theorem map_fst_keyParts (fields : List Field) :
    (keyParts t entity fields).map Prod.fst =
      fields.flatMap fun f => [.ident (t.aliasName ++ "." ++ f.column), entity.get f.name] := by
  induction fields with
  | nil => rfl
  | cons f rest ih => simp [keyParts, ih]

theorem snd_mem_keyParts (fields : List Field) :
    ∀ s ∈ (keyParts t entity fields).map Prod.snd, s ∈ ["", " = ", " AND "] := by
  induction fields with
  | nil => simp [keyParts]
  | cons f rest ih =>
    simp only [keyParts, List.map_cons, List.forall_mem_cons]
    refine ⟨by simp, ?_, ih⟩
    split <;> simp

theorem separable_keyParts (fields : List Field) :
    Template.Separable "" (keyParts t entity fields) where
  unescaped s hs := by
    have plain : ∀ s ∈ ["", " = ", " AND "], s.toList.getLast? ≠ some '\\' := by decide +kernel
    rcases List.mem_cons.mp (List.dropLast_subset _ hs) with rfl | hs
    · exact plain "" (by simp)
    · exact plain s (snd_mem_keyParts t entity fields s hs)
  bare s hs := by
    have bare : ∀ s ∈ ["", " = ", " AND "], s.toList.head?.any Template.extendsMark = false := by
      decide +kernel
    exact bare s (snd_mem_keyParts t entity fields s hs)

/-- The template that matches an entity by key is one of texts and values. -/
theorem toList_ofTexts_keyParts (first : String) (f : Field) (rest : List Field) :
    (Template.ofTexts first (keyParts t entity (f :: rest))).toList =
      Template.escaped first.toList ++
        (" AND ".intercalate ((f :: rest).map fun _ => "? = ?")).toList := by
  have equals : Template.escaped " = ".toList = " = ".toList := by decide +kernel
  induction rest generalizing first f with
  | nil =>
    rw [keyParts, keyParts, Template.toList_ofTexts_cons, Template.toList_ofTexts_cons,
      Template.toList_ofTexts_nil, equals]
    simp [Template.escaped]
  | cons g rest ih =>
    have connective : Template.escaped " AND ".toList = " AND ".toList := by decide +kernel
    rw [keyParts, Template.toList_ofTexts_cons, Template.toList_ofTexts_cons, equals,
      if_neg (by simp), ih, connective]
    simp [String.intercalate_cons_cons]

/-- What the template expands to: a comparison for each field, with `AND` between them. -/
theorem flatMap_keyParts (f : Field) (rest : List Field) :
    ((keyParts t entity (f :: rest)).flatMap fun (v, s) => .arg v :: Piece.ofText s) =
      keyPieces t entity f ++ rest.flatMap fun g => .text " AND " :: keyPieces t entity g := by
  induction rest generalizing f with
  | nil => rfl
  | cons g rest ih =>
    rw [List.flatMap_cons, List.cons_append (a := Piece.text " AND "), ← ih g]
    rfl

/-- The comparisons are written in every mode as `qualified` writes the columns. -/
theorem write_keyComparisons (d : Dialect) (names : Template.Names) (m : Mode) (f : Field)
    (rest : List Field) :
    (Template.expand names (" AND ".intercalate ((f :: rest).map fun _ => "? = ?"))
        ((f :: rest).flatMap fun f =>
          [.ident (t.aliasName ++ "." ++ f.column), entity.get f.name])).write d m =
      (Fragment.join " AND " ((f :: rest).map fun f =>
        .text (d.qualified t.aliasName f.column) ++ .text " = " ++
          .arg (entity.get f.name))).write d m := by
  have template : " AND ".intercalate ((f :: rest).map fun _ => "? = ?") =
      Template.ofTexts "" (keyParts t entity (f :: rest)) := by
    rw [← String.toList_inj, toList_ofTexts_keyParts]
    rfl
  rw [template, ← map_fst_keyParts,
    Template.expand_ofTexts names (separable_keyParts t entity (f :: rest)), flatMap_keyParts]
  -- Names among the arguments and text are the same once they are settled.
  let qualified (f : Field) : List Piece :=
    [.text (d.qualified t.aliasName f.column), .text " = ", .arg (entity.get f.name)]
  have settled (f : Field) :
      (keyPieces t entity f).map (Piece.settled d) = (qualified f).map (Piece.settled d) := by
    simp [keyPieces, qualified, Piece.settled, Value.isStructural, Value.literal, d.ident_dotted]
  have joined := Fragment.join_ok " AND " qualified f rest
  refine Eq.trans ?_ (congrArg (Fragment.write d m) joined.symm)
  simp only [Fragment.write]
  rw [← Piece.write_settled, ← Piece.write_settled d m (qualified f ++ _)]
  simp only [Piece.ofText, List.map_append, List.map_flatMap, List.map_cons, settled, if_true,
    List.nil_append]

/-- Matching an entity by key adds the comparisons of the key fields, in parentheses. -/
theorem wheres_whereKey {s : Select} (bound : s.table = some t) (keyed : t.keys ≠ []) :
    ∃ item, (s.whereKey entity).wheres = s.wheres ++ [item] ∧
      ∀ (q : Select) (target : Target) (m : Mode),
        (q.whereItem target item).write target.dialect m =
          (Fragment.parens (.join " AND " (t.keys.map fun f =>
            .text (target.dialect.qualified t.aliasName f.column) ++ .text " = " ++
              .arg (entity.get f.name)))).write target.dialect m := by
  obtain ⟨f, rest, keys⟩ := List.exists_cons_of_ne_nil keyed
  have nonempty : t.keys.isEmpty = false := by simp [keys]
  refine ⟨.cond ⟨.and, .template (" AND ".intercalate (t.keys.map fun _ => "? = ?"))
    (keyArguments t entity)⟩, ?_, fun q target m => ?_⟩
  · rw [whereKey, withTable, bound]
    dsimp only
    rw [nonempty]
    rfl
  · rw [whereItem, node, Node.fragment, Fragment.parens, Fragment.parens,
      Fragment.write_text_behind, Fragment.write_text_behind, Fragment.write_text_before,
      Fragment.write_text_before, keyArguments, keys, write_keyComparisons]

end

end Select

/-- Names are read back from what is written for them, so that no two names are written alike, and a
column behind the alias of its table is written as the name that matching by key makes of the
two. -/
theorem Dialect.ident_readsBack (d : Dialect) :
    (∀ (name : String) (behind : List Char), behind.head? ≠ some '.' →
      behind.head? ≠ some d.quote →
      ∃ segments, d.readName ((d.ident name).toList ++ behind) = some (segments, behind) ∧
        ['.'].intercalate segments = name.toList) ∧
    Function.Injective d.ident ∧
    (∀ a b, d.ident (a ++ "." ++ b) = d.ident a ++ "." ++ d.ident b) ∧
    ∀ (s : Select) (t : Table) (entity : ValueMap), s.table = some t → t.keys ≠ [] →
      ∃ item, (s.whereKey entity).wheres = s.wheres ++ [item] ∧
        ∀ (q : Select) (target : Target) (m : Mode), target.dialect = d →
          (q.whereItem target item).write d m =
            (Fragment.parens (.join " AND " (t.keys.map fun f =>
              .text (d.qualified t.aliasName f.column) ++ .text " = " ++
                .arg (entity.get f.name)))).write d m := by
  refine ⟨fun name behind dot quote => ?_, d.ident_injective, d.ident_dotted,
    fun s t entity bound keyed => ?_⟩
  · exact ⟨_, d.readName_ident name dot quote, List.intercalate_splitOn '.'⟩
  · obtain ⟨item, added, written⟩ := Select.wheres_whereKey t entity bound keyed
    refine ⟨item, added, fun q target m same => ?_⟩
    subst same
    exact written q target m

/-- Empty segments, stars and quotes inside a name, and a condition on a composite key whose alias
has a dot. -/
theorem Dialect.ident_readsBack_composite :
    let behind := "* = 1".toList
    let t : Table :=
      { name := "lines", aliasName := "l.x",
        fields := [⟨"shop", "shop", none, true, false⟩, ⟨"no", "n\x60o", none, true, false⟩] }
    let s : Select := { table := some t }
    behind.head? ≠ some '.' ∧ behind.head? ≠ some (Dialect.quote .mySql) ∧
      s.table = some t ∧ t.keys ≠ [] ∧
      (∃ segments, Dialect.readName .mySql
          ((Dialect.ident .mySql "we\x60ird..*.a*").toList ++ behind) = some (segments, behind) ∧
        ['.'].intercalate segments = "we\x60ird..*.a*".toList) ∧
      ∃ item, (s.whereKey [("shop", .int 1), ("no", .text "a")]).wheres = [item] ∧
        ((s.whereItem (Dialect.target .mySql .bind) item).write .mySql .bind).toOption.map
            Rendered.sql =
          some ("(\x60l\x60.\x60x\x60.\x60shop\x60 = ? AND " ++
            "\x60l\x60.\x60x\x60.\x60n\x60\x60o\x60 = ?)") := by
  intro behind t s
  have dot : behind.head? ≠ some '.' := by decide +kernel
  have quote : behind.head? ≠ some (Dialect.quote .mySql) := by decide +kernel
  have keyed : t.keys ≠ [] := by decide
  obtain ⟨item, added, written⟩ := (Dialect.ident_readsBack .mySql).2.2.2 s t
    [("shop", .int 1), ("no", .text "a")] rfl keyed
  refine ⟨dot, quote, rfl, keyed, (Dialect.ident_readsBack .mySql).1 _ _ dot quote, item, added, ?_⟩
  rw [written s _ _ rfl]
  decide +kernel

end SqlCompose
