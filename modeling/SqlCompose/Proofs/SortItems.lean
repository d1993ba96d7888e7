import Mathlib.Data.List.TakeWhile
import SqlCompose.Proofs.CountForm
import SqlCompose.Proofs.Groups
import SqlCompose.Proofs.QuotedNames

/-!
# Sorting by a text

A text that rows are sorted by is a name, or a name and a direction. The main statement is that it
adds one quoted name to the ORDER BY clause, with a direction behind it if there is one, and nothing
else to the query: neither another character outside quotes nor an argument.
-/

namespace SqlCompose

/-! ## Names and directions -/

/-- The directions of a sort, in letters of any case. -/
def IsDirection (direction : String) : Prop :=
  ∃ way ∈ ["ASC", "DESC"], ∃ nulls ∈ ["", " NULLS FIRST", " NULLS LAST"],
    String.ofList (direction.toList.map Char.toUpper) = way ++ nulls

/-- A text that is a name up to its first space, and behind it a direction between blanks. -/
structure IsDirected (item name direction : String) : Prop where
  parts : ∃ rest, item = name ++ " " ++ rest ∧ Text.trim rest.toList = direction.toList
  first : ' ' ∉ name.toList
  phrase : IsDirection direction

/-- The name that a text is sorted by, and what is written behind the name. -/
inductive IsSort (item : String) : String → String → Prop
  | directed {name direction : String} : IsDirected item name direction →
      IsSort item name (" " ++ direction)
  | name : (∀ name direction, ¬ IsDirected item name direction) → IsSort item item ""

theorem mem_directions_iff {direction : String} :
    String.ofList (direction.toList.map Char.toUpper) ∈ Node.directions ↔
      IsDirection direction := by
  have phrases : ∀ s ∈ Node.directions, ∃ way ∈ ["ASC", "DESC"],
      ∃ nulls ∈ ["", " NULLS FIRST", " NULLS LAST"], s = way ++ nulls := by
    decide +kernel
  have all : ∀ way ∈ ["ASC", "DESC"], ∀ nulls ∈ ["", " NULLS FIRST", " NULLS LAST"],
      way ++ nulls ∈ Node.directions := by
    decide +kernel
  constructor
  · exact phrases _
  · rintro ⟨way, hway, nulls, hnulls, same⟩
    exact same ▸ all way hway nulls hnulls

namespace Node

theorem ofOrder_of_isDirected {item name direction : String}
    (h : IsDirected item name direction) :
    ofOrder item = .template "? ?" [.ident name, .safe direction] := by
  obtain ⟨⟨rest, rfl, trimmed⟩, first, phrase⟩ := h
  have chars : (name ++ " " ++ rest).toList = name.toList ++ ' ' :: rest.toList := by simp
  have before : ∀ c ∈ name.toList, decide (c ≠ ' ') = true := by
    intro c hc
    exact decide_eq_true fun space => first (space ▸ hc)
  have taken : (name ++ " " ++ rest).toList.takeWhile (· ≠ ' ') = name.toList := by
    rw [chars, List.takeWhile_append_of_pos before]
    simp
  have dropped : (name ++ " " ++ rest).toList.dropWhile (· ≠ ' ') = ' ' :: rest.toList := by
    rw [chars, List.dropWhile_append_of_pos before]
    simp
  rw [ofOrder, taken, dropped]
  dsimp only
  rw [trimmed, if_pos (mem_directions_iff.mpr phrase), String.ofList_toList, String.ofList_toList]

theorem ofOrder_of_not_isDirected {item : String}
    (h : ∀ name direction, ¬ IsDirected item name direction) : ofOrder item = .ident item := by
  unfold ofOrder
  split
  · rfl
  · rename_i space rest dropped
    apply if_neg
    intro phrase
    obtain rfl : space = ' ' := by
      have stopped := List.head?_dropWhile_not (fun c => decide (c ≠ ' ')) item.toList
      rw [dropped] at stopped
      simpa using stopped
    have parts :
        item.toList.takeWhile (fun c => decide (c ≠ ' ')) ++ ' ' :: rest = item.toList := by
      rw [← dropped, List.takeWhile_append_dropWhile]
    refine h (String.ofList (item.toList.takeWhile (· ≠ ' '))) (String.ofList (Text.trim rest))
      ⟨⟨String.ofList rest, ?_, by simp⟩, ?_, mem_directions_iff.mp (by simpa using phrase)⟩
    · rw [← String.toList_inj]
      simpa using parts.symm
    · intro space
      rw [String.toList_ofList] at space
      simpa using List.mem_takeWhile_imp space

/-- What is written for a sort in the place of its pieces. -/
theorem settled_ofOrder (d : Dialect) {item name behind : String} (h : IsSort item name behind) :
    ∃ ps, (∀ names, (ofOrder item).fragment d names = .ok ps) ∧
      Piece.args (ps.map (Piece.settled d)) = [] ∧
      String.join (ps.map (Piece.literal d)) = d.ident name ++ behind := by
  cases h with
  | @directed name direction directed =>
    have scanned : Template.scan "? ?" = [.next, .text [' '], .next] := by decide +kernel
    refine ⟨[.arg (.ident name), .text " ", .arg (.safe direction)], fun names => ?_, rfl, ?_⟩
    · rw [ofOrder_of_isDirected directed, fragment, Template.expand, scanned]
      rfl
    · simp [Piece.literal, Value.literal]
  | name plain =>
    refine ⟨[.text (d.ident item)], fun names => ?_, rfl, ?_⟩
    · rw [ofOrder_of_not_isDirected plain]
      rfl
    · simp [Piece.literal]

end Node

/-! ## Outside quotes -/

theorem exists_isSort (item : String) : ∃ name behind, IsSort item name behind := by
  by_cases directed : ∃ name direction, IsDirected item name direction
  · obtain ⟨name, direction, directed⟩ := directed
    exact ⟨name, _, .directed directed⟩
  · simp only [not_exists] at directed
    exact ⟨item, "", .name directed⟩

theorem IsDirection.isWordChar {direction : String} (h : IsDirection direction) {c : Char}
    (hc : c ∈ direction.toList) : Spot.isWordChar c = true := by
  have letters : ∀ way ∈ ["ASC", "DESC"], ∀ nulls ∈ ["", " NULLS FIRST", " NULLS LAST"],
      (way ++ nulls).toList.all Spot.isWordChar = true := by
    decide +kernel
  obtain ⟨way, hway, nulls, hnulls, same⟩ := h
  have upper : Spot.isWordChar c.toUpper = true := by
    apply List.all_eq_true.mp (letters way hway nulls hnulls)
    rw [← same, String.toList_ofList]
    exact List.mem_map_of_mem hc
  -- The characters that are none of words have no other case.
  have fixed : ['\'', '"', '\x60', '-', '/', '*'].all (fun c => c.toUpper == c) = true := by
    decide
  by_contra other
  have listed : c ∈ ['\'', '"', '\x60', '-', '/', '*'] := by
    simpa only [Spot.isWordChar, decide_eq_true_eq, Decidable.not_not] using other
  rw [beq_iff_eq.mp (List.all_eq_true.mp fixed c listed)] at upper
  exact other upper

theorem Spot.isUnquoting_of_isWordChar {c : Char} (h : isWordChar c = true) :
    isUnquoting c = true := by
  simp only [isWordChar, isUnquoting, decide_eq_true_eq, List.mem_cons, not_or] at h ⊢
  exact ⟨h.1, h.2.1, h.2.2.1, List.not_mem_nil⟩

/-- What a sort is written as: one name that is read back, and behind it a direction or nothing. -/
structure Dialect.SortsBy (d : Dialect) (item name behind : String) : Prop where
  sort : IsSort item name behind
  readsBack : d.readName (d.ident name ++ behind).toList =
    some (name.toList.splitOn '.', behind.toList)
  /-- Of the name only the points and stars between quoted segments are outside quotes. -/
  outside : ∃ marks, Spot.bare d .code (d.ident name ++ behind).toList = marks ++ behind.toList ∧
    ∀ c ∈ marks, c = '*' ∨ c = '.'
  closed : Spot.read d .code (d.ident name ++ behind).toList = .code

/-- Behind the name of a sort stands nothing or a direction, which takes no quotes. -/
theorem IsSort.behind {item name behind : String} (h : IsSort item name behind) :
    behind = "" ∨
      behind.toList.head? = some ' ' ∧ ∀ c ∈ behind.toList, Spot.isWordChar c = true := by
  cases h with
  | directed directed =>
    refine .inr ⟨by simp, ?_⟩
    have space : Spot.isWordChar ' ' = true := rfl
    simpa [space] using fun c hc => directed.phrase.isWordChar hc
  | name => exact .inl rfl

theorem IsSort.sortsBy (d : Dialect) {item name behind : String} (h : IsSort item name behind) :
    d.SortsBy item name behind := by
  have segments := List.splitOn_ne_nil '.' name.toList
  have own : (d.ident name).toList =
      ['.'].intercalate ((name.toList.splitOn '.').map d.identSegment) := by
    rw [Dialect.ident, String.toList_ofList, Dialect.identChars]
  have ends : Spot.read d .code (d.ident name).toList = .code := by
    have read := @Spot.read_identSegments d none _ segments
    rw [own]
    exact read.trans (if_neg fun star => by simp at star)
  have marks : ∀ c ∈ Spot.bare d .code (d.ident name).toList, c = '*' ∨ c = '.' := by
    rw [own]
    exact Spot.bare_identSegments segments
  have quote : ' ' ≠ d.quote := by cases d <;> decide
  refine
    { sort := h
      readsBack := ?readsBack
      outside := ⟨_, ?outside, marks⟩
      closed := ?closed }
  case readsBack =>
    rw [String.toList_append]
    apply d.readName_ident name
    · rcases h.behind with rfl | ⟨space, -⟩
      · simp
      · rw [space]
        simp
    · rcases h.behind with rfl | ⟨space, -⟩
      · simp
      · rw [space]
        simpa using quote
  case outside =>
    have direction : Spot.bare d .code behind.toList = behind.toList := by
      rcases h.behind with rfl | ⟨-, word⟩
      · rfl
      · exact Spot.bare_eq_self rfl fun c hc => Spot.isUnquoting_of_isWordChar (word c hc)
    rw [String.toList_append, Spot.bare_append, ends, direction]
  case closed =>
    rw [String.toList_append, Spot.read_append, ends]
    rcases h.behind with rfl | ⟨space, word⟩
    · rfl
    · exact @Spot.read_word d none _ (List.ne_nil_of_mem (List.mem_of_head? space)) word

/-! ## What a sort adds to a query -/

namespace Piece

theorem run_append {σ : Type} (w : ArgumentWriter σ) (s : σ) (ps qs : List Piece) :
    w.run s (ps ++ qs) =
      ((w.run s ps).1 ++ (w.run (w.run s ps).2 qs).1, (w.run (w.run s ps).2 qs).2) := by
  induction ps generalizing s with
  | nil => simp [ArgumentWriter.run]
  | cons p ps ih =>
    cases p <;> simp only [List.cons_append, ArgumentWriter.run, ih, String.append_assoc]

/-- Pieces without arguments are written as their texts, and change nothing behind them. -/
theorem run_of_args_eq_nil {σ : Type} (w : ArgumentWriter σ) (d : Dialect) (s : σ) {ps : List Piece}
    (h : args ps = []) : w.run s ps = (String.join (ps.map (literal d)), s) := by
  induction ps with
  | nil => rfl
  | cons p ps ih =>
    cases p with
    | text t => rw [ArgumentWriter.run_text, ih h, List.map_cons, String.join_cons, literal]
    | arg v => cases h

theorem map_literal_settled (d : Dialect) (ps : List Piece) :
    (ps.map (settled d)).map (literal d) = ps.map (literal d) := by
  rw [List.map_map]
  exact List.map_congr_left fun p _ => literal_settled d p

theorem write_of_untied (d : Dialect) (m : Mode) {ps : List Piece}
    (h : args (ps.map (settled d)) = []) :
    write d ps m = ⟨String.join (ps.map (literal d)), []⟩ := by
  rw [← write_settled, write_eq_run, run_of_args_eq_nil _ d _ h, map_literal_settled]

/-- Names and trusted SQL among pieces are text in the middle of what is written around them. -/
theorem exists_write_insert (d : Dialect) (m : Mode) (before after : List Piece) {ps : List Piece}
    (h : args (ps.map (settled d)) = []) :
    ∃ a b, (write d (before ++ after) m).sql = a ++ b ∧
      write d (before ++ ps ++ after) m =
        ⟨a ++ String.join (ps.map (literal d)) ++ b, (write d (before ++ after) m).args⟩ := by
  rw [← write_settled, ← write_settled d m (before ++ ps ++ after), List.map_append,
    List.map_append, List.map_append, write_eq_run, write_eq_run, run_append, run_append,
    run_append, run_of_args_eq_nil _ d _ h, map_literal_settled]
  exact ⟨_, _, rfl, rfl⟩

end Piece

/-- Names and trusted SQL in the middle of a fragment are text more in it, and nothing else. -/
theorem Fragment.write_insert (d : Dialect) (m : Mode) (before after : Fragment) {ps : List Piece}
    (h : Piece.args (ps.map (Piece.settled d)) = []) :
    (∀ r, (before ++ after).write d m = .ok r → ∃ a b, r.sql = a ++ b ∧
      (before ++ .ok ps ++ after).write d m =
        .ok ⟨a ++ String.join (ps.map (Piece.literal d)) ++ b, r.args⟩) ∧
    ∀ e, (before ++ after).write d m = .error e →
      (before ++ .ok ps ++ after).write d m = .error e := by
  cases before with
  | fail e => simp [write]
  | ok bs =>
    cases after with
    | fail e => simp [write]
    | ok qs =>
      constructor
      · rintro r ⟨⟩
        obtain ⟨a, b, parts, inserted⟩ := Piece.exists_write_insert d m bs qs h
        exact ⟨a, b, parts, congrArg Except.ok inserted⟩
      · rintro e ⟨⟩

namespace Select

/-- The same SELECT in another order. -/
def withOrder (s : Select) (order : List Node) : Select :=
  { s with order }

theorem keywordList_snoc (t : Target) (s : Select) (keyword : String) (ns : List Node) (n : Node) :
    s.keywordList t keyword (ns ++ [n]) =
      s.keywordList t keyword ns ++ (.text (if ns = [] then keyword else ", ") ++ s.node t n) := by
  cases ns with
  | nil => simp [keywordList, nodes, Fragment.join, Fragment.concat]
  | cons first rest =>
    rw [keywordList, keywordList, nodes, List.map_append, List.map_singleton, Fragment.join_snoc]
    simp [nodes, Fragment.append_assoc]

/-- The order is written in one place, and nothing else depends on it. -/
theorem exists_around_order (t : Target) (s : Select) :
    ∃ before after, ∀ order, (s.withOrder order).fragment t .rows =
      before ++ s.keywordList t " ORDER BY " order ++ after := by
  refine ⟨.text "SELECT " ++ s.distinctClause t ++ s.selection t .rows ++ s.fromClause t ++
    s.joinClauses t ++ s.whereClause t ++ s.keywordList t " GROUP BY " s.group ++ s.havingClause t,
    s.limitClause ++ s.offsetClause ++ s.lockClause t, fun order => ?_⟩
  have conditions : (s.withOrder order).whereClause t = s.whereClause t :=
    whereClause_congr (fun _ => rfl) rfl rfl fun _ => rfl
  rw [fragment, conditions, tail]
  simp only [Fragment.append_assoc]
  rfl

end Select

/-- A query and the same query sorted by one more item, which is written as `sql`. -/
structure Query.GainsSort (d : Dialect) (fs : Features) (m : Mode) (sql : String) (q q' : Query) :
    Prop where
  /-- The item stands at the end of the ORDER BY clause, and nothing else is changed. -/
  clause : ∃ before after pieces,
    let t : Target := ⟨d, fs, decide (m = .shape)⟩
    let order := q.select.keywordList t " ORDER BY " q.select.order
    q.fragment t .rows = before ++ order ++ after ∧
      q'.fragment t .rows = before ++ (order ++
        (.text (if q.select.order = [] then " ORDER BY " else ", ") ++ .ok pieces)) ++ after ∧
      Piece.write d pieces m = ⟨sql, []⟩
  rows : ∀ r, q.renderWith d fs m .rows = .ok r → ∃ a b, r.sql = a ++ b ∧
    q'.renderWith d fs m .rows = .ok
      ⟨a ++ ((if q.select.order = [] then " ORDER BY " else ", ") ++ sql) ++ b, r.args⟩
  failed : ∀ e, q.renderWith d fs m .rows = .error e → q'.renderWith d fs m .rows = .error e
  count : q'.renderWith d fs m .count = q.renderWith d fs m .count

namespace Query

open Fragment

theorem exists_around_order (t : Target) (q : Query) :
    ∃ before after, ∀ order, (q.mapSelect (·.withOrder order)).fragment t .rows =
      before ++ q.select.keywordList t " ORDER BY " order ++ after := by
  obtain ⟨s, ctes, members⟩ := q
  cases error : s.error with
  | some e =>
    refine ⟨.fail (.build e), .empty, fun order => ?_⟩
    have broken : (s.withOrder order).error = some e := error
    rw [mapSelect, fragment_of_error t .rows ctes members broken]
    simp
  | none =>
    obtain ⟨before, after, inside⟩ := s.exists_around_order t
    obtain ⟨before', after', whole⟩ := (isPlace_assembled t ctes members).comp
      (isPlace_around before after)
    refine ⟨before', after', fun order => ?_⟩
    have unbroken : (s.withOrder order).error = none := error
    rw [mapSelect, fragment_rows_of_no_error t ctes members unbroken, inside, select, ← whole]

theorem fragment_count_withOrder (t : Target) (q : Query) (order : List Node) :
    (q.mapSelect (·.withOrder order)).fragment t .count = q.fragment t .count := by
  obtain ⟨s, ctes, members⟩ := q
  have conditions : (s.withOrder order).whereClause t = s.whereClause t :=
    Select.whereClause_congr (fun _ => rfl) rfl rfl fun _ => rfl
  have same : (s.withOrder order).fragment t .count = s.fragment t .count := by
    rw [Select.fragment, Select.fragment, conditions]
    rfl
  rw [mapSelect, fragment, fragment, same]
  rfl

/-- A query that is sorted by one more item without arguments. -/
theorem gainsSort (d : Dialect) (fs : Features) (m : Mode) (q : Query) {n : Node}
    {pieces : List Piece} (written : ∀ names, n.fragment d names = .ok pieces)
    (untied : Piece.args (pieces.map (Piece.settled d)) = []) :
    q.GainsSort d fs m (String.join (pieces.map (Piece.literal d)))
      (q.mapSelect fun s => s.withOrder (s.order ++ [n])) := by
  obtain ⟨before, after, around⟩ := q.exists_around_order ⟨d, fs, decide (m = .shape)⟩
  have own := around q.select.order
  have unchanged : q.mapSelect (·.withOrder q.select.order) = q := by cases q; rfl
  rw [unchanged] at own
  have gained := around (q.select.order ++ [n])
  rw [Select.keywordList_snoc, Select.node, written] at gained
  generalize between : (if q.select.order = [] then " ORDER BY " else ", ") = separator at gained
  have none : Piece.args ((Piece.text separator :: pieces).map (Piece.settled d)) = [] := untied
  have inserted := write_insert d m
    (before ++ q.select.keywordList ⟨d, fs, decide (m = .shape)⟩ " ORDER BY " q.select.order) after
    none
  have text : Fragment.ok (.text separator :: pieces) = .text separator ++ .ok pieces := rfl
  have same : (q.mapSelect fun s => s.withOrder (s.order ++ [n])) =
    q.mapSelect (·.withOrder (q.select.order ++ [n])) := by cases q; rfl
  rw [← own, text, append_assoc before, ← gained, ← same, List.map_cons, String.join_cons,
    Piece.literal] at inserted
  refine
    { clause := ⟨before, after, pieces, own, ?clause, ?item⟩
      rows := ?rows
      failed := inserted.2
      count := ?count }
  case clause =>
    rw [same, gained, between]
  case item =>
    exact Piece.write_of_untied d m untied
  case rows =>
    rw [between]
    exact inserted.1
  case count =>
    rw [renderWith, renderWith, same, fragment_count_withOrder]

/-- Sorting by a text adds one quoted name to the rows' order, with the direction that the text ends
in, if it ends in one. -/
theorem order_gainsSort (schema : Schema) (d : Dialect) (fs : Features) (m : Mode) (q : Query)
    (item : String) :
    ∃ name behind, d.SortsBy item name behind ∧
      q.GainsSort d fs m (d.ident name ++ behind) (q.call schema (.order [item])) := by
  obtain ⟨name, behind, sort⟩ := exists_isSort item
  obtain ⟨pieces, written, untied, text⟩ := Node.settled_ofOrder d sort
  have called : q.call schema (.order [item]) =
      q.mapSelect fun s => s.withOrder (s.order ++ [.ofOrder item]) := by
    simp [call, callSelect, Select.withOrder]
  refine ⟨name, behind, sort.sortsBy d, ?_⟩
  rw [called, ← text]
  exact q.gainsSort d fs m written untied

/-- What looks like more than a direction is part of the name. -/
example : ((ofCalls ⟨[]⟩ [.table ["t"], .order ["a.b  Desc nulls last\t", "n DESC; --"]]).sql
    .postgres .rows).toOption =
      some "SELECT * FROM \"t\" ORDER BY \"a\".\"b\" Desc nulls last, \"n DESC; --\"" := by
  decide +kernel

end Query

end SqlCompose
