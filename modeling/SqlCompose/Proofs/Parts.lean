import SqlCompose.Proofs.FirstError
import SqlCompose.Proofs.Places
import SqlCompose.Proofs.Writing

/-!
# Parts of a query

Queries and VALUES lists stand in other queries, as bodies of common table expressions and as
members of set operations, and those in others again. The main statement is that what is written for
such a part is what is written for it alone: only numbered placeholders count on from the arguments
before them.
-/

namespace SqlCompose

/-! ## Parts and places -/

inductive PartKind where
  | query
  | values

/-- What can stand in a query. -/
inductive Part : PartKind → Type where
  | query (q : Query) : Part .query
  | values (v : Values) : Part .values

namespace Part

variable {kind : PartKind}

def fragment (t : Target) : Part kind → Fragment
  | .query q => q.fragment t .rows
  | .values v => v.fragment t

/-- A part alone. -/
def render (d : Dialect) (m : Mode) (part : Part kind) : Except RenderError Rendered :=
  (part.fragment (d.target m)).write d m

/-- A part as the body of a common table expression. -/
def cte (name : String) : Part kind → Cte
  | .query q => .query name q
  | .values v => .values name v

/-- A query as a member of a set operation. -/
def member (operator : SetOperator) : Part .query → Member
  | .query q => .mk operator q

/-- What stands before a part because of what it is: a VALUES list follows its columns. -/
def heading (d : Dialect) : Part kind → Fragment
  | .query _ => .empty
  | .values v => .parens (v.columns d) ++ .text " AS " ++ .text "("

/-- A part and its heading. -/
def headed (t : Target) (part : Part kind) : Fragment :=
  part.heading t.dialect ++ part.fragment t

end Part

/-- A query without one of the parts that stand directly in it. -/
inductive Gap : PartKind → Type where
  | cte {kind : PartKind} (select : Select) (before : List Cte) (name : String)
      (after : List Cte) (members : List Member) : Gap kind
  | member (select : Select) (ctes : List Cte) (before : List Member) (operator : SetOperator)
      (after : List Member) : Gap .query

/-- The query with the missing part. -/
def Gap.fill {kind : PartKind} : Gap kind → Part kind → Query
  | .cte select before name after members, part =>
    .mk select (before ++ part.cte name :: after) members
  | .member select ctes before operator after, part =>
    .mk select ctes (before ++ part.member operator :: after)

/-- A query without one of its parts, at any depth. -/
inductive Place : PartKind → Type where
  | direct {kind : PartKind} (gap : Gap kind) : Place kind
  | within {kind : PartKind} (gap : Gap .query) (inner : Place kind) : Place kind

def Place.fill {kind : PartKind} : Place kind → Part kind → Query
  | .direct gap, part => gap.fill part
  | .within gap inner, part => gap.fill (.query (inner.fill part))

@[simp] theorem Place.fill_within {kind : PartKind} (gap : Gap .query) (inner : Place kind)
    (part : Part kind) :
    (Place.within gap inner).fill part = gap.fill (.query (inner.fill part)) := rfl

/-- Whether a query holds a part, directly or in one of its parts. -/
inductive Query.HasPart : {kind : PartKind} → Query → Part kind → Prop where
  | cte {kind : PartKind} {q : Query} {part : Part kind} {name : String} :
      part.cte name ∈ q.ctes → HasPart q part
  | member {q body : Query} {operator : SetOperator} :
      .mk operator body ∈ q.members → HasPart q (.query body)
  | trans {kind : PartKind} {q body : Query} {part : Part kind} :
      HasPart q (.query body) → HasPart body part → HasPart q part

theorem Gap.hasPart_fill {kind : PartKind} (gap : Gap kind) (part : Part kind) :
    (gap.fill part).HasPart part := by
  cases gap with
  | cte select before name after members =>
    exact .cte (List.mem_append_right before List.mem_cons_self)
  | member select ctes before operator after =>
    cases part with
    | query q => exact .member (List.mem_append_right before List.mem_cons_self)

theorem Place.fill_trans {kind : PartKind} (outer : Place .query) (inner : Place kind) :
    ∃ place : Place kind, ∀ part, place.fill part = outer.fill (.query (inner.fill part)) := by
  cases outer with
  | direct gap => exact ⟨.within gap inner, fun _ => rfl⟩
  | within gap outer =>
    obtain ⟨place, same⟩ := fill_trans outer inner
    refine ⟨.within gap place, fun part => ?_⟩
    rw [fill_within, fill_within, same]

/-- Each part of a query has its place in it. -/
theorem Query.hasPart_iff {kind : PartKind} {q : Query} {part : Part kind} :
    q.HasPart part ↔ ∃ place : Place kind, q = place.fill part := by
  constructor
  · intro h
    induction h with
    | @cte kind q part name mem =>
      obtain ⟨select, ctes, members⟩ := q
      obtain ⟨before, after, rfl⟩ := List.append_of_mem mem
      exact ⟨.direct (.cte select before name after members), rfl⟩
    | @member q body operator mem =>
      obtain ⟨select, ctes, members⟩ := q
      obtain ⟨before, after, rfl⟩ := List.append_of_mem mem
      exact ⟨.direct (.member select ctes before operator after), rfl⟩
    | trans _ _ outer inner =>
      obtain ⟨outer, rfl⟩ := outer
      obtain ⟨inner, rfl⟩ := inner
      obtain ⟨place, same⟩ := Place.fill_trans outer inner
      exact ⟨place, (same _).symm⟩
  · rintro ⟨place, rfl⟩
    induction place with
    | direct gap => exact gap.hasPart_fill part
    | within gap inner ih => exact .trans (gap.hasPart_fill _) ih

/-! ## What stands around a part -/

namespace Fragment

/-- In all fragments of a family stands one that varies, between others that do not. -/
def Surrounds {α : Type} (whole inner : α → Fragment) : Prop :=
  ∃ before after, ∀ a, whole a = before ++ inner a ++ after

variable {α : Type} {whole mid inner : α → Fragment}

theorem Surrounds.trans (h : Surrounds whole mid) (h' : Surrounds mid inner) :
    Surrounds whole inner := by
  obtain ⟨before, after, h⟩ := h
  obtain ⟨before', after', h'⟩ := h'
  refine ⟨before ++ before', after' ++ after, fun a => ?_⟩
  simp only [h, h', append_assoc]

theorem surrounds_around (before after : Fragment) (inner : α → Fragment) :
    Surrounds (fun a => before ++ inner a ++ after) inner :=
  ⟨before, after, fun _ => rfl⟩

theorem surrounds_of_fail (e : RenderError) (inner : α → Fragment) :
    Surrounds (fun _ => .fail e) inner :=
  ⟨.fail e, .empty, fun a => by simp⟩

theorem IsPlace.surrounds {place : Fragment → Fragment} (h : IsPlace place)
    (inner : α → Fragment) : Surrounds (fun a => place (inner a)) inner := by
  obtain ⟨before, after, h⟩ := h
  exact ⟨before, after, fun a => h (inner a)⟩

end Fragment

section

open Fragment

variable {kind : PartKind} (t : Target)

theorem Cte.surrounds (name : String) :
    Surrounds (fun part : Part kind => (part.cte name).fragment t) (Part.headed t) := by
  cases kind with
  | query =>
    refine ⟨.text (t.dialect.ident name ++ " AS ") ++ .text "(", .text ")", ?_⟩
    rintro ⟨q⟩
    simp [Part.cte, Part.headed, Part.heading, Part.fragment, Cte.fragment, parens, append_assoc]
  | values =>
    refine ⟨.text (t.dialect.ident name ++ " "), .text ")", ?_⟩
    rintro ⟨v⟩
    simp [Part.cte, Part.headed, Part.heading, Part.fragment, Cte.fragment, parens, append_assoc]

theorem furtherCtes_surrounds (before : List Cte) (name : String) (after : List Cte) :
    Surrounds (fun part : Part kind => furtherCtes t (before ++ part.cte name :: after))
      (Part.headed t) := by
  induction before with
  | nil =>
    exact (surrounds_around (.text ", ") (furtherCtes t after) _).trans (Cte.surrounds t name)
  | cons c rest ih =>
    refine Surrounds.trans ⟨.text ", " ++ c.fragment t, .empty, fun part => ?_⟩ ih
    simp only [append_empty, List.cons_append, furtherCtes]

theorem withClause_surrounds (before : List Cte) (name : String) (after : List Cte) :
    Surrounds (fun part : Part kind => withClause t (before ++ part.cte name :: after))
      (Part.headed t) := by
  cases before with
  | nil =>
    refine Surrounds.trans ⟨t.require .cte ++ .text "WITH ", furtherCtes t after ++ .text " ",
      fun part => ?_⟩ (Cte.surrounds t name)
    simp only [List.nil_append, withClause, append_assoc]
  | cons c rest =>
    refine Surrounds.trans ⟨t.require .cte ++ .text "WITH " ++ c.fragment t, .text " ",
      fun part => ?_⟩ (furtherCtes_surrounds t rest name after)
    simp only [List.cons_append, withClause]

theorem memberFragments_surrounds (before : List Member) (operator : SetOperator)
    (after : List Member) :
    Surrounds (fun part => memberFragments t (before ++ part.member operator :: after))
      (Part.headed t) := by
  induction before with
  | nil =>
    refine ⟨.text operator.text ++ .text "(", .text ")" ++ memberFragments t after, ?_⟩
    rintro ⟨q⟩
    simp [memberFragments, Part.member, Part.headed, Part.heading, Part.fragment, parens,
      append_assoc]
  | cons m rest ih =>
    obtain ⟨operator', q'⟩ := m
    refine Surrounds.trans ⟨.text operator'.text ++ .parens (q'.fragment t .rows), .empty,
      fun part => ?_⟩ ih
    simp only [append_empty, List.cons_append, memberFragments]

/-- A counting query around does not matter. -/
theorem Query.fragment_surrounds {form : Form} {s : Select} {ctes : Part kind → List Cte}
    {members : Part kind → List Member}
    (h : Surrounds (fun part => Query.assembled t (ctes part) (members part) (s.fragment t form))
      (Part.headed t)) :
    Surrounds (fun part => (Query.mk s (ctes part) (members part)).fragment t form)
      (Part.headed t) := by
  cases error : s.error with
  | some e =>
    simp only [Query.fragment_of_error t form _ _ error]
    exact surrounds_of_fail _ _
  | none =>
    simp only [Query.fragment_of_no_error t form _ _ error]
    by_cases wrapped : form = .count ∧ s.needsCountWrapper = true
    · simp only [if_pos wrapped]
      exact ((isPlace_countWrapper t).surrounds _).trans h
    · simpa only [if_neg wrapped] using h

theorem Gap.fragment_surrounds (form : Form) (gap : Gap kind) :
    Surrounds (fun part => (gap.fill part).fragment t form) (Part.headed t) := by
  cases gap with
  | cte select before name after members =>
    refine Query.fragment_surrounds t
      (Surrounds.trans ?_ (withClause_surrounds t before name after))
    cases members with
    | nil => exact ⟨.empty, select.fragment t form, fun part => by simp [Query.assembled]⟩
    | cons m rest =>
      refine ⟨.text "(", select.fragment t form ++ .text ")" ++ memberFragments t (m :: rest),
        fun part => ?_⟩
      simp only [Query.assembled, parens, append_assoc]
  | member select ctes before operator after =>
    refine Query.fragment_surrounds t
      (Surrounds.trans ?_ (memberFragments_surrounds t before operator after))
    refine ⟨.parens (withClause t ctes ++ select.fragment t form), .empty, fun part => ?_⟩
    rw [append_empty]
    cases before <;> rfl

/-- What is written around a part does not depend on the part, but for the columns of a VALUES
list. -/
theorem Place.fragment_surrounds (form : Form) (place : Place kind) :
    Surrounds (fun part => (place.fill part).fragment t form) (Part.headed t) := by
  induction place generalizing form with
  | direct gap => exact gap.fragment_surrounds t form
  | within gap inner ih =>
    have outer : Surrounds (fun part => ((Place.within gap inner).fill part).fragment t form)
        (fun part => (inner.fill part).fragment t .rows) := by
      obtain ⟨before, after, whole⟩ := gap.fragment_surrounds t form
      refine ⟨before, after, fun part => ?_⟩
      simpa [Part.headed, Part.heading, Part.fragment] using whole (.query (inner.fill part))
    exact outer.trans (ih .rows)

end

/-! ## Placeholders behind other arguments -/

/-- Texts with a placeholder between each two of them, counted on from `bound`. -/
def Dialect.filled (d : Dialect) (bound : Nat) (first : String) : List String → String
  | [] => first
  | next :: rest => first ++ d.placeholder (bound + 1) ++ d.filled (bound + 1) next rest

/-- Only the placeholders of one dialect have numbers. -/
theorem Dialect.filled_eq {d : Dialect} (unnumbered : d ≠ .postgres) (bound bound' : Nat)
    (first : String) (rest : List String) :
    d.filled bound first rest = d.filled bound' first rest := by
  induction rest generalizing bound bound' first with
  | nil => rfl
  | cons next rest ih =>
    have mark : d.placeholder (bound + 1) = d.placeholder (bound' + 1) := by
      cases d with
      | postgres => exact absurd rfl unnumbered
      | mySql => rfl
      | sqlite => rfl
    rw [filled, filled, mark, ih]

theorem Dialect.filled_append (d : Dialect) (bound : Nat) (before first : String)
    (rest : List String) :
    d.filled bound (before ++ first) rest = before ++ d.filled bound first rest := by
  cases rest with
  | nil => rfl
  | cons next rest => simp only [filled, String.append_assoc]

/-- Numbered pieces are fixed texts with placeholders between them. -/
theorem Piece.exists_filled (d : Dialect) (ps : List Piece) :
    ∃ first rest, rest.length = (args ps).length ∧
      ∀ bound, (number d bound ps).sql = d.filled bound first rest := by
  induction ps with
  | nil => exact ⟨"", [], rfl, fun _ => rfl⟩
  | cons p ps ih =>
    obtain ⟨first, rest, count, same⟩ := ih
    cases p with
    | text s =>
      refine ⟨s ++ first, rest, count, fun bound => ?_⟩
      rw [number, Dialect.filled_append, same]
    | arg v =>
      refine ⟨"", first :: rest, congrArg (· + 1) count, fun bound => ?_⟩
      simp only [number, Dialect.filled, same, String.empty_append]

/-- `part` is what is written for a part of `whole` alone, and `before` what stands before it there:
in `whole` it has the text `inside`. -/
structure Rendered.Holds (d : Dialect) (m : Mode) (whole before part : Rendered) (inside : String)
    (after : Rendered) : Prop where
  sql : whole.sql = before.sql ++ inside ++ after.sql
  args : whole.args = before.args ++ part.args ++ after.args
  same : m ≠ .bind ∨ d ≠ .postgres → inside = part.sql
  /-- Placeholders count on from the arguments before the part. -/
  counted : ∃ first rest, rest.length = part.args.length ∧
    part.sql = d.filled 0 first rest ∧ inside = d.filled before.args.length first rest

theorem Piece.holds_write (d : Dialect) (m : Mode) (before ps after : List Piece) :
    ∃ inside behind, Rendered.Holds d m (write d (before ++ ps ++ after) m) (write d before m)
      (write d ps m) inside behind := by
  -- Without placeholders the texts are put together piece by piece.
  have joined (f : Piece → String) :
      String.join ((before ++ ps ++ after).map f) =
        String.join (before.map f) ++ String.join (ps.map f) ++ String.join (after.map f) := by
    simp only [List.map_append, String.join_append]
  cases m with
  | literal =>
    exact ⟨_, write d after .literal, joined _, rfl, fun _ => rfl, _, [], rfl, rfl, rfl⟩
  | shape =>
    exact ⟨_, write d after .shape, joined _, rfl, fun _ => rfl, _, [], rfl, rfl, rfl⟩
  | bind =>
    simp only [write, List.flatMap_append, number_append]
    generalize before.flatMap (leaves d) = bs
    generalize ps.flatMap (leaves d) = ps
    generalize after.flatMap (leaves d) = cs
    obtain ⟨first, rest, count, filled⟩ := exists_filled d ps
    refine ⟨d.filled (args bs).length first rest,
      number d ((args bs).length + (args ps).length) cs, ?_, ?_, ?_, ?_⟩
    · simp [filled]
    · simp
    · intro h
      have unnumbered : d ≠ .postgres := h.resolve_left fun other => other rfl
      rw [filled, Dialect.filled_eq unnumbered]
    · exact ⟨first, rest, by simpa using count, filled 0, by simp⟩

/-! ## Parts alone -/

namespace Query

variable {kind : PartKind}

/-- Around a part of a query stands what does not depend on it, but for the columns of a VALUES
list. If the whole query is rendered, then so is the part alone, and the query has its text, with
placeholders counted on, and its arguments in one piece. -/
theorem render_fill (place : Place kind) (d : Dialect) (m : Mode) (form : Form) :
    ∃ before after : Fragment, ∀ part : Part kind,
      (place.fill part).fragment (d.target m) form =
        before ++ part.heading d ++ part.fragment (d.target m) ++ after ∧
      ∀ whole, (place.fill part).render d m form = .ok whole →
        ∃ opening alone inside behind, (before ++ part.heading d).write d m = .ok opening ∧
          part.render d m = .ok alone ∧ whole.Holds d m opening alone inside behind := by
  obtain ⟨before, after, surrounds⟩ := place.fragment_surrounds (d.target m) form
  refine ⟨before, after, fun part => ?_⟩
  have parts : (place.fill part).fragment (d.target m) form =
      before ++ part.heading d ++ part.fragment (d.target m) ++ after := by
    have whole := surrounds part
    rwa [Part.headed, ← Fragment.append_assoc] at whole
  refine ⟨parts, fun whole rendered => ?_⟩
  rw [render, parts] at rendered
  cases ok : before ++ part.heading d ++ part.fragment (d.target m) ++ after with
  | fail e =>
    rw [ok] at rendered
    cases rendered
  | ok pieces =>
    rw [ok] at rendered
    obtain ⟨qs, as, first, _, rfl⟩ := Fragment.append_eq_ok_iff.mp ok
    obtain ⟨bs, ps, opening, own, rfl⟩ := Fragment.append_eq_ok_iff.mp first
    obtain ⟨inside, behind, holds⟩ := Piece.holds_write d m bs ps as
    cases rendered
    refine ⟨Piece.write d bs m, Piece.write d ps m, inside, behind, ?_, ?_, holds⟩
    · rw [opening, Fragment.write]
    · rw [Part.render, own, Fragment.write]

/-- A place of rows in the second member of a query, with an argument before it and behind it. -/
def behindOld : Place .values :=
  let condition (text : String) (bound : Value) : WhereItem :=
    .cond ⟨.and, .template text [bound]⟩
  .within
    (.member { tables := [.ident "people"], wheres := [condition "age > ?" (.int 30)] } [] []
      .unionAll [])
    (.direct (.cte { tables := [.ident "ages"], wheres := [condition "n < ?" (.int 7)] } [] "ages"
      [] []))

/-- Placeholders of rows behind one argument. -/
theorem render_fill_behindOld :
    let part : Part .values := .values { source := .ok (.dynamic ["n"] [.int 5] [[.int 6]]) }
    ((behindOld.fill part).render .postgres .bind .rows).toOption.map (·.sql) =
      some ("(SELECT * FROM \"people\" WHERE (age > $1)) UNION ALL (WITH \"ages\" (\"n\") AS " ++
        "(VALUES ($2), ($3)) SELECT * FROM \"ages\" WHERE (n < $4))") ∧
    (part.render .postgres .bind).toOption.map (·.sql) = some "VALUES ($1), ($2)" ∧
    ∃ whole opening alone inside behind,
      (behindOld.fill part).render .postgres .bind .rows = .ok whole ∧
      part.render .postgres .bind = .ok alone ∧
      whole.Holds .postgres .bind opening alone inside behind := by
  intro part
  have shown : ((behindOld.fill part).render .postgres .bind .rows).toOption.map (·.sql) =
      some ("(SELECT * FROM \"people\" WHERE (age > $1)) UNION ALL (WITH \"ages\" (\"n\") AS " ++
        "(VALUES ($2), ($3)) SELECT * FROM \"ages\" WHERE (n < $4))") := by
    decide +kernel
  refine ⟨shown, by decide +kernel, ?_⟩
  obtain ⟨before, after, fills⟩ := render_fill behindOld .postgres .bind .rows
  cases rendered : (behindOld.fill part).render .postgres .bind .rows with
  | error e =>
    rw [rendered] at shown
    cases shown
  | ok whole =>
    obtain ⟨opening, alone, inside, behind, _, own, holds⟩ := (fills part).2 whole rendered
    exact ⟨whole, opening, alone, inside, behind, rfl, own, holds⟩

end Query

end SqlCompose
