import SqlCompose.Query.Render

/-!
# The place of a SELECT in its query

Common table expressions stand before the first SELECT of a query and the other members behind it,
and all of it may stand in a counting query. What is written there does not depend on the SELECT.
-/

namespace SqlCompose

namespace Fragment

/-- A place among other fragments. -/
def IsPlace (place : Fragment → Fragment) : Prop :=
  ∃ before after, ∀ f, place f = before ++ f ++ after

theorem isPlace_around (before after : Fragment) : IsPlace (before ++ · ++ after) :=
  ⟨before, after, fun _ => rfl⟩

variable {outer place : Fragment → Fragment}

theorem IsPlace.comp (ho : IsPlace outer) (hp : IsPlace place) :
    IsPlace fun f => outer (place f) := by
  obtain ⟨before, after, ho⟩ := ho
  obtain ⟨before', after', hp⟩ := hp
  refine ⟨before ++ before', after' ++ after, ?_⟩
  intro f
  simp only [ho, hp, append_assoc]

theorem isPlace_countWrapper (t : Target) : IsPlace (countWrapper t) := by
  unfold countWrapper
  split
  · refine ⟨.text "WITH _count_wrapper AS " ++ .text "(",
      .text ")" ++ .text " SELECT " ++ rowCount ++ .text " FROM _count_wrapper", ?_⟩
    intro f
    simp only [parens, append_assoc]
  · refine ⟨.text "SELECT " ++ rowCount ++ .text " FROM " ++ .text "(",
      .text ")" ++ .text " AS _count_wrapper", ?_⟩
    intro f
    simp only [parens, append_assoc]

end Fragment

namespace Query

open Fragment

/-- The query around its first SELECT. -/
def assembled (t : Target) (ctes : List Cte) (members : List Member) (first : Fragment) :
    Fragment :=
  match members with
  | [] => withClause t ctes ++ first
  | _ => .parens (withClause t ctes ++ first) ++ memberFragments t members

theorem isPlace_assembled (t : Target) (ctes : List Cte) (members : List Member) :
    IsPlace (assembled t ctes members) := by
  cases members with
  | nil =>
    refine ⟨withClause t ctes, .empty, ?_⟩
    intro f
    simp [assembled]
  | cons m rest =>
    refine ⟨.text "(" ++ withClause t ctes, .text ")" ++ memberFragments t (m :: rest), ?_⟩
    intro f
    simp [assembled, parens, append_assoc]

variable {s : Select} (t : Target) (form : Form) (ctes : List Cte) (members : List Member)

theorem fragment_of_error {e : BuildError} (h : s.error = some e) :
    (mk s ctes members).fragment t form = .fail (.build e) := by
  rw [fragment, h]

theorem fragment_of_no_error (h : s.error = none) :
    (mk s ctes members).fragment t form =
      if form = .count ∧ s.needsCountWrapper = true then
        countWrapper t (assembled t ctes members (s.fragment t form))
      else assembled t ctes members (s.fragment t form) := by
  rw [fragment, h]
  cases members <;> rfl

theorem fragment_rows_of_no_error (h : s.error = none) :
    (mk s ctes members).fragment t .rows = assembled t ctes members (s.fragment t .rows) := by
  rw [fragment_of_no_error t .rows ctes members h]
  simp

end Query

end SqlCompose
