import SqlCompose.Fragment

/-!
# The first error of a fragment

Fragments are put together so that the first failure wins. On their errors alone this is the choice
of the first one there is, and it turns every clause into a list of things that may go wrong.
-/

namespace SqlCompose

theorem Except.eq_ok_of_toOption {ε α : Type} {x : Except ε α} {a : α}
    (h : x.toOption = some a) : x = .ok a := by
  cases x with
  | error e => cases h
  | ok b => exact congrArg Except.ok (Option.some.inj h)

namespace Fragment

/-- Why there are no pieces. -/
def error? : Fragment → Option RenderError
  | .ok _ => none
  | .fail e => some e

@[simp] theorem error?_ok (ps : List Piece) : (ok ps).error? = none := rfl

@[simp] theorem error?_fail (e : RenderError) : (fail e).error? = some e := rfl

@[simp] theorem error?_empty : empty.error? = none := rfl

@[simp] theorem error?_text (s : String) : (text s).error? = none := rfl

@[simp] theorem error?_arg (v : Value) : (arg v).error? = none := rfl

theorem error?_eq_some {f : Fragment} {e : RenderError} : f.error? = some e ↔ f = fail e := by
  cases f <;> simp

theorem error?_eq_none {f : Fragment} : f.error? = none ↔ ∃ ps, f = ok ps := by
  cases f <;> simp

theorem write_eq_ok_iff {d : Dialect} {m : Mode} {f : Fragment} {r : Rendered} :
    f.write d m = .ok r ↔ ∃ ps, f = ok ps ∧ Piece.write d ps m = r := by
  cases f <;> simp [write]

theorem error?_eq_none_of_write {d : Dialect} {m : Mode} {f : Fragment} {r : Rendered}
    (h : f.write d m = .ok r) : f.error? = none := by
  obtain ⟨ps, rfl, -⟩ := write_eq_ok_iff.mp h
  rfl

theorem append_eq_ok_iff {f g : Fragment} {ps : List Piece} :
    f ++ g = .ok ps ↔ ∃ qs rs, f = .ok qs ∧ g = .ok rs ∧ qs ++ rs = ps := by
  cases f <;> cases g <;> simp

@[simp] theorem error?_append (f g : Fragment) : (f ++ g).error? = f.error?.or g.error? := by
  cases f <;> cases g <;> rfl

@[simp] theorem error?_parens (f : Fragment) : (parens f).error? = f.error? := by
  simp [parens]

theorem error?_concat (fs : List Fragment) : (concat fs).error? = fs.findSome? error? := by
  induction fs with
  | nil => rfl
  | cons f rest ih =>
    rw [concat, error?_append, ih, List.findSome?_cons]
    cases f.error? <;> rfl

theorem error?_join (separator : String) (fs : List Fragment) :
    (join separator fs).error? = fs.findSome? error? := by
  cases fs with
  | nil => rfl
  | cons f rest =>
    have behind : (rest.map (text separator ++ ·)).findSome? error? = rest.findSome? error? := by
      simp [List.findSome?_map, Function.comp_def]
    rw [join, error?_append, error?_concat, behind, List.findSome?_cons]
    cases f.error? <;> rfl

/-- Fragments that fail alike, if there are any, fail together as each of them does. -/
theorem error?_join_of_forall {separator : String} {fs : List Fragment}
    {error : Option RenderError} (hne : fs ≠ []) (h : ∀ f ∈ fs, f.error? = error) :
    (join separator fs).error? = error := by
  rw [error?_join]
  cases fs with
  | nil => exact absurd rfl hne
  | cons f rest =>
    rw [List.findSome?_cons, h f List.mem_cons_self]
    cases error with
    | some e => rfl
    | none =>
      exact List.findSome?_eq_none_iff.mpr fun g hg => h g (List.mem_cons_of_mem f hg)

/-! ## Errors of a kind -/

/-- Whatever goes wrong is of a kind. -/
def FailsOnly (P : RenderError → Prop) (f : Fragment) : Prop :=
  ∀ e, f.error? = some e → P e

variable {P : RenderError → Prop} {f g : Fragment}

theorem FailsOnly.of_error?_eq_none (h : f.error? = none) : f.FailsOnly P := by
  intro e he
  rw [h] at he
  cases he

theorem failsOnly_empty : empty.FailsOnly P := .of_error?_eq_none rfl

theorem failsOnly_text (s : String) : (text s).FailsOnly P := .of_error?_eq_none rfl

theorem failsOnly_arg (v : Value) : (arg v).FailsOnly P := .of_error?_eq_none rfl

theorem failsOnly_fail {e : RenderError} : (fail e).FailsOnly P ↔ P e := by
  simp [FailsOnly]

theorem FailsOnly.append (hf : f.FailsOnly P) (hg : g.FailsOnly P) : (f ++ g).FailsOnly P := by
  intro e he
  rw [error?_append] at he
  cases h : f.error? with
  | some e' => exact hf e (by simpa [h] using he)
  | none => exact hg e (by simpa [h] using he)

theorem FailsOnly.parens (hf : f.FailsOnly P) : (parens f).FailsOnly P := by
  intro e he
  exact hf e (by simpa using he)

theorem FailsOnly.concat {fs : List Fragment} (h : ∀ f ∈ fs, f.FailsOnly P) :
    (concat fs).FailsOnly P := by
  intro e he
  rw [error?_concat] at he
  obtain ⟨f, hf, hfe⟩ := List.exists_of_findSome?_eq_some he
  exact h f hf e hfe

theorem FailsOnly.join {separator : String} {fs : List Fragment}
    (h : ∀ f ∈ fs, f.FailsOnly P) : (join separator fs).FailsOnly P := by
  intro e he
  rw [error?_join] at he
  obtain ⟨f, hf, hfe⟩ := List.exists_of_findSome?_eq_some he
  exact h f hf e hfe

end Fragment

end SqlCompose
