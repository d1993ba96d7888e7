import SqlCompose.Proofs.FirstError
import SqlCompose.Proofs.Writing

/-!
# Two renderings of one thing

The shape of a query is rendered apart from its text with data. This is the relation between the two
fragments: they fail with one error or not at all, and as far as they are asked to, they carry the
same arguments and the same pieces. What can tell the pieces apart, once the arguments are the same,
is an argument that the one writes as empty text and the other as a question mark.
-/

namespace SqlCompose

/-- A list that is written as the empty text. -/
def Value.isHidden (v : Value) : Bool :=
  v.isBlank && !v.isStructural

namespace Piece

theorem isBlank_congr {p : Piece} (h : ∀ v ∈ args [p], v.isHidden = false) (a b : Bool) :
    p.isBlank a = p.isBlank b := by
  cases p with
  | text s => rfl
  | arg v =>
    have hv : v.isHidden = false := h v (by simp)
    simp only [Value.isHidden, Bool.and_eq_false_iff, Bool.not_eq_eq_eq_not, Bool.not_false] at hv
    rcases hv with hv | hv <;> simp [isBlank, hv]

theorem all_isBlank_congr {ps : List Piece} (h : ∀ v ∈ args ps, v.isHidden = false) (a b : Bool) :
    ps.all (·.isBlank a) = ps.all (·.isBlank b) := by
  induction ps with
  | nil => rfl
  | cons p ps ih =>
    have hp : ∀ v ∈ args [p] ++ args ps, v.isHidden = false := by
      simpa [← args_append] using h
    rw [List.all_cons, List.all_cons, isBlank_congr (fun v hv => hp v (List.mem_append_left _ hv)),
      ih fun v hv => hp v (List.mem_append_right _ hv)]

end Piece

namespace Fragment

/-- The second fragment goes wrong as the first one does. If `counted`, it has the arguments of the
first one; if `same`, it has its pieces, unless there is an argument that one of them may hide. -/
inductive Mirrors (counted same : Prop) : Fragment → Fragment → Prop where
  | fail (e : RenderError) : Mirrors counted same (.fail e) (.fail e)
  | ok {ps qs : List Piece} (args : counted → Piece.args ps = Piece.args qs)
      (pieces : same → (∀ v ∈ Piece.args ps, v.isHidden = false) → ps = qs) :
      Mirrors counted same (.ok ps) (.ok qs)

namespace Mirrors

variable {counted same : Prop} {f f' g g' : Fragment}

theorem refl (f : Fragment) : Mirrors counted same f f := by
  cases f with
  | ok ps => exact .ok (fun _ => rfl) fun _ _ => rfl
  | fail e => exact .fail e

/-- Without demands only the errors count. -/
theorem of_error?_eq (h : f.error? = f'.error?) : Mirrors False False f f' := by
  cases f with
  | ok ps =>
    obtain ⟨qs, rfl⟩ := error?_eq_none.mp h.symm
    exact .ok False.elim False.elim
  | fail e =>
    obtain rfl := error?_eq_some.mp h.symm
    exact .fail e

theorem mono {counted' same' : Prop} (h : Mirrors counted same f f') (hc : counted' → counted)
    (hs : same' → same) : Mirrors counted' same' f f' := by
  cases h with
  | fail e => exact .fail e
  | ok args pieces => exact .ok (fun c => args (hc c)) fun s => pieces (hs s)

theorem append (hf : Mirrors counted same f f') (hg : Mirrors counted same g g') :
    Mirrors counted same (f ++ g) (f' ++ g') := by
  cases hf with
  | fail e => simpa using Mirrors.fail e
  | ok args pieces =>
    cases hg with
    | fail e => exact .fail e
    | ok args' pieces' =>
      refine .ok (fun c => ?_) fun s hidden => ?_
      · rw [Piece.args_append, Piece.args_append, args c, args' c]
      · simp only [Piece.args_append, List.mem_append] at hidden
        rw [pieces s fun v hv => hidden v (.inl hv), pieces' s fun v hv => hidden v (.inr hv)]

theorem parens (h : Mirrors counted same f f') :
    Mirrors counted same (.parens f) (.parens f') :=
  ((refl _).append h).append (refl _)

/-- What follows may depend on whether a fragment adds text. It is read off the fragment in two
ways, which only an argument that is hidden can tell apart. -/
theorem append_flagged {g : Bool → Bool → Fragment} (flag : Bool → Bool)
    (hf : Mirrors counted same f f')
    (hg : ∀ b, Mirrors counted same (g false b) (g true b))
    (any : ∀ a b, Mirrors counted False (g false a) (g true b)) :
    Mirrors counted same (f ++ g false (flag (f.isBlank false)))
      (f' ++ g true (flag (f'.isBlank true))) := by
  by_cases hsame : same ∧ ∃ ps, f = .ok ps ∧ ∀ v ∈ Piece.args ps, v.isHidden = false
  · obtain ⟨s, ps, rfl, hidden⟩ := hsame
    cases hf with
    | ok args pieces =>
      obtain rfl := pieces s hidden
      have flags : (Fragment.ok ps).isBlank false = (Fragment.ok ps).isBlank true :=
        Piece.all_isBlank_congr hidden false true
      rw [flags]
      exact (refl _).append (hg _)
  · cases hf with
    | fail e => simpa using Mirrors.fail e
    | @ok ps qs args pieces =>
      have rest :=
        any (flag ((Fragment.ok ps).isBlank false)) (flag ((Fragment.ok qs).isBlank true))
      generalize g false _ = l at rest ⊢
      generalize g true _ = r at rest ⊢
      cases rest with
      | fail e => exact .fail e
      | ok args' pieces' =>
        refine .ok (fun c => ?_) fun s hidden => ?_
        · rw [Piece.args_append, Piece.args_append, args c, args' c]
        · simp only [Piece.args_append, List.mem_append] at hidden
          exact absurd ⟨s, ps, rfl, fun v hv => hidden v (.inl hv)⟩ hsame

end Mirrors

end Fragment

end SqlCompose
