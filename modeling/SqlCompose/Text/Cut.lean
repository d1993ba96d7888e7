/-!
# Cutting text at a byte limit

A text is cut at the last boundary of its characters that is not behind a number of UTF-8 bytes. The
boundary is sought backwards from there.
-/

namespace SqlCompose.Text

/-- The last boundary of characters at or before a byte offset, sought back byte by byte. There is
none if the search would have to go on past zero. -/
def lastBoundary? (s : String) : Nat → Option s.Pos
  | 0 => s.pos? ⟨0⟩
  | offset + 1 => (s.pos? ⟨offset + 1⟩).or (lastBoundary? s offset)

theorem pos?_eq_some_iff {s : String} {offset : Nat} {p : s.Pos} :
    s.pos? ⟨offset⟩ = some p ↔ p.offset.byteIdx = offset := by
  simp only [String.pos?, String.Slice.pos?, String.Pos.Raw.isValidForSlice_eq_true_iff,
    String.Pos.Raw.isValidForSlice_toSlice_iff, Option.map_eq_some_iff,
    Option.dite_none_right_eq_some, Option.some.injEq]
  constructor
  · rintro ⟨_, ⟨_, rfl⟩, rfl⟩
    rfl
  · rintro rfl
    exact ⟨p.toSlice, ⟨p.isValid, rfl⟩, rfl⟩

/-- A text begins with a boundary, so the search stops at zero at the latest. -/
theorem lastBoundary?_isSome (s : String) (offset : Nat) : (lastBoundary? s offset).isSome := by
  induction offset with
  | zero =>
    have start : s.pos? ⟨0⟩ = some s.startPos := pos?_eq_some_iff.2 rfl
    rw [lastBoundary?, start, Option.isSome_some]
  | succ offset ih => rw [lastBoundary?, Option.isSome_or, ih, Bool.or_true]

end SqlCompose.Text
