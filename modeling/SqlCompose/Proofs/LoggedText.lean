import SqlCompose.Run.Session

/-!
# Logged text

SQL text is logged whole, or up to a greatest number of bytes. The main statement says that every
answered statement has its log entry, whatever its text and the greatest length, zero included: the
search for a boundary of characters ends before it passes zero, and what stands before the boundary
is the longest beginning of the text that fits.
-/

namespace SqlCompose

/-! ## Boundaries -/

namespace Text

variable {s : String} {limit : Nat} {p : s.Pos}

/-- The last of the boundaries that are not behind a byte offset. -/
structure IsLastBoundary (s : String) (limit : Nat) (p : s.Pos) : Prop where
  within : p.offset.byteIdx ≤ limit
  last : ∀ q : s.Pos, q.offset.byteIdx ≤ limit → q ≤ p

theorem isLastBoundary_of_eq (h : p.offset.byteIdx = limit) : IsLastBoundary s limit p where
  within := Nat.le_of_eq h
  last q within := by
    rw [String.Pos.le_iff, String.Pos.Raw.le_iff, h]
    exact within

/-- A step back passes over no boundary. -/
theorem IsLastBoundary.succ (h : IsLastBoundary s limit p) (none_here : s.pos? ⟨limit + 1⟩ = none) :
    IsLastBoundary s (limit + 1) p where
  within := Nat.le_succ_of_le h.within
  last q within := by
    have elsewhere : q.offset.byteIdx ≠ limit + 1 := by
      intro here
      rw [pos?_eq_some_iff.2 here] at none_here
      exact Option.some_ne_none q none_here
    exact h.last q (by omega)

theorem isLastBoundary_of_lastBoundary? (found : lastBoundary? s limit = some p) :
    IsLastBoundary s limit p := by
  induction limit with
  | zero => exact isLastBoundary_of_eq (pos?_eq_some_iff.1 found)
  | succ limit ih =>
    rw [lastBoundary?, Option.or_eq_some_iff] at found
    obtain here | ⟨none_here, before⟩ := found
    · exact isLastBoundary_of_eq (pos?_eq_some_iff.1 here)
    · exact (ih before).succ none_here

theorem exists_lastBoundary? (s : String) (limit : Nat) :
    ∃ stop, lastBoundary? s limit = some stop ∧ IsLastBoundary s limit stop := by
  obtain ⟨stop, found⟩ := Option.isSome_iff_exists.1 (lastBoundary?_isSome s limit)
  exact ⟨stop, found, isLastBoundary_of_lastBoundary? found⟩

/-! ## Beginnings -/

/-- The longest beginning of a text, in whole characters, whose bytes are within a limit. -/
structure IsLongestBeginning (limit : Nat) (text kept : String) : Prop where
  begins : kept.toList <+: text.toList
  fits : kept.utf8ByteSize ≤ limit
  longest : ∀ other : String, other.toList <+: text.toList → other.utf8ByteSize ≤ limit →
    other.toList <+: kept.toList

theorem byteIdx_offset_of_splits {t rest : String} (h : p.Splits t rest) :
    p.offset.byteIdx = t.utf8ByteSize := by
  rw [h.offset_eq_rawEndPos, String.byteIdx_rawEndPos]

/-- The beginnings of a text end at its boundaries, so the last boundary ends the longest one. -/
theorem IsLastBoundary.isLongestBeginning (h : IsLastBoundary s limit p) :
    IsLongestBeginning limit s (s.sliceTo p).copy where
  begins := by
    have parts : s.toList = (s.sliceTo p).copy.toList ++ (s.sliceFrom p).copy.toList := by
      rw [← String.toList_append, ← p.splits.eq_append]
    rw [parts]
    exact List.prefix_append _ _
  fits := byteIdx_offset_of_splits p.splits ▸ h.within
  longest other begins fits := by
    obtain ⟨rest, characters⟩ := begins
    have parts : s = other ++ String.ofList rest := by
      rw [← String.toList_inj, String.toList_append, String.toList_ofList, characters]
    -- the boundary behind the other beginning, which the limit allows
    have splits := String.Pos.splits_ofEqAppend parts
    have before := h.last _ (byteIdx_offset_of_splits splits ▸ fits)
    obtain ⟨further, longer, -⟩ := (splits.le_iff_exists_eq_append p.splits).1 before
    rw [longer, String.toList_append]
    exact List.prefix_append _ _

end Text

/-! ## Log entries -/

/-- How a text is logged under a greatest number of bytes. -/
inductive LoggedAs (text : String) : Option Nat → String → Prop where
  | unlimited : LoggedAs text none text
  | whole {limit : Nat} : text.utf8ByteSize ≤ limit → LoggedAs text (some limit) text
  | cut {limit : Nat} {kept : String} : limit < text.utf8ByteSize →
      Text.IsLongestBeginning limit text kept → LoggedAs text (some limit) (kept ++ "...")

theorem Config.loggedAs_of_truncate? {c : Config} {sql logged : String}
    (h : c.truncate? sql = some logged) : LoggedAs sql c.maxSqlLength logged := by
  rw [truncate?] at h
  cases greatest : c.maxSqlLength with
  | none =>
    obtain rfl : sql = logged := by simpa [greatest] using h
    exact .unlimited
  | some limit =>
    simp only [greatest] at h
    split at h
    · rename_i long
      obtain ⟨stop, found, rfl⟩ := Option.map_eq_some_iff.1 h
      exact .cut long (Text.isLastBoundary_of_lastBoundary? found).isLongestBeginning
    · rename_i short
      obtain rfl := Option.some.inj h
      exact .whole (Nat.le_of_not_lt short)

-- the second of the two bytes of a character stands at the limit
example : Config.truncate? { maxSqlLength := some 2 } "añbc" = some "a..." := by decide

/-- The text of the statement that is logged. -/
def Event.sql? : Event → Option String
  | .statement _ sql _ => some sql
  | .slowStatement sql _ => some sql
  | .failedStatement sql _ => some sql
  | .loading .. => none

namespace Session

theorem sql?_of_report? {s : Session} {sql : String} {size : Reply → Nat} {a : Answer} {e : Event}
    (h : s.report? sql size a = some e) : e.sql? = s.config.truncate? sql := by
  obtain ⟨logged, text, rfl⟩ := Option.map_eq_some_iff.1 h
  rw [text]
  cases a.result with
  | error => rfl
  | ok reply =>
    dsimp only
    split <;> rfl

/-- For every limit the search for a boundary ends without passing zero, and at the last boundary
within the limit. So every text can be logged: whole, or as its longest beginning within the
greatest length and three dots. Whatever the answer to the statement, there is a log entry with this
text, and the result is handed on. -/
theorem statement_loggedAs (s : Session) (sql : String) :
    (∀ limit, ∃ stop, Text.lastBoundary? sql limit = some stop ∧
      Text.IsLastBoundary sql limit stop) ∧
    ∃ logged, s.config.truncate? sql = some logged ∧
      LoggedAs sql s.config.maxSqlLength logged ∧
      ∀ size a, ∃ entry, s.report? sql size a = some entry ∧ entry.sql? = some logged ∧
        (s.statement sql size).respond (fun _ _ => some a) =
          ([.sent sql, .did (.log entry)], some a.result) := by
  refine ⟨Text.exists_lastBoundary? sql, ?_⟩
  obtain ⟨logged, text⟩ := Option.isSome_iff_exists.1 (s.config.truncate?_isSome sql)
  refine ⟨logged, text, Config.loggedAs_of_truncate? text, fun size a => ?_⟩
  have reported : s.report? sql size a = some (s.report sql size a) := (Option.some_get _).symm
  exact ⟨s.report sql size a, reported, (sql?_of_report? reported).trans text, rfl⟩

end Session

end SqlCompose
