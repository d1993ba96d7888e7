/-!
# Spans of code points

A character property beyond ASCII is a finite union of arithmetic progressions of code points.
A `Span` is one of them; a list of spans stands for the union.
-/

namespace SqlCompose.Text

/-- The code points `first, first + step, …` up to and including `last`. -/
structure Span where
  first : Nat
  last : Nat
  step : Nat
deriving DecidableEq, Repr

/-- Whether a code point lies on the span. -/
def Span.has (s : Span) (code : Nat) : Bool :=
  decide (s.first ≤ code) && decide (code ≤ s.last) && decide ((code - s.first) % s.step = 0)

/-- Whether a code point lies on one of the spans. -/
def Span.anyHas (spans : List Span) (code : Nat) : Bool :=
  spans.any (·.has code)

theorem Span.has_iff (s : Span) (code : Nat) :
    s.has code = true ↔
      s.first ≤ code ∧ code ≤ s.last ∧ (code - s.first) % s.step = 0 := by
  simp [Span.has, and_assoc]

end SqlCompose.Text
