/-!
# Calendar dates

Dates of the Gregorian calendar, extended backwards over the year 0, and the count of days since
1970-01-01. `Date.ofDay` finds the year from a linear estimate that is off by at most one.
-/

namespace SqlCompose

/-- A day of a month of a year. Months and days count from one. -/
structure Date where
  year : Int
  month : Nat
  day : Nat
deriving DecidableEq, Repr

namespace Date

def isLeapYear (y : Int) : Bool :=
  y % 4 == 0 && (y % 100 != 0 || y % 400 == 0)

/-- The lengths of the months of a year. -/
def monthLengths (y : Int) : List Nat :=
  [31, if isLeapYear y then 29 else 28, 31, 30, 31, 30, 31, 31, 30, 31, 30, 31]

/-- The first day of a year, counted from 1970-01-01. -/
def yearStart (y : Int) : Int :=
  365 * y + (y + 3) / 4 - (y + 99) / 100 + (y + 399) / 400 - 719528

/-- The year that holds a day. -/
def yearOf (day : Int) : Int :=
  let y := (day + 719528) * 400 / 146097
  if day < yearStart y then y - 1 else if yearStart (y + 1) ≤ day then y + 1 else y

/-- The month, from `month` on, and the day in it of the day `n` places after the first of
`month`. -/
def monthAndDay (month : Nat) (n : Nat) : List Nat → Nat × Nat
  | [] => (month, n + 1)
  | length :: rest =>
    if n < length then (month, n + 1) else monthAndDay (month + 1) (n - length) rest

/-- The date of a day counted from 1970-01-01. -/
def ofDay (day : Int) : Date :=
  let y := yearOf day
  let (month, dayOfMonth) := monthAndDay 1 (day - yearStart y).toNat (monthLengths y)
  ⟨y, month, dayOfMonth⟩

/-- The days of the months before one. -/
def daysBefore (month : Nat) (lengths : List Nat) : Nat :=
  (lengths.take (month - 1)).foldl (· + ·) 0

/-- The days since 1970-01-01. -/
def toDay (d : Date) : Int :=
  yearStart d.year + daysBefore d.month (monthLengths d.year) + d.day - 1

/-- Whether the month has that many days. -/
def IsValid (d : Date) : Prop :=
  1 ≤ d.month ∧ d.month ≤ 12 ∧ 1 ≤ d.day ∧ d.day ≤ (monthLengths d.year).getD (d.month - 1) 0

instance (d : Date) : Decidable d.IsValid := by unfold IsValid; infer_instance

/-- A day lies in the year found for it. -/
theorem yearStart_yearOf (day : Int) :
    yearStart (yearOf day) ≤ day ∧ day < yearStart (yearOf day + 1) := by
  unfold yearOf
  have hlow : (day + 719528) * 400 - 146096 ≤ (day + 719528) * 400 / 146097 * 146097 := by omega
  have hhigh : (day + 719528) * 400 / 146097 * 146097 ≤ (day + 719528) * 400 := by omega
  generalize (day + 719528) * 400 / 146097 = y at *
  dsimp only
  split
  · rw [Int.sub_add_cancel]
    unfold yearStart at *
    omega
  · split
    · unfold yearStart at *
      omega
    · omega

example : ofDay 0 = ⟨1970, 1, 1⟩ := by decide
example : ofDay (-719528) = ⟨0, 1, 1⟩ := by decide
example : ofDay 19782 = ⟨2024, 2, 29⟩ := by decide
example : (⟨2024, 12, 31⟩ : Date).toDay = 20088 := by decide

end Date

end SqlCompose
