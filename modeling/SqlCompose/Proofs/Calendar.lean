import SqlCompose.Calendar.Date

/-!
# Days of dates

A valid date is the date of its day, and every day has one.
-/

namespace SqlCompose.Date

/-! ## Years -/

theorem yearStart_mono {a b : Int} (h : a ≤ b) : yearStart a ≤ yearStart b := by
  unfold yearStart
  omega

/-- The years do not overlap. -/
theorem yearOf_eq {y day : Int} (start : yearStart y ≤ day) (stop : day < yearStart (y + 1)) :
    yearOf day = y := by
  obtain ⟨begins, ends⟩ := yearStart_yearOf day
  have early : ¬ yearOf day < y := fun before => by
    have := yearStart_mono (show yearOf day + 1 ≤ y by omega)
    omega
  have late : ¬ y < yearOf day := fun after => by
    have := yearStart_mono (show y + 1 ≤ yearOf day by omega)
    omega
  omega

/-- A year is as long as its months. -/
theorem yearStart_succ (y : Int) :
    yearStart (y + 1) = yearStart y + daysBefore 13 (monthLengths y) := by
  have leap : isLeapYear y = true ↔ y % 4 = 0 ∧ (y % 100 ≠ 0 ∨ y % 400 = 0) := by
    simp [isLeapYear]
  unfold yearStart monthLengths
  split
  · rename_i long
    rw [leap] at long
    simp only [daysBefore, List.take_succ_cons, List.take_nil, List.foldl_cons, List.foldl_nil]
    omega
  · rename_i short
    rw [leap] at short
    simp only [daysBefore, List.take_succ_cons, List.take_nil, List.foldl_cons, List.foldl_nil]
    omega

/-! ## Months -/

@[simp] theorem daysBefore_one (lengths : List Nat) : daysBefore 1 lengths = 0 := rfl

theorem daysBefore_cons (first month : Nat) (rest : List Nat) :
    daysBefore (month + 2) (first :: rest) = first + daysBefore (month + 1) rest := by
  simp only [daysBefore, Nat.add_sub_cancel, Nat.reduceSubDiff, List.take_succ_cons,
    List.foldl_cons, Nat.zero_add]
  rw [← Nat.add_zero first, List.foldl_assoc, Nat.add_zero]

/-- A day of the month at a place lies behind the months before it. -/
theorem monthAndDay_daysBefore {lengths : List Nat} {i length n : Nat} (month : Nat)
    (found : lengths[i]? = some length) (within : n < length) :
    monthAndDay month (daysBefore (i + 1) lengths + n) lengths = (month + i, n + 1) := by
  induction lengths generalizing i month with
  | nil => cases found
  | cons first rest ih =>
    cases i with
    | zero =>
      obtain rfl : first = length := by simpa using found
      rw [Nat.zero_add, daysBefore_one, Nat.zero_add, monthAndDay, if_pos within]
      rfl
    | succ i =>
      have later := ih (month + 1) (by simpa using found)
      have beyond : ¬ first + daysBefore (i + 1) rest + n < first := by omega
      have behind : first + daysBefore (i + 1) rest + n - first = daysBefore (i + 1) rest + n := by
        omega
      rw [daysBefore_cons, monthAndDay, if_neg beyond, behind, later]
      congr 1
      omega

theorem daysBefore_add_le {lengths : List Nat} {i length : Nat}
    (found : lengths[i]? = some length) :
    daysBefore (i + 1) lengths + length ≤ daysBefore (lengths.length + 1) lengths := by
  induction lengths generalizing i with
  | nil => cases found
  | cons first rest ih =>
    rw [List.length_cons, daysBefore_cons]
    cases i with
    | zero =>
      obtain rfl : first = length := by simpa using found
      rw [Nat.zero_add, daysBefore_one]
      omega
    | succ i =>
      have later := ih (by simpa using found)
      rw [daysBefore_cons]
      omega

/-- A valid date is the date of its day. -/
theorem ofDay_toDay {d : Date} (h : d.IsValid) : ofDay d.toDay = d := by
  obtain ⟨year, month, day⟩ := d
  obtain ⟨firstMonth, lastMonth, firstDay, lastDay⟩ := h
  obtain ⟨i, rfl⟩ : ∃ i, month = i + 1 := ⟨month - 1, (Nat.sub_add_cancel firstMonth).symm⟩
  dsimp only at *
  have twelve : (monthLengths year).length = 12 := rfl
  obtain ⟨length, found⟩ : ∃ length, (monthLengths year)[i]? = some length :=
    ⟨_, List.getElem?_eq_getElem (show i < (monthLengths year).length by omega)⟩
  rw [Nat.add_sub_cancel, List.getD_eq_getElem?_getD, found, Option.getD_some] at lastDay
  have whole : daysBefore (i + 1) (monthLengths year) + length ≤
      daysBefore 13 (monthLengths year) := daysBefore_add_le found
  have next := yearStart_succ year
  have place : (⟨year, i + 1, day⟩ : Date).toDay =
      yearStart year + daysBefore (i + 1) (monthLengths year) + (day - 1 : Nat) := by
    rw [toDay]
    dsimp only
    omega
  have own : yearOf (⟨year, i + 1, day⟩ : Date).toDay = year := by
    apply yearOf_eq <;> omega
  have offset : ((⟨year, i + 1, day⟩ : Date).toDay - yearStart year).toNat =
      daysBefore (i + 1) (monthLengths year) + (day - 1) := by
    omega
  rw [ofDay]
  simp only [own, offset, monthAndDay_daysBefore 1 found (show day - 1 < length by omega)]
  congr 1 <;> omega

/-! ## Days -/

/-- A day of a year lies in one of its months. -/
theorem exists_daysBefore_add {lengths : List Nat} {n : Nat}
    (h : n < daysBefore (lengths.length + 1) lengths) :
    ∃ i length k, lengths[i]? = some length ∧ k < length ∧ n = daysBefore (i + 1) lengths + k := by
  induction lengths generalizing n with
  | nil => exact absurd h (Nat.not_lt_zero n)
  | cons first rest ih =>
    by_cases here : n < first
    · exact ⟨0, first, n, rfl, here, (Nat.zero_add n).symm⟩
    · rw [List.length_cons, daysBefore_cons] at h
      obtain ⟨i, length, k, found, within, split⟩ := ih (n := n - first) (by omega)
      refine ⟨i + 1, length, k, by simpa using found, within, ?_⟩
      rw [daysBefore_cons]
      omega

/-- The date of a day is valid, and the day is its own. -/
theorem isValid_ofDay (day : Int) : (ofDay day).IsValid ∧ (ofDay day).toDay = day := by
  obtain ⟨start, stop⟩ := yearStart_yearOf day
  rw [yearStart_succ] at stop
  rw [ofDay]
  generalize yearOf day = y at *
  have inside : (day - yearStart y).toNat < daysBefore 13 (monthLengths y) := by omega
  obtain ⟨i, length, k, found, within, split⟩ :=
    @exists_daysBefore_add (monthLengths y) _ inside
  have month : i < 12 := (List.getElem?_eq_some_iff.mp found).1
  dsimp only
  rw [split, monthAndDay_daysBefore 1 found within]
  constructor
  · refine ⟨by dsimp only; omega, by dsimp only; omega, by dsimp only; omega, ?_⟩
    rw [Nat.add_sub_cancel_left, List.getD_eq_getElem?_getD, found]
    exact within
  · rw [toDay, Nat.add_comm 1 i]
    dsimp only
    omega

end SqlCompose.Date
