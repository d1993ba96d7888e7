import SqlCompose.Proofs.Calendar
import SqlCompose.Proofs.TextReaders

/-!
# Timestamps in text

A `Stamp` is the text of a date and a time with every field at its full width, as RFC 3339 reads
them and as they are written. The main statement says which of the texts that spell a timestamp are
the one that is written for it.
-/

namespace SqlCompose

namespace Timestamp

open TextReader

/-! ## Stamps -/

/-- The fields of a date and a time, and what stands between the two. -/
structure Stamp where
  year : List Char
  month : List Char
  day : List Char
  separator : Char
  hour : List Char
  minute : List Char
  second : List Char

namespace Stamp

def time (x : Stamp) : List Char :=
  x.hour ++ ':' :: x.minute ++ ':' :: x.second

def text (x : Stamp) : List Char :=
  x.year ++ '-' :: x.month ++ '-' :: x.day ++ x.separator :: x.time

/-- Every field consists of digits and has its full width. -/
structure IsFull (x : Stamp) : Prop where
  year : AreDigits x.year ∧ x.year.length = 4
  month : AreDigits x.month ∧ x.month.length = 2
  day : AreDigits x.day ∧ x.day.length = 2
  hour : AreDigits x.hour ∧ x.hour.length = 2
  minute : AreDigits x.minute ∧ x.minute.length = 2
  second : AreDigits x.second ∧ x.second.length = 2

/-- What a clock shows that reads as the stamp. -/
def clock (x : Stamp) (nanoseconds : Nat) : Clock where
  date := ⟨(Nat.ofDigitChars 10 x.year 0 : Nat), Nat.ofDigitChars 10 x.month 0,
    Nat.ofDigitChars 10 x.day 0⟩
  hour := Nat.ofDigitChars 10 x.hour 0
  minute := Nat.ofDigitChars 10 x.minute 0
  second := Nat.ofDigitChars 10 x.second 0
  nanoseconds := nanoseconds

theorem length_text {x : Stamp} (h : x.IsFull) : x.text.length = 19 := by
  simp [text, time, h.year.2, h.month.2, h.day.2, h.hour.2, h.minute.2, h.second.2]

end Stamp

/-- The fields of a time of day lie in their ranges. -/
def Clock.IsTime (c : Clock) : Prop :=
  c.hour ≤ 23 ∧ c.minute ≤ 59 ∧ c.second ≤ 60

/-! ## Reading -/

theorem strictClock_eq_some {s rest : List Char} {c : Clock}
    (h : strictClock s = some (c, rest)) :
    ∃ x places n, s = Stamp.text x ++ places ++ rest ∧ x.IsFull ∧ IsFraction places n ∧
      c = x.clock n ∧ c.IsTime := by
  obtain ⟨year, _, readYear, h⟩ := bind_eq_some.mp h
  obtain ⟨_, _, hyphen, h⟩ := bind_eq_some.mp h
  obtain ⟨month, _, readMonth, h⟩ := bind_eq_some.mp h
  obtain ⟨_, _, hyphen', h⟩ := bind_eq_some.mp h
  obtain ⟨day, _, readDay, h⟩ := bind_eq_some.mp h
  obtain ⟨separator, _, separated, h⟩ := bind_eq_some.mp h
  obtain ⟨⟨hour, minute, second, nanoseconds⟩, _, readTime, h⟩ := bind_eq_some.mp h
  obtain ⟨rfl, rfl⟩ := pure_eq_some.mp h
  obtain ⟨hour', _, readHour, h⟩ := bind_eq_some.mp readTime
  obtain ⟨_, _, colon, h⟩ := bind_eq_some.mp h
  obtain ⟨minute', _, readMinute, h⟩ := bind_eq_some.mp h
  obtain ⟨_, _, colon', h⟩ := bind_eq_some.mp h
  obtain ⟨second', _, readSecond, h⟩ := bind_eq_some.mp h
  obtain ⟨nanoseconds', _, readFraction, h⟩ := bind_eq_some.mp h
  obtain ⟨same, rfl⟩ := pure_eq_some.mp h
  cases same
  obtain ⟨readHour, -, hourBound⟩ := within_eq_some.mp readHour
  obtain ⟨readMinute, -, minuteBound⟩ := within_eq_some.mp readMinute
  obtain ⟨readSecond, -, secondBound⟩ := within_eq_some.mp readSecond
  obtain ⟨years, rfl, yearDigits, yearWidth, rfl⟩ := number_self_eq_some readYear
  obtain rfl := char_eq_some.mp hyphen
  obtain ⟨months, rfl, monthDigits, monthWidth, rfl⟩ :=
    number_self_eq_some (within_eq_some.mp readMonth).1
  obtain rfl := char_eq_some.mp hyphen'
  obtain ⟨days, rfl, dayDigits, dayWidth, rfl⟩ :=
    number_self_eq_some (within_eq_some.mp readDay).1
  obtain ⟨-, rfl⟩ := oneOf_eq_some.mp separated
  obtain ⟨hours, rfl, hourDigits, hourWidth, rfl⟩ := number_self_eq_some readHour
  obtain rfl := char_eq_some.mp colon
  obtain ⟨minutes, rfl, minuteDigits, minuteWidth, rfl⟩ := number_self_eq_some readMinute
  obtain rfl := char_eq_some.mp colon'
  obtain ⟨seconds, rfl, secondDigits, secondWidth, rfl⟩ := number_self_eq_some readSecond
  obtain ⟨places, rfl, fraction⟩ := fraction_eq_some readFraction
  refine ⟨⟨years, months, days, separator, hours, minutes, seconds⟩, places, _, ?_,
    ⟨⟨yearDigits, yearWidth⟩, ⟨monthDigits, monthWidth⟩, ⟨dayDigits, dayWidth⟩,
      ⟨hourDigits, hourWidth⟩, ⟨minuteDigits, minuteWidth⟩, ⟨secondDigits, secondWidth⟩⟩,
    fraction, rfl, hourBound, minuteBound, secondBound⟩
  simp [Stamp.text, Stamp.time]

/-- What RFC 3339 reads is a stamp, a fraction and a zone. -/
theorem readStrict?_eq_some {s : List Char} {t : Timestamp} (h : readStrict? s = some t) :
    ∃ x places n zone offset, s = Stamp.text x ++ places ++ zone ∧ x.IsFull ∧
      IsFraction places n ∧ IsZone zone offset ∧ (x.clock n).IsTime ∧
      ofClock? (x.clock n) offset = some t := by
  obtain ⟨⟨c, offset⟩, read, shown⟩ := Option.bind_eq_some_iff.mp h
  dsimp only at shown
  split at shown
  · obtain ⟨c', _, readClock, read⟩ := bind_eq_some.mp (whole_eq_some.mp read)
    obtain ⟨offset', _, readZone, read⟩ := bind_eq_some.mp read
    obtain ⟨same, rfl⟩ := pure_eq_some.mp read
    cases same
    obtain ⟨x, places, n, rfl, full, fraction, rfl, time⟩ := strictClock_eq_some readClock
    obtain ⟨zone, rfl, isZone⟩ := zone_eq_some readZone
    exact ⟨x, places, n, zone, offset, by simp, full, fraction, isZone, time, shown⟩
  · cases shown

/-! ## Writing -/

/-- The parts of the point in time that a clock shows in universal time. -/
theorem parts_of_ofClock? {c : Clock} {t : Timestamp} (time : c.IsTime)
    (small : c.nanoseconds < 1000000000) (h : ofClock? c 0 = some t) :
    t.date = c.date ∧ ∃ second < 60, t.secondOfDay = c.hour * 3600 + c.minute * 60 + second ∧
      second + t.nanoseconds / 1000000000 = c.second ∧
      t.nanoseconds % 1000000000 = c.nanoseconds := by
  obtain ⟨hour, minute, second⟩ := time
  -- A leap second is the second before it, with the nanoseconds of one second more.
  obtain ⟨own, leap, isLeap, within, whole, less⟩ : ∃ own leap,
      (if c.second = 60 then (59, 1000000000) else (c.second, 0)) = (own, leap) ∧ own < 60 ∧
      own + (leap + c.nanoseconds) / 1000000000 = c.second ∧
      (leap + c.nanoseconds) % 1000000000 = c.nanoseconds := by
    split
    · exact ⟨_, _, rfl, by omega, by omega, by omega⟩
    · exact ⟨_, _, rfl, by omega, by omega, by omega⟩
  unfold ofClock? at h
  rw [isLeap] at h
  split at h
  · rename_i valid
    dsimp only at h
    split at h
    · cases h
      have day : (c.date.toDay * 86400 + (c.hour * 3600 + c.minute * 60 + own : Nat) - 0) / 86400 =
          c.date.toDay := by
        omega
      have rest : ((c.date.toDay * 86400 + (c.hour * 3600 + c.minute * 60 + own : Nat) - 0) %
          86400).toNat = c.hour * 3600 + c.minute * 60 + own := by
        omega
      refine ⟨?_, own, within, rest, whole, less⟩
      rw [date, day, Date.ofDay_toDay valid.1]
    · cases h
  · cases h

/-- A point of time in universal time is written as the stamp that it was read from. -/
theorem textWith_of_ofClock? {x : Stamp} {n : Nat} {t : Timestamp} (full : x.IsFull)
    (time : (x.clock n).IsTime) (small : n < 1000000000)
    (h : ofClock? (x.clock n) 0 = some t) (separator : Char) (zone : List Char) :
    t.textWith separator zone =
      String.ofList ({ x with separator }.text ++ fractionText n ++ zone) := by
  obtain ⟨sameDate, second, within, secondOfDay, whole, less⟩ := parts_of_ofClock? time small h
  obtain ⟨-, minuteBound, -⟩ := time
  have field {ds : List Char} (h : AreDigits ds ∧ ds.length = 2) :
      padded 2 (Nat.ofDigitChars 10 ds 0) = ds := by
    rw [← h.2]
    exact padded_ofDigitChars (List.ne_nil_of_length_eq_add_one h.2) h.1
  have year : yearText (Nat.ofDigitChars 10 x.year 0 : Nat) = x.year := by
    have few := full.year.1.ofDigitChars_lt
    rw [full.year.2, show tenTo 4 = 10000 from rfl] at few
    have nonempty : x.year ≠ [] := List.ne_nil_of_length_eq_add_one full.year.2
    have written := padded_ofDigitChars nonempty full.year.1
    rw [full.year.2] at written
    rw [yearText, if_pos (by omega), Int.toNat_natCast, written]
  have hours : t.secondOfDay / 3600 = Nat.ofDigitChars 10 x.hour 0 := by
    simp only [Stamp.clock] at secondOfDay minuteBound
    omega
  have minutes : t.secondOfDay / 60 % 60 = Nat.ofDigitChars 10 x.minute 0 := by
    simp only [Stamp.clock] at secondOfDay minuteBound
    omega
  have seconds : t.secondOfDay % 60 + t.nanoseconds / 1000000000 =
      Nat.ofDigitChars 10 x.second 0 := by
    simp only [Stamp.clock] at secondOfDay minuteBound whole
    omega
  have places : fractionText t.nanoseconds = fractionText n := by
    have same : t.nanoseconds % 1000000000 = n % 1000000000 := by
      rw [less, Nat.mod_eq_of_lt small]
      rfl
    unfold fractionText
    rw [same]
  have date : dateText t.date = x.year ++ '-' :: x.month ++ '-' :: x.day := by
    simp only [sameDate, dateText, Stamp.clock, year, field full.month, field full.day,
      List.append_assoc, List.cons_append]
  have timeOfDay : timeText t = x.time ++ fractionText n := by
    simp only [timeText, hours, minutes, seconds, places, field full.hour, field full.minute,
      field full.second, Stamp.time, List.append_assoc, List.cons_append]
  rw [textWith, date, timeOfDay, Stamp.text]
  simp only [List.append_assoc, List.cons_append, Stamp.time]

/-! ## The text that is written -/

/-- No places, or three, six or nine of them and nothing but zeros in none of the last three. -/
def IsShort (places : List Char) : Prop :=
  places = [] ∨ ∃ ds, places = '.' :: ds ∧ AreDigits ds ∧ ds.length ∈ [3, 6, 9] ∧
    ¬ ['0', '0', '0'] <:+ ds

/-- The zone of universal time as a number. -/
def universalZone : List Char := ['+', '0', '0', ':', '0', '0']

/-- The form that timestamps are written in: full fields around `T`, no more places than it takes,
and the zone of universal time. -/
def IsRfc3339 (s : List Char) : Prop :=
  ∃ x places, s = Stamp.text x ++ places ++ universalZone ∧ x.IsFull ∧ x.separator = 'T' ∧
    IsShort places

theorem ofDigitChars_mod_eq_zero_iff {ds : List Char} (digits : AreDigits ds)
    (long : 3 ≤ ds.length) :
    Nat.ofDigitChars 10 ds 0 % 1000 = 0 ↔ ['0', '0', '0'] <:+ ds := by
  obtain ⟨first, last, rfl, width⟩ : ∃ first last, ds = first ++ last ∧ last.length = 3 :=
    ⟨ds.take (ds.length - 3), ds.drop (ds.length - 3), (List.take_append_drop ..).symm,
      by rw [List.length_drop]; omega⟩
  have digits' := (AreDigits.append_iff.mp digits).2
  have small := digits'.ofDigitChars_lt
  rw [Nat.ofDigitChars_append, Nat.ofDigitChars_eq_ofDigitChars_zero, width, Nat.mul_add_mod,
    Nat.mod_eq_of_lt (by rwa [width] at small)]
  constructor
  · intro zero
    have zeros : last = ['0', '0', '0'] :=
      digits'.eq_of_ofDigitChars_eq (by decide) width (zero.trans (by decide))
    rw [zeros]
    exact List.suffix_append _ _
  · intro zeros
    have same : ['0', '0', '0'] = last :=
      List.IsSuffix.eq_of_length (List.suffix_of_suffix_length_le zeros
        (List.suffix_append first last) (by simp [width])) width.symm
    rw [← same]
    decide

/-- The places that are written are as few as it takes. -/
theorem isShort_fractionText (n : Nat) : IsShort (fractionText n) := by
  have group {width m : Nat} (hw : width ∈ [3, 6, 9]) (small : m < 10 ^ width)
      (rest : m % 1000 ≠ 0) : IsShort ('.' :: padded width m) := by
    have wide : 3 ≤ width := by
      simp only [List.mem_cons, List.not_mem_nil, or_false] at hw
      omega
    have length := length_padded (Nat.lt_of_lt_of_le (by decide) wide) small
    refine .inr ⟨_, rfl, .padded width m, by rwa [length], ?_⟩
    rwa [← ofDigitChars_mod_eq_zero_iff (.padded width m) (by rwa [length]), ofDigitChars_padded]
  unfold fractionText
  dsimp only
  split
  · exact .inl rfl
  · split
    · exact group (by decide) (by omega) (by omega)
    · split
      · exact group (by decide) (by omega) (by omega)
      · exact group (by decide) (by omega) (by omega)

/-- Places that are as few as it takes are written for the nanoseconds that they spell. -/
theorem fractionText_of_isShort {places : List Char} {n : Nat} (fraction : IsFraction places n)
    (short : IsShort places) : fractionText n = places := by
  rcases short with rfl | ⟨ds, rfl, digits, width, ends⟩
  · rcases fraction with ⟨-, rfl⟩ | ⟨ds, other, -⟩
    · rfl
    · cases other
  · rcases fraction with ⟨other, -⟩ | ⟨ds', same, -, rfl⟩
    · cases other
    · obtain rfl := (List.cons.inj same).2
      simp only [List.mem_cons, List.not_mem_nil, or_false] at width
      rw [← ofDigitChars_mod_eq_zero_iff digits (by omega)] at ends
      have small := digits.ofDigitChars_lt
      have nonempty : ds ≠ [] := List.ne_nil_of_length_pos (by omega)
      have written := padded_ofDigitChars nonempty digits
      rw [List.take_of_length_le (by omega)]
      generalize Nat.ofDigitChars 10 ds 0 = v at *
      rcases width with width | width | width
      · rw [width] at small written ⊢
        rw [show tenTo 3 = 1000 from rfl] at small
        rw [show tenTo (9 - 3) = 1000000 from rfl, fractionText,
          Nat.mod_eq_of_lt (show v * 1000000 < 1000000000 by omega), if_neg (by omega),
          if_pos (by omega), Nat.mul_div_cancel _ (by decide), written]
      · rw [width] at small written ⊢
        rw [show tenTo 6 = 1000000 from rfl] at small
        rw [show tenTo (9 - 6) = 1000 from rfl, fractionText,
          Nat.mod_eq_of_lt (show v * 1000 < 1000000000 by omega), if_neg (by omega),
          if_neg (by omega), if_pos (by omega), Nat.mul_div_cancel _ (by decide), written]
      · rw [width] at small written ⊢
        rw [show tenTo 9 = 1000000000 from rfl] at small
        rw [show tenTo (9 - 9) = 1 from rfl, Nat.mul_one, fractionText,
          Nat.mod_eq_of_lt (show v < 1000000000 by omega), if_neg (by omega), if_neg (by omega),
          if_neg (by omega), written]

/-- Only the zone of universal time ends as it does. -/
theorem eq_of_append_isZone {a b zone : List Char} {offset : Int} (h : IsZone zone offset)
    (same : a ++ zone = b ++ universalZone) : a = b ∧ zone = universalZone ∧ offset = 0 := by
  rcases h with ⟨rfl | rfl, -⟩ | ⟨sign, hours, minutes, rfl, -, hourWidth, -, minuteWidth, rfl⟩
  · have last := congrArg List.getLast? same
    simp [universalZone] at last
  · have last := congrArg List.getLast? same
    simp [universalZone] at last
  · obtain ⟨rfl, zone⟩ := List.append_inj' same (by simp [universalZone, hourWidth, minuteWidth])
    obtain ⟨rfl, signless⟩ := List.cons.inj zone
    have fields : hours ++ ':' :: minutes = ['0', '0'] ++ [':', '0', '0'] := signless
    obtain ⟨rfl, behind⟩ := List.append_inj fields hourWidth
    obtain ⟨-, rfl⟩ := List.cons.inj behind
    exact ⟨rfl, rfl, rfl⟩

theorem separator_eq_of_text_eq {x y : Stamp} (hx : x.IsFull) (hy : y.IsFull)
    (same : x.text = y.text) : x.separator = y.separator := by
  have width : (x.year ++ '-' :: x.month ++ '-' :: x.day).length =
      (y.year ++ '-' :: y.month ++ '-' :: y.day).length := by
    simp [hx.year.2, hx.month.2, hx.day.2, hy.year.2, hy.month.2, hy.day.2]
  exact (List.cons.inj (List.append_inj same width).2).1

/-- What RFC 3339 reads is written as it was if it has the form. -/
theorem rfc3339_eq_iff_of_readStrict? {s : String} {t : Timestamp}
    (h : readStrict? s.toList = some t) : t.rfc3339 = s ↔ IsRfc3339 s.toList := by
  obtain ⟨x, places, n, zone, offset, split, full, fraction, isZone, time, shown⟩ :=
    readStrict?_eq_some h
  have written (zero : offset = 0) :
      t.rfc3339.toList = { x with separator := 'T' }.text ++ fractionText n ++ universalZone := by
    subst zero
    rw [rfc3339, textWith_of_ofClock? full time fraction.lt shown, String.toList_ofList]
    rfl
  have universal : ({ x with separator := 'T' } : Stamp).IsFull := { full with }
  rw [← String.toList_inj, split]
  constructor
  · intro same
    have ends : (dateText t.date ++ 'T' :: timeText t) ++ universalZone =
        (x.text ++ places) ++ zone := by
      rw [← same, rfc3339, textWith, String.toList_ofList]
      rfl
    obtain ⟨-, rfl, rfl⟩ := eq_of_append_isZone isZone ends.symm
    rw [written rfl] at same
    obtain ⟨stamps, rfl⟩ := List.append_inj (List.append_cancel_right same)
      (by rw [Stamp.length_text universal, Stamp.length_text full])
    exact ⟨x, _, rfl, full, (separator_eq_of_text_eq universal full stamps).symm,
      isShort_fractionText n⟩
  · rintro ⟨y, ps, same, full', separator, short⟩
    obtain ⟨front, rfl, rfl⟩ := eq_of_append_isZone isZone same
    obtain ⟨stamps, rfl⟩ := List.append_inj front
      (by rw [Stamp.length_text full, Stamp.length_text full'])
    have own : x.separator = 'T' := (separator_eq_of_text_eq full full' stamps).trans separator
    rw [written rfl, fractionText_of_isShort fraction short, ← own]

/-! ## The free forms -/

theorem avoids_shortField {c : Char} (blank : Text.isBlank c = false) (digit : c.isDigit = false) :
    Avoids c shortField :=
  (Avoids.blanks blank).bind fun _ => .number digit

theorem avoids_freeYear : Avoids 'T' freeYear := by
  have number {r : TextReader Nat} {f : Nat → Int} (h : Avoids 'T' r) {s rest : List Char} {y : Int}
      (read : (r s).map (fun p => (f p.1, p.2)) = some (y, rest)) :
      ∃ used, s = used ++ rest ∧ 'T' ∉ used := by
    obtain ⟨⟨n, left⟩, taken, same⟩ := Option.map_eq_some_iff.mp read
    cases same
    exact h _ _ _ taken
  refine (Avoids.blanks (by decide)).bind fun _ s y rest read => ?_
  split at read
  · obtain ⟨used, rfl, avoided⟩ := number (f := fun n => -n) (.digits (by decide)) read
    exact ⟨'-' :: used, rfl, by simpa using avoided⟩
  · obtain ⟨used, rfl, avoided⟩ := number (.digits (by decide)) read
    exact ⟨'+' :: used, rfl, by simpa using avoided⟩
  · exact number (.number (by decide)) read

theorem avoids_freeClock : Avoids 'T' freeClock := by
  have field : Avoids 'T' shortField := avoids_shortField (by decide) (by decide)
  have time : Avoids 'T' (time shortField) :=
    field.within.bind fun _ => (Avoids.char (by decide)).bind fun _ => field.within.bind fun _ =>
      (Avoids.char (by decide)).bind fun _ => field.within.bind fun _ =>
        (Avoids.fraction (by decide) (by decide)).bind fun _ => .pure _
  exact avoids_freeYear.bind fun _ => (Avoids.char (by decide)).bind fun _ =>
    field.within.bind fun _ => (Avoids.char (by decide)).bind fun _ =>
      field.within.bind fun _ => (Avoids.blanks (by decide)).bind fun _ =>
        time.bind fun _ => .pure _

/-- The free forms have no letter between date and time. -/
theorem not_mem_of_readZoned? {s : List Char} {t : Timestamp} (h : readZoned? s = some t) :
    'T' ∉ s := by
  obtain ⟨_, read, -⟩ := Option.bind_eq_some_iff.mp h
  exact Avoids.whole (avoids_freeClock.bind fun _ => (Avoids.blanks (by decide)).bind fun _ =>
    (Avoids.zone (by decide) (by decide) (.colonsAndBlanks (by decide) (by decide))
      (.optionalMinutes (by decide))).bind fun _ => .pure _) read

theorem not_mem_of_readPlain? {s : List Char} {t : Timestamp} (h : readPlain? s = some t) :
    'T' ∉ s := by
  obtain ⟨_, read, -⟩ := Option.bind_eq_some_iff.mp h
  exact avoids_freeClock.whole read

theorem mem_of_isRfc3339 {s : List Char} (h : IsRfc3339 s) : 'T' ∈ s := by
  obtain ⟨x, places, rfl, -, separator, -⟩ := h
  simp [Stamp.text, separator]

/-- A text that spells a timestamp is the one written for it if it has the form of RFC 3339. -/
theorem rfc3339_eq_iff {s : String} {t : Timestamp} (h : read? s = some t) :
    t.rfc3339 = s ↔ IsRfc3339 s.toList := by
  have mem : 'T' ∈ t.rfc3339.toList := by
    simp [rfc3339, textWith]
  have free (absent : 'T' ∉ s.toList) : t.rfc3339 = s ↔ IsRfc3339 s.toList :=
    iff_of_false (fun same => absent (same ▸ mem)) fun form => absent (mem_of_isRfc3339 form)
  unfold read? at h
  cases strict : readStrict? s.toList with
  | some t' =>
    rw [strict] at h
    cases h
    exact rfc3339_eq_iff_of_readStrict? strict
  | none =>
    rw [strict] at h
    cases zoned : readZoned? s.toList with
    | some t' => exact free (not_mem_of_readZoned? zoned)
    | none =>
      rw [zoned] at h
      exact free (not_mem_of_readPlain? h)

end Timestamp

end SqlCompose
