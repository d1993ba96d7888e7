import SqlCompose.Proofs.KeySpelling
import SqlCompose.Proofs.QuotedText
import SqlCompose.Proofs.Comments

/-!
# Timestamps read back

Every dialect writes a timestamp between quotes, one of them in the form of RFC 3339 and the others
around a space and without a zone. The main statement is that each form is read as the timestamp it
was written for, and by one of the three grammars only: no earlier grammar takes the text for
something else.
-/

namespace SqlCompose

/-! ## Readers on what is written -/

namespace TextReader

variable {α : Type} {ds rest : List Char}

theorem number_append (digits : AreDigits ds) {least most : Nat} (width : ds.length = most)
    (enough : least ≤ most) (rest : List Char) :
    number least most (ds ++ rest) = some (Nat.ofDigitChars 10 ds 0, rest) := by
  have taken : ((ds ++ rest).take most).takeWhile Char.isDigit = ds := by
    rw [List.take_left' width]
    rw [← List.append_nil ds, List.takeWhile_append_of_pos digits, List.takeWhile_nil]
  simp only [number, taken]
  rw [if_pos (width ▸ enough), List.drop_left]

theorem trimLeft_append (digits : AreDigits ds) (nonempty : ds ≠ []) (rest : List Char) :
    Text.trimLeft (ds ++ rest) = ds ++ rest := by
  obtain ⟨c, ds, rfl⟩ := List.exists_cons_of_ne_nil nonempty
  have solid := Text.isBlank_of_isDigit (digits c List.mem_cons_self)
  rw [List.cons_append, Text.trimLeft, List.dropWhile_cons_of_neg (by simp [solid])]

theorem blanks_append (digits : AreDigits ds) (nonempty : ds ≠ []) (rest : List Char) :
    blanks (ds ++ rest) = some ((), ds ++ rest) := by
  rw [blanks, trimLeft_append digits nonempty]

/-- Two digits are read as a number, whatever stands behind them. -/
def ReadsPairs (field : TextReader Nat) : Prop :=
  ∀ ds rest, AreDigits ds → ds.length = 2 →
    field (ds ++ rest) = some (Nat.ofDigitChars 10 ds 0, rest)

theorem readsPairs_number : ReadsPairs (number 2 2) := fun _ rest digits width =>
  number_append digits width (Nat.le_refl 2) rest

/-- Nothing that could go on behind a fraction. -/
def EndsFraction (rest : List Char) : Prop :=
  ∀ c ∈ rest.head?, c.isDigit = false ∧ c ≠ '.'

theorem fraction_of_endsFraction (ends : EndsFraction rest) : fraction rest = some (0, rest) := by
  cases rest with
  | nil => rfl
  | cons c rest =>
    have other := (ends c rfl).2
    unfold fraction
    split
    · rename_i same
      exact absurd (List.cons.inj same).1 other
    · rfl

theorem fraction_append (digits : AreDigits ds) (nonempty : ds ≠ []) (few : ds.length ≤ 9)
    (ends : EndsFraction rest) :
    fraction ('.' :: (ds ++ rest)) =
      some (Nat.ofDigitChars 10 ds 0 * tenTo (9 - ds.length), rest) := by
  have taken : (ds ++ rest).takeWhile Char.isDigit = ds := by
    rw [List.takeWhile_append_of_pos digits]
    cases rest with
    | nil => simp
    | cons c rest => rw [List.takeWhile_cons_of_neg (by simp [(ends c rfl).1]), List.append_nil]
  simp only [fraction, taken]
  rw [if_neg nonempty, List.take_of_length_le few, List.drop_left]

end TextReader

namespace Timestamp

open TextReader

/-- The places that are written are read as the nanoseconds of the second. -/
theorem fraction_fractionText (n : Nat) {rest : List Char} (ends : EndsFraction rest) :
    fraction (fractionText n ++ rest) = some (n % 1000000000, rest) := by
  have group {width m : Nat} (wide : 0 < width) (few : width ≤ 9) (small : m < tenTo width) :
      fraction (('.' :: padded width m) ++ rest) = some (m * tenTo (9 - width), rest) := by
    have length := length_padded wide small
    have read := fraction_append (.padded width m)
      (List.ne_nil_of_length_pos (by omega)) (by omega) ends
    rwa [ofDigitChars_padded, length] at read
  unfold fractionText
  dsimp only
  split
  · rename_i none
    rw [none]
    exact fraction_of_endsFraction ends
  · split
    · rw [group (by decide) (by decide) (show _ < 1000 by omega),
        show tenTo (9 - 3) = 1000000 from rfl]
      congr 2
      omega
    · split
      · rw [group (by decide) (by decide) (show _ < 1000000 by omega),
          show tenTo (9 - 6) = 1000 from rfl]
        congr 2
        omega
      · rw [group (by decide) (by decide) (show _ < 1000000000 by omega),
          show tenTo (9 - 9) = 1 from rfl, Nat.mul_one]

/-! ## Clocks -/

theorem readsPairs_shortField : ReadsPairs shortField := fun ds rest digits width =>
  bind_eq_some.mpr ⟨(), _, blanks_append digits (List.ne_nil_of_length_eq_add_one width) rest,
    number_append digits width (by decide) rest⟩

section

variable {x : Stamp} {n : Nat} {places rest : List Char}

theorem time_append {field : TextReader Nat} (reads : ReadsPairs field) (full : x.IsFull)
    (time : (x.clock n).IsTime) (read : fraction (places ++ rest) = some (n, rest)) :
    Timestamp.time field (x.time ++ (places ++ rest)) =
      some (((x.clock n).hour, (x.clock n).minute, (x.clock n).second, n), rest) := by
  obtain ⟨hour, minute, second⟩ := time
  have text : x.time ++ (places ++ rest) =
      x.hour ++ ':' :: (x.minute ++ ':' :: (x.second ++ (places ++ rest))) := by
    simp [Stamp.time]
  rw [text]
  refine bind_eq_some.mpr ⟨_, _, within_eq_some.mpr
    ⟨reads x.hour _ full.hour.1 full.hour.2, Nat.zero_le _, hour⟩, ?_⟩
  refine bind_eq_some.mpr ⟨(), _, char_eq_some.mpr rfl, ?_⟩
  refine bind_eq_some.mpr ⟨_, _, within_eq_some.mpr
    ⟨reads x.minute _ full.minute.1 full.minute.2, Nat.zero_le _, minute⟩, ?_⟩
  refine bind_eq_some.mpr ⟨(), _, char_eq_some.mpr rfl, ?_⟩
  refine bind_eq_some.mpr ⟨_, _, within_eq_some.mpr
    ⟨reads x.second _ full.second.1 full.second.2, Nat.zero_le _, second⟩, ?_⟩
  exact bind_eq_some.mpr ⟨n, rest, read, rfl⟩

/-- The fields of a date lie in the ranges that are looked at while reading. -/
def Clock.IsDate (c : Clock) : Prop :=
  1 ≤ c.date.month ∧ c.date.month ≤ 12 ∧ 1 ≤ c.date.day ∧ c.date.day ≤ 31

theorem strictClock_append (full : x.IsFull) (separator : x.separator ∈ ['T', 't', ' '])
    (date : (x.clock n).IsDate) (time : (x.clock n).IsTime)
    (read : fraction (places ++ rest) = some (n, rest)) :
    strictClock (x.text ++ (places ++ rest)) = some (x.clock n, rest) := by
  obtain ⟨firstMonth, lastMonth, firstDay, lastDay⟩ := date
  have text : x.text ++ (places ++ rest) =
      x.year ++ '-' :: (x.month ++ '-' ::
        (x.day ++ x.separator :: (x.time ++ (places ++ rest)))) := by
    simp [Stamp.text]
  rw [text]
  refine bind_eq_some.mpr ⟨_, _, number_append full.year.1 full.year.2 (by decide) _, ?_⟩
  refine bind_eq_some.mpr ⟨(), _, char_eq_some.mpr rfl, ?_⟩
  refine bind_eq_some.mpr ⟨_, _, within_eq_some.mpr
    ⟨readsPairs_number x.month _ full.month.1 full.month.2, firstMonth, lastMonth⟩, ?_⟩
  refine bind_eq_some.mpr ⟨(), _, char_eq_some.mpr rfl, ?_⟩
  refine bind_eq_some.mpr ⟨_, _, within_eq_some.mpr
    ⟨readsPairs_number x.day _ full.day.1 full.day.2, firstDay, lastDay⟩, ?_⟩
  refine bind_eq_some.mpr ⟨x.separator, _, oneOf_eq_some.mpr ⟨separator, rfl⟩, ?_⟩
  exact bind_eq_some.mpr ⟨_, rest, time_append readsPairs_number full time read, rfl⟩

theorem freeYear_append (digits : AreDigits x.year) (width : x.year.length = 4)
    (rest : List Char) :
    freeYear (x.year ++ rest) = some (((Nat.ofDigitChars 10 x.year 0 : Nat) : Int), rest) := by
  have nonempty := List.ne_nil_of_length_eq_add_one width
  refine bind_eq_some.mpr ⟨(), _, blanks_append digits nonempty rest, ?_⟩
  have own := number_append digits width (show 1 ≤ 4 by decide) rest
  obtain ⟨c, later, same⟩ := List.exists_cons_of_ne_nil nonempty
  have digit := digits c (same ▸ List.mem_cons_self)
  rw [same] at own ⊢
  split
  · rename_i signed
    rw [(List.cons.inj signed).1] at digit
    cases digit
  · rename_i signed
    rw [(List.cons.inj signed).1] at digit
    cases digit
  · rw [own]
    rfl

theorem freeClock_append (full : x.IsFull) (separator : x.separator = ' ')
    (date : (x.clock n).IsDate) (time : (x.clock n).IsTime)
    (read : fraction (places ++ rest) = some (n, rest)) :
    freeClock (x.text ++ (places ++ rest)) = some (x.clock n, rest) := by
  obtain ⟨firstMonth, lastMonth, firstDay, lastDay⟩ := date
  have text : x.text ++ (places ++ rest) =
      x.year ++ '-' :: (x.month ++ '-' :: (x.day ++ ' ' :: (x.time ++ (places ++ rest)))) := by
    simp [Stamp.text, separator]
  have skipped : blanks (' ' :: (x.time ++ (places ++ rest))) =
      some ((), x.time ++ (places ++ rest)) := by
    have stops := trimLeft_append full.hour.1 (List.ne_nil_of_length_eq_add_one full.hour.2)
      (':' :: (x.minute ++ ':' :: x.second) ++ (places ++ rest))
    have hour : x.time ++ (places ++ rest) =
        x.hour ++ (':' :: (x.minute ++ ':' :: x.second) ++ (places ++ rest)) := by
      simp [Stamp.time]
    rw [hour, blanks, Text.trimLeft, List.dropWhile_cons_of_pos (by decide)]
    exact congrArg (fun s => some ((), s)) stops
  rw [text]
  refine bind_eq_some.mpr ⟨_, _, freeYear_append full.year.1 full.year.2 _, ?_⟩
  refine bind_eq_some.mpr ⟨(), _, char_eq_some.mpr rfl, ?_⟩
  refine bind_eq_some.mpr ⟨_, _, within_eq_some.mpr
    ⟨readsPairs_shortField x.month _ full.month.1 full.month.2, firstMonth, lastMonth⟩, ?_⟩
  refine bind_eq_some.mpr ⟨(), _, char_eq_some.mpr rfl, ?_⟩
  refine bind_eq_some.mpr ⟨_, _, within_eq_some.mpr
    ⟨readsPairs_shortField x.day _ full.day.1 full.day.2, firstDay, lastDay⟩, ?_⟩
  refine bind_eq_some.mpr ⟨(), _, skipped, ?_⟩
  exact bind_eq_some.mpr ⟨_, rest, time_append readsPairs_shortField full time read, rfl⟩

end

/-! ## The stamp of a timestamp -/

variable {t : Timestamp}

/-- The nanoseconds lie within a second, or in the leap second behind the last one of a minute. -/
def IsInstant (t : Timestamp) : Prop :=
  t.nanoseconds < 1000000000 ∨ t.nanoseconds < 2000000000 ∧ t.secondOfDay % 60 = 59

instance (t : Timestamp) : Decidable t.IsInstant := inferInstanceAs (Decidable (_ ∨ _))

/-- Years of four digits. -/
def HasShortYear (t : Timestamp) : Prop :=
  0 ≤ t.date.year ∧ t.date.year ≤ 9999

instance (t : Timestamp) : Decidable t.HasShortYear := inferInstanceAs (Decidable (_ ∧ _))

/-- The fields that are written for a timestamp. -/
def stamp (separator : Char) (t : Timestamp) : Stamp where
  year := padded 4 t.date.year.toNat
  month := padded 2 t.date.month
  day := padded 2 t.date.day
  separator := separator
  hour := padded 2 (t.secondOfDay / 3600)
  minute := padded 2 (t.secondOfDay / 60 % 60)
  second := padded 2 (t.secondOfDay % 60 + t.nanoseconds / 1000000000)

theorem textWith_eq_stamp (year : t.HasShortYear) (separator : Char) (zone : List Char) :
    t.textWith separator zone =
      String.ofList ((t.stamp separator).text ++ (fractionText t.nanoseconds ++ zone)) := by
  have years : yearText t.date.year = padded 4 t.date.year.toNat := if_pos year
  rw [textWith, dateText, years, timeText]
  simp [Stamp.text, Stamp.time, stamp]

theorem secondOfDay_lt (t : Timestamp) : t.secondOfDay < 86400 := by
  unfold secondOfDay
  omega

theorem IsInstant.second_le (h : t.IsInstant) :
    t.secondOfDay % 60 + t.nanoseconds / 1000000000 ≤ 60 := by
  unfold IsInstant at h
  omega

theorem day_date_le (t : Timestamp) : t.date.day ≤ 31 := by
  obtain ⟨-, last, -, inside⟩ : t.date.IsValid := (Date.isValid_ofDay (t.seconds / 86400)).1
  have longest : ∀ length ∈ Date.monthLengths t.date.year, length ≤ 31 := by
    intro length member
    unfold Date.monthLengths at member
    split at member <;> revert length <;> decide
  have found : t.date.month - 1 < (Date.monthLengths t.date.year).length := by
    have twelve : (Date.monthLengths t.date.year).length = 12 := rfl
    omega
  rw [List.getD_eq_getElem?_getD, List.getElem?_eq_getElem found, Option.getD_some] at inside
  exact Nat.le_trans inside (longest _ (List.getElem_mem found))

theorem isDate_clock (t : Timestamp) (separator : Char) (n : Nat) :
    ((t.stamp separator).clock n).IsDate := by
  obtain ⟨firstMonth, lastMonth, firstDay, -⟩ := (Date.isValid_ofDay (t.seconds / 86400)).1
  have lastDay := t.day_date_le
  simp only [Clock.IsDate, Stamp.clock, stamp, ofDigitChars_padded]
  exact ⟨firstMonth, lastMonth, firstDay, lastDay⟩

theorem isTime_clock (instant : t.IsInstant) (separator : Char) (n : Nat) :
    ((t.stamp separator).clock n).IsTime := by
  have short := t.secondOfDay_lt
  have second := instant.second_le
  simp only [Clock.IsTime, Stamp.clock, stamp, ofDigitChars_padded]
  omega

theorem isFull_stamp (instant : t.IsInstant) (year : t.HasShortYear) (separator : Char) :
    (t.stamp separator).IsFull := by
  have field {width n : Nat} (wide : 0 < width) (small : n < tenTo width) :
      AreDigits (padded width n) ∧ (padded width n).length = width :=
    ⟨.padded width n, length_padded wide small⟩
  obtain ⟨-, lastMonth, -, lastDay⟩ := t.isDate_clock separator 0
  obtain ⟨hour, minute, second⟩ := isTime_clock instant separator 0
  simp only [Stamp.clock, stamp, ofDigitChars_padded] at lastMonth lastDay hour minute second
  obtain ⟨natural, fourDigits⟩ := year
  refine
    { year := field (by decide) (show _ < 10000 by omega)
      month := field (by decide) (show _ < 100 by omega)
      day := field (by decide) (show _ < 100 by omega)
      hour := field (by decide) (show _ < 100 by omega)
      minute := field (by decide) (show _ < 100 by omega)
      second := field (by decide) (show _ < 100 by omega) }

/-- The clock of a timestamp shows its point in time. -/
theorem ofClock?_stamp (instant : t.IsInstant) (year : t.HasShortYear) (separator : Char) :
    ofClock? ((t.stamp separator).clock (t.nanoseconds % 1000000000)) 0 = some t := by
  obtain ⟨valid, day⟩ : t.date.IsValid ∧ t.date.toDay = t.seconds / 86400 :=
    Date.isValid_ofDay (t.seconds / 86400)
  have clock : (t.stamp separator).clock (t.nanoseconds % 1000000000) =
      ⟨t.date, t.secondOfDay / 3600, t.secondOfDay / 60 % 60,
        t.secondOfDay % 60 + t.nanoseconds / 1000000000, t.nanoseconds % 1000000000⟩ := by
    simp only [Stamp.clock, stamp, ofDigitChars_padded, Int.toNat_of_nonneg year.1]
  have years : IsYear t.date.year := by
    obtain ⟨natural, fourDigits⟩ := year
    unfold IsYear leastYear greatestYear
    omega
  -- Second 60 is written just for the nanoseconds of a leap second.
  have second : (if t.secondOfDay % 60 + t.nanoseconds / 1000000000 = 60 then
        (59, 1000000000) else (t.secondOfDay % 60 + t.nanoseconds / 1000000000, 0)) =
      (t.secondOfDay % 60, t.nanoseconds / 1000000000 * 1000000000) := by
    unfold IsInstant at instant
    split
    · rename_i leap
      congr 1 <;> omega
    · rename_i leap
      congr 1 <;> omega
  have nanoseconds : t.nanoseconds / 1000000000 * 1000000000 + t.nanoseconds % 1000000000 =
      t.nanoseconds := by
    omega
  have seconds : t.seconds / 86400 * 86400 + (t.secondOfDay / 3600 * 3600 +
      t.secondOfDay / 60 % 60 * 60 + t.secondOfDay % 60 : Nat) - 0 = t.seconds := by
    unfold secondOfDay
    omega
  unfold ofClock?
  rw [clock, if_pos ⟨valid, years⟩]
  dsimp only
  rw [second]
  dsimp only
  rw [day, seconds, nanoseconds, if_pos years]

/-! ## The written forms -/

theorem readStrict?_of_strictClock {s rest : List Char} {c : Clock} {offset : Int}
    (clock : strictClock s = some (c, rest))
    (zone : zone (char ':') zoneMinutes rest = some (offset, [])) (near : offset.natAbs < 86400) :
    readStrict? s = ofClock? c offset := by
  have taken : whole (do
      let clock ← strictClock
      let offset ← TextReader.zone (char ':') zoneMinutes
      return (clock, offset)) s = some (c, offset) :=
    whole_eq_some.mpr (bind_eq_some.mpr ⟨c, rest, clock, bind_eq_some.mpr ⟨offset, [], zone, rfl⟩⟩)
  rw [readStrict?, taken]
  exact if_pos near

section

variable (instant : t.IsInstant) (year : t.HasShortYear)

include instant year

theorem strictClock_textWith {separator : Char} {zone : List Char}
    (allowed : separator ∈ ['T', 't', ' ']) (ends : EndsFraction zone) :
    strictClock (t.textWith separator zone).toList =
      some ((t.stamp separator).clock (t.nanoseconds % 1000000000), zone) := by
  rw [textWith_eq_stamp year, String.toList_ofList]
  exact strictClock_append (isFull_stamp instant year separator) allowed
    (t.isDate_clock separator _) (isTime_clock instant separator _) (fraction_fractionText _ ends)

theorem freeClock_spaced :
    freeClock t.spaced.toList = some ((t.stamp ' ').clock (t.nanoseconds % 1000000000), []) := by
  have ends : EndsFraction [] := fun c none => by cases none
  rw [spaced, textWith_eq_stamp year, String.toList_ofList]
  exact freeClock_append (isFull_stamp instant year ' ') rfl (t.isDate_clock ' ' _)
    (isTime_clock instant ' ' _) (fraction_fractionText _ ends)

theorem readStrict?_rfc3339 : readStrict? t.rfc3339.toList = some t := by
  have ends : EndsFraction universalZone := fun c first => by
    cases first
    decide
  have clock : strictClock t.rfc3339.toList = some (_, universalZone) :=
    strictClock_textWith instant year (by decide) ends
  exact (readStrict?_of_strictClock clock rfl (by decide)).trans (ofClock?_stamp instant year 'T')

theorem readPlain?_spaced : readPlain? t.spaced.toList = some t :=
  Option.bind_eq_some_iff.mpr
    ⟨_, whole_eq_some.mpr (freeClock_spaced instant year), ofClock?_stamp instant year ' '⟩

/-- The second grammar gets to the end of a text without a zone, and finds none there. -/
theorem readZoned?_spaced : readZoned? t.spaced.toList = none := by
  have clock := freeClock_spaced instant year
  generalize t.spaced.toList = s at clock ⊢
  refine Option.eq_none_iff_forall_ne_some.mpr fun other read => ?_
  obtain ⟨_, taken, -⟩ := Option.bind_eq_some_iff.mp read
  obtain ⟨_, _, clock', taken⟩ := bind_eq_some.mp (whole_eq_some.mp taken)
  obtain ⟨_, _, blanks, taken⟩ := bind_eq_some.mp taken
  obtain ⟨_, _, zone, -⟩ := bind_eq_some.mp taken
  cases clock.symm.trans clock'
  cases blanks
  cases zone

/-- The first grammar takes a space for the letter, but wants a zone behind the fraction. -/
theorem readStrict?_spaced : readStrict? t.spaced.toList = none := by
  have clock : strictClock t.spaced.toList = some (_, []) :=
    strictClock_textWith instant year (by decide) fun c none => by cases none
  generalize t.spaced.toList = s at clock ⊢
  refine Option.eq_none_iff_forall_ne_some.mpr fun other read => ?_
  obtain ⟨_, taken, -⟩ := Option.bind_eq_some_iff.mp read
  obtain ⟨_, _, clock', taken⟩ := bind_eq_some.mp (whole_eq_some.mp taken)
  obtain ⟨_, _, zone, -⟩ := bind_eq_some.mp taken
  cases clock.symm.trans clock'
  cases zone

end

/-- The free forms have no place for the letter. -/
theorem free_rfc3339 (t : Timestamp) :
    readZoned? t.rfc3339.toList = none ∧ readPlain? t.rfc3339.toList = none := by
  have letter : 'T' ∈ t.rfc3339.toList := by
    simp [rfc3339, textWith]
  exact ⟨Option.eq_none_iff_forall_ne_some.mpr fun _ read => not_mem_of_readZoned? read letter,
    Option.eq_none_iff_forall_ne_some.mpr fun _ read => not_mem_of_readPlain? read letter⟩

/-- The text that a dialect writes for a timestamp. -/
def written (d : Dialect) (t : Timestamp) : String :=
  if d = .postgres then t.rfc3339 else t.spaced

theorem isStringChar_of_mem_written (d : Dialect) (t : Timestamp) :
    ∀ c ∈ (t.written d).toList, Spot.isStringChar c = true := by
  unfold written
  split
  · exact t.isStringChar_of_mem_textWith rfl (List.all_eq_true.mp rfl)
  · exact t.isStringChar_of_mem_textWith rfl (List.forall_mem_nil _)

end Timestamp

/-- A string without quotes and escapes is read as it stands. -/
theorem Dialect.readString_quoted (d : Dialect) {content : List Char}
    (plain : ∀ c ∈ content, Spot.isStringChar c = true) :
    d.readString ('\'' :: (content ++ ['\''])) = some (content, []) := by
  rw [readString]
  induction content with
  | nil => exact Text.readQuoted_close (by decide)
  | cons c rest ih =>
    obtain ⟨first, others⟩ := List.forall_mem_cons.mp plain
    simp only [Spot.isStringChar, Bool.and_eq_true, decide_eq_true_eq] at first
    rw [List.cons_append, Text.readQuoted_plain first.1
      fun escape => first.2 (d.stringEscape_eq_some_iff.mp escape).1, ih others]
    rfl

namespace Value

open Timestamp

/-- The literal of a timestamp with a year of four digits is a quoted text, and the text is decoded
as the same timestamp, leap seconds included. One of the three grammars reads it so, and each of the
other two refuses it: the first reads what has a zone, and the last what has none. -/
theorem decode_writtenTimestamp {t : Timestamp} (instant : t.IsInstant) (year : t.HasShortYear)
    (d : Dialect) (nullable : Bool) (column : String) :
    ∃ s : String, (timestamp t).literal d = "'" ++ s ++ "'" ∧
      d.readString ((timestamp t).literal d).toList = some (s.toList, []) ∧
      (text s).decode ⟨.timestamp, nullable⟩ column = .ok (timestamp t) ∧
      (readStrict? s.toList, readZoned? s.toList, readPlain? s.toList) =
        if d = .postgres then (some t, none, none) else (none, none, some t) := by
  have literal : (timestamp t).literal d = "'" ++ t.written d ++ "'" := by
    cases d <;> rfl
  have grammars : (readStrict? (t.written d).toList, readZoned? (t.written d).toList,
      readPlain? (t.written d).toList) =
        if d = .postgres then (some t, none, none) else (none, none, some t) := by
    unfold written
    split
    · rw [readStrict?_rfc3339 instant year, t.free_rfc3339.1, t.free_rfc3339.2]
    · rw [readStrict?_spaced instant year, readZoned?_spaced instant year,
        readPlain?_spaced instant year]
  have read : Timestamp.read? (t.written d) = some t := by
    unfold Timestamp.read?
    split at grammars
    · rw [(Prod.mk.inj grammars).1]
      rfl
    · obtain ⟨strict, free⟩ := Prod.mk.inj grammars
      rw [strict, (Prod.mk.inj free).1, (Prod.mk.inj free).2]
      rfl
  refine ⟨t.written d, literal, ?_, ?_, grammars⟩
  · rw [literal]
    simpa using d.readString_quoted (t.isStringChar_of_mem_written d)
  · rw [decode, if_neg (by simp [isNull]), readAs, toTimestamp, read]
    rfl

theorem decode_writtenTimestamp_leapSecond :
    let t : Timestamp := ⟨1483228799, 1500000000⟩
    t.IsInstant ∧ t.HasShortYear ∧ (timestamp t).literal .mySql = "'2016-12-31 23:59:60.500'" ∧
      (text "2016-12-31 23:59:60.500").decode ⟨.timestamp, true⟩ "at" = .ok (timestamp t) := by
  intro t
  have instant : t.IsInstant := by decide
  have year : t.HasShortYear := by decide +kernel
  have literal : (timestamp t).literal .mySql = "'2016-12-31 23:59:60.500'" := by decide +kernel
  obtain ⟨s, -, inside, decoded, -⟩ := decode_writtenTimestamp instant year .mySql true "at"
  have content : Dialect.readString .mySql "'2016-12-31 23:59:60.500'".toList =
      some ("2016-12-31 23:59:60.500".toList, []) := by
    decide +kernel
  rw [literal, content] at inside
  obtain rfl := String.toList_inj.mp (Prod.mk.inj (Option.some.inj inside)).1
  exact ⟨instant, year, literal, decoded⟩

end Value

end SqlCompose
