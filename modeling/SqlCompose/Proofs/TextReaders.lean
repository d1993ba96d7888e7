import SqlCompose.Calendar.Reading
import SqlCompose.Proofs.Digits

/-!
# What readers take

A reader that succeeds has taken a beginning of its text, and left the rest. For each of them there
is said what it takes: the digits of a number, a character, a fraction, a zone. What is put together
takes the one and then the other.
-/

namespace SqlCompose.TextReader

section

variable {α β : Type} {s rest : List Char}

theorem bind_eq_some {r : TextReader α} {f : α → TextReader β} {b : β} :
    (r >>= f) s = some (b, rest) ↔ ∃ a between, r s = some (a, between) ∧
      f a between = some (b, rest) := by
  change Option.bind (r s) (fun p => f p.1 p.2) = some (b, rest) ↔ _
  simp [Option.bind_eq_some_iff]

theorem pure_eq_some {a b : α} :
    (pure a : TextReader α) s = some (b, rest) ↔ a = b ∧ s = rest := by
  change some (a, s) = some (b, rest) ↔ _
  simp

theorem whole_eq_some {r : TextReader α} {a : α} : whole r s = some a ↔ r s = some (a, []) := by
  unfold whole
  split
  · rename_i read
    simp [read]
  · rename_i unread
    simp only [reduceCtorEq, false_iff]
    exact unread a

/-! ## Numbers and characters -/

/-- A number takes digits from the beginning. -/
theorem number_eq_some {least most n : Nat} (h : number least most s = some (n, rest)) :
    ∃ ds, s = ds ++ rest ∧ AreDigits ds ∧ least ≤ ds.length ∧ ds.length ≤ most ∧
      n = Nat.ofDigitChars 10 ds 0 := by
  simp only [number] at h
  split at h
  · rename_i long
    obtain ⟨rfl, rfl⟩ := Prod.mk.inj (Option.some.inj h)
    generalize taken : (s.take most).takeWhile Char.isDigit = ds at *
    have first : ds <+: s.take most := taken ▸ List.takeWhile_prefix _
    have digits : AreDigits ds := taken ▸ .takeWhile _
    obtain ⟨later, split⟩ := first.trans (List.take_prefix most s)
    refine ⟨ds, ?_, digits, long, ?_, rfl⟩
    · rw [← split, List.drop_left]
    · exact Nat.le_trans first.length_le (List.length_take_le most s)
  · cases h

theorem number_self_eq_some {width n : Nat} (h : number width width s = some (n, rest)) :
    ∃ ds, s = ds ++ rest ∧ AreDigits ds ∧ ds.length = width ∧ n = Nat.ofDigitChars 10 ds 0 := by
  obtain ⟨ds, split, digits, least, most, spelled⟩ := number_eq_some h
  exact ⟨ds, split, digits, Nat.le_antisymm most least, spelled⟩

theorem oneOf_eq_some {allowed : List Char} {c : Char} :
    oneOf allowed s = some (c, rest) ↔ c ∈ allowed ∧ s = c :: rest := by
  cases s with
  | nil => simp [oneOf]
  | cons first later =>
    rw [oneOf]
    split
    · rename_i allowed'
      simp only [Option.some.injEq, Prod.mk.injEq, List.cons.injEq]
      constructor
      · rintro ⟨rfl, rfl⟩
        exact ⟨allowed', rfl, rfl⟩
      · exact fun h => h.2
    · rename_i foreign
      simp only [reduceCtorEq, List.cons.injEq, false_iff]
      rintro ⟨allowed', rfl, -⟩
      exact foreign allowed'

theorem char_eq_some {c : Char} {u : Unit} :
    char c s = some (u, rest) ↔ s = c :: rest := by
  rw [char, bind_eq_some]
  simp only [oneOf_eq_some, List.mem_singleton, pure_eq_some, true_and]
  constructor
  · rintro ⟨_, _, ⟨rfl, rfl⟩, rfl⟩
    rfl
  · rintro rfl
    exact ⟨c, rest, ⟨rfl, rfl⟩, rfl⟩

theorem within_eq_some {least greatest n : Nat} {r : TextReader Nat} :
    within least greatest r s = some (n, rest) ↔
      r s = some (n, rest) ∧ least ≤ n ∧ n ≤ greatest := by
  rw [within, bind_eq_some]
  constructor
  · rintro ⟨m, between, read, h⟩
    split at h
    · rename_i inside
      obtain ⟨rfl, rfl⟩ := pure_eq_some.mp h
      exact ⟨read, inside⟩
    · cases h
  · rintro ⟨read, inside⟩
    exact ⟨n, rest, read, by rw [if_pos inside]; rfl⟩

/-! ## Fractions and zones -/

/-- A fraction and the nanoseconds in it; what is past the ninth place does not count. -/
def IsFraction (places : List Char) (nanoseconds : Nat) : Prop :=
  places = [] ∧ nanoseconds = 0 ∨
    ∃ ds, places = '.' :: ds ∧ AreDigits ds ∧
      nanoseconds = Nat.ofDigitChars 10 (ds.take 9) 0 * tenTo (9 - (ds.take 9).length)

theorem IsFraction.lt {places : List Char} {n : Nat} (h : IsFraction places n) :
    n < 1000000000 := by
  rcases h with ⟨-, rfl⟩ | ⟨ds, -, digits, rfl⟩
  · decide
  · have kept : AreDigits (ds.take 9) := fun c hc => digits c (List.mem_of_mem_take hc)
    have few : (ds.take 9).length ≤ 9 := List.length_take_le 9 ds
    have small := kept.ofDigitChars_lt
    calc Nat.ofDigitChars 10 (ds.take 9) 0 * tenTo (9 - (ds.take 9).length)
      _ < tenTo (ds.take 9).length * tenTo (9 - (ds.take 9).length) :=
        Nat.mul_lt_mul_of_pos_right small (tenTo_pos _)
      _ = 10 ^ 9 := by
        rw [tenTo, tenTo, Nat.pow_eq, Nat.pow_eq, ← Nat.pow_add, Nat.add_sub_cancel' few]

theorem fraction_eq_some {n : Nat} (h : fraction s = some (n, rest)) :
    ∃ places, s = places ++ rest ∧ IsFraction places n := by
  unfold fraction at h
  split at h
  · rename_i later
    dsimp only at h
    split at h
    · cases h
    · obtain ⟨rfl, rfl⟩ := Prod.mk.inj (Option.some.inj h)
      obtain ⟨beyond, split⟩ := List.takeWhile_prefix (l := later) Char.isDigit
      refine ⟨'.' :: later.takeWhile Char.isDigit, ?_, .inr ⟨_, rfl, .takeWhile later, rfl⟩⟩
      have dropped : later.drop (later.takeWhile Char.isDigit).length = beyond := by
        conv => lhs; arg 2; rw [← split]
        exact List.drop_left
      rw [dropped, List.cons_append, split]
  · cases h
    exact ⟨[], rfl, .inl ⟨rfl, rfl⟩⟩

/-- A zone as RFC 3339 has it, and its seconds east of Greenwich. -/
def IsZone (text : List Char) (offset : Int) : Prop :=
  (text = ['Z'] ∨ text = ['z']) ∧ offset = 0 ∨
    ∃ sign hours minutes, text = sign :: (hours ++ ':' :: minutes) ∧
      AreDigits hours ∧ hours.length = 2 ∧ AreDigits minutes ∧ minutes.length = 2 ∧
      offset = (if sign = '+' then 1 else -1) *
        (Nat.ofDigitChars 10 hours 0 * 3600 + Nat.ofDigitChars 10 minutes 0 * 60 : Nat)

theorem zone_eq_some {offset : Int} (h : zone (char ':') zoneMinutes s = some (offset, rest)) :
    ∃ text, s = text ++ rest ∧ IsZone text offset := by
  unfold zone at h
  split at h
  · cases h
    exact ⟨['Z'], rfl, .inl ⟨.inl rfl, rfl⟩⟩
  · cases h
    exact ⟨['z'], rfl, .inl ⟨.inr rfl, rfl⟩⟩
  · obtain ⟨sign, signed, read, h⟩ := bind_eq_some.mp h
    obtain ⟨hour, houred, readHour, h⟩ := bind_eq_some.mp h
    obtain ⟨u, parted, separated, h⟩ := bind_eq_some.mp h
    obtain ⟨minute, done, readMinute, h⟩ := bind_eq_some.mp h
    obtain ⟨rfl, rfl⟩ := pure_eq_some.mp h
    obtain ⟨-, rfl⟩ := oneOf_eq_some.mp read
    obtain ⟨hours, rfl, hourDigits, hourWidth, rfl⟩ := number_self_eq_some readHour
    obtain rfl := char_eq_some.mp separated
    obtain ⟨minutes, rfl, minuteDigits, minuteWidth, rfl⟩ :=
      number_self_eq_some (within_eq_some.mp readMinute).1
    refine ⟨sign :: (hours ++ ':' :: minutes), by simp, .inr ⟨sign, hours, minutes, rfl, hourDigits,
      hourWidth, minuteDigits, minuteWidth, ?_⟩⟩
    generalize Nat.ofDigitChars 10 hours 0 = hour
    generalize Nat.ofDigitChars 10 minutes 0 = minute
    split <;> omega

end

/-! ## Characters that are not taken -/

/-- A reader that fails before it takes a character. -/
def Avoids {α : Type} (c : Char) (r : TextReader α) : Prop :=
  ∀ s a rest, r s = some (a, rest) → ∃ used, s = used ++ rest ∧ c ∉ used

namespace Avoids

variable {α β : Type} {c : Char}

theorem whole {r : TextReader α} (h : Avoids c r) {s : List Char} {a : α}
    (read : TextReader.whole r s = some a) : c ∉ s := by
  obtain ⟨used, split, avoided⟩ := h s a [] (whole_eq_some.mp read)
  rwa [split, List.append_nil]

theorem pure (a : α) : Avoids c (Pure.pure a : TextReader α) := by
  intro s b rest read
  obtain ⟨-, rfl⟩ := pure_eq_some.mp read
  exact ⟨[], rfl, List.not_mem_nil⟩

theorem bind {r : TextReader α} {f : α → TextReader β} (first : Avoids c r)
    (next : ∀ a, Avoids c (f a)) : Avoids c (r >>= f) := by
  intro s b rest read
  obtain ⟨a, between, read, later⟩ := bind_eq_some.mp read
  obtain ⟨used, rfl, avoided⟩ := first s a between read
  obtain ⟨used', rfl, avoided'⟩ := next a between b rest later
  exact ⟨used ++ used', (List.append_assoc ..).symm, by simp [avoided, avoided']⟩

theorem number {least most : Nat} (h : c.isDigit = false) :
    Avoids c (TextReader.number least most) := by
  intro s n rest read
  obtain ⟨ds, split, digits, -⟩ := number_eq_some read
  refine ⟨ds, split, fun taken => ?_⟩
  rw [digits c taken] at h
  cases h

theorem digits (h : c.isDigit = false) : Avoids c TextReader.digits := fun s n rest read =>
  number h s n rest read

theorem oneOf {allowed : List Char} (h : c ∉ allowed) : Avoids c (TextReader.oneOf allowed) := by
  intro s a rest read
  obtain ⟨taken, rfl⟩ := oneOf_eq_some.mp read
  refine ⟨[a], rfl, fun same => h ?_⟩
  rwa [List.mem_singleton.mp same]

theorem char {c' : Char} (h : c ≠ c') : Avoids c (TextReader.char c') := by
  intro s u rest read
  exact ⟨[c'], char_eq_some.mp read, by simpa using h⟩

theorem within {least greatest : Nat} {r : TextReader Nat} (h : Avoids c r) :
    Avoids c (TextReader.within least greatest r) := fun s n rest read =>
  h s n rest (within_eq_some.mp read).1

/-- Skipping characters of a kind avoids the others. -/
theorem skip {p : Char → Bool} {s : List Char} (h : p c = false) :
    ∃ used, s = used ++ s.dropWhile p ∧ c ∉ used := by
  refine ⟨s.takeWhile p, List.takeWhile_append_dropWhile.symm, fun taken => ?_⟩
  have kind := List.all_eq_true.mp List.all_takeWhile c taken
  rw [h] at kind
  cases kind

theorem blanks (h : Text.isBlank c = false) : Avoids c TextReader.blanks := by
  intro s u rest read
  cases read
  exact skip h

theorem colonsAndBlanks (colon : c ≠ ':') (blank : Text.isBlank c = false) :
    Avoids c TextReader.colonsAndBlanks := by
  intro s u rest read
  cases read
  exact skip (by simp [colon, blank])

theorem fraction (point : c ≠ '.') (digit : c.isDigit = false) : Avoids c TextReader.fraction := by
  intro s n rest read
  obtain ⟨places, split, none | some⟩ := fraction_eq_some read
  · exact ⟨places, split, by simp [none.1]⟩
  · obtain ⟨ds, rfl, digits, -⟩ := some
    refine ⟨_, split, fun taken => ?_⟩
    rcases List.mem_cons.mp taken with same | taken
    · exact point same
    · rw [digits c taken] at digit
      cases digit

theorem optionalMinutes (h : c.isDigit = false) : Avoids c TextReader.optionalMinutes := by
  intro s n rest read
  unfold TextReader.optionalMinutes at read
  split at read
  · cases read
    exact ⟨[], rfl, List.not_mem_nil⟩
  · exact within (number h) _ n rest read

theorem zone {separator : TextReader Unit} {minutes : TextReader Nat}
    (foreign : c ∉ ['Z', 'z', '+', '-', '−']) (digit : c.isDigit = false)
    (between : Avoids c separator) (last : Avoids c minutes) :
    Avoids c (TextReader.zone separator minutes) := by
  simp only [List.mem_cons, List.not_mem_nil, or_false, not_or] at foreign
  obtain ⟨upper, lower, signs⟩ := foreign
  have signed : Avoids c (TextReader.oneOf ['+', '-', '−']) := oneOf (by simpa using signs)
  intro s offset rest read
  unfold TextReader.zone at read
  split at read
  · cases read
    exact ⟨['Z'], rfl, by simpa using upper⟩
  · cases read
    exact ⟨['z'], rfl, by simpa using lower⟩
  · exact (signed.bind fun _ => (number digit).bind fun _ => between.bind fun _ =>
      last.bind fun _ => pure _) _ offset rest read

end Avoids

end SqlCompose.TextReader
