import SqlCompose.Proofs.KeySpelling

/-!
# Integers in columns

A column of an integer type may hold an integer or a text that spells one. Texts are read digit by
digit against the range of the type; the main statement says that this comes to the same as reading
all digits as one number, however many there are, and looking at the range afterwards. So an integer
and the text that is written for it are read alike.
-/

namespace SqlCompose

/-- Texts of an optional sign and decimal digits, and the integers that they spell. A minus sign is
for signed types only. -/
inductive Spells (signed : Bool) : List Char → Int → Prop where
  | digits {ds : List Char} : ds ≠ [] → AreDigits ds →
      Spells signed ds (Nat.ofDigitChars 10 ds 0 : Nat)
  | plus {ds : List Char} : ds ≠ [] → AreDigits ds →
      Spells signed ('+' :: ds) (Nat.ofDigitChars 10 ds 0 : Nat)
  | minus {ds : List Char} : signed = true → ds ≠ [] → AreDigits ds →
      Spells signed ('-' :: ds) (-(Nat.ofDigitChars 10 ds 0 : Nat))

theorem spells_repr {signed : Bool} {n : Int} (h : n < 0 → signed = true) :
    Spells signed (Int.repr n).toList n := by
  rw [Int.repr_eq_if]
  split
  · rename_i natural
    rw [Nat.toList_repr]
    have own : Spells signed (Nat.toDigits 10 n.toNat) _ :=
      .digits Nat.toDigits_ne_nil (.toDigits n.toNat)
    rwa [Nat.ofDigitChars_ten_toDigits, Int.toNat_of_nonneg natural] at own
  · rename_i negative
    rw [String.toList_append, Nat.toList_repr]
    have own := Spells.minus (h (by omega)) Nat.toDigits_ne_nil (.toDigits (-n).toNat)
    rw [Nat.ofDigitChars_ten_toDigits, Int.toNat_of_nonneg (by omega), Int.neg_neg] at own
    exact own

theorem Spells.signed {signed : Bool} {s : List Char} {n : Int} (h : Spells signed s n) :
    Spells true s n := by
  cases h with
  | digits nonempty digits => exact .digits nonempty digits
  | plus nonempty digits => exact .plus nonempty digits
  | minus _ nonempty digits => exact .minus rfl nonempty digits

/-- A text spells one integer at most. -/
theorem Spells.unique {signed : Bool} {s : List Char} {m n : Int} (h : Spells signed s m)
    (h' : Spells signed s n) : m = n := by
  cases h with
  | digits _ digits =>
    cases h' with
    | digits => rfl
    | plus => exact absurd (digits _ List.mem_cons_self) (by decide)
    | minus => exact absurd (digits _ List.mem_cons_self) (by decide)
  | plus =>
    cases h' with
    | digits _ digits => exact absurd (digits _ List.mem_cons_self) (by decide)
    | plus => rfl
  | minus =>
    cases h' with
    | digits _ digits => exact absurd (digits _ List.mem_cons_self) (by decide)
    | minus => rfl

/-! ## Digits against a range -/

namespace IntegerRange

variable {r : IntegerRange} {sign n : Int} {s ds : List Char}

/-- An integer of the range. -/
def Has (r : IntegerRange) (n : Int) : Prop := r.least ≤ n ∧ n ≤ r.greatest

instance (r : IntegerRange) (n : Int) : Decidable (r.Has n) :=
  inferInstanceAs (Decidable (_ ∧ _))

theorem check_eq_ok_iff {m : Int} : r.check m = .ok n ↔ n = m ∧ r.Has m := by
  constructor
  · intro checked
    obtain ⟨rfl, inside⟩ := mem_of_check checked
    exact ⟨rfl, inside⟩
  · rintro ⟨rfl, least, greatest⟩
    rw [check, if_neg (by omega), if_neg (by omega)]

theorem le_ofDigitChars (ds : List Char) (m : Nat) : m ≤ Nat.ofDigitChars 10 ds m := by
  rw [Nat.ofDigitChars_eq_ofDigitChars_zero]
  calc m
    _ ≤ 10 ^ ds.length * m := Nat.le_mul_of_pos_left m (Nat.pow_pos (by decide))
    _ ≤ 10 ^ ds.length * m + Nat.ofDigitChars 10 ds 0 := Nat.le_add_right ..

/-- Digits whose number lies in the range are read: each number on the way lies between zero and
that number. -/
theorem readDigits_of_has (signs : sign = 1 ∨ sign = -1) (zero : r.Has 0) (digits : AreDigits ds)
    {m : Nat} (inside : r.Has (sign * (Nat.ofDigitChars 10 ds m : Nat))) :
    r.readDigits sign (sign * m) ds = .ok (sign * (Nat.ofDigitChars 10 ds m : Nat)) := by
  induction ds generalizing m with
  | nil => rfl
  | cons c rest ih =>
    obtain ⟨digit, digits⟩ := AreDigits.cons_iff.mp digits
    rw [Nat.ofDigitChars_cons] at inside ⊢
    have between := le_ofDigitChars rest (10 * m + (c.toNat - '0'.toNat))
    have next : sign * m * 10 + sign * (c.toNat - '0'.toNat : Nat) =
        sign * (10 * m + (c.toNat - '0'.toNat) : Nat) := by
      push_cast
      grind
    have checked : r.Has (sign * (10 * m + (c.toNat - '0'.toNat) : Nat)) := by
      obtain ⟨least, greatest⟩ := inside
      obtain ⟨nonpositive, nonnegative⟩ := zero
      generalize 10 * m + (c.toNat - '0'.toNat) = soFar at *
      rcases signs with rfl | rfl
      · constructor <;> omega
      · constructor <;> omega
    rw [readDigits, if_pos digit, next, check_eq_ok_iff.mpr ⟨rfl, checked⟩]
    exact ih digits inside

/-- Reading digit by digit comes to the same as looking at the whole number. -/
theorem readDigits_eq_ok_iff (signs : sign = 1 ∨ sign = -1) (zero : r.Has 0) (nonempty : ds ≠ []) :
    r.readDigits sign 0 ds = .ok n ↔
      AreDigits ds ∧ n = sign * (Nat.ofDigitChars 10 ds 0 : Nat) ∧ r.Has n := by
  constructor
  · intro read
    obtain ⟨digits, spelled⟩ := readDigits_eq_ok read
    rw [Int.zero_mul, Int.zero_add] at spelled
    exact ⟨digits, spelled, mem_of_readDigits nonempty read⟩
  · rintro ⟨digits, rfl, inside⟩
    simpa using readDigits_of_has signs zero digits inside

theorem read_minus (nonempty : ds ≠ []) : r.read ('-' :: ds) =
    if r.least < 0 then r.readDigits (-1) 0 ds else .error .invalidDigit := by
  obtain ⟨c, rest, rfl⟩ := List.exists_cons_of_ne_nil nonempty
  rfl

theorem read_plus (nonempty : ds ≠ []) : r.read ('+' :: ds) = r.readDigits 1 0 ds := by
  obtain ⟨c, rest, rfl⟩ := List.exists_cons_of_ne_nil nonempty
  rfl

theorem read_digits (nonempty : ds ≠ []) (digits : AreDigits ds) :
    r.read ds = r.readDigits 1 0 ds := by
  obtain ⟨c, rest, rfl⟩ := List.exists_cons_of_ne_nil nonempty
  exact read_cons_of_isDigit (digits c List.mem_cons_self) rest

theorem spells_of_read (zero : r.Has 0) (h : r.read s = .ok n) :
    Spells (decide (r.least < 0)) s n := by
  unfold read at h
  split at h
  · cases h
  · cases h
  · cases h
  · rename_i ds alone
    have nonempty : ds ≠ [] := fun none => alone (none ▸ rfl)
    obtain ⟨digits, rfl, -⟩ := (readDigits_eq_ok_iff (.inl rfl) zero nonempty).mp h
    rw [Int.one_mul]
    exact .plus nonempty digits
  · rename_i ds alone
    have nonempty : ds ≠ [] := fun none => alone (none ▸ rfl)
    split at h
    · rename_i signed
      obtain ⟨digits, rfl, -⟩ := (readDigits_eq_ok_iff (.inr rfl) zero nonempty).mp h
      rw [Int.neg_mul, Int.one_mul]
      exact .minus (decide_eq_true signed) nonempty digits
    · cases h
  · rename_i nonempty _ _ _ _
    obtain ⟨digits, rfl, -⟩ := (readDigits_eq_ok_iff (.inl rfl) zero nonempty).mp h
    rw [Int.one_mul]
    exact .digits nonempty digits

/-- A text is read as an integer of a range if it spells it. -/
theorem read_eq_ok_iff (zero : r.Has 0) :
    r.read s = .ok n ↔ Spells (decide (r.least < 0)) s n ∧ r.Has n := by
  constructor
  · intro read
    exact ⟨spells_of_read zero read, mem_of_read read⟩
  · rintro ⟨spelled, inside⟩
    cases spelled with
    | digits nonempty digits =>
      rw [read_digits nonempty digits, readDigits_eq_ok_iff (.inl rfl) zero nonempty]
      exact ⟨digits, (Int.one_mul _).symm, inside⟩
    | plus nonempty digits =>
      rw [read_plus nonempty, readDigits_eq_ok_iff (.inl rfl) zero nonempty]
      exact ⟨digits, (Int.one_mul _).symm, inside⟩
    | minus signed nonempty digits =>
      rw [read_minus nonempty, if_pos (of_decide_eq_true signed),
        readDigits_eq_ok_iff (.inr rfl) zero nonempty]
      exact ⟨digits, by rw [Int.neg_mul, Int.one_mul], inside⟩

end IntegerRange

/-! ## Columns of integer types -/

/-- Whether a type has negative numbers, and texts with a minus sign. -/
def IntegerType.isSigned : IntegerType → Bool
  | .i16 => true
  | .i32 => true
  | .i64 => true
  | .u32 => false

theorem IntegerType.decide_least_range (t : IntegerType) :
    decide (t.range.least < 0) = t.isSigned := by
  cases t <;> decide

theorem IntegerType.range_has_zero (t : IntegerType) : t.range.Has 0 := by
  cases t <;> decide

theorem IntegerType.isSigned_of_has {t : IntegerType} {n : Int} (inside : t.range.Has n)
    (negative : n < 0) : t.isSigned = true := by
  rw [← t.decide_least_range]
  exact decide_eq_true (Int.lt_of_le_of_lt inside.1 negative)

/-- Every integer type lies within the integers that values hold. -/
theorem IntegerType.toInt_ofInt_of_has {t : IntegerType} {n : Int} (inside : t.range.Has n) :
    (Int64.ofInt n).toInt = n := by
  have within : -2 ^ 63 ≤ t.range.least ∧ t.range.greatest < 2 ^ 63 := by
    cases t <;> decide
  obtain ⟨least, greatest⟩ := inside
  exact Int64.toInt_ofInt_of_le (by omega) (by omega)

example : [IntegerType.i16, .i32, .i64, .u32].map IntegerType.range =
    [⟨-32768, 32767⟩, ⟨-2147483648, 2147483647⟩,
      ⟨-9223372036854775808, 9223372036854775807⟩, ⟨0, 4294967295⟩] := by decide

namespace Except

variable {ε ε' α : Type} {x : Except ε α}

theorem mapError_eq_ok_iff {f : ε → ε'} {a : α} : x.mapError f = .ok a ↔ x = .ok a := by
  cases x with
  | error e => exact ⟨nofun, nofun⟩
  | ok b =>
    constructor
    · rintro ⟨⟩
      rfl
    · rintro ⟨⟩
      rfl

theorem toOption_eq_of_ok_iff {y : Except ε' α} (h : ∀ a, x = .ok a ↔ y = .ok a) :
    x.toOption = y.toOption := by
  cases x with
  | ok a =>
    rw [(h a).mp rfl]
    rfl
  | error e =>
    cases y with
    | ok a => cases (h a).mpr rfl
    | error e' => rfl

end Except

namespace Value

variable (t : IntegerType) (nullable : Bool) (column : String)

/-- The value as it comes from a connection that delivers integers as text. -/
def spelled : Value → Value
  | .int n => .text (Int.repr n.toInt)
  | v => v

theorem toInteger_text_eq_ok_iff {t : IntegerType} {s : String} {n : Int} :
    (text s).toInteger t = .ok n ↔
      Spells t.isSigned (Text.trim s.toList) n ∧ t.range.Has n := by
  rw [← t.decide_least_range, ← IntegerRange.read_eq_ok_iff t.range_has_zero]
  exact Except.mapError_eq_ok_iff

theorem toInteger_int_eq_ok_iff {t : IntegerType} {n : Int64} {m : Int} :
    (int n).toInteger t = .ok m ↔ m = n.toInt ∧ t.range.Has n.toInt := by
  rw [← IntegerRange.check_eq_ok_iff]
  exact Except.mapError_eq_ok_iff

theorem decode_integer_eq_ok_iff {v w : Value} (present : v.isNull = false) :
    v.decode ⟨.integer t, nullable⟩ column = .ok w ↔
      ∃ n, v.toInteger t = .ok n ∧ w = .int (Int64.ofInt n) := by
  rw [decode, if_neg (by simp [present]), Except.mapError_eq_ok_iff, readAs]
  cases v.toInteger t with
  | error e => simp [Except.map]
  | ok n => simp [Except.map, eq_comm]

theorem decode_text_eq_ok_iff {s : String} {w : Value} :
    (text s).decode ⟨.integer t, nullable⟩ column = .ok w ↔
      ∃ n, Spells t.isSigned (Text.trim s.toList) n ∧ t.range.Has n ∧
        w = .int (Int64.ofInt n) := by
  rw [decode_integer_eq_ok_iff t nullable column rfl]
  simp only [toInteger_text_eq_ok_iff, and_assoc]

theorem decode_int_eq_ok_iff {n : Int64} {w : Value} :
    (int n).decode ⟨.integer t, nullable⟩ column = .ok w ↔ t.range.Has n.toInt ∧ w = .int n := by
  rw [decode_integer_eq_ok_iff t nullable column rfl]
  simp only [toInteger_int_eq_ok_iff, and_assoc, exists_eq_left, Int64.ofInt_toInt]

/-- An integer and the text that is written for it are decoded alike. -/
theorem decode_spelled_eq_ok_iff (v : Value) {w : Value} :
    v.spelled.decode ⟨.integer t, nullable⟩ column = .ok w ↔
      v.decode ⟨.integer t, nullable⟩ column = .ok w := by
  cases v with
  | int n =>
    rw [decode_int_eq_ok_iff, spelled, decode_text_eq_ok_iff,
      (isInteger_repr n.toInt).trim_eq]
    constructor
    · rintro ⟨m, spells, inside, rfl⟩
      obtain rfl := spells.signed.unique (spells_repr fun _ => rfl)
      exact ⟨inside, by rw [Int64.ofInt_toInt]⟩
    · rintro ⟨inside, rfl⟩
      exact ⟨n.toInt, spells_repr (IntegerType.isSigned_of_has inside), inside,
        by rw [Int64.ofInt_toInt]⟩
  | _ => rfl

end Value

/-! ## Rows -/

namespace Row

variable (t : IntegerType) (nullable : Bool)

/-- The row as it comes from a connection that delivers integers as text. -/
def spelled (r : Row) : Row :=
  ⟨r.columns, r.values.map Value.spelled⟩

theorem get_spelled_eq_ok_iff (r : Row) (column : String) {w : Value} :
    r.spelled.get ⟨.integer t, nullable⟩ column = .ok w ↔
      r.get ⟨.integer t, nullable⟩ column = .ok w := by
  have same : r.spelled.value? column = (r.value? column).map Value.spelled := by
    rw [value?, value?, spelled]
    cases r.columns.idxOf? column with
    | none => rfl
    | some i => simp
  rw [get, get, same]
  cases r.value? column with
  | none => rfl
  | some v => exact v.decode_spelled_eq_ok_iff t nullable column

theorem getAt_spelled_eq_ok_iff (r : Row) (position : Nat) {w : Value} :
    r.spelled.getAt ⟨.integer t, nullable⟩ position = .ok w ↔
      r.getAt ⟨.integer t, nullable⟩ position = .ok w := by
  rw [getAt, getAt, spelled, List.getElem?_map]
  cases r.values[position]? with
  | none => rfl
  | some v => exact v.decode_spelled_eq_ok_iff t nullable _

end Row

/-- A text is decoded as an integer type just if it spells, blanks around it aside, an integer of
the type's range, and then as that integer. An integer is decoded as itself if it lies in the range.
So a column is decoded alike, by name and by position, whether its integers come as such or as the
texts that are written for them. -/
theorem Value.decode_integerTexts (t : IntegerType) (nullable : Bool) :
    (∀ s column w, (text s).decode ⟨.integer t, nullable⟩ column = .ok w ↔
      ∃ n : Int, Spells t.isSigned (Text.trim s.toList) n ∧ t.range.Has n ∧
        w = .int (Int64.ofInt n)) ∧
    (∀ n : Int, t.range.Has n → (Int64.ofInt n).toInt = n) ∧
    (∀ n column w, (int n).decode ⟨.integer t, nullable⟩ column = .ok w ↔
      t.range.Has n.toInt ∧ w = .int n) ∧
    (∀ n column, ((text (Int.repr n.toInt)).decode ⟨.integer t, nullable⟩ column).toOption =
      ((int n).decode ⟨.integer t, nullable⟩ column).toOption) ∧
    ∀ r : Row,
      (∀ column, (r.spelled.get ⟨.integer t, nullable⟩ column).toOption =
        (r.get ⟨.integer t, nullable⟩ column).toOption) ∧
      ∀ position, (r.spelled.getAt ⟨.integer t, nullable⟩ position).toOption =
        (r.getAt ⟨.integer t, nullable⟩ position).toOption := by
  refine ⟨fun s column w => decode_text_eq_ok_iff t nullable column,
    fun n => IntegerType.toInt_ofInt_of_has,
    fun n column w => decode_int_eq_ok_iff t nullable column, fun n column => ?alike,
    fun r => ⟨fun column => ?byName, fun position => ?byPosition⟩⟩
  case alike =>
    exact Except.toOption_eq_of_ok_iff fun w =>
      decode_spelled_eq_ok_iff t nullable column (.int n)
  case byName =>
    exact Except.toOption_eq_of_ok_iff fun w => r.get_spelled_eq_ok_iff t nullable column
  case byPosition =>
    exact Except.toOption_eq_of_ok_iff fun w => r.getAt_spelled_eq_ok_iff t nullable position

theorem Value.decode_integerTexts_greatest :
    IntegerType.u32.range.Has 4294967295 ∧ (Int64.ofInt 4294967295).toInt = 4294967295 ∧
      (text " +004294967295\n").decode ⟨.integer .u32, false⟩ "id" = .ok (.int 4294967295) ∧
      ∀ w, (text "4294967296").decode ⟨.integer .u32, false⟩ "id" ≠ .ok w := by
  have inside : IntegerType.u32.range.Has 4294967295 := by decide
  obtain ⟨texts, kept, -⟩ := decode_integerTexts .u32 false
  refine ⟨inside, kept _ inside, (texts _ _ _).mpr ⟨4294967295, ?_, inside, rfl⟩, fun w read => ?_⟩
  · exact @Spells.plus _ "004294967295".toList (by decide) (by decide)
  · obtain ⟨n, spelled, within, -⟩ := (texts _ _ _).mp read
    obtain rfl := spelled.unique (@Spells.digits _ "4294967296".toList (by decide) (by decide))
    exact absurd within (by decide)

end SqlCompose
