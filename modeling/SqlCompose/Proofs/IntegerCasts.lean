import SqlCompose.Proofs.IntegerTexts
import SqlCompose.Proofs.Overrides

/-!
# Casts of integers

On PostgreSQL a cast is written behind its value. There the cast operator binds tighter than a sign,
so that `-5::smallint` is the negative of a cast and no cast of a negative number. `Reads` is this
grammar. The main statement says which integers of a declared type the rendering of their cast
denotes: all but the least one, whose digits alone are no number of the type.
-/

namespace SqlCompose

/-! ## Integer expressions -/

/-- The integer types that a field can be declared with. -/
inductive SqlInteger where
  | smallint
  | integer
  | bigint
deriving DecidableEq, Repr

namespace SqlInteger

def name : SqlInteger → String
  | .smallint => "smallint"
  | .integer => "integer"
  | .bigint => "bigint"

def range : SqlInteger → IntegerRange
  | .smallint => .signed 16
  | .integer => .signed 32
  | .bigint => .signed 64

theorem name_injective {t t' : SqlInteger} (h : t.name.toList = t'.name.toList) : t = t' := by
  cases t <;> cases t' <;> first | rfl | exact absurd h (by decide)

theorem colon_not_mem_name (t : SqlInteger) : ':' ∉ t.name.toList := by
  cases t <;> decide

/-- There is one negative number more than there are positive ones. -/
theorem least_range (t : SqlInteger) :
    t.range.least = -(t.range.greatest + 1) ∧ 0 < t.range.greatest := by
  cases t <;> decide

end SqlInteger

/-- Numbers without a sign, casts and signs. -/
inductive CastExpr where
  | number (n : Nat)
  | cast (e : CastExpr) (t : SqlInteger)
  | minus (e : CastExpr)
deriving DecidableEq, Repr

namespace CastExpr

/-- What an expression can stand for: a cast is made of operands only, and a sign stands before
everything. -/
inductive Rank where
  | operand
  | signed
deriving DecidableEq, Repr

/-- Texts of expressions of a rank. -/
inductive Reads : Rank → List Char → CastExpr → Prop where
  | number {ds : List Char} : ds ≠ [] → AreDigits ds →
      Reads .operand ds (.number (Nat.ofDigitChars 10 ds 0))
  | cast {s : List Char} {e : CastExpr} (t : SqlInteger) : Reads .operand s e →
      Reads .operand (s ++ ':' :: ':' :: t.name.toList) (.cast e t)
  | parens {s : List Char} {e : CastExpr} : Reads .signed s e →
      Reads .operand ('(' :: (s ++ [')'])) e
  | ofOperand {s : List Char} {e : CastExpr} : Reads .operand s e → Reads .signed s e
  | minus {s : List Char} {e : CastExpr} : Reads .signed s e → Reads .signed ('-' :: s) (.minus e)

/-- The type of an expression. Numbers are as wide as it takes. -/
def type? : CastExpr → Option SqlInteger
  | .number _ => none
  | .cast _ t => some t
  | .minus e => e.type?

/-- A number as a value of a type, if it is one. -/
def fit? : Option SqlInteger → Int → Option Int
  | none, n => some n
  | some t, n => if t.range.Has n then some n else none

/-- What an expression comes to; nothing when a number leaves the range of its type. -/
def value? : CastExpr → Option Int
  | .number n => some n
  | .cast e t => e.value?.bind (fit? (some t))
  | .minus e => e.value?.bind fun n => fit? e.type? (-n)

/-! ### One reading -/

theorem Reads.operand_ne_minus {s : List Char} {e : CastExpr} (h : Reads .operand s e) :
    ∃ c rest, s = c :: rest ∧ c ≠ '-' := by
  generalize rank : Rank.operand = r at h
  induction h with
  | number nonempty digits =>
    obtain ⟨c, rest, rfl⟩ := List.exists_cons_of_ne_nil nonempty
    refine ⟨c, rest, rfl, ?_⟩
    rintro rfl
    exact absurd (digits _ List.mem_cons_self) (by decide)
  | cast t _ ih =>
    obtain ⟨c, rest, rfl, other⟩ := ih rank
    exact ⟨c, _, List.cons_append, other⟩
  | parens => exact ⟨'(', _, rfl, by decide⟩
  | ofOperand => cases rank
  | minus => cases rank

/-- The last character tells a cast from parentheses. -/
theorem append_colons_ne_append_closing (t : SqlInteger) (s s' : List Char) :
    s ++ ':' :: ':' :: t.name.toList ≠ s' ++ [')'] := by
  intro same
  have last := congrArg List.getLast? same
  cases t <;> simp [SqlInteger.name] at last

/-- The last pair of colons parts a cast from its operand. -/
theorem eq_of_append_colons {a b x y : List Char} (hx : ':' ∉ x) (hy : ':' ∉ y)
    (h : a ++ ':' :: ':' :: x = b ++ ':' :: ':' :: y) : a = b ∧ x = y := by
  have apart {c x y : List Char} (hx : ':' ∉ x)
      (h : ':' :: ':' :: x = c ++ ':' :: ':' :: y) : c = [] := by
    match c with
    | [] => rfl
    | [_] =>
      simp only [List.singleton_append, List.cons.injEq] at h
      exact absurd (h.2.2 ▸ List.mem_cons_self) hx
    | _ :: _ :: c =>
      simp only [List.cons_append, List.cons.injEq] at h
      exact absurd (h.2.2 ▸ by simp) hx
  rcases List.append_eq_append_iff.mp h with ⟨c, rfl, rest⟩ | ⟨c, rfl, rest⟩
  · obtain rfl := apart hx rest
    simpa using rest
  · obtain rfl := apart hy rest
    simpa [eq_comm] using rest

theorem not_areDigits_append_colons {s x : List Char} : ¬ AreDigits (s ++ ':' :: x) :=
  fun digits => absurd (digits ':' (by simp)) (by decide)

theorem not_areDigits_parens {s : List Char} : ¬ AreDigits ('(' :: s) :=
  fun digits => absurd (digits '(' List.mem_cons_self) (by decide)

/-- A text is read as one expression at most. -/
theorem Reads.unique {r : Rank} {s : List Char} {e e' : CastExpr} (h : Reads r s e)
    (h' : Reads r s e') : e = e' := by
  -- Along the first reading; the text leaves no other last step to the second one.
  induction h generalizing e' with
  | @number ds nonempty digits =>
    generalize text : ds = s at h'
    cases h' with
    | number => rfl
    | cast => exact absurd (text ▸ digits) not_areDigits_append_colons
    | parens => exact absurd (text ▸ digits) not_areDigits_parens
  | @cast s e t first ih =>
    generalize text : s ++ ':' :: ':' :: t.name.toList = whole at h'
    cases h' with
    | number _ digits => exact absurd (text ▸ digits) not_areDigits_append_colons
    | cast t' first' =>
      obtain ⟨rfl, names⟩ :=
        eq_of_append_colons t.colon_not_mem_name t'.colon_not_mem_name text
      rw [ih first', SqlInteger.name_injective names]
    | @parens s' =>
      exact absurd text (append_colons_ne_append_closing t s ('(' :: s'))
  | @parens s e inside ih =>
    generalize text : '(' :: (s ++ [')']) = whole at h'
    cases h' with
    | number _ digits => exact absurd (text ▸ digits) not_areDigits_parens
    | @cast s' _ t => exact absurd text.symm (append_colons_ne_append_closing t s' ('(' :: s))
    | parens inside' =>
      obtain rfl := List.append_cancel_right (List.cons.inj text).2
      exact ih inside'
  | ofOperand first ih =>
    cases h' with
    | ofOperand first' => exact ih first'
    | minus =>
      obtain ⟨c, rest, same, other⟩ := first.operand_ne_minus
      exact absurd (List.cons.inj same).1.symm other
  | minus behind ih =>
    cases h' with
    | ofOperand first =>
      obtain ⟨c, rest, same, other⟩ := first.operand_ne_minus
      exact absurd (List.cons.inj same).1.symm other
    | minus behind' => rw [ih behind']

/-! ### Integers of a type -/

variable (t : SqlInteger)

/-- The cast of a number, with a sign before it for a negative one. -/
def ofInt (n : Int) : CastExpr :=
  if n < 0 then .minus (.cast (.number n.natAbs) t) else .cast (.number n.natAbs) t

theorem reads_toDigits (n : Nat) : Reads .operand (Nat.toDigits 10 n) (.number n) := by
  have own := Reads.number Nat.toDigits_ne_nil (.toDigits n)
  rwa [Nat.ofDigitChars_ten_toDigits] at own

/-- An integer with a cast behind it is the cast of its digits, whatever stands before them. -/
theorem reads_cast (n : Int) :
    Reads .signed (Int.repr n ++ "::" ++ t.name).toList (ofInt t n) := by
  have text : (Int.repr n ++ "::" ++ t.name).toList =
      (Int.repr n).toList ++ ':' :: ':' :: t.name.toList := by
    simp
  rw [text, Int.repr_eq_if, ofInt]
  split
  · rename_i natural
    rw [if_neg (by omega), Nat.toList_repr, show n.toNat = n.natAbs by omega]
    exact .ofOperand (.cast t (reads_toDigits _))
  · rename_i negative
    rw [if_pos (by omega), String.toList_append, Nat.toList_repr,
      show (-n).toNat = n.natAbs by omega]
    exact .minus (.ofOperand (.cast t (reads_toDigits _)))

/-- The cast of a number with its sign. -/
def ofWhole (n : Int) : CastExpr :=
  .cast (if n < 0 then .minus (.number n.natAbs) else .number n.natAbs) t

theorem reads_cast_parens (n : Int) :
    Reads .signed ("(" ++ Int.repr n ++ ")::" ++ t.name).toList (ofWhole t n) := by
  have text : ("(" ++ Int.repr n ++ ")::" ++ t.name).toList =
      '(' :: ((Int.repr n).toList ++ [')']) ++ ':' :: ':' :: t.name.toList := by
    simp
  rw [text]
  refine .ofOperand (.cast t (.parens ?_))
  rw [Int.repr_eq_if]
  split
  · rename_i natural
    rw [if_neg (by omega), Nat.toList_repr, show n.toNat = n.natAbs by omega]
    exact .ofOperand (reads_toDigits _)
  · rename_i negative
    rw [if_pos (by omega), String.toList_append, Nat.toList_repr,
      show (-n).toNat = n.natAbs by omega]
    exact .minus (.ofOperand (reads_toDigits _))

variable {t}

/-- The digits of an integer of a type are a number of the type, unless it is the least one. -/
theorem has_natAbs_iff {n : Int} (inside : t.range.Has n) :
    t.range.Has n.natAbs ↔ n ≠ t.range.least := by
  obtain ⟨least, positive⟩ := t.least_range
  unfold IntegerRange.Has at *
  omega

theorem value?_ofInt {n : Int} (inside : t.range.Has n) :
    (ofInt t n).value? = if n = t.range.least then none else some n := by
  have cast : (CastExpr.cast (.number n.natAbs) t).value? =
      if n = t.range.least then none else some (n.natAbs : Int) := by
    by_cases least : n = t.range.least
    · rw [if_pos least]
      exact if_neg fun fits => (has_natAbs_iff inside).mp fits least
    · rw [if_neg least]
      exact if_pos ((has_natAbs_iff inside).mpr least)
  unfold ofInt
  split
  · rename_i negative
    rw [value?, cast]
    split
    · rfl
    · rw [Option.bind_some, type?, fit?, show -(n.natAbs : Int) = n by omega, if_pos inside]
  · rename_i natural
    rw [cast, show (n.natAbs : Int) = n by omega]

theorem value?_ofWhole {n : Int} (inside : t.range.Has n) : (ofWhole t n).value? = some n := by
  have whole : (if n < 0 then minus (.number n.natAbs) else .number n.natAbs).value? = some n := by
    split
    · rename_i negative
      have own : (minus (.number n.natAbs)).value? = some (-(n.natAbs : Int)) := rfl
      rw [own, show -(n.natAbs : Int) = n by omega]
    · rename_i natural
      have own : (number n.natAbs).value? = some (n.natAbs : Int) := rfl
      rw [own, show (n.natAbs : Int) = n by omega]
  rw [ofWhole, value?, whole, Option.bind_some, fit?, if_pos inside]

end CastExpr

/-! ## Typed rows -/

namespace Values

open CastExpr

/-- What a cell comes to that shows an integer of its declared type. -/
structure CastsInteger (t : SqlInteger) (n : Int) (shown : Fragment) : Prop where
  written : shown.write .postgres .literal = .ok ⟨Int.repr n ++ "::" ++ t.name, []⟩
  /-- The text is read in one way: the digits are cast, and a sign stands before the cast. -/
  reads_iff : ∀ e, CastExpr.Reads .signed (Int.repr n ++ "::" ++ t.name).toList e ↔ e = ofInt t n
  /-- The number that is cast belongs to the type for all integers but the least one … -/
  fits_iff : t.range.Has n.natAbs ↔ n ≠ t.range.least
  /-- … so that the text denotes all of them but that one, for which it is a range error. -/
  value_eq : (ofInt t n).value? = if n = t.range.least then none else some n
  /-- With the integer between parentheses it would denote all of them. -/
  parens : ∃ e, CastExpr.Reads .signed ("(" ++ Int.repr n ++ ")::" ++ t.name).toList e ∧
    e.value? = some n

theorem castsInteger_typedValue {t : SqlInteger} {n : Int64} (inside : t.range.Has n.toInt)
    {f : Field} (declared : f.sqlType = some t.name) :
    CastsInteger t n.toInt (typedValue (Dialect.postgres.target .literal) f (.int n)) where
  written := by
    have operator : (Dialect.postgres.target .literal).features.has .castOperator = true := rfl
    rw [typedValue, declared]
    dsimp only
    rw [if_pos operator]
    simp [Fragment.arg, Fragment.text, Fragment.write, Piece.write, Piece.literal, Value.literal,
      String.join, String.append_assoc]
  reads_iff e :=
    ⟨fun read => read.unique (reads_cast t n.toInt), fun same => same ▸ reads_cast t n.toInt⟩
  fits_iff := has_natAbs_iff inside
  value_eq := value?_ofInt inside
  parens := ⟨_, reads_cast_parens t n.toInt, value?_ofWhole inside⟩

/-- Typed rows show an integer of a declared integer type as its digits with a cast behind them.
Read as PostgreSQL reads it, this denotes the integer if it is not the least one of its type, and is
a range error if it is. -/
theorem cellAt_castsInteger {v : Values} {table : Table} {first : List Value}
    {further : List (List Value)} (typed : v.source = .ok (.typed table first further))
    (unrefused : v.refused = none) :
    let t := Dialect.postgres.target .literal
    v.fragment t = laidOut t v.withOrder (first :: further)
        (fun row => table.fields.mapIdx (v.cellAt t row)) ∧
      ∀ (row : List Value) (i : Nat) (f : Field) (type : SqlInteger) (n : Int64),
        overrideOf? v.overrides f = none → f.sqlType = some type.name → row[i]? = some (.int n) →
          type.range.Has n.toInt → CastsInteger type n.toInt (v.cellAt t row i f) := by
  refine ⟨fragment_of_typed typed unrefused _, fun row i f type n plain declared held inside => ?_⟩
  have shown : v.cellAt (Dialect.postgres.target .literal) row i f =
      typedValue (Dialect.postgres.target .literal) f (.int n) := by
    rw [cellAt, cell, plain, List.getD_eq_getElem?_getD, held, Option.getD_some]
  rw [shown]
  exact castsInteger_typedValue inside declared

/-- Columns of the three types. -/
def levels : Table :=
  { name := "levels", aliasName := "level", fields :=
    [{ name := "low", column := "low", sqlType := some "smallint" },
      { name := "mean", column := "mean", sqlType := some "integer" },
      { name := "total", column := "total", sqlType := some "bigint" }] }

theorem cellAt_castsInteger_levels :
    let row : List Value := [.int (-32767), .int 2147483647, .int (-9223372036854775808)]
    let v := ofRows levels [row]
    let t := Dialect.postgres.target .literal
    let total : Field := { name := "total", column := "total", sqlType := some "bigint" }
    v.source = .ok (.typed levels row []) ∧ v.refused = none ∧
      v.fragment t = laidOut t false [row] (fun row => levels.fields.mapIdx (v.cellAt t row)) ∧
      levels.fields[2]? = some total ∧ overrideOf? v.overrides total = none ∧
      total.sqlType = some SqlInteger.bigint.name ∧
      row[2]? = some (.int (-9223372036854775808)) ∧
      SqlInteger.bigint.range.Has (Int64.toInt (-9223372036854775808)) ∧
      CastsInteger .bigint (Int64.toInt (-9223372036854775808)) (v.cellAt t row 2 total) := by
  intro row v t total
  have inside : SqlInteger.bigint.range.Has (Int64.toInt (-9223372036854775808)) := by decide
  obtain ⟨whole, cells⟩ := cellAt_castsInteger (v := v) rfl rfl
  exact ⟨rfl, rfl, whole, rfl, rfl, rfl, rfl, inside,
    cells row 2 total .bigint (-9223372036854775808) rfl rfl rfl inside⟩

/-- The least small integer belongs to the type, and its digits alone do not. -/
theorem not_denotes_least :
    let v := ofRows levels [[.int (-32768), .null, .null]]
    SqlInteger.smallint.range.Has (-32768) ∧
      (v.render .postgres .literal).toOption.map (·.sql) =
        some "VALUES (-32768::smallint, NULL::integer, NULL::bigint)" ∧
      (∀ e, CastExpr.Reads .signed "-32768::smallint".toList e → e.value? = none) ∧
      ∃ e, CastExpr.Reads .signed "(-32768)::smallint".toList e ∧ e.value? = some (-32768) := by
  intro v
  have inside : SqlInteger.smallint.range.Has (-32768) := by decide
  have shown : "-32768::smallint" = Int.repr (-32768) ++ "::" ++ SqlInteger.smallint.name := by
    decide
  refine ⟨inside, by decide +kernel, ?_, ?_⟩
  · intro e read
    rw [shown] at read
    rw [read.unique (reads_cast .smallint (-32768)), value?_ofInt inside]
    rfl
  · have whole := reads_cast_parens .smallint (-32768)
    exact ⟨_, whole, value?_ofWhole inside⟩

end Values

end SqlCompose
