import SqlCompose.Calendar.Timestamp
import SqlCompose.Number.Reading

/-!
# Decimal digits and the numbers they spell

Digits of a fixed width spell each number in one way, and digits without needless zeros are the ones
that are written for the number. Integers are read from digits as the numbers that they spell.
-/

namespace SqlCompose

/-- Only decimal digits. -/
def AreDigits (ds : List Char) : Prop :=
  ∀ c ∈ ds, c.isDigit = true

instance (ds : List Char) : Decidable (AreDigits ds) :=
  List.decidableBAll _ ds

/-- Digits as they are written for a number, with no zero before the others. -/
structure IsDecimal (ds : List Char) : Prop where
  nonempty : ds ≠ []
  digits : AreDigits ds
  unpadded : ds.head? = some '0' → ds = ['0']

namespace AreDigits

variable {a b ds : List Char}

theorem nil : AreDigits [] := by simp [AreDigits]

theorem cons_iff {c : Char} : AreDigits (c :: ds) ↔ c.isDigit = true ∧ AreDigits ds :=
  List.forall_mem_cons

theorem append_iff : AreDigits (a ++ b) ↔ AreDigits a ∧ AreDigits b :=
  List.forall_mem_append

theorem toDigits (n : Nat) : AreDigits (Nat.toDigits 10 n) := fun _ hc =>
  Nat.isDigit_of_mem_toDigits (by decide) (by decide) hc

theorem padded (width n : Nat) : AreDigits (Timestamp.padded width n) := by
  refine append_iff.mpr ⟨fun c hc => ?_, toDigits n⟩
  rw [(List.mem_replicate.mp hc).2]
  decide

theorem takeWhile (s : List Char) : AreDigits (s.takeWhile Char.isDigit) :=
  List.all_eq_true.mp List.all_takeWhile

/-- The number that a digit stands for. -/
theorem toNat_sub_lt {c : Char} (h : c.isDigit = true) : c.toNat - '0'.toNat < 10 := by
  have bounds := Char.isDigit_iff_toNat.mp h
  simp only [Char.reduceToNat] at bounds ⊢
  omega

theorem eq_of_toNat_sub_eq {c c' : Char} (h : c.isDigit = true) (h' : c'.isDigit = true)
    (same : c.toNat - '0'.toNat = c'.toNat - '0'.toNat) : c = c' := by
  have bounds := Char.isDigit_iff_toNat.mp h
  have bounds' := Char.isDigit_iff_toNat.mp h'
  have codes : c.toNat = c'.toNat := by
    simp only [Char.reduceToNat] at bounds bounds' same
    omega
  rw [← Char.ofNat_toNat c, codes, Char.ofNat_toNat]

/-- The first digit counts as many times as its place says. -/
theorem ofDigitChars_cons (c : Char) (ds : List Char) :
    Nat.ofDigitChars 10 (c :: ds) 0 =
      tenTo ds.length * (c.toNat - '0'.toNat) + Nat.ofDigitChars 10 ds 0 := by
  rw [tenTo, Nat.pow_eq, Nat.ofDigitChars_cons, Nat.mul_zero, Nat.zero_add,
    Nat.ofDigitChars_eq_ofDigitChars_zero]

theorem ofDigitChars_lt (h : AreDigits ds) : Nat.ofDigitChars 10 ds 0 < tenTo ds.length := by
  induction ds with
  | nil => decide
  | cons c rest ih =>
    obtain ⟨digit, digits⟩ := cons_iff.mp h
    have first : tenTo rest.length * (c.toNat - '0'.toNat) ≤ tenTo rest.length * 9 :=
      Nat.mul_le_mul_left _ (Nat.le_of_lt_succ (toNat_sub_lt digit))
    have later := ih digits
    rw [ofDigitChars_cons, List.length_cons, tenTo_succ]
    omega

/-- Digits of one width are told apart by the number they spell. -/
theorem eq_of_ofDigitChars_eq (ha : AreDigits a) (hb : AreDigits b) (width : a.length = b.length)
    (same : Nat.ofDigitChars 10 a 0 = Nat.ofDigitChars 10 b 0) : a = b := by
  induction a generalizing b with
  | nil => exact (List.eq_nil_of_length_eq_zero width.symm).symm
  | cons c rest ih =>
    cases b with
    | nil => cases width
    | cons c' rest' =>
      obtain ⟨digit, digits⟩ := cons_iff.mp ha
      obtain ⟨digit', digits'⟩ := cons_iff.mp hb
      have width' : rest.length = rest'.length := Nat.succ.inj width
      have small := ofDigitChars_lt digits
      have small' := ofDigitChars_lt digits'
      rw [ofDigitChars_cons, ofDigitChars_cons, ← width'] at same
      rw [← width'] at small'
      -- The first digits are the quotients by the power of the width, the others the remainders.
      have quotient := congrArg (· / tenTo rest.length) same
      have remainder := congrArg (· % tenTo rest.length) same
      simp only [Nat.mul_add_div (tenTo_pos _), Nat.div_eq_of_lt small,
        Nat.div_eq_of_lt small', Nat.mul_add_mod, Nat.mod_eq_of_lt small,
        Nat.mod_eq_of_lt small', Nat.add_zero] at quotient remainder
      rw [eq_of_toNat_sub_eq digit digit' quotient, ih digits digits' width' remainder]

end AreDigits

/-! ## Padded numbers -/

namespace Timestamp

theorem ofDigitChars_padded (width n : Nat) : Nat.ofDigitChars 10 (padded width n) 0 = n := by
  rw [padded, Nat.ofDigitChars_append, Nat.ofDigitChars_replicate_zero, Nat.mul_zero,
    Nat.ofDigitChars_ten_toDigits]

theorem length_padded {width n : Nat} (wide : 0 < width) (h : n < tenTo width) :
    (padded width n).length = width := by
  have fits := (Nat.length_toDigits_le_iff (by decide) wide).mpr h
  rw [padded, List.length_append, List.length_replicate]
  omega

/-- Digits are written for the number that they spell, at their width. -/
theorem padded_ofDigitChars {ds : List Char} (nonempty : ds ≠ []) (h : AreDigits ds) :
    padded ds.length (Nat.ofDigitChars 10 ds 0) = ds := by
  have wide := List.length_pos_iff.mpr nonempty
  exact AreDigits.eq_of_ofDigitChars_eq (.padded _ _) h (length_padded wide h.ofDigitChars_lt)
    (ofDigitChars_padded ..)

end Timestamp

/-! ## Decimals -/

theorem eq_zero_of_head?_toDigits {n : Nat} (h : (Nat.toDigits 10 n).head? = some '0') :
    n = 0 := by
  induction n using Nat.strongRecOn with
  | ind n ih =>
    rw [Nat.toDigits_eq_if (by decide)] at h
    split at h
    · exact Nat.digitChar_eq_zero.mp (Option.some.inj h)
    · rename_i large
      have first : (Nat.toDigits 10 (n / 10)).head? = some '0' := by
        cases digits : Nat.toDigits 10 (n / 10) with
        | nil => exact absurd digits Nat.toDigits_ne_nil
        | cons c rest => simpa [digits] using h
      have shorter := ih (n / 10) (by omega) first
      omega

theorem isDecimal_toDigits (n : Nat) : IsDecimal (Nat.toDigits 10 n) where
  nonempty := Nat.toDigits_ne_nil
  digits := .toDigits n
  unpadded := fun zero => by rw [eq_zero_of_head?_toDigits zero, Nat.toDigits_zero]

namespace IsDecimal

variable {ds : List Char}

/-- A decimal is written for the number that it spells. -/
theorem toDigits_ofDigitChars (h : IsDecimal ds) :
    Nat.toDigits 10 (Nat.ofDigitChars 10 ds 0) = ds := by
  have written := Timestamp.padded_ofDigitChars h.nonempty h.digits
  rw [Timestamp.padded] at written
  generalize ds.length - (Nat.toDigits 10 (Nat.ofDigitChars 10 ds 0)).length = zeros at written
  cases zeros with
  | zero => exact written
  | succ zeros =>
    have zero : ds = ['0'] := h.unpadded (by rw [← written]; rfl)
    rw [zero]
    decide

end IsDecimal

/-! ## Reading integers -/

namespace IntegerRange

variable {r : IntegerRange} {sign soFar n : Int} {ds : List Char}

theorem mem_of_check (h : r.check soFar = .ok n) : n = soFar ∧ r.least ≤ n ∧ n ≤ r.greatest := by
  unfold check at h
  split at h
  · cases h
  · split at h
    · cases h
    · cases h
      omega

/-- What is read are digits, and the number is the one that they continue. -/
theorem readDigits_eq_ok (h : r.readDigits sign soFar ds = .ok n) :
    AreDigits ds ∧
      n = soFar * (tenTo ds.length : Nat) + sign * (Nat.ofDigitChars 10 ds 0 : Nat) := by
  induction ds generalizing soFar with
  | nil =>
    cases h
    exact ⟨.nil, by simp⟩
  | cons c rest ih =>
    rw [readDigits] at h
    split at h
    · rename_i digit
      split at h
      · rename_i next checked
        obtain ⟨digits, spelled⟩ := ih h
        obtain ⟨rfl, -⟩ := mem_of_check checked
        refine ⟨AreDigits.cons_iff.mpr ⟨digit, digits⟩, ?_⟩
        rw [spelled, AreDigits.ofDigitChars_cons, List.length_cons, tenTo_succ]
        push_cast
        grind
      · cases h
    · cases h

/-- What is read of digits lies in the range. -/
theorem mem_of_readDigits (nonempty : ds ≠ []) (h : r.readDigits sign soFar ds = .ok n) :
    r.least ≤ n ∧ n ≤ r.greatest := by
  induction ds generalizing soFar with
  | nil => exact absurd rfl nonempty
  | cons c rest ih =>
    rw [readDigits] at h
    split at h
    · split at h
      · rename_i next checked
        by_cases last : rest = []
        · rw [last] at h
          cases h
          exact (mem_of_check checked).2
        · exact ih last h
      · cases h
    · cases h

end IntegerRange

end SqlCompose
