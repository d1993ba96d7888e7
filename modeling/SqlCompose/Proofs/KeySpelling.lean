import SqlCompose.Proofs.TimestampText
import SqlCompose.Run.Relations
import SqlCompose.Value.Decode

/-!
# Spellings of keys

A column that was read as a type and the same column left as text have the same key if the text
spells its value in the way that the key does. Other spellings are read as well, but lose the key:
the main statement gives, for each type, the spellings that keep it.
-/

namespace SqlCompose

/-! ## Integers -/

/-- An integer as it is written, with a minus sign and no other one. -/
inductive IsInteger : List Char → Prop where
  | natural {ds : List Char} : IsDecimal ds → IsInteger ds
  | negative {ds : List Char} : IsDecimal ds → ds ≠ ['0'] → IsInteger ('-' :: ds)

theorem isInteger_repr (n : Int) : IsInteger (Int.repr n).toList := by
  rw [Int.repr_eq_if]
  split
  · rw [Nat.toList_repr]
    exact .natural (isDecimal_toDigits _)
  · rename_i negative
    rw [String.toList_append, Nat.toList_repr, show "-".toList = ['-'] from rfl,
      List.singleton_append]
    refine .negative (isDecimal_toDigits _) fun zero => ?_
    have spelled : Nat.ofDigitChars 10 (Nat.toDigits 10 (-n).toNat) 0 = 0 := by
      rw [zero]
      decide
    rw [Nat.ofDigitChars_ten_toDigits] at spelled
    omega

namespace Text

theorem trimLeft_eq_self {s : List Char} (h : ∀ c ∈ s, isBlank c = false) : trimLeft s = s := by
  cases s with
  | nil => rfl
  | cons c rest =>
    rw [trimLeft, List.dropWhile_cons_of_neg (by simp [h c List.mem_cons_self])]

theorem trim_eq_self {s : List Char} (h : ∀ c ∈ s, isBlank c = false) : trim s = s := by
  rw [trim, trimLeft_eq_self h, trimLeft_eq_self (by simpa using h), List.reverse_reverse]

theorem isBlank_of_isDigit {c : Char} (h : c.isDigit = true) : isBlank c = false := by
  have bounds := Char.isDigit_iff_toNat.mp h
  simp only [Char.reduceToNat] at bounds
  simp only [isBlank, Bool.or_eq_false_iff, Bool.and_eq_false_iff, decide_eq_false_iff_not,
    beq_eq_false_iff_ne]
  omega

end Text

theorem IsInteger.trim_eq {s : List Char} (h : IsInteger s) : Text.trim s = s := by
  have decimal {ds : List Char} (h : IsDecimal ds) : ∀ c ∈ ds, Text.isBlank c = false :=
    fun c hc => Text.isBlank_of_isDigit (h.digits c hc)
  refine Text.trim_eq_self ?_
  cases h with
  | natural ds => exact decimal ds
  | negative ds => exact List.forall_mem_cons.mpr ⟨by decide, decimal ds⟩

namespace IntegerRange

variable {r : IntegerRange} {n : Int}

theorem read_cons_of_isDigit {c : Char} (h : c.isDigit = true) (ds : List Char) :
    r.read (c :: ds) = r.readDigits 1 0 (c :: ds) := by
  have plus : c ≠ '+' := by
    rintro rfl
    cases h
  have minus : c ≠ '-' := by
    rintro rfl
    cases h
  unfold read
  split <;> simp_all

/-- An integer is read as the one that it is written for. -/
theorem repr_of_read {s : List Char} (form : IsInteger s) (h : r.read s = .ok n) :
    (Int.repr n).toList = s := by
  cases form with
  | natural decimal =>
    obtain ⟨c, rest, rfl⟩ := List.exists_cons_of_ne_nil decimal.nonempty
    rw [read_cons_of_isDigit (decimal.digits c List.mem_cons_self)] at h
    obtain ⟨-, spelled⟩ := readDigits_eq_ok h
    rw [Int.zero_mul, Int.zero_add, Int.one_mul] at spelled
    rw [spelled, Int.repr_eq_if, if_pos (by omega), Nat.toList_repr, Int.toNat_natCast,
      decimal.toDigits_ofDigitChars]
  | @negative ds decimal nonzero =>
    obtain ⟨c, rest, rfl⟩ := List.exists_cons_of_ne_nil decimal.nonempty
    have reads : r.read ('-' :: c :: rest) =
        if r.least < 0 then r.readDigits (-1) 0 (c :: rest) else .error .invalidDigit := rfl
    rw [reads] at h
    split at h
    · obtain ⟨-, spelled⟩ := readDigits_eq_ok h
      rw [Int.zero_mul, Int.zero_add] at spelled
      have written := decimal.toDigits_ofDigitChars
      have positive : 0 < Nat.ofDigitChars 10 (c :: rest) 0 := by
        refine Nat.pos_of_ne_zero fun zero => nonzero ?_
        rw [← written, zero]
        decide
      generalize Nat.ofDigitChars 10 (c :: rest) 0 = v at *
      rw [Int.repr_eq_if, if_neg (by omega), String.toList_append, Nat.toList_repr,
        show (-n).toNat = v by omega, written]
      rfl
    · cases h

theorem mem_of_read {s : List Char} (h : r.read s = .ok n) : r.least ≤ n ∧ n ≤ r.greatest := by
  unfold read at h
  split at h
  · cases h
  · cases h
  · cases h
  · rename_i more
    exact mem_of_readDigits (fun none => more (none ▸ rfl)) h
  · rename_i more
    split at h
    · exact mem_of_readDigits (fun none => more (none ▸ rfl)) h
    · cases h
  · rename_i more _ _ _ _
    exact mem_of_readDigits more h

end IntegerRange

/-! ## Identifiers -/

namespace Text

theorem length_flatMap_hexByte (bytes : List UInt8) :
    (bytes.flatMap hexByte).length = 2 * bytes.length := by
  induction bytes with
  | nil => rfl
  | cons b rest ih =>
    rw [List.flatMap_cons, List.length_append, ih, hexByte, List.length_cons, List.length_cons,
      List.length_nil, List.length_cons]
    omega

theorem isUpper_of_mem_flatMap_hexByte (bytes : List UInt8) :
    ∀ c ∈ bytes.flatMap hexByte, c.isUpper = false := by
  have digit : ∀ n < 16, (hexDigit n).isUpper = false := by decide
  intro c hc
  obtain ⟨b, -, hc⟩ := List.mem_flatMap.mp hc
  have small := b.toNat_lt
  simp only [hexByte, List.mem_cons, List.not_mem_nil, or_false] at hc
  rcases hc with rfl | rfl
  · exact digit _ (by omega)
  · exact digit _ (by omega)

/-- A digit in lower case is written for the number that it stands for. -/
theorem hexDigit_of_hexValue? {c : Char} {n : Nat} (h : hexValue? c = some n)
    (lower : c.isUpper = false) : hexDigit n = c ∧ n < 16 := by
  have table : ∀ m < 128, (Char.ofNat m).isUpper = false →
      ∀ n ∈ hexValue? (Char.ofNat m), hexDigit n = Char.ofNat m ∧ n < 16 := by
    decide +kernel
  have ascii : c.toNat < 128 := by
    have bound {d : Char} (less : c ≤ d) (ascii : d.toNat < 128) : c.toNat < 128 :=
      Nat.lt_of_le_of_lt (UInt32.le_iff_toNat_le.mp less) ascii
    unfold hexValue? at h
    split at h
    · rename_i digit
      exact bound digit.2 (by decide)
    · split at h
      · rename_i small
        exact bound small.2 (by decide)
      · split at h
        · rename_i capital
          exact bound capital.2 (by decide)
        · cases h
  have own := table c.toNat ascii
  rw [Char.ofNat_toNat] at own
  exact own lower n h

theorem flatMap_hexByte_of_bytesOfHex? {s : List Char} {bytes : List UInt8}
    (h : bytesOfHex? s = some bytes) (lower : ∀ c ∈ s, c.isUpper = false) :
    bytes.flatMap hexByte = s := by
  induction s using bytesOfHex?.induct generalizing bytes with
  | case1 =>
    cases h
    rfl
  | case2 => cases h
  | case3 a b rest ih =>
    simp only [List.forall_mem_cons] at lower
    obtain ⟨high, readHigh, h⟩ := Option.bind_eq_some_iff.mp h
    obtain ⟨low, readLow, h⟩ := Option.bind_eq_some_iff.mp h
    obtain ⟨later, read, h⟩ := Option.bind_eq_some_iff.mp h
    cases h
    obtain ⟨highDigit, high16⟩ := hexDigit_of_hexValue? readHigh lower.1
    obtain ⟨lowDigit, low16⟩ := hexDigit_of_hexValue? readLow lower.2.1
    have byte : (UInt8.ofNat (16 * high + low)).toNat = 16 * high + low := by
      rw [UInt8.toNat_ofNat']
      omega
    rw [List.flatMap_cons, ih read lower.2.2, hexByte, byte,
      show (16 * high + low) / 16 = high by omega, show (16 * high + low) % 16 = low by omega,
      highDigit, lowDigit]
    rfl

end Text

namespace Uuid

theorem dropHyphens?_cons_cons {n m : Nat} {rest : List Nat} {s hex : List Char}
    (h : dropHyphens? (n :: m :: rest) s = some hex) :
    ∃ later hex', s = s.take (2 * n) ++ '-' :: later ∧ (s.take (2 * n)).length = 2 * n ∧
      dropHyphens? (m :: rest) later = some hex' ∧ hex = s.take (2 * n) ++ hex' := by
  rw [dropHyphens?] at h
  split at h
  · rename_i later found
    obtain ⟨hex', dropped, same⟩ := Option.bind_eq_some_iff.mp h
    cases same
    have long : 2 * n ≤ s.length := by
      refine Nat.le_of_not_lt fun short => ?_
      rw [List.drop_eq_nil_of_le (Nat.le_of_lt short)] at found
      cases found
    refine ⟨later, hex', ?_, List.length_take_of_le long, dropped, rfl⟩
    rw [← found, List.take_append_drop]
  · cases h
  · simp

theorem subset_of_dropHyphens? {sizes : List Nat} {s hex : List Char}
    (h : dropHyphens? sizes s = some hex) : hex ⊆ s := by
  induction sizes generalizing s hex with
  | nil =>
    cases h
    exact List.Subset.refl _
  | cons n rest ih =>
    cases rest with
    | nil =>
      cases h
      exact List.Subset.refl _
    | cons m rest =>
      obtain ⟨later, hex', split, -, dropped, rfl⟩ := dropHyphens?_cons_cons h
      intro c hc
      rw [split]
      rcases List.mem_append.mp hc with first | last
      · exact List.mem_append_left _ first
      · exact List.mem_append_right _ (List.mem_cons_of_mem _ (ih dropped last))

/-- The hyphens are put back where they were taken out. -/
theorem grouped_of_dropHyphens? {sizes : List Nat} {s : List Char} {bytes : List UInt8}
    (nonempty : sizes ≠ [])
    (h : dropHyphens? sizes s = some (bytes.flatMap Text.hexByte)) : grouped sizes bytes = s := by
  induction sizes generalizing s bytes with
  | nil => exact absurd rfl nonempty
  | cons n rest ih =>
    cases rest with
    | nil =>
      cases h
      rfl
    | cons m rest =>
      obtain ⟨later, hex', split, width, dropped, same⟩ := dropHyphens?_cons_cons h
      have whole := same
      rw [← List.take_append_drop n bytes, List.flatMap_append] at whole
      have long : n ≤ bytes.length := by
        have lengths := congrArg List.length same
        rw [Text.length_flatMap_hexByte, List.length_append, width] at lengths
        omega
      obtain ⟨first, last⟩ := List.append_inj whole
        (by rw [Text.length_flatMap_hexByte, width, List.length_take_of_le long])
      rw [grouped, first, ih (List.cons_ne_nil m rest) (last ▸ dropped)]
      · exact split.symm
      · simp

theorem length_grouped (n : Nat) (sizes : List Nat) (bytes : List UInt8) :
    (grouped (n :: sizes) bytes).length = 2 * bytes.length + sizes.length := by
  induction sizes generalizing n bytes with
  | nil => exact Text.length_flatMap_hexByte bytes
  | cons m rest ih =>
    rw [grouped, List.length_append, Text.length_flatMap_hexByte, List.length_cons, ih,
      List.length_take, List.length_drop, List.length_cons]
    · omega
    · simp

theorem isUpper_of_mem_grouped (sizes : List Nat) (bytes : List UInt8) :
    ∀ c ∈ grouped sizes bytes, c.isUpper = false := by
  intro c hc
  rcases mem_grouped hc with rfl | hc
  · rfl
  · exact Text.isUpper_of_mem_flatMap_hexByte bytes c hc

/-- An identifier is written as it was read if that was the grouped form in lower case. -/
theorem text_eq_iff {s : String} {u : Uuid} (h : read? s = some u) :
    u.text = s ↔ s.length = 36 ∧ ∀ c ∈ s.toList, c.isUpper = false := by
  constructor
  · rintro rfl
    rw [text, ← String.length_toList, String.toList_ofList]
    exact ⟨by rw [groups, length_grouped, u.length_eq]; rfl, isUpper_of_mem_grouped groups u.bytes⟩
  · rintro ⟨width, lower⟩
    have reads : readGrouped? s.toList = some u := by
      rw [← String.length_toList] at width
      unfold read? at h
      rwa [if_neg (by rw [width]; decide), if_pos width] at h
    obtain ⟨hex, dropped, digits⟩ := Option.bind_eq_some_iff.mp reads
    unfold readDigits? at digits
    split at digits
    · rename_i bytes read
      split at digits
      · cases digits
        have written := Text.flatMap_hexByte_of_bytesOfHex? read
          fun c hc => lower c (subset_of_dropHyphens? dropped hc)
        rw [← written] at dropped
        rw [text, grouped_of_dropHyphens? (by decide) dropped, String.ofList_toList]
      · cases digits
    · cases digits

end Uuid

/-! ## Spellings that keep the key -/

/-- The types whose values are written in one way, and read in several. -/
def ScalarType.isKeyType : ScalarType → Bool
  | .bool => true
  | .integer _ => true
  | .uuid => true
  | .timestamp => true
  | _ => false

/-- The spellings of a type's values that keys are made of. -/
inductive IsKeySpelling (s : String) : ScalarType → Prop where
  | bool : s = "true" ∨ s = "false" → IsKeySpelling s .bool
  | integer {t : IntegerType} : IsInteger s.toList → IsKeySpelling s (.integer t)
  /-- The grouped form, without capitals. -/
  | uuid : s.length = 36 → (∀ c ∈ s.toList, c.isUpper = false) → IsKeySpelling s .uuid
  | timestamp : Timestamp.IsRfc3339 s.toList → IsKeySpelling s .timestamp

namespace Value

variable {s : String} {x : Value}

theorem key?_eq_iff_of_bool (h : (text s).readAs .bool = .ok x) :
    x.key? = some s ↔ s = "true" ∨ s = "false" := by
  simp only [readAs, toBool, boolOfText?] at h
  split at h
  · rename_i b spelled
    cases h
    split at spelled
    · rename_i yes
      cases spelled
      simp only [List.mem_cons, List.not_mem_nil, or_false] at yes
      rcases yes with rfl | rfl | rfl | rfl <;> decide
    · split at spelled
      · rename_i no
        cases spelled
        simp only [List.mem_cons, List.not_mem_nil, or_false] at no
        rcases no with rfl | rfl | rfl | rfl <;> decide
      · cases spelled
  · cases h

theorem key?_eq_iff_of_integer {t : IntegerType} (h : (text s).readAs (.integer t) = .ok x) :
    x.key? = some s ↔ IsInteger s.toList := by
  simp only [readAs, toInteger] at h
  cases read : t.range.read (Text.trim s.toList) with
  | error e =>
    rw [read] at h
    cases h
  | ok n =>
    rw [read] at h
    cases h
    have kept : (Int64.ofInt n).toInt = n := by
      have range := IntegerRange.mem_of_read read
      have inside : -2 ^ 63 ≤ t.range.least ∧ t.range.greatest < 2 ^ 63 := by
        cases t <;> decide
      exact Int64.toInt_ofInt_of_le (by omega) (by omega)
    rw [key?, kept, Option.some_inj, ← String.toList_inj]
    constructor
    · intro same
      rw [← same]
      exact isInteger_repr n
    · intro form
      rw [form.trim_eq] at read
      exact IntegerRange.repr_of_read form read

theorem key?_eq_iff_of_uuid (h : (text s).readAs .uuid = .ok x) :
    x.key? = some s ↔ s.length = 36 ∧ ∀ c ∈ s.toList, c.isUpper = false := by
  simp only [readAs, toUuid] at h
  split at h
  · rename_i u read
    cases h
    rw [key?, Option.some_inj, Uuid.text_eq_iff read]
  · cases h

theorem key?_eq_iff_of_timestamp (h : (text s).readAs .timestamp = .ok x) :
    x.key? = some s ↔ Timestamp.IsRfc3339 s.toList := by
  simp only [readAs, toTimestamp] at h
  split at h
  · rename_i t read
    cases h
    rw [key?, Option.some_inj, Timestamp.rfc3339_eq_iff read]
  · cases h

/-- What is read as a type keeps the key of its text just if the text is spelled as keys are. -/
theorem key?_eq_iff_isKeySpelling {type : ScalarType} (keyType : type.isKeyType = true)
    (h : (text s).readAs type = .ok x) : x.key? = some s ↔ IsKeySpelling s type := by
  cases type with
  | bool =>
    rw [key?_eq_iff_of_bool h]
    exact ⟨.bool, fun | .bool spelled => spelled⟩
  | integer t =>
    rw [key?_eq_iff_of_integer h]
    exact ⟨.integer, fun | .integer spelled => spelled⟩
  | uuid =>
    rw [key?_eq_iff_of_uuid h]
    exact ⟨fun spelled => .uuid spelled.1 spelled.2, fun | .uuid width lower => ⟨width, lower⟩⟩
  | timestamp =>
    rw [key?_eq_iff_of_timestamp h]
    exact ⟨.timestamp, fun | .timestamp spelled => spelled⟩
  | _ => cases keyType

/-- A type keeps the key of a text, in itself and between an entity and a row, just if the text is
spelled as keys are. -/
theorem key?_readAs_iff {type : ScalarType} (keyType : type.isKeyType = true)
    (read : (text s).readAs type = .ok x) :
    (x.key? = (text s).key? ↔ IsKeySpelling s type) ∧
      ∀ {ε μ : Type} [EntityType ε μ] (e : ε) (row : Row) (field column : String),
        EntityType.value e field = x → row.value? column = some (text s) →
        ((OwnerKey.ofEntity? [field] e).map OwnerKey.text = OwnerKey.ofRow? [column] row ↔
          IsKeySpelling s type) := by
  have own := key?_eq_iff_isKeySpelling keyType read
  refine ⟨own, ?_⟩
  intro ε μ _ e row field column held carried
  have single (k : Option String) : OwnerKey.joined? [k] = k := by
    cases k <;> simp [OwnerKey.joined?]
  rw [OwnerKey.ofEntity?, OwnerKey.ofRow?, List.map_singleton, List.map_singleton,
    List.map_singleton, held, carried, single, single, Option.map_map, Option.bind_some]
  have plain : (x.key?.map (OwnerKey.text ∘ (⟨·, [x]⟩))) = x.key? := Option.map_id'
  rwa [plain]

theorem key?_readAs_zone :
    let s := "2024-01-02T03:04:05.120+00:00"
    let x := timestamp ⟨1704164645, 120000000⟩
    ScalarType.timestamp.isKeyType = true ∧ (text s).readAs .timestamp = .ok x ∧
      (x.key? = (text s).key? ↔ IsKeySpelling s .timestamp) := by
  intro s x
  have spelled : Timestamp.read? s = some ⟨1704164645, 120000000⟩ := by decide +kernel
  have read : (text s).readAs .timestamp = .ok x := by
    rw [readAs, toTimestamp, spelled]
    rfl
  exact ⟨rfl, read, (key?_readAs_iff rfl read).1⟩

/-- One spelling for each type that is read, but has another key than what is read. -/
theorem key?_readAs_ne :
    [(ScalarType.bool, "t"), (.integer .i64, "007"),
        (.uuid, "67E55044-10B1-426F-9247-BB680E5FE0C8"),
        (.timestamp, "2024-01-02 03:04:05+00")].map (fun (type, s) =>
      (((text s).readAs type).toOption.bind key?, (text s).key?)) =
    [(some "true", some "t"), (some "7", some "007"),
      (some "67e55044-10b1-426f-9247-bb680e5fe0c8", some "67E55044-10B1-426F-9247-BB680E5FE0C8"),
      (some "2024-01-02T03:04:05+00:00", some "2024-01-02 03:04:05+00")] := by
  decide +kernel

end Value

end SqlCompose
