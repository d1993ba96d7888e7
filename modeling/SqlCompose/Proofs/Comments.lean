import SqlCompose.Proofs.Writing

/-!
# Where comments begin

Outside quotes, `--` and `/*` begin a comment. `Spot.read` goes through SQL text and finds the first
one. The main statement is `Value.read_literal`: a literal is read from outside quotes to outside
quotes, and a comment begins at its first character or nowhere in it.
-/

namespace SqlCompose

/-! ## Reading SQL text -/

/-- Where a reader of SQL text stands. -/
inductive Spot where
  | code
  | minus
  | slash
  | string
  /-- Inside a string, behind a backslash that escapes the next character. -/
  | escape
  | name
  | comment
deriving DecidableEq, Repr

namespace Spot

/-- Outside quotes, behind a character or at the beginning. -/
def behind : Option Char → Spot
  | some '-' => .minus
  | some '/' => .slash
  | _ => .code

/-- The next spot outside quotes. -/
def enter (d : Dialect) (comment : Bool) (c : Char) : Spot :=
  if c = '\'' then .string
  else if c = d.quote then .name
  else if comment then .comment
  else behind (some c)

/-- The spot behind one more character. A doubled quote leaves the quotes and enters them again. -/
def next (d : Dialect) : Spot → Char → Spot
  | .code, c => enter d false c
  | .minus, c => enter d (c == '-') c
  | .slash, c => enter d (c == '*') c
  | .string, c => if c = '\'' then .code else if c = '\\' ∧ d = .mySql then .escape else .string
  | .escape, _ => .string
  | .name, c => if c = d.quote then .code else .name
  | .comment, _ => .comment

/-- The spot behind a text. -/
def read (d : Dialect) (s : Spot) (text : List Char) : Spot :=
  text.foldl (next d) s

end Spot

/-- Whether a comment begins anywhere in SQL text. -/
def Dialect.OpensComment (d : Dialect) (sql : String) : Prop :=
  Spot.read d .code sql.toList = .comment

instance (d : Dialect) (sql : String) : Decidable (d.OpensComment sql) := by
  unfold Dialect.OpensComment
  infer_instance

/-- Whether two characters in a row begin a comment. -/
def BeginComment (a b : Char) : Prop :=
  a = '-' ∧ b = '-' ∨ a = '/' ∧ b = '*'

namespace Spot

variable {d : Dialect} {before : Option Char}

@[simp] theorem read_nil (s : Spot) : read d s [] = s := rfl

@[simp] theorem read_cons (s : Spot) (c : Char) (text : List Char) :
    read d s (c :: text) = read d (next d s c) text := rfl

@[simp] theorem read_append (s : Spot) (a b : List Char) :
    read d s (a ++ b) = read d (read d s a) b :=
  List.foldl_append

@[simp] theorem next_comment (c : Char) : next d .comment c = .comment := rfl

@[simp] theorem read_comment (text : List Char) : read d .comment text = .comment := by
  induction text with
  | nil => rfl
  | cons c text ih => exact ih

theorem behind_ne_comment (before : Option Char) : behind before ≠ .comment := by
  unfold behind
  split <;> simp

theorem behind_eq_code {c : Char} (minus : c ≠ '-') (slash : c ≠ '/') :
    behind (some c) = .code := by
  unfold behind
  split <;> simp_all

theorem next_behind_of_begin {a b : Char} (h : BeginComment a b) :
    next d (behind (some a)) b = .comment := by
  rcases h with ⟨rfl, rfl⟩ | ⟨rfl, rfl⟩
  all_goals
    cases d <;> decide

theorem next_behind_of_not_begin {c : Char} (h : ∀ b ∈ before, ¬ BeginComment b c) :
    next d (behind before) c = enter d false c := by
  unfold behind
  split
  · have other : c ≠ '-' := fun same => h _ rfl (.inl ⟨rfl, same⟩)
    rw [next, beq_eq_false_iff_ne.mpr other]
  · have other : c ≠ '*' := fun same => h _ rfl (.inr ⟨rfl, same⟩)
    rw [next, beq_eq_false_iff_ne.mpr other]
  · rfl

theorem next_behind_quote : next d (behind before) '\'' = .string := by
  unfold behind
  split <;> cases d <;> rfl

theorem next_behind_nameQuote : next d (behind before) d.quote = .name := by
  unfold behind
  split <;> cases d <;> decide

/-! ## Words -/

/-- A character that neither quotes nor takes part in the beginning of a comment. -/
def isWordChar (c : Char) : Bool :=
  c ∉ ['\'', '"', '\x60', '-', '/', '*']

theorem isWordChar_of_isDigit {c : Char} (h : c.isDigit = true) : isWordChar c = true := by
  simp only [isWordChar, decide_eq_true_eq, List.mem_cons, List.not_mem_nil, or_false, not_or]
  refine ⟨?_, ?_, ?_, ?_, ?_, ?_⟩
  all_goals
    rintro rfl
    cases h

theorem next_behind_wordChar {c : Char} (h : isWordChar c = true) :
    next d (behind before) c = .code := by
  simp only [isWordChar, decide_eq_true_eq, List.mem_cons, List.not_mem_nil, or_false,
    not_or] at h
  obtain ⟨quote, double, back, minus, slash, star⟩ := h
  have unquoted : c ≠ d.quote := by
    cases d <;> assumption
  rw [next_behind_of_not_begin fun b _ begins => begins.elim (minus ·.2) (star ·.2), enter,
    if_neg quote, if_neg unquoted]
  exact behind_eq_code minus slash

theorem read_word {word : List Char} (nonempty : word ≠ [])
    (h : ∀ c ∈ word, isWordChar c = true) : read d (behind before) word = .code := by
  induction word generalizing before with
  | nil => exact absurd rfl nonempty
  | cons c rest ih =>
    rw [read_cons, next_behind_wordChar (h c List.mem_cons_self)]
    by_cases last : rest = []
    · rw [last, read_nil]
    · exact @ih none last fun c hc => h c (List.mem_cons_of_mem _ hc)

/-- A sign begins a comment behind another one. -/
theorem read_signed {digits : List Char} (nonempty : digits ≠ [])
    (h : ∀ c ∈ digits, isWordChar c = true) :
    read d (behind before) ('-' :: digits) = if before = some '-' then .comment else .code := by
  rw [read_cons]
  by_cases sign : before = some '-'
  · rw [if_pos sign, sign, next_behind_of_begin (.inl ⟨rfl, rfl⟩), read_comment]
  · have apart : ∀ b ∈ before, ¬ BeginComment b '-' := by
      rintro b hb (⟨rfl, -⟩ | ⟨-, star⟩)
      · exact sign hb
      · cases star
    have next : enter d false '-' = behind (some '-') := by
      cases d <;> rfl
    rw [if_neg sign, next_behind_of_not_begin apart, next, read_word nonempty h]

/-! ## Strings and quoted names -/

/-- A character that stands for itself in the strings of every dialect. -/
def isStringChar (c : Char) : Bool :=
  c ≠ '\'' && c ≠ '\\'

theorem next_string {c : Char} (quote : c ≠ '\'') (escape : c = '\\' → d ≠ .mySql) :
    next d .string c = .string := by
  rw [next, if_neg quote, if_neg fun h => escape h.1 h.2]

theorem read_string {content : List Char}
    (h : ∀ c ∈ content, c ≠ '\'' ∧ (c = '\\' → d ≠ .mySql)) :
    read d .string content = .string := by
  induction content with
  | nil => rfl
  | cons c rest ih =>
    obtain ⟨quote, escape⟩ := h c List.mem_cons_self
    rw [read_cons, next_string quote escape]
    exact ih fun c hc => h c (List.mem_cons_of_mem _ hc)

/-- Escaped content ends where it began, inside the string. -/
theorem read_literalChars (content : List Char) :
    read d .string (content.flatMap d.literalChar) = .string := by
  induction content with
  | nil => rfl
  | cons c rest ih =>
    have one : read d .string (d.literalChar c) = .string := by
      unfold Dialect.literalChar
      split
      · rfl
      · rename_i quote
        split
        · rename_i escape
          obtain ⟨rfl, rfl⟩ := escape
          rfl
        · rename_i escape
          split
          · rfl
          · exact next_string quote fun back mySql => escape ⟨back, mySql⟩
    rw [List.flatMap_cons, read_append, one, ih]

/-- Between quotes no comment begins. -/
theorem read_between {content : List Char} (h : read d .string content = .string) :
    read d (behind before) ('\'' :: content ++ ['\'']) = .code := by
  rw [List.cons_append, read_cons, next_behind_quote, read_append, h]
  rfl

theorem read_nameChars (segment : List Char) :
    read d .name (segment.flatMap fun c => if c = d.quote then [c, c] else [c]) = .name := by
  induction segment with
  | nil => rfl
  | cons c rest ih =>
    have one : read d .name (if c = d.quote then [c, c] else [c]) = .name := by
      split
      · rename_i quote
        subst quote
        rw [read_cons, read_cons, next, if_pos rfl]
        exact @next_behind_nameQuote d none
      · rename_i other
        rw [read_cons, next, if_neg other, read_nil]
    rw [List.flatMap_cons, read_append, one, ih]

/-- A star begins a comment behind a slash. -/
theorem read_identSegment (segment : List Char) :
    read d (behind before) (d.identSegment segment) =
      if segment = ['*'] ∧ before = some '/' then .comment else .code := by
  unfold Dialect.identSegment
  split
  · rename_i star
    rw [read_cons, read_nil]
    by_cases slash : before = some '/'
    · rw [if_pos ⟨star, slash⟩, slash, next_behind_of_begin (.inr ⟨rfl, rfl⟩)]
    · have apart : ∀ b ∈ before, ¬ BeginComment b '*' := by
        rintro b hb (⟨-, minus⟩ | ⟨rfl, -⟩)
        · cases minus
        · exact slash hb
      rw [if_neg fun h => slash h.2, next_behind_of_not_begin apart]
      cases d <;> rfl
  · rename_i other
    rw [if_neg fun h => other h.1, List.cons_append, read_cons, next_behind_nameQuote, read_append,
      read_nameChars, read_cons, next, if_pos rfl, read_nil]

theorem read_identSegments {segments : List (List Char)} (nonempty : segments ≠ []) :
    read d (behind before) (['.'].intercalate (segments.map d.identSegment)) =
      if segments.head? = some ['*'] ∧ before = some '/' then .comment else .code := by
  induction segments generalizing before with
  | nil => exact absurd rfl nonempty
  | cons first rest ih =>
    simp only [List.head?_cons, Option.some_inj, List.map_cons]
    by_cases last : rest = []
    · rw [last, List.map_nil, List.intercalate_singleton, read_identSegment]
    · have point : next d .code '.' = behind none := by
        cases d <;> rfl
      rw [List.intercalate_cons_of_ne_nil (by simpa using last), read_append, read_append,
        read_identSegment]
      split
      · simp
      · rw [read_cons, point, read_nil, ih last]
        simp

end Spot

/-! ## Values -/

namespace Value

mutual

/-- Whether trusted SQL stands anywhere in a value. -/
def holdsTrusted : Value → Bool
  | .safe _ => true
  | .list items => anyHoldsTrusted items
  | _ => false

def anyHoldsTrusted : List Value → Bool
  | [] => false
  | v :: rest => v.holdsTrusted || anyHoldsTrusted rest

end

/-- Whether the literal of a value begins with a minus sign. -/
def isNegative : Value → Bool
  | .int n => n.toInt < 0
  | .float (.finite negative _ _) => negative
  | .list (v :: _) => v.isNegative
  | _ => false

/-- Whether the literal of a value begins with a star. -/
def isStar : Value → Bool
  | .ident name => (name.toList.splitOn '.').head? == some ['*']
  | .list (v :: _) => v.isStar
  | _ => false

/-- Whether a value right behind a character begins a comment with it. -/
def BeginsCommentBehind (before : Option Char) (v : Value) : Prop :=
  v.isNegative = true ∧ before = some '-' ∨ v.isStar = true ∧ before = some '/'

instance (before : Option Char) (v : Value) : Decidable (v.BeginsCommentBehind before) :=
  inferInstanceAs (Decidable (_ ∧ _ ∨ _ ∧ _))

end Value

/-! ### Numbers -/

namespace Layout

theorem magnitude_plain (m : Nat) (e : Int) :
    plain.magnitude m e = plain.positional (Decimal.shortest .up m e) := by
  simp [magnitude, isPositional, plain]

/-- Positional notation has digits, a point and nothing else. -/
theorem isDigit_or_eq_of_mem_positional (x : Decimal) :
    ∀ c ∈ (plain.positional x).toList, c.isDigit = true ∨ c = '.' := by
  have digit : ∀ c ∈ Nat.toDigits 10 x.digits, c.isDigit = true := fun c hc =>
    Nat.isDigit_of_mem_toDigits (by decide) (by decide) hc
  have zeros (n : Nat) : ∀ c ∈ List.replicate n '0', c.isDigit = true := by
    intro c hc
    rw [(List.mem_replicate.mp hc).2]
    rfl
  intro c hc
  unfold positional at hc
  dsimp only at hc
  split at hc
  · simp only [plain, String.append_empty, String.toList_ofList, List.mem_append] at hc
    exact .inl (hc.elim (digit c) (zeros _ c))
  · split at hc
    · simp only [String.toList_ofList, List.mem_append, List.mem_cons] at hc
      rcases hc with hc | point | hc
      · exact .inl (digit c (List.mem_of_mem_take hc))
      · exact .inr point
      · exact .inl (digit c (List.mem_of_mem_drop hc))
    · simp only [String.toList_ofList, List.cons_append, List.mem_append, List.mem_cons] at hc
      rcases hc with rfl | point | hc | hc
      · exact .inl rfl
      · exact .inr point
      · exact .inl (zeros _ c hc)
      · exact .inl (digit c hc)

theorem isWordChar_of_mem_positional (x : Decimal) :
    ∀ c ∈ (plain.positional x).toList, Spot.isWordChar c = true := by
  intro c hc
  rcases isDigit_or_eq_of_mem_positional x c hc with digit | rfl
  · exact Spot.isWordChar_of_isDigit digit
  · rfl

theorem positional_ne_nil (l : Layout) (x : Decimal) : (l.positional x).toList ≠ [] := by
  unfold positional
  dsimp only
  split
  · simp [Nat.toDigits_ne_nil]
  · split <;> simp

end Layout

namespace Spot

variable {d : Dialect} {before : Option Char}

theorem read_int (n : Int) :
    read d (behind before) (Int.repr n).toList =
      if n < 0 ∧ before = some '-' then .comment else .code := by
  have digits (m : Nat) : ∀ c ∈ m.repr.toList, isWordChar c = true := by
    intro c hc
    rw [Nat.toList_repr] at hc
    exact isWordChar_of_isDigit (Nat.isDigit_of_mem_toDigits (by decide) (by decide) hc)
  have nonempty (m : Nat) : m.repr.toList ≠ [] := by
    rw [Nat.toList_repr]
    exact Nat.toDigits_ne_nil
  rw [Int.repr_eq_if]
  split
  · rename_i positive
    rw [read_word (nonempty _) (digits _), if_neg fun h => Int.not_lt.mpr positive h.1]
  · rename_i negative
    rw [String.toList_append, show "-".toList = ['-'] from rfl, List.singleton_append,
      read_signed (nonempty _) (digits _)]
    simp [Int.not_le.mp negative]

theorem read_magnitude (negative : Bool) (m : Nat) (e : Int) :
    read d (behind before) (Layout.plain.render (.finite negative m e)).toList =
      if negative = true ∧ before = some '-' then .comment else .code := by
  have digits := Layout.isWordChar_of_mem_positional (Decimal.shortest .up m e)
  have nonempty := Layout.plain.positional_ne_nil (Decimal.shortest .up m e)
  rw [← Layout.magnitude_plain] at digits nonempty
  cases negative with
  | false => simpa [Layout.render] using read_word nonempty digits
  | true =>
    have signed : read d (behind before) ('-' :: (Layout.plain.magnitude m e).toList) = _ :=
      read_signed nonempty digits
    simpa [Layout.render] using signed

end Spot

/-! ### Strings -/

theorem Spot.isStringChar_of_isDigit {c : Char} (h : c.isDigit = true) :
    isStringChar c = true := by
  simp only [isStringChar, Bool.and_eq_true, decide_eq_true_eq]
  refine ⟨?_, ?_⟩
  all_goals
    rintro rfl
    cases h

theorem Text.isStringChar_of_mem_hexByte (b : UInt8) :
    ∀ c ∈ hexByte b, Spot.isStringChar c = true := by
  have digit : ∀ n < 16, Spot.isStringChar (hexDigit n) = true := by decide
  have low := digit _ (Nat.mod_lt b.toNat (show 0 < 16 by decide))
  have high := digit (b.toNat / 16) (by have := b.toNat_lt; omega)
  simp [hexByte, low, high]

theorem Text.isStringChar_of_mem_hexBytes (bytes : List UInt8) :
    ∀ c ∈ bytes.flatMap hexByte, Spot.isStringChar c = true := by
  intro c hc
  obtain ⟨b, -, hc⟩ := List.mem_flatMap.mp hc
  exact isStringChar_of_mem_hexByte b c hc

theorem Uuid.isStringChar_of_mem_grouped (sizes : List Nat) (bytes : List UInt8) :
    ∀ c ∈ grouped sizes bytes, Spot.isStringChar c = true := by
  intro c hc
  rcases mem_grouped hc with rfl | hc
  · rfl
  · exact Text.isStringChar_of_mem_hexBytes bytes c hc

namespace Timestamp

theorem isStringChar_of_mem_padded (width n : Nat) :
    ∀ c ∈ padded width n, Spot.isStringChar c = true := by
  intro c hc
  unfold padded at hc
  rcases List.mem_append.mp hc with hc | hc
  · rw [(List.mem_replicate.mp hc).2]
    rfl
  · exact Spot.isStringChar_of_isDigit (Nat.isDigit_of_mem_toDigits (by decide) (by decide) hc)

theorem isStringChar_of_mem_yearText (y : Int) :
    ∀ c ∈ yearText y, Spot.isStringChar c = true := by
  intro c hc
  unfold yearText at hc
  split at hc
  · exact isStringChar_of_mem_padded _ _ c hc
  · rcases List.mem_cons.mp hc with rfl | hc
    · split <;> rfl
    · exact isStringChar_of_mem_padded _ _ c hc

theorem isStringChar_of_mem_fractionText (n : Nat) :
    ∀ c ∈ fractionText n, Spot.isStringChar c = true := by
  intro c hc
  have point : Spot.isStringChar '.' = true := rfl
  have digits (width m : Nat) : ∀ c ∈ '.' :: padded width m, Spot.isStringChar c = true :=
    List.forall_mem_cons.mpr ⟨point, isStringChar_of_mem_padded width m⟩
  unfold fractionText at hc
  dsimp only at hc
  split at hc
  · cases hc
  · split at hc
    · exact digits _ _ c hc
    · split at hc <;> exact digits _ _ c hc

/-- No text of a timestamp quotes or escapes. -/
theorem isStringChar_of_mem_textWith {separator : Char} {zone : List Char} (t : Timestamp)
    (hseparator : Spot.isStringChar separator = true)
    (hzone : ∀ c ∈ zone, Spot.isStringChar c = true) :
    ∀ c ∈ (textWith separator zone t).toList, Spot.isStringChar c = true := by
  intro c hc
  have hyphen : Spot.isStringChar '-' = true := rfl
  have colon : Spot.isStringChar ':' = true := rfl
  have number := isStringChar_of_mem_padded
  simp only [textWith, dateText, timeText, String.toList_ofList, List.append_assoc,
    List.cons_append, List.mem_append, List.mem_cons] at hc
  rcases hc with hc | rfl | hc | rfl | hc | rfl | hc | rfl | hc | rfl | hc | hc | hc
  · exact isStringChar_of_mem_yearText _ c hc
  · exact hyphen
  · exact number _ _ c hc
  · exact hyphen
  · exact number _ _ c hc
  · exact hseparator
  · exact number _ _ c hc
  · exact colon
  · exact number _ _ c hc
  · exact colon
  · exact number _ _ c hc
  · exact isStringChar_of_mem_fractionText _ c hc
  · exact hzone c hc

end Timestamp

namespace Spot

variable {d : Dialect} {before : Option Char}

theorem read_quoted (d : Dialect) (before : Option Char) (content : List Char)
    (h : ∀ c ∈ content, isStringChar c = true) :
    read d (behind before) ('\'' :: content ++ ['\'']) = .code := by
  refine read_between (read_string fun c hc => ?_)
  have plain := h c hc
  simp only [isStringChar, Bool.and_eq_true, decide_eq_true_eq] at plain
  exact ⟨plain.1, fun back => absurd back plain.2⟩

theorem read_stringLiteral (s : String) :
    read d (behind before) (d.stringLiteral s).toList = .code := by
  rw [Dialect.stringLiteral, String.toList_ofList]
  exact read_between (read_literalChars _)

theorem read_floatLiteral (x : Binary64) :
    read d (behind before) (d.floatLiteral x).toList =
      if (Value.float x).isNegative = true ∧ before = some '-' then .comment else .code := by
  have null : read d (behind before) "NULL".toList = .code :=
    read_word (by decide) (List.all_eq_true.mp rfl)
  cases x with
  | finite negative m e => exact read_magnitude negative m e
  | nan =>
    cases d with
    | postgres => exact read_quoted _ _ "NaN".toList (List.all_eq_true.mp rfl)
    | mySql => exact null
    | sqlite => exact null
  | infinite negative =>
    cases d with
    | postgres =>
      cases negative with
      | false => exact read_quoted _ _ "Infinity".toList (List.all_eq_true.mp rfl)
      | true => exact read_quoted _ _ "-Infinity".toList (List.all_eq_true.mp rfl)
    | mySql => cases negative <;> exact null
    | sqlite => cases negative <;> exact null

theorem read_bytesLiteral (bytes : List UInt8) :
    read d (behind before) (d.bytesLiteral bytes).toList = .code := by
  have digits := Text.isStringChar_of_mem_hexBytes bytes
  -- The letter before the string leads outside quotes again.
  have marked (d : Dialect) (before : Option Char) :
      read d (behind before) ("X'" ++ Text.hexBytes bytes ++ "'").toList = .code := by
    calc
      read d (behind before) ("X'" ++ Text.hexBytes bytes ++ "'").toList =
          read d (behind before) ('X' :: ('\'' :: bytes.flatMap Text.hexByte ++ ['\''])) := by
        simp [Text.hexBytes]
      _ =
          read d (behind none) ('\'' :: bytes.flatMap Text.hexByte ++ ['\'']) := by
        rw [read_cons, next_behind_wordChar (by decide)]
        rfl
      _ = .code := read_quoted d none _ digits
  cases d with
  | mySql => exact marked _ _
  | sqlite => exact marked _ _
  | postgres =>
    have text : (Dialect.postgres.bytesLiteral bytes).toList =
        '\'' :: ('\\' :: 'x' :: bytes.flatMap Text.hexByte) ++ ['\''] := by
      simp [Dialect.bytesLiteral, Text.hexBytes]
    rw [text]
    refine read_between ?_
    rw [read_cons, next_string (by decide) (by decide), read_cons,
      next_string (by decide) (by decide)]
    refine read_string fun c hc => ?_
    have plain := digits c hc
    simp only [isStringChar, Bool.and_eq_true, decide_eq_true_eq] at plain
    exact ⟨plain.1, fun _ => by decide⟩

end Spot

/-! ### Literals -/

namespace Value

variable (d : Dialect) {before : Option Char}

theorem not_beginsCommentBehind {v : Value} (positive : v.isNegative = false)
    (star : v.isStar = false) : ¬ v.BeginsCommentBehind before := by
  simp [BeginsCommentBehind, positive, star]

/-- A scalar is read to the outside of its quotes. -/
theorem read_literal_of_scalar {v : Value} (scalar : ∀ items, v ≠ .list items)
    (untrusted : v.holdsTrusted = false) :
    Spot.read d (.behind before) (v.literal d).toList =
      if v.BeginsCommentBehind before then .comment else .code := by
  have word {s : String} (nonempty : s.toList ≠ [])
      (h : ∀ c ∈ s.toList, Spot.isWordChar c = true) :
      Spot.read d (.behind before) s.toList = .code := Spot.read_word nonempty h
  cases v with
  | null =>
    rw [if_neg (not_beginsCommentBehind rfl rfl), literal]
    exact word (by decide) (List.all_eq_true.mp rfl)
  | bool b =>
    rw [if_neg (not_beginsCommentBehind rfl rfl), literal]
    split
    · exact word (by decide) (List.all_eq_true.mp rfl)
    · exact word (by decide) (List.all_eq_true.mp rfl)
  | int n =>
    rw [literal, Spot.read_int]
    simp [BeginsCommentBehind, isNegative, isStar]
  | float x =>
    rw [literal, Spot.read_floatLiteral]
    simp [BeginsCommentBehind, isStar]
  | text s =>
    rw [if_neg (not_beginsCommentBehind rfl rfl), literal, Spot.read_stringLiteral]
  | bytes bytes =>
    rw [if_neg (not_beginsCommentBehind rfl rfl), literal, Spot.read_bytesLiteral]
  | json j =>
    rw [if_neg (not_beginsCommentBehind rfl rfl), literal, Spot.read_stringLiteral]
  | uuid u =>
    have quoted := Spot.read_quoted d before _
      (Uuid.isStringChar_of_mem_grouped Uuid.groups u.bytes)
    rw [if_neg (not_beginsCommentBehind rfl rfl), literal]
    simpa [Uuid.text] using quoted
  | timestamp t =>
    have quoted {s : String} (h : ∀ c ∈ s.toList, Spot.isStringChar c = true) :
        Spot.read d (.behind before) ("'" ++ s ++ "'").toList = .code := by
      simpa using Spot.read_quoted d before _ h
    rw [if_neg (not_beginsCommentBehind rfl rfl), literal]
    unfold Dialect.timestampLiteral
    split
    · exact quoted (t.isStringChar_of_mem_textWith rfl (List.all_eq_true.mp rfl))
    · exact quoted (t.isStringChar_of_mem_textWith rfl (List.all_eq_true.mp rfl))
  | ident name =>
    rw [literal, Dialect.ident, String.toList_ofList, Dialect.identChars,
      Spot.read_identSegments (by simp)]
    simp [BeginsCommentBehind, isNegative, isStar]
  | safe sql => cases untrusted
  | list items => exact absurd rfl (scalar items)

mutual

/-- Literals are read from outside quotes to outside quotes, and a comment begins at their first
character or not at all. -/
theorem read_literal (v : Value) (untrusted : v.holdsTrusted = false) (before : Option Char) :
    Spot.read d (.behind before) (v.literal d).toList =
      if v.BeginsCommentBehind before then .comment else .code := by
  cases v with
  | list items =>
    cases items with
    | nil =>
      rw [if_neg (not_beginsCommentBehind rfl rfl), literal]
      exact Spot.read_word (by decide) (List.all_eq_true.mp rfl)
    | cons v rest =>
      simp only [holdsTrusted, anyHoldsTrusted, Bool.or_eq_false_iff] at untrusted
      rw [literal, literals, ← join_literal_leavesBehind, String.toList_append, Spot.read_append,
        read_literal v untrusted.1 before]
      have first : (list (v :: rest)).BeginsCommentBehind before ↔ v.BeginsCommentBehind before :=
        Iff.rfl
      simp only [first]
      by_cases begins : v.BeginsCommentBehind before
      · rw [if_pos begins, Spot.read_comment]
      · rw [if_neg begins, read_leavesBehind rest untrusted.2]
  | _ => exact read_literal_of_scalar d (by simp) untrusted

theorem read_leavesBehind (vs : List Value) (untrusted : anyHoldsTrusted vs = false) :
    Spot.read d .code (String.join ((leavesBehind d vs).map (Piece.literal d))).toList =
      .code := by
  cases vs with
  | nil => simp [leavesBehind]
  | cons v rest =>
    simp only [anyHoldsTrusted, Bool.or_eq_false_iff] at untrusted
    have separator : Spot.read d .code ", ".toList = .behind none := by
      cases d <;> decide
    have none : ¬ v.BeginsCommentBehind none := by
      simp [BeginsCommentBehind]
    rw [leavesBehind, List.map_cons, List.map_append, String.join_cons, String.join_append,
      join_literal_leaves, Piece.literal, String.toList_append, String.toList_append,
      Spot.read_append, Spot.read_append, separator, read_literal v untrusted.1, if_neg none]
    exact read_leavesBehind rest untrusted.2

end

end Value

end SqlCompose
