import SqlCompose.Proofs.Comments

/-!
# Lists between parentheses

SQL text as lists between parentheses: `Dialect.groupSizes` counts the elements of every list, by
the commas that stand in it and neither in quotes nor in parentheses of its own. The main statement
is `Value.leads_of_spelled`: in a list, a value takes as many places as it has leaves.
-/

namespace SqlCompose

/-! ## Text outside quotes -/

namespace Spot

def isQuoted : Spot → Bool
  | .string => true
  | .escape => true
  | .name => true
  | _ => false

/-- The characters outside quotes, without the quotes themselves. -/
def bare (d : Dialect) (s : Spot) : List Char → List Char
  | [] => []
  | c :: rest =>
    if s.isQuoted || (next d s c).isQuoted then bare d (next d s c) rest
    else c :: bare d (next d s c) rest

section

variable {d : Dialect} {before : Option Char} {s : Spot}

@[simp] theorem bare_nil : bare d s [] = [] := rfl

theorem bare_append (s : Spot) (a b : List Char) :
    bare d s (a ++ b) = bare d s a ++ bare d (read d s a) b := by
  induction a generalizing s with
  | nil => rfl
  | cons c rest ih =>
    rw [List.cons_append, bare, bare, ih, read_cons]
    split <;> rfl

theorem bare_cons_of_quoted (h : s.isQuoted = true) (c : Char) (rest : List Char) :
    bare d s (c :: rest) = bare d (next d s c) rest := by
  rw [bare, h, Bool.true_or, if_pos rfl]

theorem bare_cons_of_enters {c : Char} (h : (next d s c).isQuoted = true) (rest : List Char) :
    bare d s (c :: rest) = bare d (next d s c) rest := by
  rw [bare, h, Bool.or_true, if_pos rfl]

theorem isQuoted_behind (before : Option Char) : (behind before).isQuoted = false := by
  unfold behind
  split <;> rfl

/-- A character that quotes in no dialect. -/
def isUnquoting (c : Char) : Bool :=
  c ∉ ['\'', '"', '\x60']

theorem isQuoted_next {c : Char} (outside : s.isQuoted = false) (h : isUnquoting c = true) :
    (next d s c).isQuoted = false := by
  simp only [isUnquoting, decide_eq_true_eq, List.mem_cons, List.not_mem_nil, or_false,
    not_or] at h
  obtain ⟨quote, double, back⟩ := h
  have name : c ≠ d.quote := by
    cases d <;> assumption
  have entered (comment : Bool) : (enter d comment c).isQuoted = false := by
    rw [enter, if_neg quote, if_neg name]
    cases comment with
    | true => rfl
    | false => exact isQuoted_behind _
  cases s with
  | code => exact entered _
  | minus => exact entered _
  | slash => exact entered _
  | comment => rfl
  | string => cases outside
  | escape => cases outside
  | name => cases outside

/-- Text without quotes is left as it is. -/
theorem bare_eq_self {cs : List Char} (outside : s.isQuoted = false)
    (h : ∀ c ∈ cs, isUnquoting c = true) : bare d s cs = cs := by
  induction cs generalizing s with
  | nil => rfl
  | cons c rest ih =>
    have next := isQuoted_next (d := d) outside (h c List.mem_cons_self)
    rw [bare, outside, next, ih next fun c hc => h c (List.mem_cons_of_mem _ hc)]
    rfl

/-! ### Quoted text -/

theorem bare_string {content : List Char}
    (h : ∀ c ∈ content, c ≠ '\'' ∧ (c = '\\' → d ≠ .mySql)) : bare d .string content = [] := by
  induction content with
  | nil => rfl
  | cons c rest ih =>
    obtain ⟨quote, escape⟩ := h c List.mem_cons_self
    rw [bare_cons_of_quoted rfl, next_string quote escape]
    exact ih fun c hc => h c (List.mem_cons_of_mem _ hc)

theorem bare_literalChars (content : List Char) :
    bare d .string (content.flatMap d.literalChar) = [] := by
  induction content with
  | nil => rfl
  | cons c rest ih =>
    have stays : read d .string (d.literalChar c) = .string := by
      simpa using read_literalChars (d := d) [c]
    have one : bare d .string (d.literalChar c) = [] := by
      unfold Dialect.literalChar
      split
      · -- A doubled quote is left and entered again, and neither of the two is outside.
        rw [bare_cons_of_quoted rfl, bare_cons_of_enters rfl]
        rfl
      · rename_i quote
        split
        · rename_i escape
          obtain ⟨rfl, rfl⟩ := escape
          rfl
        · rename_i escape
          split
          · rfl
          · rw [bare_cons_of_quoted rfl]
            rfl
    rw [List.flatMap_cons, bare_append, one, stays, ih, List.nil_append]

theorem bare_between {content : List Char} (stays : read d .string content = .string)
    (h : bare d .string content = []) :
    bare d (behind before) ('\'' :: content ++ ['\'']) = [] := by
  have enters : (next d (behind before) '\'').isQuoted = true := by rw [next_behind_quote]; rfl
  rw [List.cons_append, bare_cons_of_enters enters, next_behind_quote, bare_append, h, stays,
    bare_cons_of_quoted rfl, bare_nil, List.append_nil]

theorem bare_quoted (before : Option Char) {content : List Char}
    (h : ∀ c ∈ content, isStringChar c = true) :
    bare d (behind before) ('\'' :: content ++ ['\'']) = [] := by
  have plain (c : Char) (hc : c ∈ content) : c ≠ '\'' ∧ (c = '\\' → d ≠ .mySql) := by
    have own := h c hc
    simp only [isStringChar, Bool.and_eq_true, decide_eq_true_eq] at own
    exact ⟨own.1, fun back => absurd back own.2⟩
  exact bare_between (read_string plain) (bare_string plain)

theorem bare_nameChars (segment : List Char) :
    bare d .name (segment.flatMap fun c => if c = d.quote then [c, c] else [c]) = [] := by
  induction segment with
  | nil => rfl
  | cons c rest ih =>
    have stays : read d .name (if c = d.quote then [c, c] else [c]) = .name := by
      simpa using read_nameChars (d := d) [c]
    have one : bare d .name (if c = d.quote then [c, c] else [c]) = [] := by
      split
      · rename_i quote
        subst quote
        have enters : (next d .code d.quote).isQuoted = true := by cases d <;> rfl
        rw [bare_cons_of_quoted rfl, next, if_pos rfl, bare_cons_of_enters enters, bare_nil]
      · rw [bare_cons_of_quoted rfl, bare_nil]
    rw [List.flatMap_cons, bare_append, one, stays, ih, List.nil_append]

/-- Of a segment of a name nothing is outside quotes but a lone star. -/
theorem bare_identSegment (segment : List Char) :
    ∀ c ∈ bare d (behind before) (d.identSegment segment), c = '*' := by
  unfold Dialect.identSegment
  split
  · have star : ∀ c ∈ ['*'], isUnquoting c = true := List.all_eq_true.mp rfl
    rw [bare_eq_self (isQuoted_behind before) star]
    simp
  · have enters : (next d (behind before) d.quote).isQuoted = true := by
      rw [next_behind_nameQuote]
      rfl
    rw [List.cons_append, bare_cons_of_enters enters, next_behind_nameQuote, bare_append,
      bare_nameChars, read_nameChars, bare_cons_of_quoted rfl]
    simp

theorem bare_identSegments {segments : List (List Char)} (nonempty : segments ≠ []) :
    ∀ c ∈ bare d .code (['.'].intercalate (segments.map d.identSegment)), c = '*' ∨ c = '.' := by
  have code : Spot.code = behind none := rfl
  induction segments with
  | nil => exact absurd rfl nonempty
  | cons first rest ih =>
    have own := @bare_identSegment d none first
    by_cases last : rest = []
    · rw [last, List.map_singleton, List.intercalate_singleton, code]
      exact fun c hc => .inl (own c hc)
    · have ends : read d (behind none) (d.identSegment first) = .code := by
        rw [read_identSegment]
        simp
      have point : read d .code ['.'] = .code := by
        cases d <;> rfl
      have pointed : bare d .code ['.'] = ['.'] := by
        cases d <;> rfl
      rw [List.map_cons, List.intercalate_cons_of_ne_nil (by simpa using last), bare_append,
        bare_append, read_append, code, ends, point, pointed]
      intro c hc
      simp only [List.mem_append, List.mem_singleton] at hc
      rcases hc with (hc | hc) | hc
      · exact .inl (own c hc)
      · exact .inr hc
      · exact ih last c hc

end

end Spot

/-! ## Groups -/

/-- What a reader of lists knows: how many parentheses are open, the commas in the outermost of
them, and the sizes of the lists that have been closed. -/
structure Tally where
  depth : Nat := 0
  commas : Nat := 0
  sizes : List Nat := []
deriving DecidableEq, Repr

namespace Tally

/-- One more character outside quotes. -/
def next (t : Tally) (c : Char) : Tally :=
  if c = '(' then { t with depth := t.depth + 1, commas := if t.depth = 0 then 0 else t.commas }
  else if c = ')' then
    { t with
      depth := t.depth - 1
      sizes := if t.depth = 1 then t.sizes ++ [t.commas + 1] else t.sizes }
  else if c = ',' ∧ t.depth = 1 then { t with commas := t.commas + 1 }
  else t

/-- So many more commas. -/
def more (t : Tally) (n : Nat) : Tally :=
  if t.depth = 1 then { t with commas := t.commas + n } else t

@[simp] theorem more_zero (t : Tally) : t.more 0 = t := by
  unfold more
  split <;> rfl

theorem more_more (t : Tally) (m n : Nat) : (t.more m).more n = t.more (m + n) := by
  by_cases inside : t.depth = 1
  · simp [more, inside, Nat.add_assoc]
  · simp [more, inside]

end Tally

namespace Dialect

/-- The sizes of the lists between parentheses, in order. Lists inside others are not looked at. -/
def groupSizes (d : Dialect) (sql : String) : List Nat :=
  ((Spot.bare d .code sql.toList).foldl Tally.next {}).sizes

example : postgres.groupSizes "VALUES (1, f(2, 3), ')'), ('it''s, too')" = [3, 1] := by
  decide +kernel

/-- A text that is read from outside quotes to outside quotes, and what it changes in a tally. -/
def Leads (d : Dialect) (s : String) (t t' : Tally) : Prop :=
  Spot.read d .code s.toList = .code ∧ (Spot.bare d .code s.toList).foldl Tally.next t = t'

/-- A text that neither separates nor encloses anything. -/
def IsAtom (d : Dialect) (s : String) : Prop :=
  Spot.read d .code s.toList = .code ∧
    ∀ c ∈ Spot.bare d .code s.toList, c ∉ ['(', ')', ',']

section

variable {d : Dialect} {s s' : String} {t t' t'' : Tally}

theorem leads_empty (t : Tally) : d.Leads "" t t :=
  ⟨rfl, rfl⟩

theorem Leads.append (h : d.Leads s t t') (h' : d.Leads s' t' t'') :
    d.Leads (s ++ s') t t'' := by
  refine ⟨?_, ?_⟩
  · rw [String.toList_append, Spot.read_append, h.1, h'.1]
  · rw [String.toList_append, Spot.bare_append, h.1, List.foldl_append, h.2, h'.2]

theorem Leads.groupSizes_eq (h : d.Leads s {} t) : d.groupSizes s = t.sizes := by
  rw [groupSizes, h.2]

theorem IsAtom.leads (h : d.IsAtom s) (t : Tally) : d.Leads s t t := by
  refine ⟨h.1, ?_⟩
  have quiet := h.2
  generalize Spot.bare d .code s.toList = cs at quiet
  induction cs with
  | nil => rfl
  | cons c rest ih =>
    obtain ⟨own, later⟩ := List.forall_mem_cons.mp quiet
    simp only [List.mem_cons, List.not_mem_nil, or_false, not_or] at own
    obtain ⟨opening, closing, comma⟩ := own
    have stays : t.next c = t := by
      rw [Tally.next, if_neg opening, if_neg closing, if_neg fun h => comma h.1]
    rw [List.foldl_cons, stays]
    exact ih later

/-! ### Atoms -/

theorem IsAtom.append (h : d.IsAtom s) (h' : d.IsAtom s') : d.IsAtom (s ++ s') := by
  refine ⟨?_, ?_⟩
  · rw [String.toList_append, Spot.read_append, h.1, h'.1]
  · rw [String.toList_append, Spot.bare_append, h.1]
    exact List.forall_mem_append.mpr ⟨h.2, h'.2⟩

/-- A character of a number, a word or a placeholder. -/
def isAtomChar (c : Char) : Bool :=
  c ∉ ['\'', '"', '\x60', '(', ')', ',']

theorem isAtom_of_chars (read : Spot.read d .code s.toList = .code)
    (h : ∀ c ∈ s.toList, isAtomChar c = true) : d.IsAtom s := by
  refine ⟨read, ?_⟩
  have plain (c : Char) (hc : c ∈ s.toList) :
      Spot.isUnquoting c = true ∧ c ∉ ['(', ')', ','] := by
    have own := h c hc
    simp only [isAtomChar, Spot.isUnquoting, decide_eq_true_eq, List.mem_cons, List.not_mem_nil,
      or_false, not_or] at own ⊢
    exact ⟨⟨own.1, own.2.1, own.2.2.1⟩, own.2.2.2⟩
  rw [Spot.bare_eq_self rfl fun c hc => (plain c hc).1]
  exact fun c hc => (plain c hc).2

theorem isAtomChar_of_isDigit {c : Char} (h : c.isDigit = true) : isAtomChar c = true := by
  simp only [isAtomChar, decide_eq_true_eq, List.mem_cons, List.not_mem_nil, or_false, not_or]
  refine ⟨?_, ?_, ?_, ?_, ?_, ?_⟩
  all_goals
    rintro rfl
    cases h

theorem isAtom_of_bare (read : Spot.read d .code s.toList = .code)
    (bare : Spot.bare d .code s.toList = []) : d.IsAtom s :=
  ⟨read, by simp [bare]⟩

theorem isAtom_nat (n : Nat) : d.IsAtom n.repr := by
  have digits : ∀ c ∈ n.repr.toList, c.isDigit = true := by
    intro c hc
    rw [Nat.toList_repr] at hc
    exact Nat.isDigit_of_mem_toDigits (by decide) (by decide) hc
  have nonempty : n.repr.toList ≠ [] := by
    rw [Nat.toList_repr]
    exact Nat.toDigits_ne_nil
  exact isAtom_of_chars (@Spot.read_word d none _ nonempty fun c hc =>
    Spot.isWordChar_of_isDigit (digits c hc)) fun c hc => isAtomChar_of_isDigit (digits c hc)

theorem isAtom_placeholder (d : Dialect) (n : Nat) : d.IsAtom (d.placeholder n) := by
  have mark (d : Dialect) : d.IsAtom "?" :=
    isAtom_of_chars (by cases d <;> rfl) (List.all_eq_true.mp rfl)
  have dollar : postgres.IsAtom "$" := isAtom_of_chars rfl (List.all_eq_true.mp rfl)
  cases d with
  | postgres => exact dollar.append (isAtom_nat n)
  | mySql => exact mark _
  | sqlite => exact mark _

theorem isAtom_stringLiteral (d : Dialect) (s : String) : d.IsAtom (d.stringLiteral s) := by
  refine isAtom_of_bare (@Spot.read_stringLiteral d none s) ?_
  rw [stringLiteral, String.toList_ofList]
  exact @Spot.bare_between d none _ (Spot.read_literalChars _) (Spot.bare_literalChars _)

theorem isAtom_quoted (d : Dialect) {s : String}
    (h : ∀ c ∈ s.toList, Spot.isStringChar c = true) : d.IsAtom ("'" ++ s ++ "'") := by
  have chars : ("'" ++ s ++ "'").toList = '\'' :: s.toList ++ ['\''] := by simp
  refine isAtom_of_bare ?_ ?_
  · rw [chars]
    exact Spot.read_quoted d none _ h
  · rw [chars]
    exact @Spot.bare_quoted d none _ h

theorem isAtom_ident (d : Dialect) (name : String) : d.IsAtom (d.ident name) := by
  have segments : name.toList.splitOn '.' ≠ [] := by simp
  refine ⟨?_, ?_⟩
  · rw [ident, String.toList_ofList, identChars]
    have noSlash : none ≠ some '/' := by decide
    exact (@Spot.read_identSegments d none _ segments).trans (if_neg fun star => noSlash star.2)
  · rw [ident, String.toList_ofList, identChars]
    intro c hc
    rcases Spot.bare_identSegments segments c hc with rfl | rfl <;> decide

end

end Dialect

/-! ## Values -/

namespace Dialect

variable (d : Dialect)

theorem isAtom_word {s : String} (nonempty : s.toList ≠ [])
    (h : s.toList.all (fun c => Spot.isWordChar c && isAtomChar c) = true) : d.IsAtom s := by
  simp only [List.all_eq_true, Bool.and_eq_true] at h
  exact isAtom_of_chars (@Spot.read_word d none _ nonempty fun c hc => (h c hc).1)
    fun c hc => (h c hc).2

theorem isAtom_null : d.IsAtom "NULL" :=
  d.isAtom_word (by decide) (by decide)

theorem isAtom_floatLiteral (x : Binary64) : d.IsAtom (d.floatLiteral x) := by
  have null := isAtom_null d
  cases x with
  | finite negative m e =>
    refine isAtom_of_chars ?_ ?_
    · exact (@Spot.read_magnitude d none negative m e).trans (if_neg nofun)
    · have digits := Layout.isDigit_or_eq_of_mem_positional (Decimal.shortest .up m e)
      rw [← Layout.magnitude_plain] at digits
      have magnitude : ∀ c ∈ (Layout.plain.magnitude m e).toList, isAtomChar c = true := by
        intro c hc
        rcases digits c hc with digit | rfl
        · exact isAtomChar_of_isDigit digit
        · rfl
      cases negative with
      | false => simpa [floatLiteral, Layout.render] using magnitude
      | true =>
        have sign : isAtomChar '-' = true := rfl
        simpa [floatLiteral, Layout.render, sign] using magnitude
  | nan =>
    cases d with
    | postgres => exact isAtom_quoted _ (s := "NaN") (List.all_eq_true.mp rfl)
    | mySql => exact null
    | sqlite => exact null
  | infinite negative =>
    cases d with
    | postgres =>
      cases negative with
      | false => exact isAtom_quoted _ (s := "Infinity") (List.all_eq_true.mp rfl)
      | true => exact isAtom_quoted _ (s := "-Infinity") (List.all_eq_true.mp rfl)
    | mySql => cases negative <;> exact null
    | sqlite => cases negative <;> exact null

theorem isAtom_bytesLiteral (bytes : List UInt8) : d.IsAtom (d.bytesLiteral bytes) := by
  have digits := Text.isStringChar_of_mem_hexBytes bytes
  have marked (d : Dialect) : d.IsAtom ("X'" ++ Text.hexBytes bytes ++ "'") := by
    have letter : d.IsAtom "X" :=
      isAtom_of_chars (by cases d <;> rfl) (List.all_eq_true.mp rfl)
    have quoted : d.IsAtom ("'" ++ Text.hexBytes bytes ++ "'") :=
      d.isAtom_quoted (by simpa [Text.hexBytes] using digits)
    have both := letter.append quoted
    rwa [← String.append_assoc, ← String.append_assoc] at both
  cases d with
  | mySql => exact marked _
  | sqlite => exact marked _
  | postgres =>
    refine isAtom_of_bare (@Spot.read_bytesLiteral .postgres none bytes) ?_
    have text : (postgres.bytesLiteral bytes).toList =
        '\'' :: ('\\' :: 'x' :: bytes.flatMap Text.hexByte) ++ ['\''] := by
      simp [bytesLiteral, Text.hexBytes]
    have plain : ∀ c ∈ '\\' :: 'x' :: bytes.flatMap Text.hexByte,
        c ≠ '\'' ∧ (c = '\\' → postgres ≠ .mySql) := by
      refine List.forall_mem_cons.mpr ⟨by decide, List.forall_mem_cons.mpr ⟨by decide, ?_⟩⟩
      intro c hc
      have own := digits c hc
      simp only [Spot.isStringChar, Bool.and_eq_true, decide_eq_true_eq] at own
      exact ⟨own.1, fun _ => by decide⟩
    rw [text]
    exact @Spot.bare_between postgres none _ (Spot.read_string plain) (Spot.bare_string plain)

theorem isAtom_timestampLiteral (t : Timestamp) : d.IsAtom (d.timestampLiteral t) := by
  unfold timestampLiteral
  split
  · exact isAtom_quoted _ (t.isStringChar_of_mem_textWith rfl (List.all_eq_true.mp rfl))
  · exact isAtom_quoted _ (t.isStringChar_of_mem_textWith rfl (List.all_eq_true.mp rfl))

theorem isAtom_int (n : Int) : d.IsAtom (Int.repr n) := by
  have digits (m : Nat) : ∀ c ∈ m.repr.toList, isAtomChar c = true := by
    intro c hc
    rw [Nat.toList_repr] at hc
    exact isAtomChar_of_isDigit (Nat.isDigit_of_mem_toDigits (by decide) (by decide) hc)
  refine isAtom_of_chars ((@Spot.read_int d none n).trans (if_neg nofun)) ?_
  rw [Int.repr_eq_if]
  split
  · exact digits _
  · rw [String.toList_append]
    exact List.forall_mem_append.mpr ⟨List.all_eq_true.mp rfl, digits _⟩

end Dialect

namespace Value

/-- The literal of a value that is no list is one element. -/
theorem isAtom_literal (d : Dialect) {v : Value} (single : ∀ first rest, v ≠ .list (first :: rest))
    (untrusted : v.holdsTrusted = false) : d.IsAtom (v.literal d) := by
  cases v with
  | null => exact d.isAtom_null
  | bool b =>
    rw [literal]
    split
    · exact d.isAtom_word (by decide) (by decide)
    · exact d.isAtom_word (by decide) (by decide)
  | int n => exact d.isAtom_int n.toInt
  | float x => exact d.isAtom_floatLiteral x
  | text s => exact d.isAtom_stringLiteral s
  | bytes bytes => exact d.isAtom_bytesLiteral bytes
  | json j => exact d.isAtom_stringLiteral j.print
  | uuid u =>
    refine Dialect.isAtom_quoted d fun c hc => ?_
    rw [Uuid.text, String.toList_ofList] at hc
    exact Uuid.isStringChar_of_mem_grouped Uuid.groups u.bytes c hc
  | timestamp t => exact d.isAtom_timestampLiteral t
  | ident name => exact d.isAtom_ident name
  | safe sql => cases untrusted
  | list items =>
    cases items with
    | nil => simpa [literal] using d.isAtom_null
    | cons first rest => exact absurd rfl (single first rest)

/-- What is bound is written as one element. -/
theorem isAtom_literal_of_isLeaf (d : Dialect) {v : Value} (h : v.isLeaf = true) :
    d.IsAtom (v.literal d) := by
  refine isAtom_literal d ?_ ?_
  · rintro first rest rfl
    cases h
  · cases v with
    | safe sql => cases h
    | list items =>
      cases items with
      | nil => rfl
      | cons first rest => cases h
    | _ => rfl

mutual

/-- How many elements a value is written as: lists fall into their items. -/
def width : Value → Nat
  | .list (v :: rest) => v.width + totalWidth rest
  | _ => 1

def totalWidth : List Value → Nat
  | [] => 0
  | v :: rest => v.width + totalWidth rest

end

end Value

/-! ## Pieces -/

/-- A text of pieces in which each argument is one element. -/
inductive Spelled (d : Dialect) : List Piece → String → Prop where
  | nil : Spelled d [] ""
  | text {ps : List Piece} {s : String} (a : String) :
      Spelled d ps s → Spelled d (.text a :: ps) (a ++ s)
  | arg {ps : List Piece} {s a : String} (v : Value) :
      d.IsAtom a → Spelled d ps s → Spelled d (.arg v :: ps) (a ++ s)

namespace Spelled

variable {d : Dialect} {ps qs : List Piece} {s : String}

theorem exists_append (h : Spelled d (ps ++ qs) s) :
    ∃ a b, s = a ++ b ∧ Spelled d ps a ∧ Spelled d qs b := by
  induction ps generalizing s with
  | nil => exact ⟨"", s, by simp, .nil, h⟩
  | cons p ps ih =>
    cases h with
    | text a later =>
      obtain ⟨b, c, rfl, first, second⟩ := ih later
      exact ⟨a ++ b, c, by rw [String.append_assoc], .text a first, second⟩
    | arg v atom later =>
      obtain ⟨b, c, rfl, first, second⟩ := ih later
      exact ⟨_, c, by rw [String.append_assoc], .arg v atom first, second⟩

/-- A text for pieces is spelled if its arguments are. -/
theorem of_map {f : Piece → String} (texts : ∀ a, f (.text a) = a)
    (atoms : ∀ v ∈ Piece.args ps, d.IsAtom (f (.arg v))) :
    Spelled d ps (String.join (ps.map f)) := by
  induction ps with
  | nil => exact .nil
  | cons p ps ih =>
    rw [List.map_cons, String.join_cons]
    cases p with
    | text a =>
      rw [texts]
      exact .text a (ih atoms)
    | arg v =>
      obtain ⟨own, later⟩ := List.forall_mem_cons.mp atoms
      exact .arg v own (ih later)

theorem of_number (d : Dialect) (bound : Nat) (ps : List Piece) :
    Spelled d ps (Piece.number d bound ps).sql := by
  induction ps generalizing bound with
  | nil => exact .nil
  | cons p ps ih =>
    cases p with
    | text a => exact .text a (ih bound)
    | arg v => exact .arg v (d.isAtom_placeholder _) (ih (bound + 1))

end Spelled

namespace Value

variable {d : Dialect}

theorem width_pos (v : Value) : 0 < v.width := by
  cases v with
  | list items =>
    cases items with
    | nil => decide
    | cons first rest =>
      have own := width_pos first
      rw [width]
      omega
  | _ => exact Nat.one_pos

theorem leads_comma (t : Tally) : d.Leads ", " t (t.more 1) := by
  refine ⟨by cases d <;> rfl, ?_⟩
  have bare : Spot.bare d .code ", ".toList = [',', ' '] := by cases d <;> rfl
  rw [bare, Tally.more]
  by_cases inside : t.depth = 1
  · simp [Tally.next, inside]
  · simp [Tally.next, inside]

mutual

/-- In a list, a value takes as many places as it is wide. -/
theorem leads_of_spelled (v : Value) (untrusted : v.holdsTrusted = false) {s : String}
    (h : Spelled d (v.leaves d) s) (t : Tally) : d.Leads s t (t.more (v.width - 1)) := by
  cases v with
  | list items =>
    cases items with
    | nil =>
      cases h with
      | arg v atom rest =>
        cases rest
        simpa [width] using atom.leads t
    | cons first rest =>
      simp only [holdsTrusted, anyHoldsTrusted, Bool.or_eq_false_iff] at untrusted
      rw [leaves] at h
      obtain ⟨a, b, rfl, own, later⟩ := h.exists_append
      have both := (leads_of_spelled first untrusted.1 own t).append
        (leadsBehind_of_spelled rest untrusted.2 later _)
      have count : first.width - 1 + totalWidth rest = first.width + totalWidth rest - 1 := by
        have := first.width_pos
        omega
      rwa [Tally.more_more, count] at both
  | ident name =>
    cases h with
    | text a rest =>
      cases rest
      simpa [width] using (d.isAtom_ident name).leads t
  | safe sql => cases untrusted
  | _ =>
    cases h with
    | arg v atom rest =>
      cases rest
      simpa [width] using atom.leads t

theorem leadsBehind_of_spelled (vs : List Value) (untrusted : anyHoldsTrusted vs = false)
    {s : String} (h : Spelled d (leavesBehind d vs) s) (t : Tally) :
    d.Leads s t (t.more (totalWidth vs)) := by
  cases vs with
  | nil =>
    cases h
    simpa [totalWidth] using Dialect.leads_empty t
  | cons v rest =>
    simp only [anyHoldsTrusted, Bool.or_eq_false_iff] at untrusted
    rw [leavesBehind] at h
    cases h with
    | text a h =>
      obtain ⟨a, b, rfl, own, later⟩ := h.exists_append
      have all := ((leads_comma t).append (leads_of_spelled v untrusted.1 own _)).append
        (leadsBehind_of_spelled rest untrusted.2 later _)
      have count : 1 + (v.width - 1 + totalWidth rest) = totalWidth (v :: rest) := by
        have := v.width_pos
        rw [totalWidth]
        omega
      rwa [Tally.more_more, Tally.more_more, count, String.append_assoc] at all

end

end Value

end SqlCompose
