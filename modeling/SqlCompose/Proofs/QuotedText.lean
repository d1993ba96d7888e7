import Mathlib.Data.List.Basic
import SqlCompose.Proofs.Aliases
import SqlCompose.Value.Literal

/-!
# Reading string literals back

Quoted text is read as SQL reads it: up to the closing quote, where a doubled quote stands for one
and, on some dialects, a backslash escapes the next character. The main statement is that the
literals of texts, JSON values and lists of them are read back from any text that goes on behind
them, and that reading ends just where they end.
-/

namespace SqlCompose

namespace Text

/-! ## Text between quotes -/

/-- Puts something before the content that was read. -/
def ahead {α β : Type} (s : List α) : List α × β → List α × β :=
  Prod.map (s ++ ·) id

/-- The content up to the closing quote, and the text behind it. A doubled quote stands for one, and
behind an escape any character stands for itself. -/
def readQuoted (quote : Char) (escape : Option Char) : List Char → Option (List Char × List Char)
  | [] => none
  | [c] => if c = quote then some ([], []) else none
  | c :: b :: rest =>
    if c = quote then
      if b = quote then (readQuoted quote escape rest).map (ahead [quote]) else some ([], b :: rest)
    else if escape = some c then (readQuoted quote escape rest).map (ahead [b])
    else (readQuoted quote escape (b :: rest)).map (ahead [c])

section

variable {quote : Char} {escape : Option Char}

theorem readQuoted_close {behind : List Char} (ends : behind.head? ≠ some quote) :
    readQuoted quote escape (quote :: behind) = some ([], behind) := by
  cases behind with
  | nil => simp [readQuoted]
  | cons b more =>
    have other : b ≠ quote := by simpa using ends
    simp [readQuoted, other]

theorem readQuoted_doubled (rest : List Char) :
    readQuoted quote escape (quote :: quote :: rest) =
      (readQuoted quote escape rest).map (ahead [quote]) := by
  simp [readQuoted]

theorem readQuoted_escaped {e : Char} (apart : e ≠ quote) (c : Char) (rest : List Char) :
    readQuoted quote (some e) (e :: c :: rest) =
      (readQuoted quote (some e) rest).map (ahead [c]) := by
  simp [readQuoted, apart]

theorem readQuoted_plain {c : Char} (unquoted : c ≠ quote) (unescaped : escape ≠ some c)
    (rest : List Char) :
    readQuoted quote escape (c :: rest) = (readQuoted quote escape rest).map (ahead [c]) := by
  cases rest with
  | nil => simp [readQuoted, unquoted]
  | cons b rest => simp [readQuoted, unquoted, unescaped]

/-- If what is written for each character is read as some content of its own, a text is read as the
content of its characters. -/
theorem readQuoted_flatMap {write content : Char → List Char}
    (one : ∀ c rest, readQuoted quote escape (write c ++ rest) =
      (readQuoted quote escape rest).map (ahead (content c)))
    (s : List Char) {behind : List Char} (ends : behind.head? ≠ some quote) :
    readQuoted quote escape (s.flatMap write ++ quote :: behind) =
      some (s.flatMap content, behind) := by
  induction s with
  | nil => exact readQuoted_close ends
  | cons c s ih =>
    rw [List.flatMap_cons, List.append_assoc, one, ih]
    rfl

end

/-! ## Several items -/

/-- The items that a text begins with, with a separator between two of them, and the text behind the
last one. Each item has to take something of the text. -/
def readItems (item : List Char → Option (List Char × List Char)) (separator : List Char)
    (text : List Char) : Option (List (List Char) × List Char) :=
  match item text with
  | none => none
  | some (s, rest) =>
    match rest.dropPrefix? separator with
    | none => some ([s], rest)
    | some more =>
      if more.length < text.length then (readItems item separator more).map (ahead [s]) else none
termination_by text.length

/-- The further items that a text begins with, if a separator stands before them. -/
def readFurther (item : List Char → Option (List Char × List Char)) (separator : List Char)
    (text : List Char) : Option (List (List Char) × List Char) :=
  match text.dropPrefix? separator with
  | none => some ([], text)
  | some more => readItems item separator more

section

variable {item : List Char → Option (List Char × List Char)} {separator : List Char}

theorem readFurther_separator (more : List Char) :
    readFurther item separator (separator ++ more) = readItems item separator more := by
  have rest : (separator ++ more).dropPrefix? separator = some more :=
    List.dropPrefix?_eq_some_iff.mpr ⟨separator, rfl, beq_self_eq_true separator⟩
  rw [readFurther, rest]

theorem readFurther_of_not_prefix {text : List Char} (h : ¬ separator <+: text) :
    readFurther item separator text = some ([], text) := by
  have none : text.dropPrefix? separator = none := by
    refine Option.eq_none_iff_forall_ne_some.mpr fun more dropped => ?_
    obtain ⟨begun, rfl, same⟩ := List.dropPrefix?_eq_some_iff.mp dropped
    exact h (eq_of_beq same ▸ List.prefix_append begun more)
  rw [readFurther, none]

theorem readItems_of_item {own behind s : List Char} (nonempty : separator ≠ [])
    (first : item (own ++ behind) = some (s, behind)) :
    readItems item separator (own ++ behind) =
      (readFurther item separator behind).map (ahead [s]) := by
  rw [readItems, first, readFurther]
  dsimp only
  cases dropped : behind.dropPrefix? separator with
  | none => rfl
  | some more =>
    obtain ⟨begun, rfl, same⟩ := List.dropPrefix?_eq_some_iff.mp dropped
    -- The separator is not empty, so less is left than there was even if the item is.
    have shorter : more.length < (own ++ (begun ++ more)).length := by
      have := List.length_pos_iff.mpr nonempty
      rw [eq_of_beq same, List.length_append, List.length_append]
      omega
    simp only [if_pos shorter]

/-- Items that are read back one by one are read back behind each other. -/
theorem readItems_intercalate {write content : List Char → List Char} (ends : List Char → Prop)
    (nonempty : separator ≠ []) (apart : ∀ more, ends (separator ++ more))
    (one : ∀ x behind, ends behind → item (write x ++ behind) = some (content x, behind))
    {xs : List (List Char)} (hxs : xs ≠ []) {behind : List Char} (last : ends behind) :
    readItems item separator (separator.intercalate (xs.map write) ++ behind) =
      (readFurther item separator behind).map (ahead (xs.map content)) := by
  -- Behind each item but the last one stands a separator, with which no item can go on.
  induction xs with
  | nil => exact absurd rfl hxs
  | cons x xs ih =>
    by_cases alone : xs = []
    · subst alone
      rw [List.map_singleton, List.intercalate_singleton]
      exact readItems_of_item nonempty (one x behind last)
    · rw [List.map_cons, List.intercalate_cons_of_ne_nil (by simpa using alone), List.append_assoc,
        List.append_assoc, readItems_of_item nonempty (one x _ (apart _)), readFurther_separator,
        ih alone, Option.map_map]
      rfl

end

theorem map_ahead_nil {α β : Type} (o : Option (List α × β)) : o.map (ahead []) = o := by
  cases o <;> rfl

/-- A text without its NUL characters. -/
def withoutNul (s : List Char) : List Char :=
  s.filter (· ≠ '\x00')

theorem withoutNul_eq_flatMap (s : List Char) :
    withoutNul s = s.flatMap fun c => if c = '\x00' then [] else [c] := by
  induction s with
  | nil => rfl
  | cons c s ih =>
    rw [List.flatMap_cons, ← ih, withoutNul]
    by_cases nul : c = '\x00'
    · rw [if_pos nul, List.filter_cons_of_neg (by simpa using nul)]
      rfl
    · rw [if_neg nul, List.filter_cons_of_pos (by simpa using nul)]
      rfl

end Text

/-! ## String literals -/

namespace Dialect

variable (d : Dialect)

/-- The character behind which a character of a string stands for itself, if there is one. -/
def stringEscape : Option Char :=
  match d with
  | .mySql => some '\\'
  | .postgres => none
  | .sqlite => none

/-- The content of the string literal that a text begins with, and the text behind it. -/
def readString : List Char → Option (List Char × List Char)
  | '\'' :: rest => Text.readQuoted '\'' d.stringEscape rest
  | _ => none

/-- The contents of string literals with commas between them. -/
def readStrings (text : List Char) : Option (List (List Char) × List Char) :=
  Text.readItems d.readString [',', ' '] text

theorem stringEscape_eq_some_iff {c : Char} :
    d.stringEscape = some c ↔ c = '\\' ∧ d = .mySql := by
  cases d <;> simp [stringEscape, eq_comm]

theorem readQuoted_literalChar (c : Char) (rest : List Char) :
    Text.readQuoted '\'' d.stringEscape (d.literalChar c ++ rest) =
      (Text.readQuoted '\'' d.stringEscape rest).map
        (Text.ahead (if c = '\x00' then [] else [c])) := by
  unfold literalChar
  by_cases quote : c = '\''
  · subst quote
    exact Text.readQuoted_doubled rest
  · rw [if_neg quote]
    by_cases escape : c = '\\' ∧ d = .mySql
    · obtain ⟨rfl, rfl⟩ := escape
      exact Text.readQuoted_escaped (by decide) '\\' rest
    · rw [if_neg escape]
      by_cases nul : c = '\x00'
      · rw [if_pos nul, Text.map_ahead_nil, List.nil_append]
      · rw [if_neg nul]
        exact Text.readQuoted_plain quote (escape <| d.stringEscape_eq_some_iff.mp ·) rest

/-- A string literal is read back, whatever stands behind it but a quote. -/
theorem readString_stringChars (s : List Char) {behind : List Char}
    (ends : behind.head? ≠ some '\'') :
    d.readString (d.stringChars s ++ behind) = some (Text.withoutNul s, behind) := by
  have content := Text.readQuoted_flatMap d.readQuoted_literalChar s ends
  rw [← Text.withoutNul_eq_flatMap] at content
  simpa [stringChars, readString] using content

theorem readString_stringLiteral (s : String) {behind : List Char}
    (ends : behind.head? ≠ some '\'') :
    d.readString ((d.stringLiteral s).toList ++ behind) =
      some (Text.withoutNul s.toList, behind) := by
  rw [stringLiteral, String.toList_ofList]
  exact d.readString_stringChars s.toList ends

end Dialect

/-! ### JSON text -/

namespace Text

theorem nul_not_mem_toDigits (n : Nat) : '\x00' ∉ Nat.toDigits 10 n := by
  intro nul
  have digit := Nat.isDigit_of_mem_toDigits (by decide) (by decide) nul
  cases digit

theorem nul_not_mem_intercalate {separator : List Char} {texts : List (List Char)}
    (between : '\x00' ∉ separator) (within : ∀ s ∈ texts, '\x00' ∉ s) :
    '\x00' ∉ separator.intercalate texts := by
  induction texts with
  | nil => simp
  | cons s texts ih =>
    rw [List.forall_mem_cons] at within
    by_cases last : texts = []
    · rw [last, List.intercalate_singleton]
      exact within.1
    · rw [List.intercalate_cons_of_ne_nil last, List.mem_append, List.mem_append, not_or, not_or]
      exact ⟨⟨within.1, between⟩, ih within.2⟩

end Text

namespace Layout

open Text (nul_not_mem_toDigits)

variable (l : Layout)

theorem nul_not_mem_positional (tail : '\x00' ∉ l.wholeTail.toList) (x : Decimal) :
    '\x00' ∉ (l.positional x).toList := by
  have digits := nul_not_mem_toDigits x.digits
  unfold positional
  dsimp only
  split
  · simp [digits, tail]
  · split
    · simp only [String.toList_ofList, List.mem_append, List.mem_cons, not_or]
      exact ⟨fun nul => digits (List.mem_of_mem_take nul), by decide,
        fun nul => digits (List.mem_of_mem_drop nul)⟩
    · simp [digits]

theorem nul_not_mem_scientific (x : Decimal) (leading : Int) :
    '\x00' ∉ (l.scientific x leading).toList := by
  have first : '\x00' ∉ (Nat.toDigits 10 x.digits).take 1 := fun nul =>
    nul_not_mem_toDigits _ (List.mem_of_mem_take nul)
  have later : '\x00' ∉ (Nat.toDigits 10 x.digits).tail := fun nul =>
    nul_not_mem_toDigits _ (List.mem_of_mem_tail nul)
  unfold scientific
  dsimp only
  split_ifs <;> simp [first, later, nul_not_mem_toDigits]

theorem nul_not_mem_render (tail : '\x00' ∉ l.wholeTail.toList) (x : Binary64) :
    '\x00' ∉ (l.render x).toList := by
  have magnitude (m : Nat) (e : Int) : '\x00' ∉ (l.magnitude m e).toList := by
    unfold magnitude
    dsimp only
    split
    · exact l.nul_not_mem_positional tail _
    · exact l.nul_not_mem_scientific _ _
  cases x with
  | nan => simp [render]
  | infinite negative => cases negative <;> simp [render]
  | finite negative m e => cases negative <;> simp [render, magnitude]

end Layout

namespace Json

theorem nul_not_mem_escapeChar (c : Char) : '\x00' ∉ escapeChar c := by
  by_cases control : c.toNat < 0x20
  · have low : ∀ n < 0x20, '\x00' ∉ escapeChar (Char.ofNat n) := by decide +kernel
    simpa using low c.toNat control
  · have other : c ≠ '\x00' := by
      rintro rfl
      exact control (by decide)
    unfold escapeChar
    split_ifs <;> simp [other.symm]

theorem nul_not_mem_printString (s : String) : '\x00' ∉ (printString s).toList := by
  simp [printString, nul_not_mem_escapeChar]

mutual

/-- Compact text writes a NUL character by its number. -/
theorem nul_not_mem_print (j : Json) : '\x00' ∉ j.print.toList := by
  cases j with
  | null => simp [print]
  | bool b => cases b <;> simp [print]
  | integer n =>
    rw [print, Int.repr_eq_if]
    split <;> simp [Text.nul_not_mem_toDigits]
  | float x => exact Layout.compact.nul_not_mem_render (by decide) x
  | string s => exact nul_not_mem_printString s
  | array items =>
    have inside : '\x00' ∉ ",".toList.intercalate ((printItems items).map String.toList) :=
      Text.nul_not_mem_intercalate (by decide) (nul_not_mem_printItems items)
    simpa [print, String.toList_intercalate] using inside
  | object members =>
    have inside : '\x00' ∉ ",".toList.intercalate ((printMembers members).map String.toList) :=
      Text.nul_not_mem_intercalate (by decide) (nul_not_mem_printMembers members)
    simpa [print, String.toList_intercalate] using inside

theorem nul_not_mem_printItems (items : List Json) :
    ∀ s ∈ (printItems items).map String.toList, '\x00' ∉ s := by
  cases items with
  | nil => simp [printItems]
  | cons v rest =>
    rw [printItems, List.map_cons, List.forall_mem_cons]
    exact ⟨nul_not_mem_print v, nul_not_mem_printItems rest⟩

theorem nul_not_mem_printMembers (members : List (String × Json)) :
    ∀ s ∈ (printMembers members).map String.toList, '\x00' ∉ s := by
  cases members with
  | nil => simp [printMembers]
  | cons member rest =>
    obtain ⟨k, v⟩ := member
    rw [printMembers, List.map_cons, List.forall_mem_cons]
    have own := nul_not_mem_print v
    have key := nul_not_mem_printString k
    exact ⟨by simp [own, key], nul_not_mem_printMembers rest⟩

end

theorem withoutNul_print (j : Json) : Text.withoutNul j.print.toList = j.print.toList := by
  refine List.filter_eq_self.mpr fun c hc => ?_
  have other : c ≠ '\x00' := fun nul => j.nul_not_mem_print (nul ▸ hc)
  simpa using other

end Json

/-! ### Strings in lists -/

namespace Value

/-- A text, a JSON value, or a list of such values that has no empty list in it. -/
inductive IsStrings : Value → Prop
  | text (s : String) : IsStrings (.text s)
  | json (j : Json) : IsStrings (.json j)
  | list {items : List Value} : items ≠ [] → (∀ v ∈ items, IsStrings v) → IsStrings (.list items)

mutual

/-- The texts and the compact texts of the JSON values in a value, in order. -/
def strings : Value → List (List Char)
  | .text s => [s.toList]
  | .json j => [j.print.toList]
  | .list items => stringsAll items
  | _ => []

def stringsAll : List Value → List (List Char)
  | [] => []
  | v :: rest => v.strings ++ stringsAll rest

end

/-- A value made of strings has a string. -/
theorem IsStrings.strings_ne_nil {v : Value} (h : v.IsStrings) : v.strings ≠ [] := by
  induction h with
  | text s => simp [strings]
  | json j => simp [strings]
  | @list items nonempty all ih =>
    obtain ⟨v, rest, rfl⟩ := List.exists_cons_of_ne_nil nonempty
    rw [strings, stringsAll]
    exact List.append_ne_nil_of_left_ne_nil (ih v List.mem_cons_self) _

/-- If values are written as their strings are, with commas between them, then so is a list of
them. -/
theorem toList_literal_list (d : Dialect) {v : Value} {rest : List Value}
    (each : ∀ w ∈ v :: rest, w.strings ≠ [] ∧
      (w.literal d).toList = [',', ' '].intercalate (w.strings.map d.stringChars)) :
    ((list (v :: rest)).literal d).toList =
      [',', ' '].intercalate ((stringsAll (v :: rest)).map d.stringChars) := by
  rw [literal]
  induction rest generalizing v with
  | nil => simpa [literals, stringsAll] using (each v List.mem_cons_self).2
  | cons w rest ih =>
    obtain ⟨⟨nonempty, own⟩, later⟩ := List.forall_mem_cons.mp each
    have first : v.strings.map d.stringChars ≠ [] := by simpa using nonempty
    have others : (stringsAll (w :: rest)).map d.stringChars ≠ [] := by
      simp [stringsAll, (later w List.mem_cons_self).1]
    have parts : stringsAll (v :: w :: rest) = v.strings ++ stringsAll (w :: rest) := rfl
    rw [parts, List.map_append, JoinTree.intercalate_append first others, ← ih later, ← own,
      literals, literals, String.intercalate_cons_cons, String.toList_append,
      String.toList_append]
    rfl

/-- A value made of strings is written as its strings are, with commas between them. -/
theorem IsStrings.toList_literal (d : Dialect) {v : Value} (h : v.IsStrings) :
    (v.literal d).toList = [',', ' '].intercalate (v.strings.map d.stringChars) := by
  induction h with
  | text s => simp [strings, literal, Dialect.stringLiteral]
  | json j => simp [strings, literal, Dialect.stringLiteral]
  | @list items nonempty all ih =>
    obtain ⟨v, rest, rfl⟩ := List.exists_cons_of_ne_nil nonempty
    exact toList_literal_list d fun w hw => ⟨(all w hw).strings_ne_nil, ih w hw⟩

theorem IsStrings.readStrings_literal (d : Dialect) {v : Value} (h : v.IsStrings)
    {behind : List Char} (ends : behind.head? ≠ some '\'') :
    d.readStrings ((v.literal d).toList ++ behind) =
      (Text.readFurther d.readString [',', ' '] behind).map
        (Text.ahead (v.strings.map Text.withoutNul)) := by
  rw [h.toList_literal]
  exact Text.readItems_intercalate (fun behind => behind.head? ≠ some '\'')
    (List.cons_ne_nil ',' [' ']) (by simp) (fun s _ => d.readString_stringChars s)
    h.strings_ne_nil ends

/-- Texts and JSON values are read back from their literals, and from the literal of a list made of
them, with whatever stands behind the closing quote left over. -/
theorem literal_readsBack (d : Dialect) {behind : List Char} (ends : behind.head? ≠ some '\'') :
    (∀ s, d.readString (((text s).literal d).toList ++ behind) =
      some (Text.withoutNul s.toList, behind)) ∧
    (∀ j, d.readString (((json j).literal d).toList ++ behind) = some (j.print.toList, behind)) ∧
    ∀ v : Value, v.IsStrings →
      (¬ [',', ' '] <+: behind → d.readStrings ((v.literal d).toList ++ behind) =
        some (v.strings.map Text.withoutNul, behind)) ∧
      ∀ more, behind = ',' :: ' ' :: more → d.readStrings ((v.literal d).toList ++ behind) =
        (d.readStrings more).map (Text.ahead (v.strings.map Text.withoutNul)) := by
  refine ⟨fun s => d.readString_stringLiteral s ends, fun j => ?_, fun v strings => ⟨?_, ?_⟩⟩
  · rw [literal, d.readString_stringLiteral _ ends, j.withoutNul_print]
  · intro last
    rw [strings.readStrings_literal d ends, Text.readFurther_of_not_prefix last]
    simp [Text.ahead]
  · rintro more rfl
    rw [strings.readStrings_literal d ends]
    exact congrArg _ (Text.readFurther_separator more)

/-- On MySQL a backslash is doubled as quotes are, and NUL characters are left out. -/
theorem literal_readsBack_nested :
    let behind := ") OR note = '''".toList
    let v : Value :=
      .list [.text "it's \x00 \\'", .list [.list [.json (.array [.string "'\x00"])], .text ""]]
    behind.head? ≠ some '\'' ∧ v.IsStrings ∧ ¬ [',', ' '] <+: behind ∧
      v.literal .mySql = "'it''s  \\\\''', '[\"''\\\\u0000\"]', ''" ∧
      Dialect.readStrings .mySql ((v.literal .mySql).toList ++ behind) =
        some (["it's  \\'".toList, "[\"'\\u0000\"]".toList, []], behind) := by
  intro behind v
  have ends : behind.head? ≠ some '\'' := by decide +kernel
  have strings : v.IsStrings :=
    .list (by simp) (by simpa using ⟨.text _, .list (by simp)
      (by simpa using ⟨.list (by simp) (by simpa using .json _), .text _⟩)⟩)
  have last : ¬ [',', ' '] <+: behind := by decide +kernel
  refine ⟨ends, strings, last, by decide +kernel, ?_⟩
  rw [((literal_readsBack .mySql ends).2.2 v strings).1 last]
  decide +kernel

end Value

end SqlCompose
