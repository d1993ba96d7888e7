import SqlCompose.Proofs.Writing
import SqlCompose.Template

/-!
# Templates made of texts and values

Any texts can be written into a template, each question mark behind a backslash, and a bare mark
between two of them stands for a value. The main statement is that expanding such a template gives
the texts back with the values between them, and scans nothing that was put in again.
-/

namespace SqlCompose

/-! ## Writers of arguments -/

/-- Something that writes arguments. What it has been handed so far may show in what it writes and
is kept in a state. -/
structure ArgumentWriter (σ : Type) where
  put : σ → Value → String × σ

namespace ArgumentWriter

variable {σ : Type} (w : ArgumentWriter σ)

/-- The text of pieces, whose arguments are handed over in order, and the state behind them. -/
def run (s : σ) : List Piece → String × σ
  | [] => ("", s)
  | .text t :: rest => (t ++ (run s rest).1, (run s rest).2)
  | .arg v :: rest =>
    ((w.put s v).1 ++ (run (w.put s v).2 rest).1, (run (w.put s v).2 rest).2)

theorem run_text (s : σ) (t : String) (rest : List Piece) :
    w.run s (.text t :: rest) = (t ++ (w.run s rest).1, (w.run s rest).2) := rfl

theorem run_arg (s : σ) (v : Value) (rest : List Piece) :
    w.run s (.arg v :: rest) =
      ((w.put s v).1 ++ (w.run (w.put s v).2 rest).1, (w.run (w.put s v).2 rest).2) := rfl

/-- A writer that looks at nothing but the argument writes each piece by itself. -/
theorem run_of_put_eq {f : Value → String} {g : Piece → String}
    (put : ∀ s v, w.put s v = (f v, s)) (text : ∀ t, g (.text t) = t)
    (arg : ∀ v, g (.arg v) = f v) (s : σ) (ps : List Piece) :
    w.run s ps = (String.join (ps.map g), s) := by
  induction ps with
  | nil => rfl
  | cons p ps ih =>
    cases p with
    | text t => rw [run_text, ih, List.map_cons, String.join_cons, text]
    | arg v => rw [run_arg, put, ih, List.map_cons, String.join_cons, arg]

end ArgumentWriter

/-- The writer of a mode. It remembers what it has bound. -/
def Mode.writer (d : Dialect) : Mode → ArgumentWriter (List Value)
  | .literal => ⟨fun bound v => (v.literal d, bound)⟩
  | .shape => ⟨fun bound v => (v.shape d, bound)⟩
  | .bind => ⟨fun bound v =>
      ((Piece.number d bound.length (v.leaves d)).sql, bound ++ Piece.args (v.leaves d))⟩

namespace Piece

theorem run_writer_bind (d : Dialect) (bound : List Value) (ps : List Piece) :
    (Mode.bind.writer d).run bound ps =
      ((number d bound.length (ps.flatMap (leaves d))).sql,
        bound ++ args (ps.flatMap (leaves d))) := by
  induction ps generalizing bound with
  | nil => simp [number, ArgumentWriter.run]
  | cons p ps ih =>
    cases p with
    | text s =>
      rw [ArgumentWriter.run_text, ih, List.flatMap_cons, leaves, List.singleton_append, number,
        args_text]
    | arg v =>
      rw [ArgumentWriter.run_arg, ih, List.flatMap_cons, leaves, number_append, args_append]
      simp [Mode.writer]

/-- A mode writes pieces as its writer does with nothing bound before. -/
theorem write_eq_run (d : Dialect) (ps : List Piece) (m : Mode) :
    write d ps m = ⟨((m.writer d).run [] ps).1, ((m.writer d).run [] ps).2⟩ := by
  cases m with
  | literal =>
    rw [(Mode.literal.writer d).run_of_put_eq (g := literal d) (fun _ _ => rfl) (fun _ => rfl)
      fun _ => rfl]
    rfl
  | shape =>
    rw [(Mode.shape.writer d).run_of_put_eq (g := shape d) (fun _ _ => rfl) (fun _ => rfl)
      fun _ => rfl]
    rfl
  | bind =>
    rw [run_writer_bind, write, List.length_nil, List.nil_append, number_eq]

/-- A text among pieces; the empty one is left out. -/
def ofText (s : String) : List Piece :=
  if s = "" then [] else [.text s]

theorem args_ofText (s : String) : args (ofText s) = [] := by
  unfold ofText
  split <;> rfl

/-- The empty text does not show. -/
theorem run_ofText {σ : Type} (w : ArgumentWriter σ) (s : σ) (t : String) (rest : List Piece) :
    w.run s (ofText t ++ rest) = w.run s (.text t :: rest) := by
  unfold ofText
  split
  · rename_i empty
    rw [List.nil_append, ArgumentWriter.run_text, empty, String.empty_append]
  · rfl

/-- A text, and further ones each behind a value. -/
def alternating (first : String) (rest : List (Value × String)) : List Piece :=
  .text first :: rest.flatMap fun (v, t) => [.arg v, .text t]

end Piece

/-! ## Scanning texts -/

namespace Template

/-- A text as it is written into a template. -/
def escaped (s : List Char) : List Char :=
  s.flatMap fun c => if c = '?' then ['\\', '?'] else [c]

/-- The template of a text and of further ones each behind a value: escaped texts with bare marks
between them. -/
def ofTexts (first : String) (rest : List (Value × String)) : String :=
  "?".intercalate ((first :: rest.map Prod.snd).map fun s => String.ofList (escaped s.toList))

/-- A character that a mark before it would take for a part of its name or number. -/
def extendsMark (c : Char) : Bool :=
  c.isAlphanum || c == '_'

theorem extend?_bare {c : Char} (h : extendsMark c = false) : Mark.bare.extend? c = none := by
  simp only [extendsMark, Char.isAlphanum, Bool.or_eq_false_iff] at h
  obtain ⟨⟨letter, digit⟩, underscore⟩ := h
  simp [Mark.extend?, startsName, letter, digit, underscore]

theorem scanFrom_mark (cs : List Char) : scanFrom .none ('?' :: cs) = scanFrom .bare cs := by
  rw [scanFrom.eq_def]
  rfl

theorem scanFrom_escape (cs : List Char) :
    scanFrom .none ('\\' :: '?' :: cs) = consChar '?' (scanFrom .none cs) := by
  rw [scanFrom.eq_def]
  rfl

theorem scanFrom_plain {c : Char} {cs : List Char} (mark : c ≠ '?')
    (escape : c = '\\' → cs.head? ≠ some '?') :
    scanFrom .none (c :: cs) = consChar c (scanFrom .none cs) := by
  rw [scanFrom.eq_def]
  simp only [Mark.extend?, Mark.items, List.nil_append, if_neg mark]
  split
  · rename_i backslash
    split
    · exact absurd rfl (escape backslash)
    · rw [backslash]
  · rfl

/-- A bare mark ends where no character of a name or number follows it. -/
theorem scanFrom_bare {cs : List Char} (h : cs.head?.any extendsMark = false) :
    scanFrom .bare cs = .next :: scanFrom .none cs := by
  cases cs with
  | nil => rfl
  | cons c cs =>
    rw [scanFrom.eq_def, scanFrom.eq_def Mark.none]
    simp only [extend?_bare (c := c) h]
    rfl

/-- A text among items; the empty one is left out. -/
def textItems (s : List Char) : List TemplateItem :=
  if s = [] then [] else [.text s]

theorem consChar_textItems (c : Char) (s : List Char) {items : List TemplateItem}
    (h : ∀ t, items.head? ≠ some (.text t)) :
    consChar c (textItems s ++ items) = textItems (c :: s) ++ items := by
  cases s with
  | cons b s => rfl
  | nil =>
    unfold consChar
    split
    · rename_i t rest same
      exact absurd (congrArg List.head? same) (h t)
    · rfl

/-- An escaped text is scanned as the text, if it does not end in a backslash that would escape the
mark behind it. -/
theorem scanFrom_escaped {text behind : List Char}
    (ends : text.getLast? = some '\\' → behind.head? ≠ some '?')
    (separate : ∀ t, (scanFrom .none behind).head? ≠ some (.text t)) :
    scanFrom .none (escaped text ++ behind) = textItems text ++ scanFrom .none behind := by
  induction text with
  | nil => rfl
  | cons c text ih =>
    have later : scanFrom .none (escaped text ++ behind) =
        textItems text ++ scanFrom .none behind := by
      refine ih fun last => ends ?_
      rw [List.getLast?_cons, last]
      rfl
    rw [← consChar_textItems c text separate, ← later]
    by_cases mark : c = '?'
    · rw [escaped, List.flatMap_cons, if_pos mark, mark]
      exact scanFrom_escape _
    · have backslash : c = '\\' → (escaped text ++ behind).head? ≠ some '?' := by
        rintro rfl
        cases text with
        | nil => exact ends rfl
        | cons b text =>
          rw [escaped, List.flatMap_cons]
          split
          · simp
          · rename_i other
            simpa using other
      rw [escaped, List.flatMap_cons, if_neg mark]
      exact scanFrom_plain mark backslash

/-! ## Whole templates -/

/-- The conditions on texts under which the marks between them are bare marks: none before a mark
ends in a backslash, and none behind a mark begins with a character that would extend it. -/
structure Separable (first : String) (rest : List (Value × String)) : Prop where
  unescaped : ∀ t ∈ (first :: rest.map Prod.snd).dropLast, t.toList.getLast? ≠ some '\\'
  bare : ∀ t ∈ rest.map Prod.snd, t.toList.head?.any extendsMark = false

namespace Separable

variable {first second : String} {v : Value} {rest : List (Value × String)}

theorem tail (h : Separable first ((v, second) :: rest)) : Separable second rest where
  unescaped t ht := h.unescaped t (List.mem_cons_of_mem _ ht)
  bare t ht := h.bare t (List.mem_cons_of_mem _ ht)

end Separable

theorem toList_ofTexts_nil (first : String) :
    (ofTexts first []).toList = escaped first.toList := by
  simp [ofTexts]

theorem toList_ofTexts_cons (first second : String) (v : Value) (rest : List (Value × String)) :
    (ofTexts first ((v, second) :: rest)).toList =
      escaped first.toList ++ '?' :: (ofTexts second rest).toList := by
  simp [ofTexts, String.intercalate_cons_cons]

/-- A template of texts begins as its first text does, but for question marks. -/
theorem head?_ofTexts {first : String} (rest : List (Value × String))
    (h : first.toList.head?.any extendsMark = false) :
    (ofTexts first rest).toList.head?.any extendsMark = false := by
  have begins (behind : List Char) (hbehind : behind.head?.any extendsMark = false) :
      (escaped first.toList ++ behind).head?.any extendsMark = false := by
    cases chars : first.toList with
    | nil => exact hbehind
    | cons b cs =>
      rw [escaped, List.flatMap_cons]
      split
      · simp [extendsMark]
      · simpa [chars] using h
  cases rest with
  | nil =>
    rw [toList_ofTexts_nil]
    simpa using begins [] (by simp)
  | cons p rest =>
    rw [toList_ofTexts_cons]
    exact begins _ (by simp [extendsMark])

/-- Scanning gives the texts back, with a mark for each value. -/
theorem scan_ofTexts {first : String} {rest : List (Value × String)} (h : Separable first rest) :
    scan (ofTexts first rest) =
      textItems first.toList ++ rest.flatMap fun (_, t) => .next :: textItems t.toList := by
  induction rest generalizing first with
  | nil =>
    have alone := @scanFrom_escaped first.toList [] (by simp) (by simp [scanFrom, Mark.items])
    rw [List.append_nil] at alone
    rw [scan, toList_ofTexts_nil, alone]
    rfl
  | cons p rest ih =>
    obtain ⟨v, second⟩ := p
    have unescaped : first.toList.getLast? ≠ some '\\' := h.unescaped first (by simp)
    have marked : scanFrom .none ('?' :: (ofTexts second rest).toList) =
        .next :: scan (ofTexts second rest) := by
      rw [scanFrom_mark, scan]
      exact scanFrom_bare (head?_ofTexts rest (h.bare second (by simp)))
    have separate : ∀ t, (scanFrom .none ('?' :: (ofTexts second rest).toList)).head? ≠
        some (.text t) := by
      simp [marked]
    rw [scan, toList_ofTexts_cons, scanFrom_escaped (fun last => absurd last unescaped) separate,
      marked, ih h.tail]
    rfl

/-! ## Expansion -/

section

variable (names : Names) (template : String)

theorem expandItems_textItems (args : List Value) (taken : Nat) (s : String)
    (items : List TemplateItem) :
    expandItems names template args taken (textItems s.toList ++ items) =
      .ok (Piece.ofText s) ++ expandItems names template args taken items := by
  unfold textItems Piece.ofText
  by_cases empty : s = ""
  · have chars : s.toList = [] := by simpa using empty
    rw [if_pos empty, if_pos chars, List.nil_append]
    exact (Fragment.empty_append _).symm
  · have chars : s.toList ≠ [] := by simpa using empty
    rw [if_neg empty, if_neg chars, List.singleton_append, expandItems, String.ofList_toList]
    rfl

/-- Each mark takes the next of the values. -/
theorem expandItems_marks (before : List Value) (rest : List (Value × String)) :
    expandItems names template (before ++ rest.map Prod.fst) before.length
        (rest.flatMap fun (_, t) => .next :: textItems t.toList) =
      .ok (rest.flatMap fun (v, t) => .arg v :: Piece.ofText t) := by
  induction rest generalizing before with
  | nil => rfl
  | cons p rest ih =>
    obtain ⟨v, t⟩ := p
    have later := ih (before ++ [v])
    rw [List.append_assoc, List.singleton_append, List.length_append, List.length_singleton]
      at later
    have own : argument template (before ++ v :: rest.map Prod.fst) before.length = .arg v := by
      simp [argument]
    rw [List.flatMap_cons, List.cons_append, expandItems, List.map_cons, own,
      expandItems_textItems, later]
    rfl

/-- What a template of texts and values expands to. -/
theorem expand_ofTexts {first : String} {rest : List (Value × String)}
    (h : Separable first rest) :
    expand names (ofTexts first rest) (rest.map Prod.fst) =
      .ok (Piece.ofText first ++ rest.flatMap fun (v, t) => .arg v :: Piece.ofText t) := by
  rw [expand, scan_ofTexts h, expandItems_textItems]
  have marks := expandItems_marks names (ofTexts first rest) [] rest
  rw [List.nil_append, List.length_nil] at marks
  rw [marks]
  rfl

end

end Template

namespace Piece

theorem run_flatMap_ofText {σ : Type} (w : ArgumentWriter σ) (s : σ)
    (rest : List (Value × String)) :
    w.run s (rest.flatMap fun (v, t) => .arg v :: ofText t) =
      w.run s (rest.flatMap fun (v, t) => [.arg v, .text t]) := by
  induction rest generalizing s with
  | nil => rfl
  | cons p rest ih =>
    obtain ⟨v, t⟩ := p
    simp only [List.flatMap_cons, List.cons_append, List.nil_append, ArgumentWriter.run_arg,
      run_ofText, ArgumentWriter.run_text, ih]

theorem args_flatMap_ofText (rest : List (Value × String)) :
    args (rest.flatMap fun (v, t) => .arg v :: ofText t) = rest.map Prod.fst := by
  induction rest with
  | nil => rfl
  | cons p rest ih =>
    rw [List.flatMap_cons, List.cons_append, args_arg, args_append, args_ofText, ih]
    rfl

end Piece

namespace Template

/-- Texts and values come out of a template as they went in: whatever writes the arguments is handed
the values, each once and in order, and its text has the texts between what it writes for them. -/
theorem expand_alternating {first : String} {rest : List (Value × String)}
    (h : Separable first rest) (names : Names) :
    ∃ ps, expand names (ofTexts first rest) (rest.map Prod.fst) = .ok ps ∧
      Piece.args ps = rest.map Prod.fst ∧
      (∀ {σ : Type} (w : ArgumentWriter σ) (s : σ),
        w.run s ps = w.run s (Piece.alternating first rest)) ∧
      ∀ d m, Piece.write d ps m = Piece.write d (Piece.alternating first rest) m := by
  have same {σ : Type} (w : ArgumentWriter σ) (s : σ) :
      w.run s (Piece.ofText first ++ rest.flatMap fun (v, t) => .arg v :: Piece.ofText t) =
        w.run s (Piece.alternating first rest) := by
    rw [Piece.run_ofText, ArgumentWriter.run_text, Piece.run_flatMap_ofText]
    rfl
  refine ⟨_, expand_ofTexts names h, ?_, same, fun d m => ?_⟩
  · rw [Piece.args_append, Piece.args_ofText, Piece.args_flatMap_ofText, List.nil_append]
  · rw [Piece.write_eq_run, Piece.write_eq_run, same]

/-- Marks, escapes and references in the texts and in the values are text like any other. -/
theorem expand_alternating_references :
    let rest : List (Value × String) :=
      [(.text "?0 \\? ?Name", "?1 é?"), (.list [.int 1, .ident "?"], ""), (.safe "\\?", "\\")]
    Separable "\\? = " rest ∧
      ofTexts "\\? = " rest = "\\\\? = ?\\?1 é\\???\\" ∧
      ∃ ps, expand noNames (ofTexts "\\? = " rest) (rest.map Prod.fst) = .ok ps ∧
        Piece.args ps = rest.map Prod.fst ∧
        (Piece.write .postgres ps .literal).sql =
          "\\? = '?0 \\? ?Name'?1 é?1, \"?\"\\?\\" ∧
        (Piece.write .postgres ps .bind).sql = "\\? = $1?1 é?$2, \"?\"\\?\\" := by
  intro rest
  have separable : Separable "\\? = " rest := ⟨by decide +kernel, by decide +kernel⟩
  obtain ⟨ps, expanded, args, -, written⟩ := expand_alternating separable noNames
  refine ⟨separable, by decide +kernel, ps, expanded, args, ?_, ?_⟩
  · rw [written]
    decide +kernel
  · rw [written]
    decide +kernel

end Template

end SqlCompose
