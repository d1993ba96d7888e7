import SqlCompose.Proofs.Comments
import SqlCompose.Proofs.FirstError
import SqlCompose.Template

/-!
# Comments between text and arguments

The text of a template and the literals put into it can meet in a comment that neither of them has:
a minus sign before a negative number, and a slash before a star. The main statement is that
comments begin at such seams and nowhere else.
-/

namespace SqlCompose

/-! ## Templates -/

/-- Text without quotes in which no comment begins. -/
structure IsPlainText (s : List Char) : Prop where
  unquoted : ∀ c ∈ s, c ∉ ['\'', '"', '\x60']
  noLine : ¬ ['-', '-'] <:+: s
  noBlock : ¬ ['/', '*'] <:+: s

namespace IsPlainText

variable {s t : List Char}

theorem of_all (unquoted : s.all (fun c => c != '\'' && c != '"' && c != '\x60') = true)
    (noLine : ¬ ['-', '-'] <:+: s) (noBlock : ¬ ['/', '*'] <:+: s) : IsPlainText s :=
  ⟨by simpa [and_assoc] using unquoted, noLine, noBlock⟩

theorem of_infix (h : IsPlainText s) (part : t <:+: s) : IsPlainText t where
  unquoted c hc := h.unquoted c (part.subset hc)
  noLine found := h.noLine (found.trans part)
  noBlock found := h.noBlock (found.trans part)

theorem tail {c : Char} (h : IsPlainText (c :: s)) : IsPlainText s :=
  h.of_infix (List.suffix_cons c s).isInfix

theorem not_beginComment {a b : Char} (h : IsPlainText (a :: b :: s)) : ¬ BeginComment a b := by
  have both : [a, b] <:+: a :: b :: s := (List.prefix_append [a, b] s).isInfix
  rintro (⟨rfl, rfl⟩ | ⟨rfl, rfl⟩)
  · exact h.noLine both
  · exact h.noBlock both

theorem cons {c : Char} (h : IsPlainText s) (unquoted : c ∉ ['\'', '"', '\x60'])
    (apart : ∀ b ∈ s.head?, ¬ BeginComment c b) : IsPlainText (c :: s) := by
  have inside {a b : Char} (begins : BeginComment a b) (found : [a, b] <:+: c :: s) :
      [a, b] <:+: s := by
    rcases List.infix_cons_iff.mp found with first | later
    · obtain ⟨rest, same⟩ := first
      cases same
      exact absurd begins (apart b rfl)
    · exact later
  exact
    { unquoted := List.forall_mem_cons.mpr ⟨unquoted, h.unquoted⟩
      noLine := fun found => h.noLine (inside (.inl ⟨rfl, rfl⟩) found)
      noBlock := fun found => h.noBlock (inside (.inr ⟨rfl, rfl⟩) found) }

/-- Plain text leaves a reader behind its last character. -/
theorem read_eq {d : Dialect} {before : Option Char} (h : IsPlainText (before.toList ++ s)) :
    Spot.read d (.behind before) s = .behind (s.getLast?.or before) := by
  induction s generalizing before with
  | nil => rfl
  | cons c rest ih =>
    have own : IsPlainText (c :: rest) := h.of_infix (List.suffix_append _ _).isInfix
    have unquoted := own.unquoted c List.mem_cons_self
    have next : Spot.next d (.behind before) c = .behind (some c) := by
      have apart : ∀ b ∈ before, ¬ BeginComment b c := by
        rintro b rfl
        exact h.not_beginComment
      simp only [List.mem_cons, List.not_mem_nil, or_false, not_or] at unquoted
      obtain ⟨quote, double, back⟩ := unquoted
      have name : c ≠ d.quote := by
        cases d <;> assumption
      rw [Spot.next_behind_of_not_begin apart, Spot.enter, if_neg quote, if_neg name]
      rfl
    rw [Spot.read_cons, next, @ih (some c) own, List.getLast?_cons]
    cases rest.getLast? <;> rfl

end IsPlainText

namespace Template

/-- Texts that are plain and do not follow each other. -/
def ArePlain : List TemplateItem → Prop
  | [] => True
  | .text s :: rest => s ≠ [] ∧ IsPlainText s ∧ (∀ t, rest.head? ≠ some (.text t)) ∧ ArePlain rest
  | _ :: rest => ArePlain rest

/-- The text that items start with. -/
def leadingText : List TemplateItem → List Char
  | .text s :: _ => s
  | _ => []

theorem ArePlain.consChar {items : List TemplateItem} {c : Char} (h : ArePlain items)
    (unquoted : c ∉ ['\'', '"', '\x60'])
    (apart : ∀ b ∈ (leadingText items).head?, ¬ BeginComment c b) :
    ArePlain (Template.consChar c items) := by
  have alone : IsPlainText [c] :=
    .cons ⟨by simp, by simp, by simp⟩ unquoted (by simp)
  unfold Template.consChar
  split
  · rename_i s rest
    obtain ⟨-, plain, separate, later⟩ := h
    exact ⟨List.cons_ne_nil _ _, plain.cons unquoted apart, separate, later⟩
  · rename_i other
    refine ⟨List.cons_ne_nil _ _, alone, fun t first => ?_, h⟩
    obtain ⟨rest, rfl⟩ := List.head?_eq_some_iff.mp first
    exact other t rest rfl

theorem ArePlain.items_append (m : Mark) {items : List TemplateItem} (h : ArePlain items) :
    ArePlain (m.items ++ items) := by
  cases m <;> exact h

theorem Mark.extend?_ne_none {m longer : Mark} {c : Char} (h : m.extend? c = some longer) :
    longer ≠ .none := by
  unfold Mark.extend? at h
  split at h
  · cases h
  · split at h
    · cases h
      simp
    · split at h
      · cases h
        simp
      · cases h
  · split at h
    · cases h
      simp
    · cases h
  · split at h
    · cases h
      simp
    · cases h

/-- What the scan does with a character that belongs to no mark. -/
theorem scanFrom_of_extend?_eq_none {m : Mark} {c : Char} (ends : m.extend? c = none)
    (rest : List Char) :
    (c = '?' ∧ scanFrom m (c :: rest) = m.items ++ scanFrom .bare rest) ∨
      (∃ after, rest = '?' :: after ∧
        scanFrom m (c :: rest) = m.items ++ consChar '?' (scanFrom .none after)) ∨
      scanFrom m (c :: rest) = m.items ++ consChar c (scanFrom .none rest) := by
  rw [scanFrom.eq_def]
  dsimp only
  rw [ends]
  dsimp only
  split
  · rename_i mark
    exact .inl ⟨mark, rfl⟩
  · split
    · rename_i backslash
      subst backslash
      split
      · rename_i after
        exact .inr (.inl ⟨after, rfl, rfl⟩)
      · exact .inr (.inr rfl)
    · exact .inr (.inr rfl)

theorem scanFrom_of_extend?_eq_some {m longer : Mark} {c : Char} (h : m.extend? c = some longer)
    (rest : List Char) : scanFrom m (c :: rest) = scanFrom longer rest := by
  rw [scanFrom.eq_def]
  dsimp only
  rw [h]

/-- A mark that has been begun comes before any text. -/
theorem leadingText_scanFrom {m : Mark} (begun : m ≠ .none) (cs : List Char) :
    leadingText (scanFrom m cs) = [] := by
  have mark {m : Mark} (begun : m ≠ .none) (items : List TemplateItem) :
      leadingText (m.items ++ items) = [] := by
    cases m with
    | none => exact absurd rfl begun
    | _ => rfl
  induction cs generalizing m with
  | nil => simpa [scanFrom] using mark begun []
  | cons c rest ih =>
    cases extended : m.extend? c with
    | some longer =>
      rw [scanFrom_of_extend?_eq_some extended]
      exact ih (Mark.extend?_ne_none extended)
    | none =>
      rcases scanFrom_of_extend?_eq_none extended rest with
        ⟨-, scanned⟩ | ⟨after, -, scanned⟩ | scanned
      all_goals
        rw [scanned]
        exact mark begun _

theorem leadingText_consChar (c : Char) (items : List TemplateItem) :
    leadingText (consChar c items) = c :: leadingText items := by
  cases items with
  | nil => rfl
  | cons item rest => cases item <;> rfl

/-- The first text of a template starts as the template does, or with a question mark that was
escaped. -/
theorem head?_leadingText_scanFrom (cs : List Char) :
    ∀ b ∈ (leadingText (scanFrom .none cs)).head?, b = '?' ∨ b ∈ cs.head? := by
  intro b hb
  cases cs with
  | nil => cases hb
  | cons c rest =>
    rcases scanFrom_of_extend?_eq_none (m := .none) (c := c) rfl rest with
      ⟨-, scanned⟩ | ⟨after, -, scanned⟩ | scanned
    all_goals rw [scanned, Mark.items, List.nil_append] at hb
    · rw [leadingText_scanFrom (by simp)] at hb
      cases hb
    · rw [leadingText_consChar] at hb
      cases hb
      exact .inl rfl
    · rw [leadingText_consChar] at hb
      exact .inr hb

theorem not_beginComment_of_scanFrom {c : Char} {cs : List Char} (h : IsPlainText (c :: cs)) :
    ∀ b ∈ (leadingText (scanFrom .none cs)).head?, ¬ BeginComment c b := by
  intro b hb
  rcases head?_leadingText_scanFrom cs b hb with rfl | first
  · rintro (⟨-, same⟩ | ⟨-, same⟩) <;> cases same
  · obtain ⟨rest, rfl⟩ := List.head?_eq_some_iff.mp first
    exact h.not_beginComment

/-- Scanning plain text gives plain texts. -/
theorem arePlain_scanFrom (m : Mark) {cs : List Char} (h : IsPlainText cs) :
    ArePlain (scanFrom m cs) := by
  induction m, cs using scanFrom.induct with
  | case1 m =>
    rw [scanFrom, ← List.append_nil m.items]
    exact ArePlain.items_append m trivial
  | case2 m c rest longer extended ih =>
    rw [scanFrom_of_extend?_eq_some extended]
    exact ih h.tail
  | case3 m c rest ends ihMark ihEscape ih =>
    rcases scanFrom_of_extend?_eq_none ends rest with
      ⟨-, scanned⟩ | ⟨after, rfl, scanned⟩ | scanned
    all_goals
      rw [scanned]
      refine ArePlain.items_append m ?_
    · exact ihMark h.tail
    · refine ArePlain.consChar (ihEscape h.tail.tail) (by decide) fun b _ => ?_
      rintro (⟨same, -⟩ | ⟨same, -⟩) <;> cases same
    · exact ArePlain.consChar (ih h.tail) (h.unquoted c List.mem_cons_self)
        (not_beginComment_of_scanFrom h)

end Template

/-! ## Seams -/

/-- Whether an item stands for something that the query around the template knows. -/
def TemplateItem.isNamed : TemplateItem → Bool
  | .named _ => true
  | _ => false

/-- The argument that an item stands for, after bare marks have taken some. -/
def TemplateItem.argument? (args : List Value) (taken : Nat) : TemplateItem → Option Value
  | .next => args[taken]?
  | .position n => args[n]?
  | .text _ => none
  | .named _ => none

namespace Template

/-- Text meets an argument in a comment: the argument begins one with the last character of the
text before it. -/
def MeetInComment (args : List Value) (taken : Nat) (items : List TemplateItem) : Prop :=
  ∃ earlier s item later v, items = earlier ++ .text s :: item :: later ∧
    item.argument? args (taken + earlier.count .next) = some v ∧
    v.BeginsCommentBehind s.getLast?

section

variable {args : List Value} {taken : Nat} {s : List Char} {item : TemplateItem} {v : Value}
  {rest : List TemplateItem}

theorem meetInComment_text :
    MeetInComment args taken (.text s :: rest) ↔
      (∃ item later v, rest = item :: later ∧ item.argument? args taken = some v ∧
        v.BeginsCommentBehind s.getLast?) ∨ MeetInComment args taken rest := by
  constructor
  · rintro ⟨earlier, t, item, later, v, same, argument, begins⟩
    cases earlier with
    | nil =>
      obtain ⟨first, rfl⟩ := List.cons.inj same
      cases first
      exact .inl ⟨item, later, v, rfl, argument, begins⟩
    | cons first earlier =>
      obtain ⟨rfl, rfl⟩ := List.cons.inj same
      exact .inr ⟨earlier, t, item, later, v, rfl, by simpa using argument, begins⟩
  · rintro (⟨item, later, v, rfl, argument, begins⟩ | ⟨earlier, t, item, later, v, rfl, argument,
      begins⟩)
    · exact ⟨[], s, item, later, v, rfl, argument, begins⟩
    · exact ⟨.text s :: earlier, t, item, later, v, rfl, by simpa using argument, begins⟩

theorem meetInComment_argument (h : item.argument? args taken = some v) :
    MeetInComment args taken (item :: rest) ↔
      MeetInComment args (taken + [item].count .next) rest := by
  constructor
  · rintro ⟨earlier, s, other, later, w, same, argument, begins⟩
    cases earlier with
    | nil =>
      obtain ⟨rfl, -⟩ := List.cons.inj same
      cases h
    | cons first earlier =>
      obtain ⟨rfl, rfl⟩ := List.cons.inj same
      rw [← List.singleton_append, List.count_append, ← Nat.add_assoc] at argument
      exact ⟨earlier, s, other, later, w, rfl, argument, begins⟩
  · rintro ⟨earlier, s, other, later, w, rfl, argument, begins⟩
    rw [Nat.add_assoc, ← List.count_append, List.singleton_append] at argument
    exact ⟨item :: earlier, s, other, later, w, rfl, argument, begins⟩

variable {d : Dialect}

/-- Behind an argument the reader stands outside quotes, if no comment has begun. -/
theorem read_argument {before : Option Char} {ps : List Piece}
    (h : item.argument? args taken = some v) (untrusted : v.holdsTrusted = false)
    (later : Spot.read d .code (String.join (ps.map (Piece.literal d))).toList = .comment ↔
      MeetInComment args (taken + [item].count .next) rest) :
    Spot.read d (.behind before) (String.join ((Piece.arg v :: ps).map (Piece.literal d))).toList =
        .comment ↔
      (∃ item' later' v', item :: rest = item' :: later' ∧ item'.argument? args taken = some v' ∧
        v'.BeginsCommentBehind before) ∨ MeetInComment args taken (item :: rest) := by
  have here : (∃ item' later' v', item :: rest = item' :: later' ∧
      item'.argument? args taken = some v' ∧ v'.BeginsCommentBehind before) ↔
      v.BeginsCommentBehind before := by
    constructor
    · rintro ⟨item', later', v', same, argument, begins⟩
      obtain ⟨rfl, -⟩ := List.cons.inj same
      obtain rfl := Option.some.inj (h.symm.trans argument)
      exact begins
    · exact fun begins => ⟨item, rest, v, rfl, h, begins⟩
  rw [here, meetInComment_argument h, ← later, List.map_cons, String.join_cons, Piece.literal,
    String.toList_append, Spot.read_append, v.read_literal d untrusted]
  by_cases begins : v.BeginsCommentBehind before
  · simp [begins]
  · simp [begins]

/-- At the beginning there is no text to meet. -/
theorem not_exists_beginsCommentBehind_none (items : List TemplateItem) :
    ¬ ∃ item later v, items = item :: later ∧ item.argument? args taken = some v ∧
      v.BeginsCommentBehind none := by
  simp [Value.BeginsCommentBehind]

theorem argument_eq_ok_iff {template : String} {position : Nat} {ps : List Piece} :
    argument template args position = .ok ps ↔
      ∃ v, args[position]? = some v ∧ [Piece.arg v] = ps := by
  unfold argument
  cases args[position]? with
  | none => simp
  | some v => simp [Fragment.arg]

/-- Reading what a template expands to. The items stand behind a character of the text before them,
if there is one. -/
theorem read_expandItems {names : Names} {template : String} {items : List TemplateItem}
    {ps : List Piece} {before : Option Char} (plain : ArePlain items)
    (unnamed : ∀ item ∈ items, item.isNamed = false)
    (untrusted : ∀ v ∈ args, v.holdsTrusted = false)
    (separate : ∀ s ∈ before, ∀ t, items.head? ≠ some (.text t))
    (expands : expandItems names template args taken items = .ok ps) :
    Spot.read d (.behind before) (String.join (ps.map (Piece.literal d))).toList = .comment ↔
      (∃ item later v, items = item :: later ∧ item.argument? args taken = some v ∧
        v.BeginsCommentBehind before) ∨ MeetInComment args taken items := by
  induction items generalizing taken ps before with
  | nil =>
    cases expands
    refine iff_of_false (Spot.behind_ne_comment before) ?_
    rintro (⟨item, later, v, same, -⟩ | ⟨earlier, s, item, later, v, same, -⟩)
    · cases same
    · cases (List.append_eq_nil_iff.mp same.symm).2
  | cons item rest ih =>
    obtain ⟨known, unnamed'⟩ := List.forall_mem_cons.mp unnamed
    -- Bare marks and positions differ in how many arguments are taken behind them.
    have step {position taken' : Nat} (plain' : ArePlain rest)
        (same : item.argument? args taken = args[position]?)
        (counted : taken + [item].count .next = taken')
        (expands : argument template args position ++
          expandItems names template args taken' rest = .ok ps) :
        Spot.read d (.behind before) (String.join (ps.map (Piece.literal d))).toList = .comment ↔
          (∃ item' later v, item :: rest = item' :: later ∧ item'.argument? args taken = some v ∧
            v.BeginsCommentBehind before) ∨ MeetInComment args taken (item :: rest) := by
      obtain ⟨own, qs, argument, later, rfl⟩ := Fragment.append_eq_ok_iff.mp expands
      obtain ⟨v, found, rfl⟩ := argument_eq_ok_iff.mp argument
      refine read_argument (same.trans found) (untrusted v (List.mem_of_getElem? found)) ?_
      rw [counted]
      exact (@ih taken' qs none plain' unnamed' (by simp) later).trans
        (or_iff_right (not_exists_beginsCommentBehind_none rest))
    cases item with
    | named name => cases known
    | next => exact step plain rfl rfl expands
    | position n => exact step plain rfl rfl expands
    | text s =>
      obtain ⟨-, plainText, apart, plain'⟩ := plain
      obtain rfl : before = none := by
        cases before with
        | none => rfl
        | some c => exact absurd rfl (separate c rfl s)
      obtain ⟨own, qs, text, later, rfl⟩ := Fragment.append_eq_ok_iff.mp expands
      cases text
      rw [or_iff_right (not_exists_beginsCommentBehind_none _), meetInComment_text,
        ← @ih taken qs s.getLast? plain' unnamed' (fun _ _ => apart) later]
      have read := @IsPlainText.read_eq s d none plainText
      rw [Option.or_none] at read
      rw [List.singleton_append, List.map_cons, String.join_cons, Piece.literal,
        String.toList_append, String.toList_ofList, Spot.read_append, read]

end

/-- Of literals put into text without quotes and comments, a comment begins just where text meets an
argument in one. -/
theorem opensComment_iff_meetInComment {d : Dialect} {names : Names} {template : String}
    {args : List Value} {r : Rendered} (plain : IsPlainText template.toList)
    (unnamed : ∀ item ∈ scan template, item.isNamed = false)
    (untrusted : ∀ v ∈ args, v.holdsTrusted = false)
    (written : (expand names template args).write d .literal = .ok r) :
    d.OpensComment r.sql ↔ MeetInComment args 0 (scan template) := by
  cases expands : expand names template args with
  | fail e =>
    rw [expands] at written
    cases written
  | ok ps =>
    rw [expands] at written
    cases written
    exact (@read_expandItems args 0 d names template (scan template) ps none
      (arePlain_scanFrom .none plain) unnamed untrusted (by simp) expands).trans
      (or_iff_right (not_exists_beginsCommentBehind_none _))

/-- What a string holds is not read as a comment, but the number behind the second sign is. -/
theorem opensComment_discount :
    let template := "total - ? < -?1 AND note = ?2"
    let args : List Value := [.list [.int 2, .int (-2)], .int (-5), .text "it's -- new"]
    IsPlainText template.toList ∧ (∀ item ∈ scan template, item.isNamed = false) ∧
      (∀ v ∈ args, v.holdsTrusted = false) ∧
      ∃ r, (expand noNames template args).write .sqlite .literal = .ok r ∧
        r.sql = "total - 2, -2 < --5 AND note = 'it''s -- new'" ∧
        (Dialect.OpensComment .sqlite r.sql ↔ MeetInComment args 0 (scan template)) := by
  intro template args
  have plain : IsPlainText template.toList :=
    .of_all (by decide +kernel) (by decide +kernel) (by decide +kernel)
  have unnamed : ∀ item ∈ scan template, item.isNamed = false := by decide +kernel
  have untrusted : ∀ v ∈ args, v.holdsTrusted = false := by decide +kernel
  have written : ((expand noNames template args).write .sqlite .literal).toOption.map Rendered.sql =
      some "total - 2, -2 < --5 AND note = 'it''s -- new'" := by
    decide +kernel
  obtain ⟨r, same, sql⟩ := Option.map_eq_some_iff.mp written
  have written := Except.eq_ok_of_toOption same
  exact ⟨plain, unnamed, untrusted, r, written, sql,
    opensComment_iff_meetInComment plain unnamed untrusted written⟩

/-- A negative number behind a minus sign, and a star behind a slash. -/
theorem opensComment_negative :
    (IsPlainText "balance -?".toList ∧
      (∀ item ∈ scan "balance -?", item.isNamed = false) ∧ (Value.int (-1)).holdsTrusted = false ∧
      ((expand noNames "balance -?" [.int (-1)]).write .postgres .literal).toOption.map
        Rendered.sql = some "balance --1" ∧ Dialect.OpensComment .postgres "balance --1") ∧
    (IsPlainText "total /?".toList ∧
      (∀ item ∈ scan "total /?", item.isNamed = false) ∧ (Value.ident "*").holdsTrusted = false ∧
      ((expand noNames "total /?" [.ident "*"]).write .postgres .literal).toOption.map
        Rendered.sql = some "total /*" ∧ Dialect.OpensComment .postgres "total /*") := by
  have balance : IsPlainText "balance -?".toList :=
    .of_all (by decide +kernel) (by decide +kernel) (by decide +kernel)
  have total : IsPlainText "total /?".toList :=
    .of_all (by decide +kernel) (by decide +kernel) (by decide +kernel)
  exact ⟨⟨balance, by decide +kernel, rfl, by decide +kernel, by decide +kernel⟩,
    ⟨total, by decide +kernel, rfl, by decide +kernel, by decide +kernel⟩⟩

end Template

end SqlCompose
