import SqlCompose.Clause

/-!
# Reading conditions

How SQL reads a search condition. Conditions between parentheses and single operands are factors;
factors tied by `AND` are a term, and terms tied by `OR` are a condition. `Reads` is this grammar,
with the truth of what is read; operands are not looked into. The main statement is `Reads.unique`:
a condition is read in one way only. It is shown by a reader that goes through the tokens once, with
a stack for the parentheses that are open.
-/

namespace SqlCompose

/-- What a condition comes to for a row. -/
inductive Truth where
  | no
  | unknown
  | yes
deriving DecidableEq, Repr

namespace Truth

def and : Truth → Truth → Truth
  | .yes, b => b
  | .no, _ => .no
  | .unknown, .no => .no
  | .unknown, _ => .unknown

def or : Truth → Truth → Truth
  | .no, b => b
  | .yes, _ => .yes
  | .unknown, .yes => .yes
  | .unknown, _ => .unknown

@[simp] theorem yes_and (b : Truth) : yes.and b = b := rfl

@[simp] theorem no_or (b : Truth) : no.or b = b := rfl

theorem and_eq_yes {a b : Truth} : a.and b = .yes ↔ a = .yes ∧ b = .yes := by
  cases a <;> cases b <;> simp [and]

end Truth

/-- A part of a condition that is not looked into. -/
inductive Operand where
  /-- A condition of the caller, by its place: its position in every group around it. -/
  | condition (place : List Nat) (n : Node)
  | deletionTest (test : String)

inductive Token where
  | operand (o : Operand)
  | tie (c : Connective)
  | opening
  | closing

/-- What a part of a condition can stand for. -/
inductive Rank where
  | factor
  | term
  | condition
deriving DecidableEq, Repr

/-- Tokens of a rank and what they come to, when operands come to what `ρ` says. -/
inductive Reads (ρ : Operand → Truth) : Rank → List Token → Truth → Prop where
  | operand (o : Operand) : Reads ρ .factor [.operand o] (ρ o)
  | parens {ts : List Token} {v : Truth} :
      Reads ρ .condition ts v → Reads ρ .factor (.opening :: (ts ++ [.closing])) v
  | ofFactor {ts : List Token} {v : Truth} : Reads ρ .factor ts v → Reads ρ .term ts v
  | and {ts us : List Token} {u v : Truth} :
      Reads ρ .term ts u → Reads ρ .factor us v →
        Reads ρ .term (ts ++ .tie .and :: us) (u.and v)
  | ofTerm {ts : List Token} {v : Truth} : Reads ρ .term ts v → Reads ρ .condition ts v
  | or {ts us : List Token} {u v : Truth} :
      Reads ρ .condition ts u → Reads ρ .term us v →
        Reads ρ .condition (ts ++ .tie .or :: us) (u.or v)

/-! ## Reading token by token -/

/-- What has been read since a parenthesis was opened: the finished terms and the term begun. -/
structure Frame where
  terms : Truth
  factors : Truth

namespace Frame

/-- Before anything is read. -/
def start : Frame := ⟨.no, .yes⟩

def value (f : Frame) : Truth := f.terms.or f.factors

/-- One factor more. -/
def take (f : Frame) (v : Truth) : Frame := ⟨f.terms, f.factors.and v⟩

/-- The term begun is finished. -/
def finish (f : Frame) : Frame := ⟨f.value, .yes⟩

/-- One factor more, behind its connective. -/
def next (f : Frame) : Connective → Truth → Frame
  | .and, v => f.take v
  | .or, v => f.finish.take v

end Frame

/-- What operands in a row come to, each with the connective before it; that of the first one does
not count. No operands exclude no row. -/
def Truth.tied : List (Connective × Truth) → Truth
  | [] => .yes
  | (_, v) :: rest => (rest.foldl (fun f o => f.next o.1 o.2) (Frame.start.take v)).value

/-- Reads on, in the frame of the innermost open parenthesis and those around it. -/
def readFrom (ρ : Operand → Truth) : List Token → Frame → List Frame → Option Truth
  | [], f, [] => some f.value
  | [], _, _ :: _ => none
  | .operand o :: rest, f, outer => readFrom ρ rest (f.take (ρ o)) outer
  | .tie .and :: rest, f, outer => readFrom ρ rest f outer
  | .tie .or :: rest, f, outer => readFrom ρ rest f.finish outer
  | .opening :: rest, f, outer => readFrom ρ rest .start (f :: outer)
  | .closing :: _, _, [] => none
  | .closing :: rest, f, g :: outer => readFrom ρ rest (g.take f.value) outer

/-- What the reader makes of tokens of a rank that other tokens follow: a factor is taken, a term
fills the frame that a new term has begun in, and a condition leaves its value in a frame. -/
def Rank.IsReadAs (ρ : Operand → Truth) (ts : List Token) (v : Truth) : Rank → Prop
  | .factor => ∀ rest f outer, readFrom ρ (ts ++ rest) f outer = readFrom ρ rest (f.take v) outer
  | .term => ∀ rest terms outer,
      readFrom ρ (ts ++ rest) ⟨terms, .yes⟩ outer = readFrom ρ rest ⟨terms, v⟩ outer
  | .condition => ∃ f : Frame, f.value = v ∧
      ∀ rest outer, readFrom ρ (ts ++ rest) .start outer = readFrom ρ rest f outer

variable {ρ : Operand → Truth} {ts : List Token} {v : Truth}

/-- The reader follows the grammar. -/
theorem Reads.isReadAs {rank : Rank} (h : Reads ρ rank ts v) : rank.IsReadAs ρ ts v := by
  induction h with
  | operand o =>
    intro rest f outer
    rfl
  | @parens ts v _ ih =>
    intro rest f outer
    obtain ⟨inner, value, run⟩ := ih
    calc
      readFrom ρ (.opening :: (ts ++ [.closing]) ++ rest) f outer =
          readFrom ρ (ts ++ .closing :: rest) .start (f :: outer) := by simp [readFrom]
      _ = readFrom ρ (.closing :: rest) inner (f :: outer) := run _ _
      _ = readFrom ρ rest (f.take v) outer := by rw [readFrom, value]
  | ofFactor _ ih =>
    intro rest terms outer
    exact ih rest _ outer
  | @and ts us u v _ _ ihTerm ihFactor =>
    intro rest terms outer
    calc
      readFrom ρ (ts ++ .tie .and :: us ++ rest) ⟨terms, .yes⟩ outer =
          readFrom ρ (.tie .and :: us ++ rest) ⟨terms, u⟩ outer := by
        rw [List.append_assoc]
        exact ihTerm _ terms outer
      _ = readFrom ρ (us ++ rest) ⟨terms, u⟩ outer := by rw [List.cons_append, readFrom]
      _ = readFrom ρ rest ⟨terms, u.and v⟩ outer := ihFactor rest _ outer
  | @ofTerm ts v _ ih =>
    refine ⟨⟨.no, v⟩, rfl, ?_⟩
    intro rest outer
    exact ih rest .no outer
  | @or ts us u v _ _ ihCondition ihTerm =>
    obtain ⟨f, value, run⟩ := ihCondition
    refine ⟨⟨u, v⟩, rfl, ?_⟩
    intro rest outer
    calc
      readFrom ρ (ts ++ .tie .or :: us ++ rest) .start outer =
          readFrom ρ (.tie .or :: us ++ rest) f outer := by
        rw [List.append_assoc]
        exact run _ outer
      _ = readFrom ρ (us ++ rest) ⟨u, .yes⟩ outer := by
        rw [List.cons_append, readFrom, Frame.finish, value]
      _ = readFrom ρ rest ⟨u, v⟩ outer := ihTerm rest u outer

theorem Reads.readFrom_eq (h : Reads ρ .condition ts v) : readFrom ρ ts .start [] = some v := by
  obtain ⟨f, value, run⟩ := h.isReadAs
  have whole := run [] []
  rwa [List.append_nil, readFrom, value] at whole

/-- A condition is read in one way only. -/
theorem Reads.unique {u : Truth} (h : Reads ρ .condition ts u) (h' : Reads ρ .condition ts v) :
    u = v := by
  have same := h.readFrom_eq
  rw [h'.readFrom_eq] at same
  exact (Option.some.inj same).symm

theorem Reads.iff_eq {u : Truth} (h : Reads ρ .condition ts u) :
    Reads ρ .condition ts v ↔ v = u := by
  constructor
  · intro h'
    exact h'.unique h
  · rintro rfl
    exact h

/-! ## Lists of factors -/

/-- Tokens that have been read up to the end of a factor: the terms before the last `OR`, if there
is one, and the factors behind it. -/
inductive Pending (ρ : Operand → Truth) : List Token → Frame → Prop where
  | first {ts : List Token} {v : Truth} : Reads ρ .term ts v → Pending ρ ts (Frame.start.take v)
  | further {ts us : List Token} {u v : Truth} :
      Reads ρ .condition ts u → Reads ρ .term us v → Pending ρ (ts ++ .tie .or :: us) ⟨u, v⟩

namespace Pending

variable {f : Frame} {us : List Token}

theorem condition (h : Pending ρ ts f) : Reads ρ .condition ts f.value := by
  cases h with
  | first term => exact .ofTerm term
  | further condition term => exact .or condition term

/-- A factor more goes to the term begun, or begins a new one. -/
theorem next (h : Pending ρ ts f) (c : Connective) (factor : Reads ρ .factor us v) :
    Pending ρ (ts ++ .tie c :: us) (f.next c v) := by
  cases c with
  | or => exact .further h.condition (.ofFactor factor)
  | and =>
    cases h with
    | first term => exact .first (.and term factor)
    | further condition term =>
      rw [List.append_assoc]
      exact .further condition (.and term factor)

end Pending

/-! ## Several truths -/

namespace Truth

def all (vs : List Truth) : Truth := vs.foldl and .yes

def any (vs : List Truth) : Truth := vs.foldl or .no

theorem or_eq_yes {a b : Truth} : a.or b = .yes ↔ a = .yes ∨ b = .yes := by
  cases a <;> cases b <;> simp [or]

theorem foldl_and_eq_yes {v : Truth} {vs : List Truth} :
    vs.foldl and v = .yes ↔ v = .yes ∧ ∀ u ∈ vs, u = .yes := by
  induction vs generalizing v with
  | nil => simp
  | cons u vs ih => rw [List.foldl_cons, ih, and_eq_yes, List.forall_mem_cons, and_assoc]

theorem foldl_or_eq_yes {v : Truth} {vs : List Truth} :
    vs.foldl or v = .yes ↔ v = .yes ∨ .yes ∈ vs := by
  induction vs generalizing v with
  | nil => simp
  | cons u vs ih => rw [List.foldl_cons, ih, or_eq_yes, List.mem_cons, or_assoc, eq_comm (b := u)]

theorem all_eq_yes {vs : List Truth} : all vs = .yes ↔ ∀ v ∈ vs, v = .yes := by
  simp [all, foldl_and_eq_yes]

theorem any_eq_yes {vs : List Truth} : any vs = .yes ↔ .yes ∈ vs := by
  simp [any, foldl_or_eq_yes]

end Truth

/-! ## Tokens tied alike -/

namespace Token

/-- Parts of a condition, each but the first behind one connective. -/
def tiedBy (c : Connective) : List (List Token) → List Token
  | [] => []
  | ts :: rest => ts ++ rest.flatMap (.tie c :: ·)

variable {α : Type} {ρ : Operand → Truth} {tokens : α → List Token} {value : α → Truth}
  {xs : List α}

/-- Parts that can follow a connective one by one can follow it in a row. -/
theorem reads_further {c : Connective} {outer inner : Rank} {op : Truth → Truth → Truth}
    (step : ∀ {ts us : List Token} {u v : Truth}, Reads ρ outer ts u → Reads ρ inner us v →
      Reads ρ outer (ts ++ .tie c :: us) (op u v))
    (h : ∀ x ∈ xs, Reads ρ inner (tokens x) (value x)) {ts : List Token} {v : Truth}
    (before : Reads ρ outer ts v) :
    Reads ρ outer (ts ++ (xs.map tokens).flatMap (.tie c :: ·)) ((xs.map value).foldl op v) := by
  induction xs generalizing ts v with
  | nil => simpa using before
  | cons x rest ih =>
    obtain ⟨own, later⟩ := List.forall_mem_cons.mp h
    simpa using ih later (step before own)

/-- Factors tied by `AND` are a term. -/
theorem reads_tiedBy_and (nonempty : xs ≠ []) (h : ∀ x ∈ xs, Reads ρ .factor (tokens x) (value x)) :
    Reads ρ .term (tiedBy .and (xs.map tokens)) (Truth.all (xs.map value)) := by
  cases xs with
  | nil => exact absurd rfl nonempty
  | cons x rest =>
    obtain ⟨own, later⟩ := List.forall_mem_cons.mp h
    exact reads_further .and later (.ofFactor own)

/-- Terms tied by `OR` are a condition. -/
theorem reads_tiedBy_or (nonempty : xs ≠ []) (h : ∀ x ∈ xs, Reads ρ .term (tokens x) (value x)) :
    Reads ρ .condition (tiedBy .or (xs.map tokens)) (Truth.any (xs.map value)) := by
  cases xs with
  | nil => exact absurd rfl nonempty
  | cons x rest =>
    obtain ⟨own, later⟩ := List.forall_mem_cons.mp h
    exact reads_further .or later (.ofTerm own)

end Token

end SqlCompose
