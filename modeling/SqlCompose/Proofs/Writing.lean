import SqlCompose.Fragment

/-!
# What is written for pieces

The text of each mode in closed form. Numbered placeholders carry a count along the text; here every
placeholder is read off its own place, by the arguments that stand before it. Literals do not see
the difference between a list and its items, so that the pieces of an argument to be bound are
enough to write its literal too.
-/

namespace SqlCompose

namespace Piece

/-! ## Arguments among pieces -/

def arg? : Piece → Option Value
  | .text _ => none
  | .arg v => some v

/-- The arguments among pieces, in order. -/
def args (ps : List Piece) : List Value :=
  ps.filterMap arg?

@[simp] theorem args_nil : args [] = [] := rfl

@[simp] theorem args_text (s : String) (ps : List Piece) : args (.text s :: ps) = args ps := rfl

@[simp] theorem args_arg (v : Value) (ps : List Piece) : args (.arg v :: ps) = v :: args ps := rfl

@[simp] theorem args_append (ps qs : List Piece) : args (ps ++ qs) = args ps ++ args qs :=
  List.filterMap_append

/-! ## Numbered placeholders -/

/-- A piece with its argument as the placeholder of an index. -/
def slot (d : Dialect) (index : Nat) : Piece → String
  | .text s => s
  | .arg _ => d.placeholder index

/-- Pieces with placeholders for their arguments: an argument is numbered by the arguments up to
it. -/
def slots (d : Dialect) (bound : Nat) (ps : List Piece) : List String :=
  ps.mapIdx fun i p => p.slot d (bound + (args (ps.take (i + 1))).length)

theorem slots_text (d : Dialect) (bound : Nat) (s : String) (ps : List Piece) :
    slots d bound (.text s :: ps) = s :: slots d bound ps := by
  simp [slots, List.mapIdx_cons, slot]

theorem slots_arg (d : Dialect) (bound : Nat) (v : Value) (ps : List Piece) :
    slots d bound (.arg v :: ps) = d.placeholder (bound + 1) :: slots d (bound + 1) ps := by
  simp only [slots, List.mapIdx_cons, slot, List.take_succ_cons, args_arg, List.length_cons,
    List.take_zero, args_nil, List.length_nil, Nat.zero_add]
  congr 1
  refine List.mapIdx_eq_mapIdx_iff.mpr fun i _ => ?_
  rw [show bound + ((args (ps.take (i + 1))).length + 1) =
    bound + 1 + (args (ps.take (i + 1))).length by omega]

/-- Counting along the text gives every argument the number of its place. -/
theorem number_eq (d : Dialect) (bound : Nat) (ps : List Piece) :
    number d bound ps = ⟨String.join (slots d bound ps), args ps⟩ := by
  induction ps generalizing bound with
  | nil => rfl
  | cons p ps ih =>
    cases p with
    | text s => simp only [number, ih, slots_text, String.join_cons, args_text]
    | arg v => simp only [number, ih, slots_arg, String.join_cons, args_arg]

end Piece

/-! ## The pieces of an argument to be bound -/

namespace Value

/-- Something that is bound as it is: neither part of the shape nor a list with items. -/
def isLeaf : Value → Bool
  | .list items => items.isEmpty
  | v => !v.isStructural

mutual

theorem isLeaf_of_mem_leaves (d : Dialect) (v : Value) :
    ∀ w ∈ Piece.args (v.leaves d), w.isLeaf = true := by
  cases v with
  | ident name => simp [leaves]
  | safe sql => simp [leaves]
  | list items =>
    cases items with
    | nil => simp [leaves, isLeaf]
    | cons v rest =>
      intro w hw
      simp only [leaves, Piece.args_append, List.mem_append] at hw
      rcases hw with hw | hw
      · exact isLeaf_of_mem_leaves d v w hw
      · exact isLeaf_of_mem_leavesBehind d rest w hw
  | _ => simp [leaves, isLeaf, isStructural]

theorem isLeaf_of_mem_leavesBehind (d : Dialect) (vs : List Value) :
    ∀ w ∈ Piece.args (leavesBehind d vs), w.isLeaf = true := by
  cases vs with
  | nil => simp [leavesBehind]
  | cons v rest =>
    intro w hw
    simp only [leavesBehind, Piece.args_text, Piece.args_append, List.mem_append] at hw
    rcases hw with hw | hw
    · exact isLeaf_of_mem_leaves d v w hw
    · exact isLeaf_of_mem_leavesBehind d rest w hw

end

mutual

/-- A list is written as its items are. -/
theorem join_literal_leaves (d : Dialect) (v : Value) :
    String.join ((v.leaves d).map (Piece.literal d)) = v.literal d := by
  cases v with
  | list items =>
    cases items with
    | nil => simp [leaves, Piece.literal, literal]
    | cons v rest =>
      rw [leaves, List.map_append, String.join_append, join_literal_leaves d v, literal, literals,
        join_literal_leavesBehind d v rest]
  | _ => simp [leaves, Piece.literal, literal]

theorem join_literal_leavesBehind (d : Dialect) (v : Value) (rest : List Value) :
    v.literal d ++ String.join ((leavesBehind d rest).map (Piece.literal d)) =
      ", ".intercalate (v.literal d :: literals d rest) := by
  cases rest with
  | nil => simp [leavesBehind, literals]
  | cons w rest =>
    rw [leavesBehind, List.map_cons, List.map_append, String.join_cons, String.join_append,
      join_literal_leaves d w, Piece.literal, literals, String.intercalate_cons_cons,
      ← join_literal_leavesBehind d w rest, String.append_assoc]

end

end Value

namespace Piece

theorem join_literal_leaves (d : Dialect) (ps : List Piece) :
    String.join ((ps.flatMap (leaves d)).map (literal d)) = String.join (ps.map (literal d)) := by
  induction ps with
  | nil => rfl
  | cons p ps ih =>
    rw [List.flatMap_cons, List.map_append, String.join_append, ih, List.map_cons,
      String.join_cons]
    cases p with
    | text s => simp [leaves, literal]
    | arg v => rw [leaves, Value.join_literal_leaves, literal]

theorem isLeaf_of_mem_leaves (d : Dialect) (ps : List Piece) :
    ∀ v ∈ args (ps.flatMap (leaves d)), v.isLeaf = true := by
  induction ps with
  | nil => simp
  | cons p ps ih =>
    intro v hv
    rw [List.flatMap_cons, args_append, List.mem_append] at hv
    rcases hv with hv | hv
    · cases p with
      | text s => simp [leaves] at hv
      | arg w => exact Value.isLeaf_of_mem_leaves d w v hv
    · exact ih v hv

/-! ## Names and trusted SQL as text -/

/-- A piece whose argument, if it is part of the shape, has become text. -/
def settled (d : Dialect) : Piece → Piece
  | .text s => .text s
  | .arg v => if v.isStructural then .text (v.literal d) else .arg v

@[simp] theorem literal_settled (d : Dialect) (p : Piece) :
    (p.settled d).literal d = p.literal d := by
  cases p with
  | text s => rfl
  | arg v =>
    rw [settled]
    split <;> rfl

@[simp] theorem shape_settled (d : Dialect) (p : Piece) : (p.settled d).shape d = p.shape d := by
  cases p with
  | text s => rfl
  | arg v =>
    by_cases h : v.isStructural = true
    · simp [settled, shape, Value.shape, h]
    · simp [settled, shape, h]

@[simp] theorem leaves_settled (d : Dialect) (p : Piece) :
    (p.settled d).leaves d = p.leaves d := by
  cases p with
  | text s => rfl
  | arg v =>
    cases v <;> rfl

/-- A piece with a question mark for its argument. -/
def mark : Piece → String
  | .text s => s
  | .arg _ => "?"

theorem map_shape_eq_map_mark (d : Dialect) {ps : List Piece}
    (h : ∀ v ∈ args ps, v.isStructural = false) : ps.map (shape d) = ps.map mark := by
  induction ps with
  | nil => rfl
  | cons p ps ih =>
    cases p with
    | text s => simpa [shape, mark] using ih h
    | arg v =>
      rw [args_arg, List.forall_mem_cons] at h
      simpa [shape, mark, Value.shape, h.1] using ih h.2

theorem args_settled (d : Dialect) (ps : List Piece) :
    args (ps.map (settled d)) = (args ps).filter fun v => !v.isStructural := by
  induction ps with
  | nil => rfl
  | cons p ps ih =>
    cases p with
    | text s => simpa [settled] using ih
    | arg v =>
      by_cases h : v.isStructural = true
      · simp [settled, h, ih]
      · simp [settled, h, ih]

theorem not_isStructural_of_mem_settled (d : Dialect) (ps : List Piece) :
    ∀ v ∈ args (ps.map (settled d)), v.isStructural = false := by
  intro v hv
  rw [args_settled, List.mem_filter] at hv
  simpa using hv.2

/-- What is written for pieces does not tell names and trusted SQL from text. -/
theorem write_settled (d : Dialect) (m : Mode) (ps : List Piece) :
    write d (ps.map (settled d)) m = write d ps m := by
  cases m with
  | literal => simp [write, Function.comp_def]
  | shape => simp [write, Function.comp_def]
  | bind => simp [write, List.flatMap_map]

/-! ## Text in parts -/

theorem number_text_append (d : Dialect) (bound : Nat) (ps qs : List Piece) (a b : String) :
    number d bound (ps ++ .text (a ++ b) :: qs) =
      number d bound (ps ++ .text a :: .text b :: qs) := by
  induction ps generalizing bound with
  | nil => simp [number, String.append_assoc]
  | cons p ps ih =>
    cases p with
    | text s => simp only [List.cons_append, number, ih]
    | arg v => simp only [List.cons_append, number, ih]

/-- It does not matter in how many parts a text stands among pieces. -/
theorem write_text_append (d : Dialect) (m : Mode) (ps qs : List Piece) (a b : String) :
    write d (ps ++ .text (a ++ b) :: qs) m = write d (ps ++ .text a :: .text b :: qs) m := by
  cases m with
  | literal => simp [write, literal, String.append_assoc]
  | shape => simp [write, shape, String.append_assoc]
  | bind =>
    simp only [write, List.flatMap_append, List.flatMap_cons, leaves, List.singleton_append]
    exact number_text_append d 0 _ _ a b

/-! ## Text before and behind -/

@[simp] theorem args_number (d : Dialect) (bound : Nat) (ps : List Piece) :
    (number d bound ps).args = args ps := by
  rw [number_eq]

/-- Pieces behind others count on from the arguments before them. -/
theorem number_append (d : Dialect) (bound : Nat) (ps qs : List Piece) :
    number d bound (ps ++ qs) =
      ⟨(number d bound ps).sql ++ (number d (bound + (args ps).length) qs).sql,
        args ps ++ args qs⟩ := by
  induction ps generalizing bound with
  | nil =>
    have whole : number d bound qs = ⟨(number d bound qs).sql, args qs⟩ := by
      rw [← args_number d bound qs]
    simpa [number] using whole
  | cons p ps ih =>
    cases p with
    | text s => simp only [List.cons_append, number, ih, String.append_assoc, args_text]
    | arg v =>
      have count : bound + 1 + (args ps).length = bound + (args (.arg v :: ps)).length := by
        rw [args_arg, List.length_cons]
        omega
      simp only [List.cons_append, number, ih, String.append_assoc, args_arg, count]

theorem number_append_text (d : Dialect) (bound : Nat) (ps : List Piece) (b : String) :
    number d bound (ps ++ [.text b]) =
      ⟨(number d bound ps).sql ++ b, (number d bound ps).args⟩ := by
  simp [number_append, number]

theorem write_cons_text (d : Dialect) (m : Mode) (a : String) (ps : List Piece) :
    write d (.text a :: ps) m = ⟨a ++ (write d ps m).sql, (write d ps m).args⟩ := by
  cases m with
  | literal => simp [write, literal]
  | shape => simp [write, shape]
  | bind => simp [write, leaves, number]

theorem write_append_text (d : Dialect) (m : Mode) (ps : List Piece) (b : String) :
    write d (ps ++ [.text b]) m = ⟨(write d ps m).sql ++ b, (write d ps m).args⟩ := by
  cases m with
  | literal => simp [write, literal]
  | shape => simp [write, shape]
  | bind => simp [write, leaves, number_append_text]

end Piece

namespace Fragment

/-- Text is written as it is, and binds nothing. -/
theorem write_text_before (d : Dialect) (m : Mode) (a : String) (f : Fragment) :
    (.text a ++ f).write d m = (f.write d m).map fun r => ⟨a ++ r.sql, r.args⟩ := by
  cases f with
  | fail e => rfl
  | ok ps => exact congrArg Except.ok (Piece.write_cons_text d m a ps)

theorem write_text_behind (d : Dialect) (m : Mode) (b : String) (f : Fragment) :
    (f ++ .text b).write d m = (f.write d m).map fun r => ⟨r.sql ++ b, r.args⟩ := by
  cases f with
  | fail e => rfl
  | ok ps => exact congrArg Except.ok (Piece.write_append_text d m ps b)

end Fragment

/-- It does not matter in how many parts a text stands in a fragment. -/
theorem Fragment.write_text_append (d : Dialect) (m : Mode) (before after : Fragment)
    (a b : String) :
    (before ++ .text (a ++ b) ++ after).write d m =
      (before ++ (.text a ++ .text b) ++ after).write d m := by
  cases before with
  | fail e => simp
  | ok ps =>
    cases after with
    | fail e => rfl
    | ok qs =>
      have parts := Piece.write_text_append d m ps qs a b
      simpa [text, write] using parts

end SqlCompose
