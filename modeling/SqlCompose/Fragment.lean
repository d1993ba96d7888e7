import SqlCompose.Error
import SqlCompose.Value.Literal

/-!
# Fragments of SQL

A rendered query is a sequence of pieces, fixed text and argument values, and only the last step
decides how the arguments are written. There are three ways to write them, the modes:

* `literal`: as literals of the dialect;
* `shape`: as a question mark each, so that the text shows the query's shape and none of its data;
* `bind`: as numbered placeholders, with the values collected beside the text.

A `Fragment` is a sequence of pieces that may also have failed. Fragments are put together with
`++`, where the first failure wins.
-/

namespace SqlCompose

/-- Fixed text, or an argument in its place. -/
inductive Piece where
  | text (s : String)
  | arg (v : Value)

/-! ### Fragments -/

/-- Pieces in order, or the reason why there are none. -/
inductive Fragment where
  | ok (pieces : List Piece)
  | fail (e : RenderError)

namespace Fragment

def empty : Fragment := .ok []

def text (s : String) : Fragment := .ok [.text s]

def arg (v : Value) : Fragment := .ok [.arg v]

/-- One fragment after the other. -/
def append : Fragment → Fragment → Fragment
  | .ok ps, .ok qs => .ok (ps ++ qs)
  | .ok _, .fail e => .fail e
  | .fail e, _ => .fail e

instance : Append Fragment := ⟨append⟩

/-- All fragments, one after the other. -/
def concat : List Fragment → Fragment
  | [] => empty
  | f :: rest => f ++ concat rest

/-- The fragments with a separator between them. -/
def join (separator : String) : List Fragment → Fragment
  | [] => empty
  | f :: rest => f ++ concat (rest.map (text separator ++ ·))

/-- A fragment between parentheses. -/
def parens (f : Fragment) : Fragment :=
  text "(" ++ f ++ text ")"

@[simp] theorem ok_append_ok (ps qs : List Piece) : ok ps ++ ok qs = ok (ps ++ qs) := rfl

@[simp] theorem fail_append (e : RenderError) (f : Fragment) : fail e ++ f = fail e := by
  cases f <;> rfl

@[simp] theorem ok_append_fail (ps : List Piece) (e : RenderError) :
    ok ps ++ fail e = fail e := rfl

@[simp] theorem empty_append (f : Fragment) : empty ++ f = f := by
  cases f <;> rfl

@[simp] theorem append_empty (f : Fragment) : f ++ empty = f := by
  cases f with
  | fail e => rfl
  | ok ps => exact congrArg ok (List.append_nil ps)

theorem append_assoc (f g h : Fragment) : f ++ g ++ h = f ++ (g ++ h) := by
  cases f <;> cases g <;> cases h <;> simp

theorem concat_append (fs gs : List Fragment) : concat (fs ++ gs) = concat fs ++ concat gs := by
  induction fs with
  | nil => rw [List.nil_append, concat, empty_append]
  | cons f rest ih => rw [List.cons_append, concat, concat, ih, append_assoc]

/-- A separator stands before the last fragment, unless it is the only one. -/
theorem join_snoc (separator : String) (fs : List Fragment) (f : Fragment) :
    join separator (fs ++ [f]) =
      join separator fs ++ if fs = [] then f else text separator ++ f := by
  cases fs with
  | nil => simp [join, concat]
  | cons first rest =>
    rw [List.cons_append, join, join, List.map_append, concat_append, ← append_assoc]
    simp [concat]

end Fragment

/-! ### Writing arguments -/

/-- The three ways to write arguments. -/
inductive Mode where
  | literal
  | shape
  | bind
deriving DecidableEq, Repr

/-- What rendering has to know: how names are quoted, what the dialect can do, and whether only the
query's shape is wanted. -/
structure Target where
  dialect : Dialect
  features : Features
  shapeOnly : Bool
deriving DecidableEq, Repr

/-- The target for a mode of a dialect. -/
def Dialect.target (d : Dialect) (m : Mode) : Target :=
  ⟨d, d.features, decide (m = .shape)⟩

/-- Fails where a feature is missing. -/
def Target.require (t : Target) (f : Feature) : Fragment :=
  if t.features.has f then .empty else .fail (.unsupported t.dialect (.feature f))

/-- SQL text and the arguments bound to its placeholders, in order. -/
structure Rendered where
  sql : String
  args : List Value := []

namespace Value

/-- Whether the literal of a value is the empty text. -/
def isBlank : Value → Bool
  | .safe sql => sql.isEmpty
  | .list [v] => v.isBlank
  | _ => false

mutual

/-- The pieces of an argument to be bound: lists fall into their items, and names and trusted SQL
become text. -/
def leaves (d : Dialect) : Value → List Piece
  | .ident name => [.text (d.ident name)]
  | .safe sql => [.text sql]
  | .list (v :: rest) => leaves d v ++ leavesBehind d rest
  | v => [.arg v]

/-- The pieces of further items, each behind a comma. -/
def leavesBehind (d : Dialect) : List Value → List Piece
  | [] => []
  | v :: rest => .text ", " :: (leaves d v ++ leavesBehind d rest)

end

/-- An argument where only the shape is wanted. -/
def shape (d : Dialect) (v : Value) : String :=
  if v.isStructural then v.literal d else "?"

end Value

namespace Piece

/-- Whether a piece adds nothing to the text. -/
def isBlank (shapeOnly : Bool) : Piece → Bool
  | .text s => s.isEmpty
  | .arg v => v.isBlank && (!shapeOnly || v.isStructural)

/-- A piece with its argument written as a literal. -/
def literal (d : Dialect) : Piece → String
  | .text s => s
  | .arg v => v.literal d

/-- A piece with its argument left out. -/
def shape (d : Dialect) : Piece → String
  | .text s => s
  | .arg v => v.shape d

/-- The pieces of a piece whose argument is to be bound. -/
def leaves (d : Dialect) : Piece → List Piece
  | .text s => [.text s]
  | .arg v => v.leaves d

/-- Text with placeholders in the place of the arguments, counted on from `bound`. -/
def number (d : Dialect) (bound : Nat) : List Piece → Rendered
  | [] => ⟨"", []⟩
  | .text s :: rest =>
    let r := number d bound rest
    ⟨s ++ r.sql, r.args⟩
  | .arg v :: rest =>
    let r := number d (bound + 1) rest
    ⟨d.placeholder (bound + 1) ++ r.sql, v :: r.args⟩

/-- Pieces written in a mode. -/
def write (d : Dialect) (pieces : List Piece) : Mode → Rendered
  | .literal => { sql := String.join (pieces.map (literal d)) }
  | .shape => { sql := String.join (pieces.map (shape d)) }
  | .bind => number d 0 (pieces.flatMap (leaves d))

end Piece

namespace Fragment

/-- Whether a fragment adds nothing to the text. -/
def isBlank (shapeOnly : Bool) : Fragment → Bool
  | .ok ps => ps.all (·.isBlank shapeOnly)
  | .fail _ => false

/-- A fragment written in a mode. -/
def write (d : Dialect) (m : Mode) (f : Fragment) : Except RenderError Rendered :=
  match f with
  | .ok ps => .ok (Piece.write d ps m)
  | .fail e => .error e

end Fragment

end SqlCompose
