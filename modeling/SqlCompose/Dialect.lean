/-!
# SQL dialects

The dialects, what each of them can do, and how each of them quotes names and numbers its
placeholders. Rendering asks for features and never for a dialect by name.
-/

namespace SqlCompose

/-- Something that not every dialect can do. -/
inductive Feature where
  /-- `WITH name AS (...)` -/
  | cte
  /-- `SELECT DISTINCT ON (...)` -/
  | distinctOn
  /-- `RETURNING ...` -/
  | returning
  /-- `VALUES ROW(...), ROW(...)` -/
  | valuesRow
  /-- `value::type` casts -/
  | castOperator
  /-- `SELECT ... FOR UPDATE` -/
  | selectFor
deriving DecidableEq, Repr

namespace Feature

/-- The name of a feature in messages. -/
def name : Feature → String
  | .cte => "common table expressions"
  | .distinctOn => "DISTINCT ON"
  | .returning => "RETURNING"
  | .valuesRow => "VALUES ROW(...)"
  | .castOperator => ":: casts"
  | .selectFor => "SELECT ... FOR"

def all : List Feature :=
  [.cte, .distinctOn, .returning, .valuesRow, .castOperator, .selectFor]

end Feature

/-- A set of features. -/
structure Features where
  cte : Bool := false
  distinctOn : Bool := false
  returning : Bool := false
  valuesRow : Bool := false
  castOperator : Bool := false
  selectFor : Bool := false
deriving DecidableEq, Repr

namespace Features

def empty : Features := {}

def has (s : Features) : Feature → Bool
  | .cte => s.cte
  | .distinctOn => s.distinctOn
  | .returning => s.returning
  | .valuesRow => s.valuesRow
  | .castOperator => s.castOperator
  | .selectFor => s.selectFor

/-- The set with one feature's membership decided anew. -/
def set (s : Features) (member : Bool) : Feature → Features
  | .cte => { s with cte := member }
  | .distinctOn => { s with distinctOn := member }
  | .returning => { s with returning := member }
  | .valuesRow => { s with valuesRow := member }
  | .castOperator => { s with castOperator := member }
  | .selectFor => { s with selectFor := member }

def insert (s : Features) (f : Feature) : Features := s.set true f

def erase (s : Features) (f : Feature) : Features := s.set false f

def ofList (fs : List Feature) : Features := fs.foldl insert empty

/-- The members in the order of `Feature.all`. -/
def toList (s : Features) : List Feature := Feature.all.filter s.has

end Features

/-- The supported dialects. -/
inductive Dialect where
  | postgres
  | mySql
  | sqlite
deriving DecidableEq, Repr

namespace Dialect

instance : Inhabited Dialect := ⟨.postgres⟩

def name : Dialect → String
  | .postgres => "postgres"
  | .mySql => "mysql"
  | .sqlite => "sqlite"

def features : Dialect → Features
  | .postgres => .ofList [.cte, .distinctOn, .returning, .castOperator, .selectFor]
  | .mySql => .ofList [.cte, .valuesRow, .selectFor]
  | .sqlite => .ofList [.cte, .returning]

/-- The character around quoted names. -/
def quote : Dialect → Char
  | .mySql => '\x60'
  | .postgres => '"'
  | .sqlite => '"'

/-- The placeholder of the argument at a position counted from one. -/
def placeholder : Dialect → Nat → String
  | .postgres, index => "$" ++ Nat.repr index
  | .mySql, _ => "?"
  | .sqlite, _ => "?"

/-- One segment of a name: a lone star stays bare, everything else is quoted and its quotes are
doubled. -/
def identSegment (d : Dialect) (segment : List Char) : List Char :=
  if segment = ['*'] then ['*']
  else d.quote :: segment.flatMap (fun c => if c = d.quote then [c, c] else [c]) ++ [d.quote]

/-- A dotted name, each segment by itself. -/
def identChars (d : Dialect) (name : List Char) : List Char :=
  ['.'].intercalate ((name.splitOn '.').map d.identSegment)

/-- A dotted name as an SQL identifier. -/
def ident (d : Dialect) (name : String) : String :=
  String.ofList (d.identChars name.toList)

/-- A column behind the alias of its table. -/
def qualified (d : Dialect) (table column : String) : String :=
  d.ident table ++ "." ++ d.ident column

example : postgres.ident "u.*" = "\"u\".*" := by decide +kernel
example : postgres.ident "we\"ird" = "\"we\"\"ird\"" := by decide +kernel

end Dialect

end SqlCompose
