import SqlCompose.Calendar.Reading
import SqlCompose.Json.Reader
import SqlCompose.Number.Reading
import SqlCompose.Value.Inspect
import SqlCompose.Value.Key

/-!
# Decoding

Reading a column's value as a value of a wanted type. A column may hold the type itself or a text
that spells it, because some connections deliver every column as text.
-/

namespace SqlCompose

/-- The integer types a column can be read as. -/
inductive IntegerType where
  | i16
  | i32
  | i64
  | u32
deriving DecidableEq, Repr

namespace IntegerType

def name : IntegerType → String
  | .i16 => "i16"
  | .i32 => "i32"
  | .i64 => "i64"
  | .u32 => "u32"

def range : IntegerType → IntegerRange
  | .i16 => .signed 16
  | .i32 => .signed 32
  | .i64 => .signed 64
  | .u32 => .unsigned 32

end IntegerType

/-- The types a column can be read as. `value` takes anything. -/
inductive ScalarType where
  | integer (t : IntegerType)
  | float
  | bool
  | text
  | uuid
  | timestamp
  | json
  | value
deriving DecidableEq, Repr

namespace ScalarType

/-- The name of a type in messages. -/
def name : ScalarType → String
  | .integer t => t.name
  | .float => "f64"
  | .bool => "bool"
  | .text => "text"
  | .uuid => "uuid"
  | .timestamp => "timestamp"
  | .json => "json"
  | .value => "value"

end ScalarType

/-- A type a column can be read as, with or without null. -/
structure ColumnType where
  scalar : ScalarType
  nullable : Bool := false
deriving DecidableEq, Repr

/-- Why a value cannot be read as a type. -/
inductive DecodeCause where
  | mismatch (wanted : ScalarType) (found : Value)
  | integer (e : IntegerError)
  | float (e : FloatError)
  | malformedUuid (s : String)
  | malformedJson (s : String)
  | malformedTimestamp (s : String)
  | noText
  | columnNotFound
  | noColumnAt (index : Nat)
  | described (message : String)

namespace DecodeCause

def message : DecodeCause → String
  | .mismatch wanted found => "expected " ++ wanted.name ++ ", got " ++ found.inspect
  | .integer e => e.message
  | .float e => e.message
  | .malformedUuid s => "invalid uuid " ++ Text.quoted s
  | .malformedJson s => "invalid json " ++ Text.quoted s
  | .malformedTimestamp s => "invalid timestamp " ++ Text.quoted s
  | .noText => "expected text"
  | .columnNotFound => "column not found"
  | .noColumnAt index => "no column at index " ++ Nat.repr index
  | .described message => message

end DecodeCause

/-- A column that could not be read. -/
structure DecodeError where
  column : String
  cause : DecodeCause

def DecodeError.message (e : DecodeError) : String :=
  "Decode error on column '" ++ e.column ++ "': " ++ e.cause.message

namespace Value

/-- The integer of a type that a value holds or spells, blanks around it aside. -/
def toInteger (t : IntegerType) : Value → Except DecodeCause Int
  | .int n => (t.range.check n.toInt).mapError .integer
  | .text s => (t.range.read (Text.trim s.toList)).mapError .integer
  | v => .error (.mismatch (.integer t) v)

def toFloat : Value → Except DecodeCause Binary64
  | .float x => .ok x
  | .int n => .ok (Binary64.ofInt n.toInt)
  | .text s => (Binary64.read (Text.trim s.toList)).mapError .float
  | v => .error (.mismatch .float v)

/-- The truth value that a text spells. -/
def boolOfText? (s : String) : Option Bool :=
  if s ∈ ["t", "true", "TRUE", "1"] then some true
  else if s ∈ ["f", "false", "FALSE", "0"] then some false
  else none

def toBool : Value → Except DecodeCause Bool
  | .bool b => .ok b
  | .int n => .ok (n != 0)
  | .text s =>
    match boolOfText? s with
    | some b => .ok b
    | none => .error (.mismatch .bool (.text s))
  | v => .error (.mismatch .bool v)

/-- A text, or the key of any other value. -/
def toText : Value → Except DecodeCause String
  | .text s => .ok s
  | .null => .error (.mismatch .text .null)
  | v =>
    match v.key? with
    | some k => .ok k
    | none => .error .noText

def toUuid : Value → Except DecodeCause Uuid
  | .uuid u => .ok u
  | .text s =>
    match Uuid.read? s with
    | some u => .ok u
    | none => .error (.malformedUuid s)
  | v => .error (.mismatch .uuid v)

def toTimestamp : Value → Except DecodeCause Timestamp
  | .timestamp t => .ok t
  | .text s =>
    match Timestamp.read? s with
    | some t => .ok t
    | none => .error (.malformedTimestamp s)
  | v => .error (.mismatch .timestamp v)

def toJson : Value → Except DecodeCause Json
  | .json j => .ok j
  | .text s =>
    match Json.read? s with
    | some j => .ok j
    | none => .error (.malformedJson s)
  | v => .error (.mismatch .json v)

/-- A value read as a type, as a value of that type's kind. -/
def readAs (v : Value) : ScalarType → Except DecodeCause Value
  | .integer t => (v.toInteger t).map fun n => .int (Int64.ofInt n)
  | .float => v.toFloat.map .float
  | .bool => v.toBool.map .bool
  | .text => v.toText.map .text
  | .uuid => v.toUuid.map .uuid
  | .timestamp => v.toTimestamp.map .timestamp
  | .json => v.toJson.map .json
  | .value => .ok v

/-- A value read as a column type. Null reads as null where the type has it. -/
def decode (v : Value) (t : ColumnType) (column : String) : Except DecodeError Value :=
  if t.nullable ∧ v.isNull then .ok .null
  else (v.readAs t.scalar).mapError (⟨column, ·⟩)

end Value

end SqlCompose
