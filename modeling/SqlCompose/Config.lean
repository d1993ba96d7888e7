import SqlCompose.Json.Reader
import SqlCompose.Text.Cut

/-!
# Settings

How statements are executed: a limit on the time that an answer may take, and how statements are
logged. Settings are read from JSON, an object with the keys of the settings or an array of their
values in order. Keys of no setting are skipped; no setting may be given twice.
-/

namespace SqlCompose

inductive LogLevel where
  | error
  | warn
  | info
  | debug
  | trace
deriving DecidableEq, Repr

namespace LogLevel

def name : LogLevel → String
  | .error => "error"
  | .warn => "warn"
  | .info => "info"
  | .debug => "debug"
  | .trace => "trace"

def ofName? (s : String) : Option LogLevel :=
  [error, warn, info, debug, trace].find? (·.name = s)

end LogLevel

/-- Times are in milliseconds, lengths in bytes. -/
structure Config where
  queryTimeout : Option Nat := none
  /-- Statements that take this long are logged as warnings. -/
  slowThreshold : Option Nat := none
  /-- The bytes of SQL text that are logged. -/
  maxSqlLength : Option Nat := some 200
  logLevel : LogLevel := .debug
deriving DecidableEq, Repr

namespace Config

/-- SQL text as it is logged: cut at the last boundary of its characters within the greatest length,
with three dots, if it is longer. There is none if no boundary is found. -/
def truncate? (c : Config) (sql : String) : Option String :=
  match c.maxSqlLength with
  | some limit =>
    if limit < sql.utf8ByteSize then
      (Text.lastBoundary? sql limit).map fun stop => (sql.sliceTo stop).copy ++ "..."
    else some sql
  | none => some sql

theorem truncate?_isSome (c : Config) (sql : String) : (c.truncate? sql).isSome := by
  rw [truncate?]
  split
  · split
    · rw [Option.isSome_map, Text.lastBoundary?_isSome]
    · rfl
  · rfl

/-! ### Reading -/

/-- A whole number of 64 bits, or null for none. -/
def optionalNumber? : Json → Option (Option Nat)
  | .null => some none
  | .integer n => if 0 ≤ n then some (some n.toNat) else none
  | _ => none

/-- A level by name, or by name as the only key of an object around null. -/
def level? : Json → Option LogLevel
  | .string s => LogLevel.ofName? s
  | .object [(s, .null)] => LogLevel.ofName? s
  | _ => none

/-- The settings by key, in order. -/
def setters : List (String × (Config → Json → Option Config)) :=
  [ ("query_timeout_ms", fun c v => (optionalNumber? v).map ({ c with queryTimeout := · })),
    ("slow_query_threshold_ms", fun c v => (optionalNumber? v).map ({ c with slowThreshold := · })),
    ("max_sql_length", fun c v => (optionalNumber? v).map ({ c with maxSqlLength := · })),
    ("log_level", fun c v => (level? v).map ({ c with logLevel := · })) ]

/-- Settings by key; `seen` have been given already. -/
def ofMembers? (c : Config) (seen : List String) : List (String × Json) → Option Config
  | [] => some c
  | (key, value) :: rest =>
    match setters.lookup key with
    | none => ofMembers? c seen rest
    | some set =>
      if key ∈ seen then none
      else (set c value).bind fun c => ofMembers? c (key :: seen) rest

/-- Settings by position. -/
def ofItems? (c : Config) : List (String × (Config → Json → Option Config)) → List Json →
    Option Config
  | _, [] => some c
  | [], _ :: _ => none
  | (_, set) :: setters, value :: rest => (set c value).bind (ofItems? · setters rest)

/-- The settings that a JSON text holds. Whatever is not given keeps its default. -/
def read? (text : String) : Option Config :=
  match Json.readRaw? .skimming text with
  | some (.object members) => ofMembers? {} [] members
  | some (.array items) => ofItems? {} setters items
  | _ => none

end Config

end SqlCompose
