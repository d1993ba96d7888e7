import SqlCompose.Json.Basic
import SqlCompose.Number.Layout
import SqlCompose.Text.Hex

/-!
# Compact JSON text

JSON without blanks. Inside strings only quotes, backslashes and control characters are escaped.
-/

namespace SqlCompose.Json

/-- How a character is written inside a JSON string. -/
def escapeChar (c : Char) : List Char :=
  if c = '"' then ['\\', '"']
  else if c = '\\' then ['\\', '\\']
  else if c = '\x08' then ['\\', 'b']
  else if c = '\x0c' then ['\\', 'f']
  else if c = '\n' then ['\\', 'n']
  else if c = '\r' then ['\\', 'r']
  else if c = '\t' then ['\\', 't']
  else if c.toNat < 0x20 then '\\' :: 'u' :: '0' :: '0' :: Text.hexByte c.toNat.toUInt8
  else [c]

/-- A string between quotes. -/
def printString (s : String) : String :=
  String.ofList ('"' :: s.toList.flatMap escapeChar ++ ['"'])

mutual

/-- The compact text of a value. -/
def print : Json → String
  | .null => "null"
  | .bool b => if b then "true" else "false"
  | .integer n => Int.repr n
  | .float x => Layout.compact.render x
  | .string s => printString s
  | .array items => "[" ++ ",".intercalate (printItems items) ++ "]"
  | .object members => "\x7b" ++ ",".intercalate (printMembers members) ++ "\x7d"

def printItems : List Json → List String
  | [] => []
  | v :: rest => print v :: printItems rest

def printMembers : List (String × Json) → List String
  | [] => []
  | (k, v) :: rest => (printString k ++ ":" ++ print v) :: printMembers rest

end

end SqlCompose.Json
