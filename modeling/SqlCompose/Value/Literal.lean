import SqlCompose.Dialect
import SqlCompose.Json.Printer
import SqlCompose.Value.Basic

/-!
# SQL literals

How each dialect writes a value into SQL text.
-/

namespace SqlCompose

namespace Dialect

/-- A character inside a string literal: quotes are doubled, NUL is dropped, and backslashes are
doubled where they would escape. -/
def literalChar (d : Dialect) (c : Char) : List Char :=
  if c = '\'' then ['\'', '\'']
  else if c = '\\' ∧ d = .mySql then ['\\', '\\']
  else if c = '\x00' then []
  else [c]

/-- A string literal. -/
def stringChars (d : Dialect) (s : List Char) : List Char :=
  '\'' :: s.flatMap d.literalChar ++ ['\'']

/-- A string literal. -/
def stringLiteral (d : Dialect) (s : String) : String :=
  String.ofList (d.stringChars s.toList)

/-- A number. Only one dialect can write the numbers that are not finite. -/
def floatLiteral (d : Dialect) (x : Binary64) : String :=
  match x, d with
  | .finite .., _ => Layout.plain.render x
  | .nan, .postgres => "'NaN'"
  | .infinite false, .postgres => "'Infinity'"
  | .infinite true, .postgres => "'-Infinity'"
  | _, _ => "NULL"

def bytesLiteral (d : Dialect) (bytes : List UInt8) : String :=
  match d with
  | .postgres => "'\\x" ++ Text.hexBytes bytes ++ "'"
  | _ => "X'" ++ Text.hexBytes bytes ++ "'"

def timestampLiteral (d : Dialect) (t : Timestamp) : String :=
  match d with
  | .postgres => "'" ++ t.rfc3339 ++ "'"
  | _ => "'" ++ t.spaced ++ "'"

end Dialect

namespace Value

mutual

/-- A value as SQL of a dialect. An empty list is `NULL`, so that `IN (?)` stays well formed. -/
def literal (d : Dialect) : Value → String
  | .null => "NULL"
  | .bool b => if b then "TRUE" else "FALSE"
  | .int n => Int.repr n.toInt
  | .float x => d.floatLiteral x
  | .text s => d.stringLiteral s
  | .bytes bs => d.bytesLiteral bs
  | .json j => d.stringLiteral j.print
  | .uuid u => "'" ++ u.text ++ "'"
  | .timestamp t => d.timestampLiteral t
  | .list [] => "NULL"
  | .list (v :: rest) => ", ".intercalate (literals d (v :: rest))
  | .ident name => d.ident name
  | .safe sql => sql

def literals (d : Dialect) : List Value → List String
  | [] => []
  | v :: rest => literal d v :: literals d rest

end

end Value

end SqlCompose
