import SqlCompose.Json.Printer
import SqlCompose.Text.Quoted
import SqlCompose.Value.Basic

/-!
# Values in messages

The form in which a message names a value: its kind and, between parentheses, its content.
-/

namespace SqlCompose

mutual

/-- A JSON value in a message. -/
def Json.inspect : Json → String
  | .null => "Null"
  | .bool b => "Bool(" ++ (if b then "true" else "false") ++ ")"
  | .integer n => "Number(" ++ Int.repr n ++ ")"
  | .float x => "Number(" ++ Layout.compact.render x ++ ")"
  | .string s => "String(" ++ Text.quoted s ++ ")"
  | .array items => "Array " ++ Text.bracketed (Json.inspectItems items)
  | .object members => "Object \x7b" ++ ", ".intercalate (Json.inspectMembers members) ++ "\x7d"

def Json.inspectItems : List Json → List String
  | [] => []
  | v :: rest => v.inspect :: Json.inspectItems rest

def Json.inspectMembers : List (String × Json) → List String
  | [] => []
  | (k, v) :: rest => (Text.quoted k ++ ": " ++ v.inspect) :: Json.inspectMembers rest

end

namespace Value

mutual

/-- A value in a message. -/
def inspect : Value → String
  | .null => "Null"
  | .bool b => "Bool(" ++ (if b then "true" else "false") ++ ")"
  | .int n => "Int(" ++ Int.repr n.toInt ++ ")"
  | .float x => "Float(" ++ Layout.inspected.render x ++ ")"
  | .text s => "Text(" ++ Text.quoted s ++ ")"
  | .bytes bs => "Bytes(" ++ Text.bracketed (bs.map fun b => Nat.repr b.toNat) ++ ")"
  | .json j => "Json(" ++ j.inspect ++ ")"
  | .uuid u => "Uuid(" ++ u.text ++ ")"
  | .timestamp t => "Timestamp(" ++ t.rfc3339Zulu ++ ")"
  | .list items => "List(" ++ Text.bracketed (inspectItems items) ++ ")"
  | .ident s => "Ident(" ++ Text.quoted s ++ ")"
  | .safe s => "Safe(" ++ Text.quoted s ++ ")"

def inspectItems : List Value → List String
  | [] => []
  | v :: rest => inspect v :: inspectItems rest

end

end Value

end SqlCompose
