import SqlCompose.Json.Printer
import SqlCompose.Value.Basic

/-!
# Keys

The text by which a value of one row is compared with a value of another, so that a number matches
the text that spells it. Null has no key, and neither has a list with null in it.
-/

namespace SqlCompose.Value

mutual

/-- The key text of a value. -/
def key? : Value → Option String
  | .null => none
  | .bool b => some (if b then "true" else "false")
  | .int n => some (Int.repr n.toInt)
  | .float x => some (Layout.plain.render x)
  | .text s => some s
  | .ident s => some s
  | .safe s => some s
  | .bytes bs => some (Text.hexBytes bs)
  | .json j => some j.print
  | .uuid u => some u.text
  | .timestamp t => some t.rfc3339
  | .list items => (keys? items).map (",".intercalate ·)

/-- The key texts of all the values; nothing when one of them has none. -/
def keys? : List Value → Option (List String)
  | [] => some []
  | v :: rest =>
    match key? v, keys? rest with
    | some k, some ks => some (k :: ks)
    | _, _ => none

end

end SqlCompose.Value
