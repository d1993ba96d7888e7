import SqlCompose.Text.Hex
import SqlCompose.Text.Printable

/-!
# Quoted text in messages

A text shown inside a message stands between double quotes. Quotes, backslashes and the usual
control characters are written with a backslash; every other character that cannot be shown as it is
appears as its code point in braces.
-/

namespace SqlCompose.Text

/-- The code point of a character, in hexadecimal between braces. -/
def escapeCodePoint (c : Char) : List Char :=
  '\\' :: 'u' :: '\x7b' :: hexNat c.toNat ++ ['\x7d']

/-- How a character is written between double quotes. -/
def escapeChar (c : Char) : List Char :=
  if c = '\x00' then ['\\', '0']
  else if c = '\t' then ['\\', 't']
  else if c = '\r' then ['\\', 'r']
  else if c = '\n' then ['\\', 'n']
  else if c = '\\' then ['\\', '\\']
  else if c = '"' then ['\\', '"']
  else if isExtending c then escapeCodePoint c
  else if isPrintable c then [c]
  else escapeCodePoint c

/-- A text between double quotes. -/
def quoted (s : String) : String :=
  String.ofList ('"' :: s.toList.flatMap escapeChar ++ ['"'])

/-- Items between brackets, separated by commas. -/
def bracketed (items : List String) : String :=
  "[" ++ ", ".intercalate items ++ "]"

example : quoted "a\"b\n" = "\"a\\\"b\\n\"" := by decide +kernel
example : escapeChar 'ﾊ' = ['ﾊ'] ∧ escapeChar 'ﾟ' = ['ﾟ'] := by decide +kernel
example : escapeChar '\u3164' = "\\u\x7b3164\x7d".toList := by decide +kernel

end SqlCompose.Text
