import SqlCompose.Text.Hex

/-!
# Internet addresses

Which texts are addresses of version 4 (four numbers around points) or of version 6 (eight groups of
hexadecimal digits around colons, of which a run of zeros may be left out once, and the last two may
be written as an address of version 4).
-/

namespace SqlCompose.InternetAddress

/-- A number up to 255 without leading zeros. -/
def isOctet (s : List Char) : Bool :=
  s.all Char.isDigit && (s == ['0'] || (s != [] && s.head? != some '0')) && s.length ≤ 3 &&
    Nat.ofDigitChars 10 s 0 ≤ 255

def isVersion4 (s : List Char) : Bool :=
  let parts := s.splitOn '.'
  parts.length == 4 && parts.all isOctet

/-- One to four hexadecimal digits. -/
def isGroup (s : List Char) : Bool :=
  s != [] && s.length ≤ 4 && s.all fun c => (Text.hexValue? c).isSome

/-- The number of groups that a text between colons stands for. The last part may be an address of
version 4, which stands for two groups. -/
def groupCount? (version4AtEnd : Bool) (s : List Char) : Option Nat :=
  if s = [] then some 0
  else
    let parts := s.splitOn ':'
    if parts.all isGroup then some parts.length
    else if version4AtEnd && parts.dropLast.all isGroup && isVersion4 (parts.getLastD []) then
      some (parts.length + 1)
    else none

/-- The text before and after the first pair of colons. -/
def splitAtGap? : List Char → Option (List Char × List Char)
  | ':' :: ':' :: rest => some ([], rest)
  | c :: rest => (splitAtGap? rest).map fun (a, b) => (c :: a, b)
  | [] => none

def isVersion6 (s : List Char) : Bool :=
  match splitAtGap? s with
  | none => s != [] && groupCount? true s == some 8
  | some (before, after) =>
    match groupCount? false before, groupCount? true after with
    | some a, some b => a + b ≤ 7
    | _, _ => false

/-- Whether a text is an address of either version. -/
def isAddress (s : List Char) : Bool :=
  isVersion4 s || isVersion6 s

example : isAddress "127.0.0.1".toList = true := by decide +kernel
example : isAddress "fe80::1:10.0.0.1".toList = true := by decide +kernel
example : isAddress "1::2::3".toList = false := by decide +kernel

end SqlCompose.InternetAddress
