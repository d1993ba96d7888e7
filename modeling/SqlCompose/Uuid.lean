import SqlCompose.Text.Hex

/-!
# Universally unique identifiers

Sixteen bytes, written as hexadecimal digits in five groups. Reading takes the grouped form, alone,
in braces or after `urn:uuid:`, and the thirty-two digits without hyphens.
-/

namespace SqlCompose

structure Uuid where
  bytes : List UInt8
  length_eq : bytes.length = 16
deriving DecidableEq

namespace Uuid

instance : Repr Uuid := ⟨fun u _ => repr (Text.hexBytes u.bytes)⟩

/-- The digits of each group of bytes, joined by hyphens. -/
def grouped : List Nat → List UInt8 → List Char
  | [], _ => []
  | [_], bytes => bytes.flatMap Text.hexByte
  | n :: rest, bytes => (bytes.take n).flatMap Text.hexByte ++ '-' :: grouped rest (bytes.drop n)

/-- Only hyphens stand between the digits of the bytes. -/
theorem mem_grouped {sizes : List Nat} {bytes : List UInt8} {c : Char}
    (h : c ∈ grouped sizes bytes) : c = '-' ∨ c ∈ bytes.flatMap Text.hexByte := by
  fun_induction grouped sizes bytes with
  | case1 => cases h
  | case2 => exact .inr h
  | case3 n rest bytes _ ih =>
    have part {some : List UInt8} (within : some ⊆ bytes) (h : c ∈ some.flatMap Text.hexByte) :
        c ∈ bytes.flatMap Text.hexByte := by
      obtain ⟨b, hb, hc⟩ := List.mem_flatMap.mp h
      exact List.mem_flatMap.mpr ⟨b, within hb, hc⟩
    rcases List.mem_append.mp h with first | later
    · exact .inr (part (List.take_subset n bytes) first)
    · rcases List.mem_cons.mp later with hyphen | later
      · exact .inl hyphen
      · exact (ih later).imp_right (part (List.drop_subset n bytes))

/-- The numbers of bytes in the five groups. -/
def groups : List Nat := [4, 2, 2, 2, 6]

/-- The grouped form in lower case. -/
def text (u : Uuid) : String :=
  String.ofList (grouped groups u.bytes)

/-- Thirty-two digits. -/
def readDigits? (s : List Char) : Option Uuid :=
  match Text.bytesOfHex? s with
  | some bytes => if h : bytes.length = 16 then some ⟨bytes, h⟩ else none
  | none => none

/-- Takes the hyphens out between the groups; nothing when one is missing. -/
def dropHyphens? : List Nat → List Char → Option (List Char)
  | [], s => some s
  | [_], s => some s
  | n :: rest, s => do
    match s.drop (2 * n) with
    | '-' :: r => return s.take (2 * n) ++ (← dropHyphens? rest r)
    | _ => none

/-- The grouped form. -/
def readGrouped? (s : List Char) : Option Uuid :=
  (dropHyphens? groups s).bind readDigits?

def urnPrefix : List Char := "urn:uuid:".toList

/-- Any of the accepted forms. -/
def read? (text : String) : Option Uuid :=
  let s := text.toList
  if s.length = 32 then readDigits? s
  else if s.length = 36 then readGrouped? s
  else if s.length = 38 then
    if s.head? = some '\x7b' ∧ s.getLast? = some '\x7d' then readGrouped? (s.drop 1).dropLast
    else none
  else if s.length = 45 then
    if (s.take 9).map Char.toLower = urnPrefix then readGrouped? (s.drop 9) else none
  else none

example : (read? "67E55044-10b1-426f-9247-bb680e5fe0c8").map text =
    some "67e55044-10b1-426f-9247-bb680e5fe0c8" := by decide +kernel

end Uuid

end SqlCompose
