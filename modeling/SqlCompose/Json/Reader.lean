import SqlCompose.Json.Basic
import SqlCompose.Number.Reading
import SqlCompose.Text.Hex

/-!
# Reading JSON text

A reader for one JSON value with blanks around it. It keeps the members of objects as they stand in
the text; `Json.read?` gives the canonical form.

A value that nobody looks at is read with less care: its numbers may lie outside every range, its
strings may hold half of a surrogate pair, and it may be nested to any depth. `Care` tells the two
ways apart. The keys of an outermost object are always looked at.
-/

namespace SqlCompose.Json

/-- How carefully a text is read. -/
inductive Care where
  | exact
  | skimming
deriving DecidableEq, Repr

def isSpace (c : Char) : Bool :=
  c = ' ' || c = '\n' || c = '\t' || c = '\r'

def skipSpace (s : List Char) : List Char :=
  s.dropWhile isSpace

/-! ### Numbers -/

/-- The greatest number of 64 bits. -/
def greatestWord : Nat := twoTo 64 - 1

/-- The leading digits of a number that fit 64 bits, and the power of ten they count. -/
structure Significand where
  digits : Nat
  exponent : Int
deriving DecidableEq, Repr

/-- Digits before the point: the first one that no longer fits, and all after it, only count as
places. -/
def Significand.whole (digits : List Char) : Significand :=
  let step : Nat × Nat → Char → Nat × Nat := fun (n, dropped) c =>
    let next := n * 10 + (c.toNat - '0'.toNat)
    if 0 < dropped ∨ greatestWord < next then (n, dropped + 1) else (next, 0)
  let (n, dropped) := digits.foldl step (0, 0)
  ⟨n, dropped⟩

/-- Digits after the point: the first one that no longer fits, and all after it, are dropped. -/
def Significand.fraction (x : Significand) : List Char → Significand
  | [] => x
  | c :: rest =>
    let next := x.digits * 10 + (c.toNat - '0'.toNat)
    if greatestWord < next then x else fraction ⟨next, x.exponent - 1⟩ rest

/-- The floating-point number of a significand: its digits are rounded, and then multiplied or
divided by one rounded power of ten, or divided by two of them. Nothing above the greatest
number. -/
def Significand.toFloat? (negative : Bool) (x : Significand) : Option Binary64 :=
  let f := Binary64.ofQuotient negative x.digits 1
  if 308 < x.exponent then
    if f.isZero then some f else none
  else if 0 ≤ x.exponent then
    let g := f.timesPowerOfTen x.exponent.toNat
    if g.isInfinite then none else some g
  else if -308 ≤ x.exponent then
    some (f.overPowerOfTen (-x.exponent).toNat)
  else if -616 ≤ x.exponent then
    some ((f.overPowerOfTen 308).overPowerOfTen (-x.exponent - 308).toNat)
  else
    some (Binary64.zero negative)

/-- The greatest exponent that is looked at. -/
def greatestExponent : Nat := twoTo 31 - 1

/-- An exponent without its letter: sign and digits. -/
def readExponent? (s : List Char) : Option (Bool × Nat × List Char) :=
  let (negative, r) := match s with
    | '+' :: r => (false, r)
    | '-' :: r => (true, r)
    | r => (false, r)
  let digits := r.takeWhile Char.isDigit
  if digits = [] then none
  else some (negative, Binary64.natOfDigits digits, r.dropWhile Char.isDigit)

/-- A number that has a fraction or an exponent. -/
def floatOf? (care : Care) (negative : Bool) (x : Significand) (exponent : Option (Bool × Nat)) :
    Option Json :=
  let value := match exponent with
    | none => x.toFloat? negative
    | some (down, n) =>
      if greatestExponent < n then
        if x.digits ≠ 0 ∧ !down then none else some (Binary64.zero negative)
      else
        let shift : Int := if down then -n else n
        { x with exponent := x.exponent + shift }.toFloat? negative
  match care, value with
  | _, some f => some (.float f)
  | .exact, none => none
  | .skimming, none => some (.float (.infinite negative))

/-- A number without a fraction or an exponent. -/
def integerOf? (care : Care) (negative : Bool) (digits : List Char) : Option Json :=
  let n := Binary64.natOfDigits digits
  if negative then
    if n ≠ 0 ∧ n ≤ twoTo 63 then some (.integer (-(n : Int)))
    else floatOf? care true (.whole digits) none
  else if n ≤ greatestWord then some (.integer n)
  else floatOf? care false (.whole digits) none

/-- A number: digits without a leading zero, an optional fraction and an optional exponent. -/
def number (care : Care) (s : List Char) : Option (Json × List Char) := do
  let (negative, r) := match s with
    | '-' :: r => (true, r)
    | r => (false, r)
  let digits := r.takeWhile Char.isDigit
  if digits = [] ∨ digits.head? = some '0' ∧ digits.length ≠ 1 then none
  let rest := r.dropWhile Char.isDigit
  let (fraction, rest) := match rest with
    | '.' :: r => (some (r.takeWhile Char.isDigit), r.dropWhile Char.isDigit)
    | r => (none, r)
  if fraction = some [] then none
  let (exponent, rest) ← match rest with
    | c :: r =>
      if c = 'e' ∨ c = 'E' then
        (readExponent? r).map fun (down, n, r) => (some (down, n), r)
      else some (none, c :: r)
    | [] => some (none, [])
  let value ← match fraction, exponent with
    | none, none => integerOf? care negative digits
    | _, _ =>
      floatOf? care negative ((Significand.whole digits).fraction (fraction.getD [])) exponent
  return (value, rest)

/-! ### Strings -/

/-- Four hexadecimal digits. -/
def codeUnit? : List Char → Option (Nat × List Char)
  | a :: b :: c :: d :: rest => do
    let a ← Text.hexValue? a
    let b ← Text.hexValue? b
    let c ← Text.hexValue? c
    let d ← Text.hexValue? d
    return (((a * 16 + b) * 16 + c) * 16 + d, rest)
  | _ => none

/-- The character of an escape by code unit, after its letter. Half of a surrogate pair needs the
other half. -/
def escapedCodePoint? (care : Care) (s : List Char) : Option (Char × List Char) := do
  let (unit, rest) ← codeUnit? s
  if unit < 0xd800 ∨ 0xdfff < unit then
    return (Char.ofNat unit, rest)
  match care with
  | .skimming => return (Char.ofNat 0xfffd, rest)
  | .exact =>
    if 0xdc00 ≤ unit then none
    match rest with
    | '\\' :: 'u' :: rest => do
      let (low, rest) ← codeUnit? rest
      if low < 0xdc00 ∨ 0xdfff < low then none
      return (Char.ofNat (0x10000 + (unit - 0xd800) * 0x400 + (low - 0xdc00)), rest)
    | _ => none

/-- The characters that may follow a backslash by themselves. -/
def escapedChar? : Char → Option Char
  | '"' => some '"'
  | '\\' => some '\\'
  | '/' => some '/'
  | 'b' => some '\x08'
  | 'f' => some '\x0c'
  | 'n' => some '\n'
  | 'r' => some '\r'
  | 't' => some '\t'
  | _ => none

/-- The rest of a string after its opening quote, with `soFar` read already, last character
first. -/
def stringRest (care : Care) : (fuel : Nat) → (soFar : List Char) → List Char →
    Option (String × List Char)
  | 0, _, _ => none
  | _, _, [] => none
  | fuel + 1, soFar, c :: rest =>
    if c = '"' then some (String.ofList soFar.reverse, rest)
    else if c = '\\' then
      match rest with
      | 'u' :: rest => do
        let (c, rest) ← escapedCodePoint? care rest
        stringRest care fuel (c :: soFar) rest
      | e :: rest => do
        let c ← escapedChar? e
        stringRest care fuel (c :: soFar) rest
      | [] => none
    else if c.toNat < 0x20 then none
    else stringRest care fuel (c :: soFar) rest

/-- The rest of a string after its opening quote. -/
def stringBody (care : Care) (s : List Char) : Option (String × List Char) :=
  stringRest care (s.length + 1) [] s

/-! ### Values -/

/-- The containers that may be open at once. -/
def greatestDepth : Nat := 127

/-- How keys are read in an object in which `depth` more containers may be opened. -/
def keyCare (care : Care) (depth : Nat) : Care :=
  if depth + 1 = greatestDepth then .exact else care

/-- Drops a word from the front. -/
def dropWord (word : String) (s : List Char) : Option (List Char) :=
  if word.toList.isPrefixOf s then some (s.drop word.length) else none

mutual

/-- A value. `depth` more containers may be opened. -/
def value (care : Care) : (fuel : Nat) → (depth : Nat) → List Char → Option (Json × List Char)
  | 0, _, _ => none
  | fuel + 1, depth, s =>
    match skipSpace s with
    | '"' :: rest => (stringBody care rest).map fun (t, r) => (.string t, r)
    | '[' :: rest =>
      if care = .exact ∧ depth = 0 then none
      else match skipSpace rest with
        | ']' :: r => some (.array [], r)
        | r => (items care fuel (depth - 1) r).map fun (vs, r) => (.array vs, r)
    | '\x7b' :: rest =>
      if care = .exact ∧ depth = 0 then none
      else match skipSpace rest with
        | '\x7d' :: r => some (.object [], r)
        | r => (members care fuel (depth - 1) r).map fun (ms, r) => (.object ms, r)
    | 'n' :: rest => (dropWord "ull" rest).map (.null, ·)
    | 't' :: rest => (dropWord "rue" rest).map (.bool true, ·)
    | 'f' :: rest => (dropWord "alse" rest).map (.bool false, ·)
    | r => number care r

/-- The items of an array up to its bracket. -/
def items (care : Care) : (fuel : Nat) → (depth : Nat) → List Char →
    Option (List Json × List Char)
  | 0, _, _ => none
  | fuel + 1, depth, s => do
    let (v, rest) ← value care fuel depth s
    match skipSpace rest with
    | ',' :: rest =>
      let (vs, rest) ← items care fuel depth rest
      return (v :: vs, rest)
    | ']' :: rest => return ([v], rest)
    | _ => none

/-- The members of an object up to its brace. -/
def members (care : Care) : (fuel : Nat) → (depth : Nat) → List Char →
    Option (List (String × Json) × List Char)
  | 0, _, _ => none
  | fuel + 1, depth, s => do
    match skipSpace s with
    | '"' :: rest =>
      let (key, rest) ← stringBody (keyCare care depth) rest
      match skipSpace rest with
      | ':' :: rest =>
        let (v, rest) ← value care fuel depth rest
        match skipSpace rest with
        | ',' :: rest =>
          let (ms, rest) ← members care fuel depth rest
          return ((key, v) :: ms, rest)
        | '\x7d' :: rest => return ([(key, v)], rest)
        | _ => none
      | _ => none
    | _ => none

end

/-- The value a whole text spells, members as they stand there. Every reader takes at least one
character for each two of its steps. -/
def readRaw? (care : Care) (s : String) : Option Json :=
  match value care (2 * s.length + 2) greatestDepth s.toList with
  | some (v, rest) => if skipSpace rest = [] then some v else none
  | none => none

/-- The canonical form of the value a whole text spells. -/
def read? (s : String) : Option Json :=
  (readRaw? .exact s).map canonical

end SqlCompose.Json
