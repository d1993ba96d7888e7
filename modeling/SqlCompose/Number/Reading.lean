import SqlCompose.Number.Binary64

/-!
# Reading numbers

Integers and floating-point numbers from decimal text. Integers are read digit by digit against a
range, so that the first fault from the left decides which error is reported: a foreign character,
or the digit that leaves the range.
-/

namespace SqlCompose

/-- Why a text is no integer of a range. -/
inductive IntegerError where
  | empty
  | invalidDigit
  | tooLarge
  | tooSmall
deriving DecidableEq, Repr

namespace IntegerError

def message : IntegerError → String
  | .empty => "cannot parse integer from empty string"
  | .invalidDigit => "invalid digit found in string"
  | .tooLarge => "number too large to fit in target type"
  | .tooSmall => "number too small to fit in target type"

end IntegerError

/-- The integers from `least` to `greatest`. -/
structure IntegerRange where
  least : Int
  greatest : Int
deriving DecidableEq, Repr

namespace IntegerRange

/-- The integers of a number of bits. -/
def unsigned (bits : Nat) : IntegerRange := ⟨0, twoTo bits - 1⟩

/-- The integers of a number of bits, one of which is for the sign. -/
def signed (bits : Nat) : IntegerRange := ⟨-twoTo (bits - 1), twoTo (bits - 1) - 1⟩

/-- An integer of the range, or on which side it lies outside. -/
def check (r : IntegerRange) (n : Int) : Except IntegerError Int :=
  if r.greatest < n then .error .tooLarge
  else if n < r.least then .error .tooSmall
  else .ok n

/-- Digits appended to a number already read. `sign` is what a digit counts, `1` or `-1`. -/
def readDigits (r : IntegerRange) (sign : Int) (soFar : Int) : List Char → Except IntegerError Int
  | [] => .ok soFar
  | c :: rest =>
    if c.isDigit then
      match r.check (soFar * 10 + sign * (c.toNat - '0'.toNat : Nat)) with
      | .ok n => readDigits r sign n rest
      | .error e => .error e
    else .error .invalidDigit

/-- An optional sign and digits. A minus sign belongs to ranges with negative numbers only. -/
def read (r : IntegerRange) : List Char → Except IntegerError Int
  | [] => .error .empty
  | ['+'] => .error .invalidDigit
  | ['-'] => .error .invalidDigit
  | '+' :: digits => r.readDigits 1 0 digits
  | '-' :: digits => if r.least < 0 then r.readDigits (-1) 0 digits else .error .invalidDigit
  | digits => r.readDigits 1 0 digits

example : (⟨-128, 127⟩ : IntegerRange).read "-128".toList = .ok (-128) := by rfl
example : (⟨-128, 127⟩ : IntegerRange).read "128x".toList = .error .tooLarge := by rfl
example : (⟨-128, 127⟩ : IntegerRange).read "12x8".toList = .error .invalidDigit := by rfl

end IntegerRange

/-- Why a text is no floating-point number. -/
inductive FloatError where
  | empty
  | invalid
deriving DecidableEq, Repr

def FloatError.message : FloatError → String
  | .empty => "cannot parse float from empty string"
  | .invalid => "invalid float literal"

namespace Binary64

/-- The number that decimal digits spell. -/
def natOfDigits (digits : List Char) : Nat :=
  Nat.ofDigitChars 10 digits 0

/-- The exponent after its letter: an optional sign and at least one digit, to the end. -/
def readExponent? (s : List Char) : Option Int :=
  let (negative, digits) := match s with
    | '+' :: r => (false, r)
    | '-' :: r => (true, r)
    | r => (false, r)
  if digits ≠ [] ∧ digits.all Char.isDigit then
    some (if negative then -(natOfDigits digits : Int) else natOfDigits digits)
  else none

/-- Digits with an optional point, at least one digit in all, and an optional exponent. -/
def readMagnitude? (negative : Bool) (s : List Char) : Option Binary64 :=
  let whole := s.takeWhile Char.isDigit
  let (fraction, rest) := match s.dropWhile Char.isDigit with
    | '.' :: r => (r.takeWhile Char.isDigit, r.dropWhile Char.isDigit)
    | r => ([], r)
  if whole = [] ∧ fraction = [] then none
  else
    let number (exponent : Int) :=
      ofDecimal negative (natOfDigits (whole ++ fraction)) (exponent - fraction.length)
    match rest with
    | [] => some (number 0)
    | c :: r => if c = 'e' ∨ c = 'E' then (readExponent? r).map number else none

/-- The words for numbers that are not finite, in any case. -/
def readWord? (negative : Bool) (s : List Char) : Option Binary64 :=
  let word := s.map Char.toLower
  if word = "inf".toList ∨ word = "infinity".toList then some (.infinite negative)
  else if word = "nan".toList then some .nan
  else none

/-- A floating-point number with an optional sign. -/
def read (s : List Char) : Except FloatError Binary64 :=
  let (negative, magnitude) := match s with
    | '+' :: r => (false, r)
    | '-' :: r => (true, r)
    | r => (false, r)
  if s = [] then .error .empty
  else match readMagnitude? negative magnitude with
    | some x => .ok x
    | none => match readWord? negative magnitude with
      | some x => .ok x
      | none => .error .invalid

example : (read ".5e1".toList).toOption = some (ofInt 5) := by decide +kernel
example : (read "1e".toList).toOption = none := by decide +kernel

end Binary64

end SqlCompose
