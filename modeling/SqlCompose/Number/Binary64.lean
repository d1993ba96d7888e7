import SqlCompose.Number.Power

/-!
# Binary floating point of 64 bits

A finite number is kept as sign, mantissa and exponent, so that it is exactly `mantissa * 2 ^
exponent`. `Binary64.ofQuotient` rounds a quotient of natural numbers to the nearest such number,
ties to the even mantissa; every number of the library is built through it, by reading decimal text
or by arithmetic on numbers so built.
-/

namespace SqlCompose

/-- A 64-bit binary floating-point number. A finite one has `mantissa < 2 ^ 53` and
`-1074 ≤ exponent ≤ 971`; below `2 ^ 52` the mantissa goes with the exponent `-1074` only. -/
inductive Binary64 where
  | nan
  | infinite (negative : Bool)
  | finite (negative : Bool) (mantissa : Nat) (exponent : Int)
deriving DecidableEq, Repr

namespace Binary64

/-- The least exponent of a finite number. -/
def leastExponent : Int := -1074

/-- The greatest exponent of a finite number. -/
def greatestExponent : Int := 971

/-- Zero of either sign. -/
def zero (negative : Bool) : Binary64 :=
  .finite negative 0 leastExponent

instance : Inhabited Binary64 := ⟨zero false⟩

/-- `n / d` rounded to the nearest natural number, a half to the even one. -/
def roundDiv (n d : Nat) : Nat :=
  let q := n / d
  let twice := 2 * (n % d)
  if twice < d then q
  else if d < twice then q + 1
  else if q % 2 = 0 then q else q + 1

/-- The quotient `n / (d * 2 ^ e)` as numerator and denominator. -/
def scaleDown (n d : Nat) (e : Int) : Nat × Nat :=
  (n * twoTo (-e).toNat, d * twoTo e.toNat)

/-- The exponent `e` for which `n / d` lies between `2 ^ 52 * 2 ^ e` and `2 ^ 53 * 2 ^ e`, for
positive `n` and `d`. -/
def binaryExponent (n d : Nat) : Int :=
  let e : Int := (n.log2 : Int) - (d.log2 : Int) - 52
  let (n', d') := scaleDown n d e
  if n' < twoTo 52 * d' then e - 1 else e

/-- The number nearest to `n / d`, ties to the even mantissa; infinite above the greatest finite
number. -/
def ofQuotient (negative : Bool) (n d : Nat) : Binary64 :=
  if n = 0 then zero negative
  else
    let e := max (binaryExponent n d) leastExponent
    let (n', d') := scaleDown n d e
    let m := roundDiv n' d'
    let (m, e) := if m = twoTo 53 then (twoTo 52, e + 1) else (m, e)
    if greatestExponent < e then .infinite negative else .finite negative m e

/-- The number nearest to an integer. -/
def ofInt (n : Int) : Binary64 :=
  ofQuotient (decide (n < 0)) n.natAbs 1

/-- The number nearest to `digits * 10 ^ exponent`. Far outside the range of finite numbers the
answer is known from the number of digits alone. -/
def ofDecimal (negative : Bool) (digits : Nat) (exponent : Int) : Binary64 :=
  let magnitude := exponent + (Nat.toDigits 10 digits).length
  if digits = 0 ∨ magnitude < -400 then zero negative
  else if 400 < magnitude then .infinite negative
  else ofQuotient negative (digits * tenTo exponent.toNat) (tenTo (-exponent).toNat)

/-- The magnitude of a finite number as a quotient. -/
def quotient (mantissa : Nat) (exponent : Int) : Nat × Nat :=
  (mantissa * twoTo exponent.toNat, twoTo (-exponent).toNat)

def isInfinite : Binary64 → Bool
  | .infinite _ => true
  | _ => false

def isZero : Binary64 → Bool
  | .finite _ m _ => m == 0
  | _ => false

/-- A finite number times a power of ten, the power itself rounded first. -/
def timesPowerOfTen (x : Binary64) (k : Nat) : Binary64 :=
  match x, ofDecimal false 1 k with
  | .finite s m e, .finite _ m' e' =>
    let (a, b) := quotient m e
    let (c, d) := quotient m' e'
    ofQuotient s (a * c) (b * d)
  | .finite s _ _, _ => .infinite s
  | x, _ => x

/-- A finite number divided by a power of ten, the power itself rounded first. -/
def overPowerOfTen (x : Binary64) (k : Nat) : Binary64 :=
  match x, ofDecimal false 1 k with
  | .finite s m e, .finite _ m' e' =>
    let (a, b) := quotient m e
    let (c, d) := quotient m' e'
    ofQuotient s (a * d) (b * c)
  | .finite s _ _, _ => zero s
  | x, _ => x

example : ofDecimal false 1 (-1) = .finite false 7205759403792794 (-56) := by decide +kernel
example : ofInt 9007199254740993 = .finite false 4503599627370496 1 := by decide +kernel

end Binary64

end SqlCompose
