import SqlCompose.Number.Binary64

/-!
# Shortest decimals

The shortest decimal that reads back as a given floating-point number. The decimals that do so fill
an interval around the number, closed when the mantissa is even. For one digit, two digits and so on
the two neighbours of the number on the grid of such decimals are tried; the first grid with a
neighbour inside the interval gives the answer, and of two neighbours inside it the nearer one wins.
-/

namespace SqlCompose

/-- `digits * 10 ^ exponent`. -/
structure Decimal where
  digits : Nat
  exponent : Int
deriving DecidableEq, Repr

namespace Decimal

/-- What decides between two neighbours at the same distance. -/
inductive Tie where
  | up
  | toEven
deriving DecidableEq, Repr

/-- The number of decimal digits. -/
def width (n : Nat) : Nat :=
  (Nat.toDigits 10 n).length

/-- The exponent of the leading digit: `10 ^ k ≤ n / d < 10 ^ (k + 1)`, for positive `n` and `d`. -/
def leadingExponent (n d : Nat) : Int :=
  if d ≤ n then (width (n / d) : Int) - 1
  else
    let k := width (d / n) - 1
    if d ≤ n * tenTo k then -(k : Int) else -((k : Int) + 1)

/-- The decimals that read back as a number, over the common denominator `denominator`. -/
structure Interval where
  low : Nat
  value : Nat
  high : Nat
  denominator : Nat
  closed : Bool
deriving Repr

/-- The interval of a finite number. Below a power of two the numbers lie twice as dense. -/
def Interval.ofFinite (mantissa : Nat) (exponent : Int) : Interval :=
  let scale := twoTo exponent.toNat
  { low := (4 * mantissa - if mantissa = twoTo 52 then 1 else 2) * scale
    value := 4 * mantissa * scale
    high := (4 * mantissa + 2) * scale
    denominator := 4 * twoTo (-exponent).toNat
    closed := mantissa % 2 == 0 }

/-- Whether a decimal lies in the interval. -/
def Interval.has (i : Interval) (x : Decimal) : Bool :=
  let n := x.digits * tenTo x.exponent.toNat * i.denominator
  let scale := tenTo (-x.exponent).toNat
  if i.closed then i.low * scale ≤ n && n ≤ i.high * scale
  else i.low * scale < n && n < i.high * scale

/-- The best decimal on the grid of multiples of `10 ^ exponent`, if one reads back. -/
def Interval.onGrid? (i : Interval) (tie : Tie) (exponent : Int) : Option Decimal :=
  let n := i.value * tenTo (-exponent).toNat
  let d := i.denominator * tenTo exponent.toNat
  let below : Decimal := ⟨n / d, exponent⟩
  let above : Decimal := ⟨n / d + 1, exponent⟩
  match i.has below, i.has above with
  | false, false => none
  | true, false => some below
  | false, true => some above
  | true, true =>
    let twice := 2 * (n % d)
    if twice < d then some below
    else if d < twice then some above
    else match tie with
      | .up => some above
      | .toEven => if n / d % 2 = 0 then some below else some above

/-- The first grid that has an answer, among `count` ever finer ones. -/
def Interval.search (i : Interval) (tie : Tie) (exponent : Int) : (count : Nat) → Option Decimal
  | 0 => none
  | count + 1 =>
    match i.onGrid? tie exponent with
    | some x => some x
    | none => i.search tie (exponent - 1) count

/-- The decimal without zeros at its end. -/
def normalizeWithin : (fuel : Nat) → Decimal → Decimal
  | 0, x => x
  | fuel + 1, x =>
    if x.digits ≠ 0 ∧ x.digits % 10 = 0 then normalizeWithin fuel ⟨x.digits / 10, x.exponent + 1⟩
    else x

/-- The decimal without zeros at its end. -/
def normalize (x : Decimal) : Decimal :=
  normalizeWithin (width x.digits) x

/-- The shortest decimal that reads back as the finite number `mantissa * 2 ^ exponent`; seventeen
digits always suffice. -/
def shortest (tie : Tie) (mantissa : Nat) (exponent : Int) : Decimal :=
  if mantissa = 0 then ⟨0, 0⟩
  else
    let i := Interval.ofFinite mantissa exponent
    match i.search tie (leadingExponent i.value i.denominator) 18 with
    | some x => normalize x
    | none => ⟨0, 0⟩

end Decimal

end SqlCompose
