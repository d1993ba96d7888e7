import SqlCompose.Number.Shortest

/-!
# Layouts of floating-point numbers

How the shortest decimal of a number is set out. All layouts agree on the digits but for ties; they
differ in where positional notation ends and in how whole numbers and exponents look. A layout is a
value of `Layout`, and the three layouts of the library are `plain`, `inspected` and `compact`.
-/

namespace SqlCompose

/-- The decisions of one way to set out numbers. Positional notation is for leading digits
with an exponent of at least `least` and below `limit`, where there are such bounds. -/
structure Layout where
  tie : Decimal.Tie
  least : Option Int
  limit : Option Int
  wholeTail : String
  plusSign : Bool
deriving Repr

namespace Layout

/-- Every number positionally, whole ones without a point. -/
def plain : Layout := ⟨.up, none, none, "", false⟩

/-- Positional from `1e-4` up to `1e16`, whole numbers ending in `.0`. -/
def inspected : Layout := ⟨.up, some (-4), some 16, ".0", false⟩

/-- Positional from `1e-5` up to `1e16`, whole numbers ending in `.0`, positive exponents signed. -/
def compact : Layout := ⟨.toEven, some (-5), some 16, ".0", true⟩

/-- Whether a number whose leading digit has this exponent is written positionally. -/
def isPositional (l : Layout) (leading : Int) : Bool :=
  l.least.all (· ≤ leading) && l.limit.all (leading < ·)

/-- A decimal with the point in its place. -/
def positional (l : Layout) (x : Decimal) : String :=
  let digits := Nat.toDigits 10 x.digits
  if 0 ≤ x.exponent then
    String.ofList (digits ++ List.replicate x.exponent.toNat '0') ++ l.wholeTail
  else
    let places := (-x.exponent).toNat
    if places < digits.length then
      String.ofList (digits.take (digits.length - places) ++ '.' ::
        digits.drop (digits.length - places))
    else
      String.ofList ('0' :: '.' :: List.replicate (places - digits.length) '0' ++ digits)

/-- A decimal with one digit before the point and an exponent. -/
def scientific (l : Layout) (x : Decimal) (leading : Int) : String :=
  let digits := Nat.toDigits 10 x.digits
  let fraction := if digits.length = 1 then [] else '.' :: digits.tail
  let sign := if leading < 0 then "-" else if l.plusSign then "+" else ""
  String.ofList (digits.take 1 ++ fraction) ++ "e" ++ sign ++ Nat.repr leading.natAbs

/-- The magnitude of a finite number. -/
def magnitude (l : Layout) (mantissa : Nat) (exponent : Int) : String :=
  let x := Decimal.shortest l.tie mantissa exponent
  let leading := x.exponent + Decimal.width x.digits - 1
  if x.digits = 0 ∨ l.isPositional leading then l.positional x else l.scientific x leading

/-- The text of a number. -/
def render (l : Layout) : Binary64 → String
  | .nan => "NaN"
  | .infinite negative => if negative then "-inf" else "inf"
  | .finite negative m e => (if negative then "-" else "") ++ l.magnitude m e

end Layout

end SqlCompose
