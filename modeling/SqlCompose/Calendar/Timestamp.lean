import SqlCompose.Calendar.Date

/-!
# Timestamps

Points in universal time with nanoseconds. A leap second is kept as the second before it with a
nanosecond count past one thousand million, and is written as second 60.
-/

namespace SqlCompose

/-- Seconds since 1970-01-01T00:00:00 and nanoseconds within the second. -/
structure Timestamp where
  seconds : Int
  nanoseconds : Nat
deriving DecidableEq, Repr

namespace Timestamp

/-- The first and the last year of a timestamp. -/
def leastYear : Int := -262143
def greatestYear : Int := 262142

def date (t : Timestamp) : Date :=
  Date.ofDay (t.seconds / 86400)

/-- The seconds since midnight. -/
def secondOfDay (t : Timestamp) : Nat :=
  (t.seconds % 86400).toNat

/-- Decimal digits, filled up with zeros to a width. -/
def padded (width n : Nat) : List Char :=
  let digits := Nat.toDigits 10 n
  List.replicate (width - digits.length) '0' ++ digits

/-- Four digits for the years 0 to 9999; a sign and at least four digits for the others. -/
def yearText (y : Int) : List Char :=
  if 0 ≤ y ∧ y ≤ 9999 then padded 4 y.toNat
  else (if y < 0 then '-' else '+') :: padded 4 y.natAbs

def dateText (d : Date) : List Char :=
  yearText d.year ++ '-' :: padded 2 d.month ++ '-' :: padded 2 d.day

/-- The part of a second: nothing, or a point and three, six or nine digits. -/
def fractionText (nanoseconds : Nat) : List Char :=
  let n := nanoseconds % 1000000000
  if n = 0 then []
  else if n % 1000000 = 0 then '.' :: padded 3 (n / 1000000)
  else if n % 1000 = 0 then '.' :: padded 6 (n / 1000)
  else '.' :: padded 9 n

def timeText (t : Timestamp) : List Char :=
  let s := t.secondOfDay
  padded 2 (s / 3600) ++ ':' :: padded 2 (s / 60 % 60) ++
    ':' :: padded 2 (s % 60 + t.nanoseconds / 1000000000) ++ fractionText t.nanoseconds

/-- Date and time around a separator, and what follows them. -/
def textWith (separator : Char) (zone : List Char) (t : Timestamp) : String :=
  String.ofList (dateText t.date ++ separator :: timeText t ++ zone)

/-- The form of RFC 3339 with a numeric zone. -/
def rfc3339 : Timestamp → String :=
  textWith 'T' ['+', '0', '0', ':', '0', '0']

/-- The form of RFC 3339 with the letter of universal time. -/
def rfc3339Zulu : Timestamp → String :=
  textWith 'T' ['Z']

/-- Date and time around a space, without a zone. -/
def spaced : Timestamp → String :=
  textWith ' ' []

example : rfc3339 ⟨1704164645, 123000000⟩ = "2024-01-02T03:04:05.123+00:00" := by decide +kernel
example : rfc3339Zulu ⟨-62167219201, 0⟩ = "-0001-12-31T23:59:59Z" := by decide +kernel
example : spaced ⟨1483228799, 1000000000⟩ = "2016-12-31 23:59:60" := by decide +kernel

end Timestamp

end SqlCompose
