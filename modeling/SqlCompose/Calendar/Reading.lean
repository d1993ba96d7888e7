import SqlCompose.Calendar.Timestamp
import SqlCompose.Number.Power
import SqlCompose.Text.Blank

/-!
# Reading timestamps

Three grammars, tried in this order by `Timestamp.read?`:

* RFC 3339, with `T`, `t` or a space between date and time and a zone that is required;
* date and time with free blanks, an optional fraction and a zone whose minutes may be missing;
* the same without a zone, in universal time.
-/

namespace SqlCompose

/-- A reader of a beginning of a text. -/
abbrev TextReader (α : Type) := StateT (List Char) Option α

namespace TextReader

/-- Between `least` and `most` digits, as many as there are. -/
def number (least most : Nat) : TextReader Nat := fun s =>
  let digits := (s.take most).takeWhile Char.isDigit
  if least ≤ digits.length then some (Nat.ofDigitChars 10 digits 0, s.drop digits.length) else none

/-- As many digits as there are, at least one. -/
def digits : TextReader Nat := fun s => number 1 s.length s

/-- One character of a set. -/
def oneOf (allowed : List Char) : TextReader Char
  | c :: rest => if c ∈ allowed then some (c, rest) else none
  | [] => none

def char (c : Char) : TextReader Unit := do
  let _ ← oneOf [c]

/-- A number of a range. -/
def within (least greatest : Nat) (r : TextReader Nat) : TextReader Nat := do
  let n ← r
  if least ≤ n ∧ n ≤ greatest then return n else failure

def blanks : TextReader Unit := fun s => some ((), Text.trimLeft s)

/-- Any colons and blanks. -/
def colonsAndBlanks : TextReader Unit := fun s =>
  some ((), s.dropWhile fun c => c = ':' || Text.isBlank c)

/-- An optional point followed by digits, in nanoseconds; digits past the ninth are dropped. -/
def fraction : TextReader Nat
  | '.' :: rest =>
    let digits := rest.takeWhile Char.isDigit
    if digits = [] then none
    else
      let kept := digits.take 9
      some (Nat.ofDigitChars 10 kept 0 * tenTo (9 - kept.length), rest.drop digits.length)
  | rest => some (0, rest)

/-- Two digits of minutes up to 59. -/
def zoneMinutes : TextReader Nat :=
  within 0 59 (number 2 2)

/-- A zone in seconds east of Greenwich: the letter Z, or a sign, hours, and minutes after
`separator`. -/
def zone (separator : TextReader Unit) (minutes : TextReader Nat) : TextReader Int
  | 'Z' :: rest => some (0, rest)
  | 'z' :: rest => some (0, rest)
  | s => (do
      let sign ← oneOf ['+', '-', '−']
      let hours ← number 2 2
      separator
      let m ← minutes
      let seconds : Int := hours * 3600 + m * 60
      return if sign = '+' then seconds else -seconds : TextReader Int) s

/-- Minutes that may be missing at the end of the text. -/
def optionalMinutes : TextReader Nat
  | [] => some (0, [])
  | s => zoneMinutes s

/-- The value read from a whole text. -/
def whole {α : Type} (r : TextReader α) (s : List Char) : Option α :=
  match r s with
  | some (a, []) => some a
  | _ => none

end TextReader

namespace Timestamp

/-- A date and a time of day as they were read. Second 60 is a leap second. -/
structure Clock where
  date : Date
  hour : Nat
  minute : Nat
  second : Nat
  nanoseconds : Nat
deriving DecidableEq, Repr

/-- A year that timestamps have. -/
def IsYear (y : Int) : Prop := leastYear ≤ y ∧ y ≤ greatestYear

instance (y : Int) : Decidable (IsYear y) := by unfold IsYear; infer_instance

/-- The point in time that a clock `zone` seconds east of Greenwich shows; nothing when the month
has no such day, or the year lies outside the range of timestamps. -/
def ofClock? (c : Clock) (zone : Int) : Option Timestamp :=
  if c.date.IsValid ∧ IsYear c.date.year then
    let (second, leap) := if c.second = 60 then (59, 1000000000) else (c.second, 0)
    let wall := c.date.toDay * 86400 + (c.hour * 3600 + c.minute * 60 + second : Nat)
    let t : Timestamp := ⟨wall - zone, leap + c.nanoseconds⟩
    if IsYear t.date.year then some t else none
  else none

open TextReader

/-- The time of day: hours, minutes and seconds around colons, and a fraction. `field` reads a
number of two digits at most. -/
def time (field : TextReader Nat) : TextReader (Nat × Nat × Nat × Nat) := do
  let hour ← within 0 23 field
  char ':'
  let minute ← within 0 59 field
  char ':'
  let second ← within 0 60 field
  let nanoseconds ← fraction
  return (hour, minute, second, nanoseconds)

/-- Date and time of RFC 3339, every field at its full width. -/
def strictClock : TextReader Clock := do
  let year ← number 4 4
  char '-'
  let month ← within 1 12 (number 2 2)
  char '-'
  let day ← within 1 31 (number 2 2)
  let _ ← oneOf ['T', 't', ' ']
  let (hour, minute, second, nanoseconds) ← time (number 2 2)
  return ⟨⟨year, month, day⟩, hour, minute, second, nanoseconds⟩

/-- The whole of RFC 3339: the zone lies less than a day from Greenwich. -/
def readStrict? (s : List Char) : Option Timestamp := do
  let (clock, offset) ← whole (do
    let clock ← strictClock
    let offset ← zone (char ':') zoneMinutes
    return (clock, offset)) s
  if offset.natAbs < 86400 then ofClock? clock offset else none

/-- A number of at most two digits after any blanks. -/
def shortField : TextReader Nat := do
  blanks
  number 1 2

/-- A year of at most four digits, or with a sign and any number of digits. -/
def freeYear : TextReader Int := do
  blanks
  fun
    | '-' :: rest => (digits rest).map fun (n, r) => (-(n : Int), r)
    | '+' :: rest => (digits rest).map fun (n, r) => ((n : Int), r)
    | s => (number 1 4 s).map fun (n, r) => ((n : Int), r)

/-- Date and time with blanks wherever a number starts. -/
def freeClock : TextReader Clock := do
  let year ← freeYear
  char '-'
  let month ← within 1 12 shortField
  char '-'
  let day ← within 1 31 shortField
  blanks
  let (hour, minute, second, nanoseconds) ← time shortField
  return ⟨⟨year, month, day⟩, hour, minute, second, nanoseconds⟩

/-- Date, time and zone with free blanks. -/
def readZoned? (s : List Char) : Option Timestamp := do
  let (clock, offset) ← whole (do
    let clock ← freeClock
    blanks
    let offset ← zone colonsAndBlanks optionalMinutes
    return (clock, offset)) s
  if offset.natAbs < 86400 then ofClock? clock offset else none

/-- Date and time in universal time. -/
def readPlain? (s : List Char) : Option Timestamp := do
  let clock ← whole freeClock s
  ofClock? clock 0

/-- The timestamp a text spells in the first grammar that accepts it. -/
def read? (s : String) : Option Timestamp :=
  (readStrict? s.toList).orElse fun _ =>
    (readZoned? s.toList).orElse fun _ => readPlain? s.toList

example : read? "2024-01-02 03:04:05.5-08" = some ⟨1704193445, 500000000⟩ := by decide +kernel
example : read? "2016-12-31T23:59:60Z" = some ⟨1483228799, 1000000000⟩ := by decide +kernel
example : read? "2024-04-31 00:00:00" = none := by decide +kernel

end Timestamp

end SqlCompose
