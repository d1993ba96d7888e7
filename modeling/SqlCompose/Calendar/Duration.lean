/-!
# Durations in messages

A number of milliseconds with the largest unit that fits: seconds with the places they need, or
milliseconds.
-/

namespace SqlCompose

/-- Digits without the zeros at their end. -/
def dropZeros (digits : List Char) : List Char :=
  (digits.reverse.dropWhile (· = '0')).reverse

/-- The text of a duration. -/
def durationText (milliseconds : Nat) : String :=
  if milliseconds = 0 then "0ns"
  else if milliseconds < 1000 then Nat.repr milliseconds ++ "ms"
  else
    let rest := Nat.toDigits 10 (milliseconds % 1000)
    let places := dropZeros (List.replicate (3 - rest.length) '0' ++ rest)
    Nat.repr (milliseconds / 1000) ++
      (if places = [] then "" else "." ++ String.ofList places) ++ "s"

example : durationText 90061001 = "90061.001s" := by decide +kernel
example : durationText 1500 = "1.5s" := by decide +kernel

end SqlCompose
