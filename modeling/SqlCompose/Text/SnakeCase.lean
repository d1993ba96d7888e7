import SqlCompose.Text.Alphanumeric
import SqlCompose.Text.LetterCase

/-!
# Snake case

A name such as `OrderLine` falls into words, each written in lower case and joined by underscores.
Everything that is neither a letter nor a number separates words; inside such a stretch a word ends
where a lower-case letter meets an upper-case one, and before the last capital of a run of capitals
that a lower-case letter follows. Characters without case, digits among them, never end a word.
-/

namespace SqlCompose.Text

/-- The case of the last cased character seen in the current word. -/
inductive Hump where
  | none
  | lower
  | upper
deriving DecidableEq, Repr

/-- The hump state after reading `c`. -/
def Hump.after (h : Hump) (c : Char) : Hump :=
  if isLowercase c then .lower else if isUppercase c then .upper else h

/-- The words of a stretch of letters and numbers. `word` holds the characters of the current word
read so far, last first. -/
def splitHumps (h : Hump) (word : List Char) : List Char → List (List Char)
  | [] => []
  | [c] => [(c :: word).reverse]
  | c :: next :: rest =>
    if h.after c = .lower ∧ isUppercase next then
      (c :: word).reverse :: splitHumps .none [] (next :: rest)
    else if h = .upper ∧ isUppercase c ∧ isLowercase next then
      word.reverse :: splitHumps .none [c] (next :: rest)
    else
      splitHumps (h.after c) (c :: word) (next :: rest)

/-- The words of a name. -/
def words (name : List Char) : List (List Char) :=
  (name.splitOnP (!isAlphanumeric ·)).flatMap (splitHumps .none [])

/-- A word in lower case; a capital sigma at its end takes the final form. -/
def lowercaseWord : List Char → List Char
  | [] => []
  | [c] => if c = 'Σ' then ['ς'] else lowercase c
  | c :: rest => lowercase c ++ lowercaseWord rest

/-- The words of a name in lower case, joined by underscores. -/
def snakeChars (name : List Char) : List Char :=
  ['_'].intercalate ((words name).map lowercaseWord)

/-- The snake-case form of a name. -/
def snakeCase (name : String) : String :=
  String.ofList (snakeChars name.toList)

example : snakeCase "HTTPServer2Name" = "http_server2_name" := by decide +kernel
example : snakeCase "order-Line item" = "order_line_item" := by decide +kernel

end SqlCompose.Text
