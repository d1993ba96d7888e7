import SqlCompose.Fragment

/-!
# Templates

SQL with marks for its arguments: `?` takes the next argument, `?0` the one at a position, `?Name`
stands for something that the query around the template knows, and `\?` is a question mark. A
template is first scanned into items, without regard to its arguments, and then expanded; what was
put in for a mark is not scanned again.
-/

namespace SqlCompose

/-- A part of a template. -/
inductive TemplateItem where
  | text (s : List Char)
  /-- The next argument that no mark has taken yet. -/
  | next
  | position (n : Nat)
  | named (name : List Char)
deriving DecidableEq, Repr

namespace Template

/-- A mark that the scan has begun to read. Names are kept last character first. -/
inductive Mark where
  | none
  | bare
  | position (n : Nat)
  | named (reversed : List Char)
deriving DecidableEq, Repr

/-- A character that a name may start with. -/
def startsName (c : Char) : Bool :=
  c.isAlpha || c == '_'

/-- The mark with one more character, if the character belongs to it. -/
def Mark.extend? (m : Mark) (c : Char) : Option Mark :=
  match m with
  | .none => .none
  | .bare =>
    if c.isDigit then some (.position (c.toNat - '0'.toNat))
    else if startsName c then some (.named [c])
    else .none
  | .position n => if c.isDigit then some (.position (n * 10 + (c.toNat - '0'.toNat))) else .none
  | .named cs => if c.isAlphanum || c == '_' then some (.named (c :: cs)) else .none

/-- The item of a finished mark. -/
def Mark.items : Mark → List TemplateItem
  | .none => []
  | .bare => [.next]
  | .position n => [.position n]
  | .named cs => [.named cs.reverse]

/-- Puts a character before items, into the text that they start with if they do. -/
def consChar (c : Char) : List TemplateItem → List TemplateItem
  | .text s :: rest => .text (c :: s) :: rest
  | items => .text [c] :: items

/-- The items of a template, after a mark that has been begun. -/
def scanFrom (m : Mark) : List Char → List TemplateItem
  | [] => m.items
  | c :: rest =>
    match m.extend? c with
    | some longer => scanFrom longer rest
    | none =>
      m.items ++
        if c = '?' then scanFrom .bare rest
        else if c = '\\' then
          match rest with
          | '?' :: after => consChar '?' (scanFrom .none after)
          | other => consChar '\\' (scanFrom .none other)
        else consChar c (scanFrom .none rest)

/-- The items of a template. -/
def scan (template : String) : List TemplateItem :=
  scanFrom .none template.toList

/-- What a query makes of a named reference; nothing for a name it does not know. -/
abbrev Names := String → Option Fragment

/-- The query around a template that knows no names. -/
def noNames : Names := fun _ => none

/-- The argument at a position. -/
def argument (template : String) (args : List Value) (position : Nat) : Fragment :=
  match args[position]? with
  | some v => .arg v
  | none => .fail (.missingArgument template (min position greatestPosition))

/-- The items with their arguments put in. `taken` arguments have been taken by bare marks. -/
def expandItems (names : Names) (template : String) (args : List Value) (taken : Nat) :
    List TemplateItem → Fragment
  | [] => .empty
  | .text s :: rest => .text (String.ofList s) ++ expandItems names template args taken rest
  | .next :: rest =>
    argument template args taken ++ expandItems names template args (taken + 1) rest
  | .position n :: rest =>
    argument template args n ++ expandItems names template args taken rest
  | .named name :: rest =>
    (names (String.ofList name)).getD (.fail (.unknownPlaceholder (String.ofList name))) ++
      expandItems names template args taken rest

/-- A template with its arguments put in. -/
def expand (names : Names) (template : String) (args : List Value) : Fragment :=
  expandItems names template args 0 (scan template)

example : scan "a = ?1 \\? ?Name.?" =
    [.text "a = ".toList, .position 1, .text " ? ".toList, .named "Name".toList,
      .text ['.'], .next] := by
  decide +kernel

end Template

end SqlCompose
