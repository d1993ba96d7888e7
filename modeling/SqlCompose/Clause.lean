import SqlCompose.Template

/-!
# Clause nodes

The parts that clauses are lists of: templates with their arguments, and names given by the caller.
-/

namespace SqlCompose

/-- One part of a clause. -/
inductive Node where
  | template (source : String) (args : List Value)
  /-- A name, written quoted. -/
  | ident (name : String)

namespace Node

/-- The number of arguments a node carries. -/
def argCount : Node → Nat
  | .template _ args => args.length
  | .ident _ => 0

def fragment (d : Dialect) (names : Template.Names) : Node → Fragment
  | .template source args => Template.expand names source args
  | .ident name => .text (d.ident name)

end Node

/-- How a condition is tied to the one before it. -/
inductive Connective where
  | and
  | or
deriving DecidableEq, Repr

def Connective.text : Connective → String
  | .and => " AND "
  | .or => " OR "

/-- A condition and its tie to the one before it. -/
structure Condition where
  connective : Connective
  node : Node

namespace Condition

/-- A condition behind its connective. -/
def tied (d : Dialect) (names : Template.Names) (c : Condition) : Fragment :=
  .text c.connective.text ++ .parens (c.node.fragment d names)

/-- Conditions in a row; the connective of the first one is not written. -/
def row (d : Dialect) (names : Template.Names) : List Condition → Fragment
  | [] => .empty
  | c :: rest =>
    .parens (c.node.fragment d names) ++ .concat (rest.map (tied d names))

end Condition

end SqlCompose
