import SqlCompose.Dialect
import SqlCompose.Number.Power
import SqlCompose.Text.Quoted

/-!
# Errors of building and rendering

A builder call that makes no sense leaves a `BuildError` in the query. Rendering fails with that
error, or with a `RenderError` of its own.
-/

namespace SqlCompose

/-- The relations that one path may follow. -/
def greatestPathLength : Nat := 16

/-- Why a builder call was refused. -/
inductive BuildError where
  /-- A join condition without a join. -/
  | noJoins
  | relationNotFound (table relation : String)
  | pathTooLong (path : String)
  /-- An operation that needs a bound table. -/
  | modelRequired (operation : String)
  | noPrimaryKey (table : String)
  | softDeleteUnsupported (table : String)
  /-- Dynamic rows without a single key. -/
  | emptyInput
  /-- A dynamic row, by its position, whose keys are not those of the first row. -/
  | mismatchedKeys (row : Nat) (expected found : List String)
deriving DecidableEq, Repr

namespace BuildError

def message : BuildError → String
  | .noJoins => "query has no joins"
  | .relationNotFound table relation =>
    table ++ " does not have relation=" ++ Text.quoted relation
  | .pathTooLong path =>
    "relation " ++ Text.quoted path ++ " exceeds the maximum join depth of " ++
      Nat.repr greatestPathLength
  | .modelRequired operation => operation ++ " requires a model"
  | .noPrimaryKey table => table ++ " does not have primary keys"
  | .softDeleteUnsupported table => table ++ " does not support soft deletes"
  | .emptyInput => "empty input: dynamic row source has no rows"
  | .mismatchedKeys row expected found =>
    "dynamic row " ++ Nat.repr row ++ " has keys " ++ Text.bracketed (found.map Text.quoted) ++
      ", expected " ++ Text.bracketed (expected.map Text.quoted)

end BuildError

/-- Something that a dialect was asked for and lacks. -/
inductive Need where
  | feature (f : Feature)
  /-- A to-many relation below another one, which is requested by this path. -/
  | nestedToMany (path : String)
  | described (text : String)
deriving DecidableEq, Repr

def Need.text : Need → String
  | .feature f => f.name
  | .nestedToMany path => "has-many relations nested below " ++ Text.quoted path
  | .described text => text

/-- The greatest argument position that is told apart from the ones above it. -/
def greatestPosition : Nat := twoTo 64 - 1

/-- Why a query cannot be rendered. -/
inductive RenderError where
  | build (e : BuildError)
  /-- A named reference that the query around a template does not know. -/
  | unknownPlaceholder (name : String)
  | missingArgument (template : String) (position : Nat)
  | unsupported (dialect : Dialect) (need : Need)
deriving DecidableEq, Repr

namespace RenderError

def message : RenderError → String
  | .build e => "Build error: " ++ e.message
  | .unknownPlaceholder name => "Unknown placeholder ?" ++ name
  | .missingArgument template position =>
    "Missing argument #" ++ Nat.repr position ++ " for template " ++ Text.quoted template
  | .unsupported dialect need => dialect.name ++ " does not support " ++ need.text

end RenderError

end SqlCompose
