import DocQuery.Revision.Reviser

/-!
# Renaming paths

The reviser that puts another path in the place of a given one, wherever a filter tests it and
wherever an expression reads it, be it in the document or in the value of a variable.

## Main definitions

* `Reviser.rename` — the reviser.
-/

namespace DocQuery.Reviser

/-- A test of the path becomes a test of the new one; its operation is left as it is. -/
def renameTarget (old new : String) : Rule (Except ArgumentError) Filter
  | .field (.path path) operation, rebuilt =>
    if path = old then return .changed (.field (← Target.path? new) operation) else rebuilt
  | _, rebuilt => rebuilt

/-- A reading of the path becomes a reading of the new one. -/
def renameField (old new : String) : Rule (Except ArgumentError) Expression
  | .field scope path, rebuilt =>
    if path = old then
      match scope with
      | none => renew (Expression.field? new)
      | some name => renew (Expression.variableField? name new)
    else rebuilt
  | _, rebuilt => rebuilt

/-- Puts a new path in the place of an old one. -/
def rename (old new : String) : Reviser (Except ArgumentError) :=
  { Reviser.default with
    filter := renameTarget old new
    expression := renameField old new }

end DocQuery.Reviser
