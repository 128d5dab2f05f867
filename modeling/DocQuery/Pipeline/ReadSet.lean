import DocQuery.Pipeline.Stage

/-!
# The fields that a pipeline reads

The paths in documents that the filters and expressions of a pipeline look at.  What is tested in
the elements of an array is named by its path from the document.  What an expression reads in the
value of a variable is not counted, since it is not a path from the document.

## Main definitions

* `Filter.reads`, `Expression.reads`, `Stage.reads` — the paths in the order in which they occur.
* `Pipeline.readSet` — the paths of a pipeline, sorted and without repetition.
-/

namespace DocQuery

/-- A path below another one, or on its own. -/
def pathBelow (above : Option String) (path : String) : String :=
  match above with
  | some a => s!"{a}.{path}"
  | none => path

mutual

/-- The paths that an expression reads, below a given one. -/
def Expression.reads (above : Option String) : Expression → List String
  | .constant _ => []
  | .field none path => [pathBelow above path]
  | .field (some _) _ => []
  | .var _ => []
  | .unary _ arg => arg.reads above
  | .binary _ left right => left.reads above ++ right.reads above
  | .variadic _ args => readsOfAll above args
  | .document fields => readsOfFields above fields
  | .array items => readsOfAll above items
  | .getField _ input => input.reads above
  | .filter input _ condition => input.reads above ++ condition.reads above
  | .map input _ body => input.reads above ++ body.reads above

/-- The paths that expressions read. -/
def Expression.readsOfAll (above : Option String) : List Expression → List String
  | [] => []
  | e :: es => e.reads above ++ readsOfAll above es

/-- The paths that named expressions read. -/
def Expression.readsOfFields (above : Option String) : List (String × Expression) → List String
  | [] => []
  | (_, e) :: fields => e.reads above ++ readsOfFields above fields

end

mutual

/-- The paths that a filter reads, below a given one.  The elements of an array at a path are tested
below that path. -/
def Filter.reads : Option String → Filter → List String
  | above, .field (.path path) (.elemMatch filter) =>
    pathBelow above path :: Filter.reads (some (pathBelow above path)) filter
  | above, .field (.path path) operation => pathBelow above path :: Operation.reads above operation
  | above, .field .element operation => Operation.reads above operation
  | above, .and args => Filter.readsOfAll above args
  | above, .or args => Filter.readsOfAll above args
  | above, .nor args => Filter.readsOfAll above args
  | above, .not filter => Filter.reads above filter
  | above, .expr e => e.reads above

/-- The paths that filters read. -/
def Filter.readsOfAll : Option String → List Filter → List String
  | _, [] => []
  | above, f :: fs => Filter.reads above f ++ Filter.readsOfAll above fs

/-- The paths that an operation reads. -/
def Operation.reads : Option String → Operation → List String
  | above, .elemMatch filter => Filter.reads above filter
  | above, .not operation => Operation.reads above operation
  | _, _ => []

end

/-- The paths that an entry of a projection reads. -/
def Projection.reads : Projection → List String
  | .keep path => [path]
  | .drop _ => []
  | .compute _ value => value.reads none

/-- The paths that a stage reads. -/
def Stage.reads : Stage → List String
  | .select filter => filter.reads none
  | .project entries => entries.flatMap (·.reads)
  | .replaceRoot e => e.reads none
  | .addFields fields => Expression.readsOfFields none fields
  | .group key accumulators => key.reads none ++ accumulators.flatMap fun (_, a) => a.arg.reads none
  | .sort keys => keys.map (·.path)
  | .skip _ => []
  | .limit _ => []
  | .unwind path _ => [path]
  | .count _ => []

/-- Puts a text into a sorted list unless it is there. -/
def insertSorted (s : String) : List String → List String
  | [] => [s]
  | t :: ts =>
    if s < t then s :: t :: ts else if s = t then t :: ts else t :: insertSorted s ts

/-- The paths that a pipeline reads, sorted and without repetition. -/
def Pipeline.readSet (p : Pipeline) : List String :=
  (p.stages.flatMap (·.reads)).foldr insertSorted []

end DocQuery
