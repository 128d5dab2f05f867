import DocQuery.Pipeline.Filter
import DocQuery.Query.Statement

/-!
# Stages and pipelines

A pipeline is a list of stages; each takes a list of documents to another one.

## Main definitions

* `Projection`, `SortKey` — the entries of a projection and of a sort.
* `Stage` — the type.
* `Stage.project?`, `Stage.group?`, … — checked construction.
* `Pipeline` — the stages in the order in which they run.
-/

namespace DocQuery

/-- An entry of a projection. -/
inductive Projection where
  | keep (path : String)
  | drop (path : String)
  /-- A computed value at a path. -/
  | compute (path : String) (value : Expression)

namespace Projection

/-- The path of an entry. -/
def path : Projection → String
  | .keep path => path
  | .drop path => path
  | .compute path _ => path

/-- The entry takes a path away. -/
def isDrop : Projection → Bool
  | .drop _ => true
  | _ => false

end Projection

/-- A path to sort by, and whether ascending or descending. -/
structure SortKey where
  path : String
  direction : Direction
  deriving DecidableEq

/-- A path to sort by. -/
def SortKey.ofPath? (path : String) (direction : Direction) : Except ArgumentError SortKey := do
  checkPath "path" path
  return ⟨path, direction⟩

/-- A step of a pipeline. -/
inductive Stage where
  /-- Keeps the documents that satisfy a filter. -/
  | select (filter : Filter)
  /-- Keeps some paths of each document, or takes some away, and computes others. -/
  | project (entries : List Projection)
  /-- Replaces each document by a computed one. -/
  | replaceRoot (expression : Expression)
  /-- Sets paths of each document to computed values. -/
  | addFields (fields : List (String × Expression))
  /-- Makes one document for each value of a key. -/
  | group (key : Expression) (accumulators : List (String × AccumulatorExpression))
  | sort (keys : List SortKey)
  | skip (count : Int64)
  | limit (count : Int64)
  /-- Makes one document for each element of an array. -/
  | unwind (path : String) (keepEmpty : Bool)
  /-- Replaces the documents by one with their number. -/
  | count (name : String)

namespace Stage

/-- The paths of a projection are well formed and do not repeat, and, `_id` apart, it does not both
take some away and name others. -/
def checkProjections (entries : List Projection) : Except ArgumentError Unit := do
  ensure (!entries.isEmpty) "specifications" .noProjections
  checkEach (fun before path => do
    checkPath "specifications" path
    ensure (!before.contains path) "specifications" (.projectedTwice path)) []
    (entries.map (·.path))
  let others := entries.filter (·.path != "_id")
  ensure (!(others.any (·.isDrop) && others.any (!·.isDrop))) "specifications" .mixedProjection

/-- A projection. -/
def project? (entries : List Projection) : Except ArgumentError Stage := do
  checkProjections entries
  return .project entries

/-- A field to be set: its path is well formed. -/
def computedField? (path : String) (value : Expression) :
    Except ArgumentError (String × Expression) := do
  checkPath "path" path
  return (path, value)

/-- Sets one path or more; they do not repeat. -/
def addFields? (fields : List (String × Expression)) : Except ArgumentError Stage := do
  ensure (!fields.isEmpty) "fields" .noComputedFields
  checkDistinct "fields" .duplicateFieldPath (fields.map (·.1))
  return .addFields fields

/-- The names of accumulators are plain names other than `_id` that do not repeat. -/
def checkAccumulatorNames (names : List String) : Except ArgumentError Unit :=
  checkEach (fun before name => do
    ensure (name != "") "accumulators" .emptyAccumulatorName
    ensure (!startsWithDollar name && !containsDot name) "accumulators"
      (.compoundAccumulatorName name)
    ensure (name != "_id") "accumulators" .idAccumulatorName
    ensure (!before.contains name) "accumulators" (.duplicateAccumulatorName name)) [] names

/-- Groups documents by a key. -/
def group? (key : Expression) (accumulators : List (String × AccumulatorExpression)) :
    Except ArgumentError Stage := do
  checkAccumulatorNames (accumulators.map (·.1))
  return .group key accumulators

/-- Sorts by one path or more; they do not repeat. -/
def sort? (keys : List SortKey) : Except ArgumentError Stage := do
  ensure (!keys.isEmpty) "fields" .noSortFields
  checkDistinct "fields" .duplicateSortPath (keys.map (·.path))
  return .sort keys

/-- Leaves documents out; their number is not negative. -/
def skip? (count : Int64) : Except ArgumentError Stage := do
  ensure (0 ≤ count.toInt) "skip" (.negativeSkip count)
  return .skip count

/-- Bounds the number of documents by a positive one. -/
def limit? (count : Int64) : Except ArgumentError Stage := do
  ensure (0 < count.toInt) "limit" (.badLimit count)
  return .limit count

/-- Takes the array at a path apart. -/
def unwind? (path : String) (keepEmpty : Bool) : Except ArgumentError Stage := do
  checkPath "path" path
  return .unwind path keepEmpty

/-- Counts documents under a plain name. -/
def count? (name : String) : Except ArgumentError Stage := do
  ensure (name != "") "name" .emptyCountName
  ensure (!startsWithDollar name) "name" (.dollarCountName name)
  ensure (!containsDot name) "name" (.dottedCountName name)
  return .count name

/-- The kind of a stage. -/
def kind : Stage → NodeKind
  | .select _ => .matchStage
  | .project _ => .projectStage
  | .replaceRoot _ => .replaceRootStage
  | .addFields _ => .addFieldsStage
  | .group _ _ => .groupStage
  | .sort _ => .sortStage
  | .skip _ => .skipStage
  | .limit _ => .limitStage
  | .unwind _ _ => .unwindStage
  | .count _ => .countStage

end Stage

/-- A list of stages, in the order in which they run. -/
structure Pipeline where
  stages : List Stage

end DocQuery
