import DocQuery.Revision.Revised

/-!
# Revising pipelines

A reviser says for each sort of nodes what becomes of a node.  It is given the node and, to use or
to ignore, the computation that revises its children and rebuilds it.

## Main definitions

* `Reviser` — what becomes of the nodes of each sort.
* `Reviser.default` — the reviser that rebuilds every node.
* `Reviser.reviseExpression`, …, `Reviser.revisePipeline` — revision.
-/

namespace DocQuery

/-- What becomes of a node, given the computation that rebuilds it from its revised children. -/
abbrev Rule (m : Type → Type) (α : Type) : Type :=
  α → m (Revised α) → m (Revised α)

/-- What becomes of the nodes of each sort. -/
structure Reviser (m : Type → Type) where
  stage : Rule m Stage
  filter : Rule m Filter
  operation : Rule m Operation
  expression : Rule m Expression
  accumulator : Rule m AccumulatorExpression

namespace Reviser

/-- Every node is rebuilt from its revised children. -/
def default {m : Type → Type} : Reviser m :=
  ⟨fun _ r => r, fun _ r => r, fun _ r => r, fun _ r => r, fun _ r => r⟩

variable {m : Type → Type} [Monad m] [MonadExceptOf ArgumentError m]

/-- The outcome of a check in a computation. -/
def checked {α : Type} (result : Except ArgumentError α) : m α :=
  match result with
  | .ok a => pure a
  | .error e => throw e

mutual

/-- The revision of an expression. -/
def reviseExpression (r : Reviser m) : Expression → m (Revised Expression)
  | .constant value => r.expression (.constant value) (pure .kept)
  | .field scope path => r.expression (.field scope path) (pure .kept)
  | .var name => r.expression (.var name) (pure .kept)
  | .unary function arg =>
    r.expression (.unary function arg) do
      return (← r.reviseExpression arg).map (.unary function)
  | .binary function left right =>
    r.expression (.binary function left right) do
      let a ← r.reviseExpression left
      return Revised.both (.binary function) left right a (← r.reviseExpression right)
  | .variadic function args =>
    r.expression (.variadic function args) do
      checked (Expression.updateArgs function args (← r.reviseExpressions args))
  | .document fields =>
    r.expression (.document fields) do
      return Expression.updateFields fields (← r.reviseFields fields)
  | .array items =>
    r.expression (.array items) do
      return Expression.updateItems items (← r.reviseExpressions items)
  | .getField name input =>
    r.expression (.getField name input) do
      return (← r.reviseExpression input).map (.getField name)
  | .filter input name condition =>
    r.expression (.filter input name condition) do
      let a ← r.reviseExpression input
      return Revised.both (.filter · name ·) input condition a
        (← r.reviseExpression condition)
  | .map input name body =>
    r.expression (.map input name body) do
      let a ← r.reviseExpression input
      return Revised.both (.map · name ·) input body a (← r.reviseExpression body)

/-- The revisions of expressions. -/
def reviseExpressions (r : Reviser m) : List Expression → m (List (Revised Expression))
  | [] => pure []
  | e :: es => return (← r.reviseExpression e) :: (← r.reviseExpressions es)

/-- The revisions of named expressions. -/
def reviseFields (r : Reviser m) :
    List (String × Expression) → m (List (Revised Expression))
  | [] => pure []
  | (_, e) :: fields => return (← r.reviseExpression e) :: (← r.reviseFields fields)

end

/-- The revision of an accumulator. -/
def reviseAccumulator (r : Reviser m) (a : AccumulatorExpression) :
    m (Revised AccumulatorExpression) :=
  r.accumulator a do return a.update (← r.reviseExpression a.arg)

mutual

/-- The revision of a filter. -/
def reviseFilter (r : Reviser m) : Filter → m (Revised Filter)
  | .field target operation =>
    r.filter (.field target operation) do
      return (← r.reviseOperation operation).map (.field target)
  | .and args =>
    r.filter (.and args) do
      checked (Filter.updateArgs Filter.and? args (← r.reviseFilters args))
  | .or args =>
    r.filter (.or args) do
      checked (Filter.updateArgs Filter.or? args (← r.reviseFilters args))
  | .nor args =>
    r.filter (.nor args) do
      checked (Filter.updateArgs Filter.nor? args (← r.reviseFilters args))
  | .not filter => r.filter (.not filter) do return (← r.reviseFilter filter).map .not
  | .expr e => r.filter (.expr e) do return (← r.reviseExpression e).map .expr

/-- The revisions of filters. -/
def reviseFilters (r : Reviser m) : List Filter → m (List (Revised Filter))
  | [] => pure []
  | f :: fs => return (← r.reviseFilter f) :: (← r.reviseFilters fs)

/-- The revision of an operation. -/
def reviseOperation (r : Reviser m) : Operation → m (Revised Operation)
  | .elemMatch filter =>
    r.operation (.elemMatch filter) do return (← r.reviseFilter filter).map .elemMatch
  | .not operation =>
    r.operation (.not operation) do return (← r.reviseOperation operation).map .not
  | operation => r.operation operation (pure .kept)

end

/-- The revision of an entry of a projection. -/
def reviseProjection (r : Reviser m) : Projection → m (Revised Projection)
  | .keep _ => pure .kept
  | .drop _ => pure .kept
  | .compute path value => return (← r.reviseExpression value).map (.compute path)

/-- The revision of a stage. -/
def reviseStage (r : Reviser m) (stage : Stage) : m (Revised Stage) :=
  r.stage stage <|
    match stage with
    | .select filter => do return (← r.reviseFilter filter).map .select
    | .project entries => do
      checked (Stage.updateProjections entries (← entries.mapM r.reviseProjection))
    | .replaceRoot e => do return (← r.reviseExpression e).map .replaceRoot
    | .addFields fields => do checked (Stage.updateFields fields (← r.reviseFields fields))
    | .group key accumulators => do
      let k ← r.reviseExpression key
      let rs ← accumulators.mapM fun (_, a) => r.reviseAccumulator a
      checked (Stage.updateGroup key accumulators k rs)
    | .sort _ => pure .kept
    | .skip _ => pure .kept
    | .limit _ => pure .kept
    | .unwind _ _ => pure .kept
    | .count _ => pure .kept

/-- The revisions of the stages of a pipeline. -/
def reviseStages (r : Reviser m) (p : Pipeline) : m (List (Revised Stage)) :=
  p.stages.mapM r.reviseStage

/-- The revision of a pipeline. -/
def revisePipeline (r : Reviser m) (p : Pipeline) : m (Revised Pipeline) :=
  return p.update (← r.reviseStages p)

end Reviser

end DocQuery
