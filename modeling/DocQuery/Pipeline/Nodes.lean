import DocQuery.Pipeline.Stage

/-!
# The nodes of a pipeline

All nodes of a pipeline in one list: each stage, filter, operation, expression and accumulator,
before the nodes inside it and after those to its left.  A visitor says for each sort of nodes what
is done at a node.  It is given the node and, to use or to ignore, the computation that visits its
children.

## Main definitions

* `Node` — a node of any sort.
* `Expression.nodes`, `Filter.nodes`, `Stage.nodes`, `Pipeline.nodes` — the listing.
* `Visitor` — what is done at the nodes of each sort.
* `Visitor.visitExpression`, …, `Visitor.visitPipeline` — visits.
-/

namespace DocQuery

/-- A node of a pipeline. -/
inductive Node where
  | stage (stage : Stage)
  | filter (filter : Filter)
  | operation (operation : Operation)
  | expression (expression : Expression)
  | accumulator (accumulator : AccumulatorExpression)

/-- The kind of a node. -/
def Node.kind : Node → NodeKind
  | .stage s => s.kind
  | .filter f => f.kind
  | .operation o => o.kind
  | .expression e => e.kind
  | .accumulator _ => .accumulatorExpression

mutual

/-- The nodes of an expression. -/
def Expression.nodes : Expression → List Node
  | .constant value => [.expression (.constant value)]
  | .field scope path => [.expression (.field scope path)]
  | .var name => [.expression (.var name)]
  | .unary function arg => .expression (.unary function arg) :: arg.nodes
  | .binary function left right =>
    .expression (.binary function left right) :: (left.nodes ++ right.nodes)
  | .variadic function args => .expression (.variadic function args) :: nodesOfAll args
  | .document fields => .expression (.document fields) :: nodesOfFields fields
  | .array items => .expression (.array items) :: nodesOfAll items
  | .getField name input => .expression (.getField name input) :: input.nodes
  | .filter input name condition =>
    .expression (.filter input name condition) :: (input.nodes ++ condition.nodes)
  | .map input name body => .expression (.map input name body) :: (input.nodes ++ body.nodes)

/-- The nodes of expressions. -/
def Expression.nodesOfAll : List Expression → List Node
  | [] => []
  | e :: es => e.nodes ++ nodesOfAll es

/-- The nodes of named expressions. -/
def Expression.nodesOfFields : List (String × Expression) → List Node
  | [] => []
  | (_, e) :: fields => e.nodes ++ nodesOfFields fields

end

/-- The nodes of an accumulator. -/
def AccumulatorExpression.nodes (a : AccumulatorExpression) : List Node :=
  .accumulator a :: a.arg.nodes

mutual

/-- The nodes of a filter. -/
def Filter.nodes : Filter → List Node
  | .field target operation => .filter (.field target operation) :: operation.nodes
  | .and args => .filter (.and args) :: Filter.nodesOfAll args
  | .or args => .filter (.or args) :: Filter.nodesOfAll args
  | .nor args => .filter (.nor args) :: Filter.nodesOfAll args
  | .not filter => .filter (.not filter) :: filter.nodes
  | .expr e => .filter (.expr e) :: e.nodes

/-- The nodes of filters. -/
def Filter.nodesOfAll : List Filter → List Node
  | [] => []
  | f :: fs => f.nodes ++ Filter.nodesOfAll fs

/-- The nodes of an operation. -/
def Operation.nodes : Operation → List Node
  | .elemMatch filter => .operation (.elemMatch filter) :: filter.nodes
  | .not operation => .operation (.not operation) :: operation.nodes
  | operation => [.operation operation]

end

/-- The nodes inside an entry of a projection. -/
def Projection.nodes : Projection → List Node
  | .keep _ => []
  | .drop _ => []
  | .compute _ value => value.nodes

/-- The nodes of a stage. -/
def Stage.nodes (stage : Stage) : List Node :=
  .stage stage ::
    match stage with
    | .select filter => filter.nodes
    | .project entries => entries.flatMap (·.nodes)
    | .replaceRoot e => e.nodes
    | .addFields fields => Expression.nodesOfFields fields
    | .group key accumulators => key.nodes ++ accumulators.flatMap fun (_, a) => a.nodes
    | .sort _ => []
    | .skip _ => []
    | .limit _ => []
    | .unwind _ _ => []
    | .count _ => []

/-- The nodes of a pipeline. -/
def Pipeline.nodes (p : Pipeline) : List Node :=
  p.stages.flatMap (·.nodes)

/-! ### Visitors -/

/-- What is done at a node, given the computation that visits its children. -/
abbrev Visit (m : Type → Type) (α : Type) : Type :=
  α → m Unit → m Unit

/-- What is done at the nodes of each sort. -/
structure Visitor (m : Type → Type) where
  stage : Visit m Stage
  filter : Visit m Filter
  operation : Visit m Operation
  expression : Visit m Expression
  accumulator : Visit m AccumulatorExpression

namespace Visitor

variable {m : Type → Type} [Monad m]

mutual

/-- The visit of an expression. -/
def visitExpression (v : Visitor m) : Expression → m Unit
  | .constant value => v.expression (.constant value) (pure ())
  | .field scope path => v.expression (.field scope path) (pure ())
  | .var name => v.expression (.var name) (pure ())
  | .unary function arg => v.expression (.unary function arg) (v.visitExpression arg)
  | .binary function left right =>
    v.expression (.binary function left right) do
      v.visitExpression left
      v.visitExpression right
  | .variadic function args => v.expression (.variadic function args) (v.visitExpressions args)
  | .document fields => v.expression (.document fields) (v.visitFields fields)
  | .array items => v.expression (.array items) (v.visitExpressions items)
  | .getField name input => v.expression (.getField name input) (v.visitExpression input)
  | .filter input name condition =>
    v.expression (.filter input name condition) do
      v.visitExpression input
      v.visitExpression condition
  | .map input name body =>
    v.expression (.map input name body) do
      v.visitExpression input
      v.visitExpression body

/-- The visits of expressions. -/
def visitExpressions (v : Visitor m) : List Expression → m Unit
  | [] => pure ()
  | e :: es => do
    v.visitExpression e
    v.visitExpressions es

/-- The visits of named expressions. -/
def visitFields (v : Visitor m) : List (String × Expression) → m Unit
  | [] => pure ()
  | (_, e) :: fields => do
    v.visitExpression e
    v.visitFields fields

end

/-- The visit of an accumulator. -/
def visitAccumulator (v : Visitor m) (a : AccumulatorExpression) : m Unit :=
  v.accumulator a (v.visitExpression a.arg)

mutual

/-- The visit of a filter. -/
def visitFilter (v : Visitor m) : Filter → m Unit
  | .field target operation => v.filter (.field target operation) (v.visitOperation operation)
  | .and args => v.filter (.and args) (v.visitFilters args)
  | .or args => v.filter (.or args) (v.visitFilters args)
  | .nor args => v.filter (.nor args) (v.visitFilters args)
  | .not filter => v.filter (.not filter) (v.visitFilter filter)
  | .expr e => v.filter (.expr e) (v.visitExpression e)

/-- The visits of filters. -/
def visitFilters (v : Visitor m) : List Filter → m Unit
  | [] => pure ()
  | f :: fs => do
    v.visitFilter f
    v.visitFilters fs

/-- The visit of an operation. -/
def visitOperation (v : Visitor m) : Operation → m Unit
  | .elemMatch filter => v.operation (.elemMatch filter) (v.visitFilter filter)
  | .not operation => v.operation (.not operation) (v.visitOperation operation)
  | operation => v.operation operation (pure ())

end

/-- The visit of what an entry of a projection computes. -/
def visitProjection (v : Visitor m) : Projection → m Unit
  | .keep _ => pure ()
  | .drop _ => pure ()
  | .compute _ value => v.visitExpression value

/-- The visit of a stage. -/
def visitStage (v : Visitor m) (stage : Stage) : m Unit :=
  v.stage stage <|
    match stage with
    | .select filter => v.visitFilter filter
    | .project entries => forM entries v.visitProjection
    | .replaceRoot e => v.visitExpression e
    | .addFields fields => v.visitFields fields
    | .group key accumulators => do
      v.visitExpression key
      forM accumulators fun (_, a) => v.visitAccumulator a
    | .sort _ => pure ()
    | .skip _ => pure ()
    | .limit _ => pure ()
    | .unwind _ _ => pure ()
    | .count _ => pure ()

/-- The visit of a pipeline. -/
def visitPipeline (v : Visitor m) (p : Pipeline) : m Unit :=
  forM p.stages v.visitStage

end Visitor

end DocQuery
