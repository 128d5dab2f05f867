/-!
# Kinds of nodes

The name of each kind of node that a pipeline is made of, for inspection and statistics.

## Main definitions

* `NodeKind` — the kinds.
* `NodeKind.name` — their names.
-/

namespace DocQuery

/-- The kind of a node. -/
inductive NodeKind where
  -- expressions
  | constantExpression
  | fieldExpression
  | variableExpression
  | unaryExpression
  | binaryExpression
  | naryExpression
  | documentExpression
  | arrayExpression
  | getFieldExpression
  | filterExpression
  | mapExpression
  | accumulatorExpression
  -- filters
  | fieldFilter
  | andFilter
  | orFilter
  | norFilter
  | notFilter
  | exprFilter
  -- operations of filters
  | compareOperation
  | bitsAllClearOperation
  | bitsAllSetOperation
  | bitsAnyClearOperation
  | bitsAnySetOperation
  | inOperation
  | ninOperation
  | existsOperation
  | regexOperation
  | sizeOperation
  | typeOperation
  | modOperation
  | elemMatchOperation
  | notOperation
  -- stages
  | matchStage
  | projectStage
  | replaceRootStage
  | addFieldsStage
  | groupStage
  | sortStage
  | skipStage
  | limitStage
  | unwindStage
  | countStage
  deriving DecidableEq

/-- The name of a kind. -/
def NodeKind.name : NodeKind → String
  | .constantExpression => "ConstantExpression"
  | .fieldExpression => "FieldExpression"
  | .variableExpression => "VariableExpression"
  | .unaryExpression => "UnaryExpression"
  | .binaryExpression => "BinaryExpression"
  | .naryExpression => "NaryExpression"
  | .documentExpression => "ComputedDocumentExpression"
  | .arrayExpression => "ComputedArrayExpression"
  | .getFieldExpression => "GetFieldExpression"
  | .filterExpression => "ArrayFilterExpression"
  | .mapExpression => "MapExpression"
  | .accumulatorExpression => "AccumulatorExpression"
  | .fieldFilter => "FieldOperationFilter"
  | .andFilter => "AndFilter"
  | .orFilter => "OrFilter"
  | .norFilter => "NorFilter"
  | .notFilter => "NotFilter"
  | .exprFilter => "ExprFilter"
  | .compareOperation => "ComparisonFilterOperation"
  | .bitsAllClearOperation => "BitsAllClearFilterOperation"
  | .bitsAllSetOperation => "BitsAllSetFilterOperation"
  | .bitsAnyClearOperation => "BitsAnyClearFilterOperation"
  | .bitsAnySetOperation => "BitsAnySetFilterOperation"
  | .inOperation => "InFilterOperation"
  | .ninOperation => "NinFilterOperation"
  | .existsOperation => "ExistsFilterOperation"
  | .regexOperation => "RegexFilterOperation"
  | .sizeOperation => "SizeFilterOperation"
  | .typeOperation => "TypeFilterOperation"
  | .modOperation => "ModFilterOperation"
  | .elemMatchOperation => "ElemMatchFilterOperation"
  | .notOperation => "NotFilterOperation"
  | .matchStage => "MatchStage"
  | .projectStage => "ProjectStage"
  | .replaceRootStage => "ReplaceRootStage"
  | .addFieldsStage => "AddFieldsStage"
  | .groupStage => "GroupStage"
  | .sortStage => "SortStage"
  | .skipStage => "SkipStage"
  | .limitStage => "LimitStage"
  | .unwindStage => "UnwindStage"
  | .countStage => "CountStage"

end DocQuery
