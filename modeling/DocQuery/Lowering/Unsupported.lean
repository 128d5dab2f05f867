import DocQuery.Pipeline.Argument
import DocQuery.Query.Expr
import DocQuery.Value.Json

/-!
# What cannot be lowered

A query is lowered to a pipeline as a whole or not at all.  The error names the expression that has
no counterpart, and says why.

## Main definitions

* `Reason` — why an expression has no counterpart, with its wording.
* `LoweringError` — an expression without counterpart, or a node that refuses an argument.
-/

namespace DocQuery

/-- Why an expression has no counterpart in a pipeline. -/
inductive Reason where
  -- constants
  | unboundParameter (name : String)
  | unknownConstant (type member : String)
  | notNeedsBoolean
  | negateNeedsNumber
  | notFinite
  | overflow
  | moduloByZero
  | divisionByZero
  | cannotFold (op : BinaryOperator)
  | needsIntegers (op : BinaryOperator)
  | needsNumbers (op : BinaryOperator)
  | notIntegerConstant (value : Value)
  -- conditions
  | notCondition
  | notField (e : Expr)
  | maskNeedsEquality
  | maskNeedsField
  | maskNotConstant
  | maskOutOfRange (mask : Int64)
  | comparedNotConstant
  | comparedNotMask (mask : Int64)
  | moduloNeedsEquality
  | divisorNotConstant
  | remainderNotConstant
  | typeNotString
  | inNeedsArray
  | needsString (method : String)
  | patternNotString
  | optionsNotString
  | anyNeedsPath
  | noFilterMethod (method : String) (arguments : Nat)
  | notConstant (e : Expr)
  | elementComparison
  -- values
  | elementUnbound
  | misplacedFilter
  | bareKey
  | unresolved
  | computedKey
  | indexNotInteger
  | keyType
  | unknownMethod (method : String) (arguments : Nat)
  -- statements
  | notAccumulator
  | accumulatorArguments
  | unknownAccumulator (method : String)
  | notTarget
  | indexedTarget

/-- The wording of a reason. -/
def Reason.message : Reason → String
  | .unboundParameter name => s!"parameter ${name} is not bound"
  | .unknownConstant type member => s!"unknown constant {type}.{member}"
  | .notNeedsBoolean => "'not' requires a boolean"
  | .negateNeedsNumber => "'-' requires a number"
  | .notFinite => "result is not a finite number"
  | .overflow => "integer overflow"
  | .moduloByZero => "modulo by zero"
  | .divisionByZero => "division by zero"
  | .cannotFold op => s!"'{op.symbol}' cannot be folded"
  | .needsIntegers op => s!"'{op.symbol}' requires integer operands"
  | .needsNumbers op => s!"'{op.symbol}' requires numeric operands"
  | .notIntegerConstant value => s!"expected an integer constant, got {toJson value}"
  | .notCondition => "not a filter condition"
  | .notField e => s!"`{e.print}` is not a field reference"
  | .maskNeedsEquality => "bit mask tests support only == and !="
  | .maskNeedsField => "one operand of '&' must be a field reference"
  | .maskNotConstant => "bit mask must be a constant"
  | .maskOutOfRange mask => s!"bit mask {mask.toInt} is not a non-negative 32-bit integer"
  | .comparedNotConstant => "compared value must be a constant"
  | .comparedNotMask mask => s!"compared value must be 0 or the mask {mask.toInt}"
  | .moduloNeedsEquality => "modulo tests support only == and !="
  | .divisorNotConstant => "divisor must be a constant"
  | .remainderNotConstant => "remainder must be a constant"
  | .typeNotString => "type names are strings"
  | .inNeedsArray => "in() requires a constant array"
  | .needsString method => s!"{method}() requires a string"
  | .patternNotString => "pattern must be a string"
  | .optionsNotString => "regex options must be a string"
  | .anyNeedsPath => "any() needs a field path"
  | .noFilterMethod method arguments =>
    s!"{method}() with {arguments} argument(s) is not a filter method"
  | .notConstant e => s!"`{e.print}` must be a constant"
  | .elementComparison => "element conditions must compare a field with a constant"
  | .elementUnbound => "`@` is only bound inside array methods and transforms"
  | .misplacedFilter => "filter predicates are only valid as transform values"
  | .bareKey => "bare key"
  | .unresolved => "unresolved constant"
  | .computedKey => "computed keys must be constant"
  | .indexNotInteger => "array index must be an integer"
  | .keyType => "key must be a string or an integer"
  | .unknownMethod method arguments => s!"unknown method {method}() with {arguments} argument(s)"
  | .notAccumulator => "group values must be accumulator calls such as $.amount.sum()"
  | .accumulatorArguments => "accumulators take no arguments"
  | .unknownAccumulator method => s!"unknown accumulator {method}()"
  | .notTarget => "target must be a field path like $.field or $.parent.child"
  | .indexedTarget => "target cannot contain array indices"

/-- Why a query cannot be lowered. -/
inductive LoweringError where
  /-- An expression without counterpart. -/
  | unsupported (e : Expr) (reason : Reason)
  /-- A node that refuses an argument. -/
  | argument (e : ArgumentError)

/-- The wording of an error. -/
def LoweringError.message : LoweringError → String
  | .unsupported e reason => s!"unsupported expression `{e.print}`: {reason.message}"
  | .argument e => e.message

/-- A node refused an argument while a query was lowered. -/
def liftArgument {α : Type} (result : Except ArgumentError α) : Except LoweringError α :=
  result.mapError .argument

end DocQuery
