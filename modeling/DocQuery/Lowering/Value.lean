import DocQuery.Lowering.Constant
import DocQuery.Lowering.Path
import DocQuery.Pipeline.Expression

/-!
# Lowering of values

The expression of a pipeline that computes what an expression of the query language says.  All that
does not look at the document is folded to a constant.

## Main definitions

* `fieldOf`, `binaryExpression`, `methodFunction?`, … — what accesses, operators and methods stand
  for.
* `lowerValue` — the expression of a pipeline for an expression of a query.
-/

namespace DocQuery

/-- The name by which the array element at hand is known. -/
def elementName : String := "this"

/-- A field of a computed value: a longer path where there is a path already. -/
def fieldOf (input : Expression) (name : String) : Except ArgumentError Expression :=
  if isPathSegment name then
    match input with
    | .var "ROOT" => Expression.field? name
    | .var variableName => Expression.variableField? variableName name
    | .field none path => Expression.field? s!"{path}.{name}"
    | .field (some variableName) path => Expression.variableField? variableName s!"{path}.{name}"
    | _ => Expression.getField? name input
  else Expression.getField? name input

/-- An access of a computed value by a folded key. -/
def accessBy (whole : Expr) (input : Expression) : Value → Except LoweringError Expression
  | .string name => liftArgument (fieldOf input name)
  | .number (.int index) => .ok (.binary .arrayElemAt input (.constant (.int index)))
  | .number _ => refuse whole .indexNotInteger
  | _ => refuse whole .keyType

/-- The key of an access: a written name, or a constant. -/
def accessKeyValue (context : Context) (whole : Expr) : Expr → Except LoweringError Value
  | .key name => .ok (.string name)
  | key => do
    match ← fold context key with
    | some value => return value
    | none => refuse whole .computedKey

/-- A constant if the expression has a value at compile time, else what is computed otherwise. -/
def constantOr (context : Context) (e : Expr)
    (otherwise : Unit → Except LoweringError Expression) : Except LoweringError Expression := do
  match ← fold context e with
  | some value => return .constant value
  | none => otherwise ()

/-- A folded value is text, or else what holds of the expression is true. -/
def textOr (context : Context) (e : Expr) (otherwise : Unit → Except LoweringError Bool) :
    Except LoweringError Bool := do
  match ← fold context e with
  | some (.string _) => return true
  | some _ => return false
  | none => otherwise ()

/-- The value is known to be text: a constant, a sum with such a value, or the result of a method
on text. -/
def isText (context : Context) : Expr → Except LoweringError Bool
  | .binary .add left right =>
    textOr context (.binary .add left right) fun _ => do
      if ← isText context left then return true else isText context right
  | .call base method args =>
    textOr context (.call base method args) fun _ =>
      .ok (method = "upper" || method = "lower" || method = "trim")
  | e => textOr context e fun _ => .ok false

/-- An operation on computed values; a sum that is known to be text is a concatenation. -/
def binaryExpression (op : BinaryOperator) (text : Bool) (left right : Expression) :
    Except ArgumentError Expression :=
  match op with
  | .equal => .ok (.binary .eq left right)
  | .notEqual => .ok (.binary .ne left right)
  | .less => .ok (.binary .lt left right)
  | .lessEqual => .ok (.binary .lte left right)
  | .greater => .ok (.binary .gt left right)
  | .greaterEqual => .ok (.binary .gte left right)
  | .subtract => .ok (.binary .subtract left right)
  | .divide => .ok (.binary .divide left right)
  | .modulo => .ok (.binary .mod left right)
  | .coalesce => .ok (.binary .ifNull left right)
  | .add => Expression.variadic? (if text then .concat else .add) [left, right]
  | .multiply => Expression.variadic? .multiply [left, right]
  | .bitAnd => Expression.variadic? .bitAnd [left, right]
  | .bitOr => Expression.variadic? .bitOr [left, right]
  | .and => Expression.variadic? .and [left, right]
  | .or => Expression.variadic? .or [left, right]

/-- The function that a method without arguments stands for. -/
def methodFunction? : String → Option UnaryFunction
  | "upper" => some .toUpper
  | "lower" => some .toLower
  | "trim" => some .trim
  | "count" => some .size
  | "length" => some .size
  | "sum" => some .sum
  | "min" => some .min
  | "max" => some .max
  | "avg" => some .avg
  | "first" => some .first
  | "last" => some .last
  | "abs" => some .abs
  | "type" => some .type
  | _ => none

/-- A method call without arguments on a computed value. -/
def callPlain (whole : Expr) (method : String) (input : Expression) :
    Except LoweringError Expression :=
  match methodFunction? method with
  | some function => .ok (.unary function input)
  | none =>
    if method = "any" then .ok (.binary .gt (.unary .size input) (.constant (.int 0)))
    else refuse whole (.unknownMethod method 0)

/-- The methods whose argument is evaluated for each element. -/
def bindsElement (method : String) : Bool :=
  method = "any" || method = "all" || method = "filter" || method = "map"

/-- A method call on a computed value with an argument that is evaluated for each element. -/
def callBinding (method : String) (input body : Expression) : Except ArgumentError Expression :=
  match method with
  | "filter" => Expression.filter? input elementName body
  | "any" => return .unary .anyElementTrue (← Expression.map? input elementName body)
  | "all" => return .unary .allElementsTrue (← Expression.map? input elementName body)
  | _ => Expression.map? input elementName body

/-- The function of its object and one argument that a method stands for. -/
def methodApplication? : String → Option (Expression → Expression → Expression)
  | "contains" => some fun input arg => .binary .isIn arg input
  | "in" => some fun input arg => .binary .isIn input arg
  | "split" => some fun input arg => .binary .split input arg
  | _ => none

mutual

/-- The expression that computes a value.  `bound` says whether the array element at hand is
known. -/
def lowerValue (context : Context) : Bool → Expr → Except LoweringError Expression
  | _, .root => constantOr context .root fun _ => .ok .root
  | bound, .element =>
    constantOr context .element fun _ =>
      if bound then .ok .this else refuse .element .elementUnbound
  | bound, .access object key =>
    constantOr context (.access object key) fun _ => do
      let input ← lowerValue context bound object
      accessBy (.access object key) input (← accessKeyValue context (.access object key) key)
  | bound, .unary .not operand =>
    constantOr context (.unary .not operand) fun _ =>
      return .unary .not (← lowerValue context bound operand)
  | bound, .unary .negate operand =>
    constantOr context (.unary .negate operand) fun _ =>
      return .binary .subtract (.constant (.int 0)) (← lowerValue context bound operand)
  | bound, .binary op left right =>
    constantOr context (.binary op left right) fun _ => do
      let text ← if op = .add then isText context (.binary op left right) else pure false
      let left ← lowerValue context bound left
      liftArgument (binaryExpression op text left (← lowerValue context bound right))
  | bound, .call object method [] =>
    constantOr context (.call object method []) fun _ => do
      callPlain (.call object method []) method (← lowerValue context bound object)
  | bound, .call object method [arg] =>
    constantOr context (.call object method [arg]) fun _ => do
      let input ← lowerValue context bound object
      if bindsElement method then
        liftArgument (callBinding method input (← lowerValue context true arg))
      else
        match methodApplication? method with
        | some apply => return apply input (← lowerValue context bound arg)
        | none => refuse (.call object method [arg]) (.unknownMethod method 1)
  | bound, .call object method args =>
    constantOr context (.call object method args) fun _ => do
      let _ ← lowerValue context bound object
      refuse (.call object method args) (.unknownMethod method args.length)
  | bound, .object fields =>
    constantOr context (.object fields) fun _ => do
      liftArgument (Expression.document? (← lowerFields context bound fields))
  | bound, .array elements =>
    constantOr context (.array elements) fun _ =>
      return .array (← lowerValues context bound elements)
  | _, .filter condition =>
    constantOr context (.filter condition) fun _ => refuse (.filter condition) .misplacedFilter
  | _, .key name => constantOr context (.key name) fun _ => refuse (.key name) .bareKey
  | _, e => constantOr context e fun _ => refuse e .unresolved

/-- The expressions that compute values. -/
def lowerValues (context : Context) :
    Bool → List Expr → Except LoweringError (List Expression)
  | _, [] => .ok []
  | bound, e :: es => return (← lowerValue context bound e) :: (← lowerValues context bound es)

/-- The expressions that compute named values. -/
def lowerFields (context : Context) :
    Bool → List (String × Expr) → Except LoweringError (List (String × Expression))
  | _, [] => .ok []
  | bound, (name, e) :: fields =>
    return (name, ← lowerValue context bound e) :: (← lowerFields context bound fields)

end

end DocQuery
