import DocQuery.Pipeline.Argument
import DocQuery.Pipeline.Kind

/-!
# Expressions

What a pipeline computes for a document: values read from it, functions of them, and documents and
arrays built from them.  An expression is made by the functions below, which refuse arguments that
the node cannot hold; the constructors of the type do not check.

## Main definitions

* `UnaryFunction`, `BinaryFunction`, `VariadicFunction`, `Accumulation` — the functions, with their
  names.
* `Expression` — the type.
* `Expression.field?`, `Expression.variadic?`, `Expression.document?`, … — checked construction.
* `AccumulatorExpression` — what a group collects over its documents.
-/

namespace DocQuery

/-! ### Functions -/

/-- A function of one argument. -/
inductive UnaryFunction where
  | abs
  | allElementsTrue
  | anyElementTrue
  | avg
  | first
  | last
  | max
  | min
  | not
  | size
  | sum
  | toLower
  | toUpper
  | trim
  | type
  deriving DecidableEq

/-- The name of a function. -/
def UnaryFunction.name : UnaryFunction → String
  | .abs => "$abs"
  | .allElementsTrue => "$allElementsTrue"
  | .anyElementTrue => "$anyElementTrue"
  | .avg => "$avg"
  | .first => "$first"
  | .last => "$last"
  | .max => "$max"
  | .min => "$min"
  | .not => "$not"
  | .size => "$size"
  | .sum => "$sum"
  | .toLower => "$toLower"
  | .toUpper => "$toUpper"
  | .trim => "$trim"
  | .type => "$type"

/-- All functions of one argument. -/
def UnaryFunction.all : List UnaryFunction :=
  [.abs, .allElementsTrue, .anyElementTrue, .avg, .first, .last, .max, .min, .not, .size, .sum,
    .toLower, .toUpper, .trim, .type]

/-- The function with the given name. -/
def UnaryFunction.ofName? (name : String) : Option UnaryFunction :=
  all.find? (·.name == name)

/-- A function of two arguments. -/
inductive BinaryFunction where
  | arrayElemAt
  | divide
  | eq
  | gt
  | gte
  | ifNull
  | isIn
  | lt
  | lte
  | mod
  | ne
  | split
  | subtract
  deriving DecidableEq

/-- The name of a function. -/
def BinaryFunction.name : BinaryFunction → String
  | .arrayElemAt => "$arrayElemAt"
  | .divide => "$divide"
  | .eq => "$eq"
  | .gt => "$gt"
  | .gte => "$gte"
  | .ifNull => "$ifNull"
  | .isIn => "$in"
  | .lt => "$lt"
  | .lte => "$lte"
  | .mod => "$mod"
  | .ne => "$ne"
  | .split => "$split"
  | .subtract => "$subtract"

/-- All functions of two arguments. -/
def BinaryFunction.all : List BinaryFunction :=
  [.arrayElemAt, .divide, .eq, .gt, .gte, .ifNull, .isIn, .lt, .lte, .mod, .ne, .split, .subtract]

/-- The function with the given name. -/
def BinaryFunction.ofName? (name : String) : Option BinaryFunction :=
  all.find? (·.name == name)

/-- A function of any number of arguments from one on. -/
inductive VariadicFunction where
  | add
  | and
  | bitAnd
  | bitOr
  | concat
  | multiply
  | or
  deriving DecidableEq

/-- The name of a function. -/
def VariadicFunction.name : VariadicFunction → String
  | .add => "$add"
  | .and => "$and"
  | .bitAnd => "$bitAnd"
  | .bitOr => "$bitOr"
  | .concat => "$concat"
  | .multiply => "$multiply"
  | .or => "$or"

/-- All functions of any number of arguments. -/
def VariadicFunction.all : List VariadicFunction :=
  [.add, .and, .bitAnd, .bitOr, .concat, .multiply, .or]

/-- The function with the given name. -/
def VariadicFunction.ofName? (name : String) : Option VariadicFunction :=
  all.find? (·.name == name)

/-- A way to collect the values that the documents of a group yield. -/
inductive Accumulation where
  | addToSet
  | avg
  | first
  | last
  | max
  | min
  | push
  | sum
  deriving DecidableEq

/-- The name of a way to collect. -/
def Accumulation.name : Accumulation → String
  | .addToSet => "$addToSet"
  | .avg => "$avg"
  | .first => "$first"
  | .last => "$last"
  | .max => "$max"
  | .min => "$min"
  | .push => "$push"
  | .sum => "$sum"

/-- All ways to collect. -/
def Accumulation.all : List Accumulation :=
  [.addToSet, .avg, .first, .last, .max, .min, .push, .sum]

/-- The way to collect with the given name. -/
def Accumulation.ofName? (name : String) : Option Accumulation :=
  all.find? (·.name == name)

/-! ### Expressions -/

/-- A value computed from a document. -/
inductive Expression where
  | constant (value : Value)
  /-- What a path yields in the document, or in the value of a variable. -/
  | field (scope : Option String) (path : String)
  | var (name : String)
  | unary (function : UnaryFunction) (arg : Expression)
  | binary (function : BinaryFunction) (left right : Expression)
  | variadic (function : VariadicFunction) (args : List Expression)
  /-- A document with computed fields. -/
  | document (fields : List (String × Expression))
  /-- An array of computed items. -/
  | array (items : List Expression)
  /-- The field of a computed document. -/
  | getField (name : String) (input : Expression)
  /-- The items for which a condition on them, by that name, holds. -/
  | filter (input : Expression) (name : String) (condition : Expression)
  /-- The body for each item, known by that name. -/
  | map (input : Expression) (name : String) (body : Expression)

namespace Expression

/-- The document itself. -/
def root : Expression :=
  .var "ROOT"

/-- The item at hand in a `filter` or `map`. -/
def this : Expression :=
  .var "this"

/-- The value of a path in the document. -/
def field? (path : String) : Except ArgumentError Expression := do
  checkPath "path" path
  return .field none path

/-- The value of a path in the value of a variable. -/
def variableField? (variableName path : String) : Except ArgumentError Expression := do
  checkVariable "variable" variableName
  checkPath "path" path
  return .field (some variableName) path

/-- The value of a variable. -/
def ofVariable? (name : String) : Except ArgumentError Expression := do
  checkVariable "name" name
  return .var name

/-- A function of one argument or more. -/
def variadic? (function : VariadicFunction) (args : List Expression) :
    Except ArgumentError Expression := do
  ensure (!args.isEmpty) "args" (.noArguments function.name)
  return .variadic function args

/-- The names of the fields of a computed document are not empty, do not begin with a dollar sign,
and do not repeat. -/
def checkFieldNames (names : List String) : Except ArgumentError Unit :=
  checkEach (fun before name => do
    ensure (name != "") "fields" .emptyFieldName
    ensure (!startsWithDollar name) "fields" (.dollarFieldName name)
    ensure (!before.contains name) "fields" (.duplicateFieldName name)) [] names

/-- A document with computed fields. -/
def document? (fields : List (String × Expression)) : Except ArgumentError Expression := do
  checkFieldNames (fields.map (·.1))
  return .document fields

/-- A field of a computed document. -/
def getField? (name : String) (input : Expression) : Except ArgumentError Expression := do
  ensure (name != "") "field" .emptyFieldName
  ensure (!startsWithDollar name) "field" (.dollarFieldName name)
  return .getField name input

/-- The items of an array for which a condition holds. -/
def filter? (input : Expression) (variableName : String) (condition : Expression) :
    Except ArgumentError Expression := do
  checkVariable "variable" variableName
  return .filter input variableName condition

/-- What the body yields for each item of an array. -/
def map? (input : Expression) (variableName : String) (body : Expression) :
    Except ArgumentError Expression := do
  checkVariable "variable" variableName
  return .map input variableName body

/-- The value of a constant. -/
def constant? : Expression → Option Value
  | .constant value => some value
  | _ => none

/-- The kind of an expression. -/
def kind : Expression → NodeKind
  | .constant _ => .constantExpression
  | .field _ _ => .fieldExpression
  | .var _ => .variableExpression
  | .unary _ _ => .unaryExpression
  | .binary _ _ _ => .binaryExpression
  | .variadic _ _ => .naryExpression
  | .document _ => .documentExpression
  | .array _ => .arrayExpression
  | .getField _ _ => .getFieldExpression
  | .filter _ _ _ => .filterExpression
  | .map _ _ _ => .mapExpression

end Expression

/-- What a group collects: an expression for each document, and how its values are combined. -/
structure AccumulatorExpression where
  operator : Accumulation
  arg : Expression

end DocQuery
