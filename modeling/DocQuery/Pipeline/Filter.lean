import DocQuery.Pipeline.Expression

/-!
# Filters

The conditions that select documents.  A filter applies operations to the values that a path
reaches in a document, or to an array element at hand, and combines such tests.

## Main definitions

* `Comparison`, `BitTest` — the comparisons and the tests of bits, with their names.
* `Filter`, `Operation` — the types.
* `Filter.and?`, `Operation.bits?`, `Operation.regex?`, … — checked construction.
-/

namespace DocQuery

/-- A comparison of a value with a given one. -/
inductive Comparison where
  | eq
  | ne
  | gt
  | gte
  | lt
  | lte
  deriving DecidableEq

namespace Comparison

/-- The name of a comparison. -/
def name : Comparison → String
  | .eq => "$eq"
  | .ne => "$ne"
  | .gt => "$gt"
  | .gte => "$gte"
  | .lt => "$lt"
  | .lte => "$lte"

/-- All comparisons. -/
def all : List Comparison :=
  [.eq, .ne, .gt, .gte, .lt, .lte]

/-- The comparison with the given name. -/
def ofName? (name : String) : Option Comparison :=
  all.find? (·.name == name)

/-- The comparison that holds exactly where this one does not, if there is one.  The others have
none, since a missing value is neither below another one nor not below it. -/
def negated? : Comparison → Option Comparison
  | .eq => some .ne
  | .ne => some .eq
  | .gt => none
  | .gte => none
  | .lt => none
  | .lte => none

end Comparison

/-- A test of the bits of an integer that a mask selects. -/
inductive BitTest where
  | allClear
  | allSet
  | anyClear
  | anySet
  deriving DecidableEq

namespace BitTest

/-- The name of a test. -/
def name : BitTest → String
  | .allClear => "$bitsAllClear"
  | .allSet => "$bitsAllSet"
  | .anyClear => "$bitsAnyClear"
  | .anySet => "$bitsAnySet"

/-- All tests. -/
def all : List BitTest :=
  [.allClear, .allSet, .anyClear, .anySet]

/-- The test with the given name. -/
def ofName? (name : String) : Option BitTest :=
  all.find? (·.name == name)

end BitTest

/-- What an operation is applied to. -/
inductive Target where
  /-- The values that a path reaches in the document. -/
  | path (path : String)
  /-- The array element at hand. -/
  | element
  deriving DecidableEq

/-- The values that a path reaches. -/
def Target.path? (path : String) : Except ArgumentError Target := do
  checkPath "path" path
  return .path path

mutual

/-- A condition on a document. -/
inductive Filter where
  | field (target : Target) (operation : Operation)
  | and (args : List Filter)
  | or (args : List Filter)
  | nor (args : List Filter)
  | not (filter : Filter)
  /-- A computed value counts as true. -/
  | expr (expression : Expression)

/-- A test of the values that a target has. -/
inductive Operation where
  | compare (comparison : Comparison) (value : Value)
  | bits (test : BitTest) (mask : Int64)
  | isIn (values : List Value)
  | notIn (values : List Value)
  | exists (expected : Bool)
  | regex (pattern options : String)
  | size (size : Int64)
  | type (name : String)
  | mod (divisor remainder : Int64)
  /-- Some element of an array satisfies a filter. -/
  | elemMatch (filter : Filter)
  | not (operation : Operation)

end

namespace Operation

/-- A test of bits; the mask is not negative and fits 32 bits with a sign. -/
def bits? (test : BitTest) (mask : Int64) : Except ArgumentError Operation := do
  ensure (0 ≤ mask.toInt) "mask" (.negativeMask mask)
  ensure (mask.toInt < pow2 31) "mask" (.wideMask mask)
  return .bits test mask

/-- The letters that switch options of a pattern on. -/
def regexOptions : List Char :=
  ['i', 'm', 's', 'x', 'u']

/-- A match of a pattern; its options are known and do not repeat. -/
def regex? (pattern options : String) : Except ArgumentError Operation := do
  checkEach (fun before option => do
    ensure (regexOptions.contains option) "options" (.unknownOption option)
    ensure (!before.contains option) "options" (.duplicateOption option)) [] options.toList
  return .regex pattern options

/-- A test of the length of an array. -/
def size? (size : Int64) : Except ArgumentError Operation := do
  ensure (0 ≤ size.toInt) "size" (.negativeSize size)
  return .size size

/-- The names of the types of values. -/
def typeNames : List String :=
  ["double", "string", "object", "array", "binData", "undefined", "objectId", "bool", "date",
    "null", "regex", "dbPointer", "javascript", "symbol", "int", "timestamp", "long", "decimal",
    "minKey", "maxKey", "number"]

/-- A test of the type of a value. -/
def type? (name : String) : Except ArgumentError Operation := do
  ensure (typeNames.contains name) "alias" (.unknownType name)
  return .type name

/-- A test of the remainder of a division. -/
def mod? (divisor remainder : Int64) : Except ArgumentError Operation := do
  ensure (0 < divisor.toInt) "divisor" (.badDivisor divisor)
  return .mod divisor remainder

/-- The kind of an operation. -/
def kind : Operation → NodeKind
  | .compare _ _ => .compareOperation
  | .bits .allClear _ => .bitsAllClearOperation
  | .bits .allSet _ => .bitsAllSetOperation
  | .bits .anyClear _ => .bitsAnyClearOperation
  | .bits .anySet _ => .bitsAnySetOperation
  | .isIn _ => .inOperation
  | .notIn _ => .ninOperation
  | .exists _ => .existsOperation
  | .regex _ _ => .regexOperation
  | .size _ => .sizeOperation
  | .type _ => .typeOperation
  | .mod _ _ => .modOperation
  | .elemMatch _ => .elemMatchOperation
  | .not _ => .notOperation

end Operation

namespace Filter

/-- All of one filter or more hold. -/
def and? (args : List Filter) : Except ArgumentError Filter := do
  ensure (!args.isEmpty) "args" (.noFilters "$and")
  return .and args

/-- Some of one filter or more holds. -/
def or? (args : List Filter) : Except ArgumentError Filter := do
  ensure (!args.isEmpty) "args" (.noFilters "$or")
  return .or args

/-- None of one filter or more holds. -/
def nor? (args : List Filter) : Except ArgumentError Filter := do
  ensure (!args.isEmpty) "args" (.noFilters "$nor")
  return .nor args

/-- The kind of a filter. -/
def kind : Filter → NodeKind
  | .field _ _ => .fieldFilter
  | .and _ => .andFilter
  | .or _ => .orFilter
  | .nor _ => .norFilter
  | .not _ => .notFilter
  | .expr _ => .exprFilter

end Filter

end DocQuery
