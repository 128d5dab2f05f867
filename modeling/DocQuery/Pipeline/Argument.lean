import DocQuery.Text.Name
import DocQuery.Value.Path

/-!
# Arguments of pipeline nodes

What a node of a pipeline refuses to hold, and the checks that several kinds of nodes share.

## Main definitions

* `ArgumentFault`, `ArgumentError` — why an argument is refused, with the message.
* `checkPath`, `checkVariable` — the checks of field paths and of variables.
* `checkDistinct` — the check that names do not repeat.
-/

namespace DocQuery

/-- What is wrong with an argument. -/
inductive ArgumentFault where
  | emptyPath
  | dollarPath (path : String)
  | emptySegment (path : String)
  | badVariable (name : String)
  | noArguments (operator : String)
  | noFilters (operator : String)
  | emptyFieldName
  | dollarFieldName (name : String)
  | duplicateFieldName (name : String)
  | negativeMask (mask : Int64)
  | wideMask (mask : Int64)
  | negativeSize (size : Int64)
  | unknownType (name : String)
  | badDivisor (divisor : Int64)
  | unknownOption (option : Char)
  | duplicateOption (option : Char)
  | noSortFields
  | duplicateSortPath (path : String)
  | negativeSkip (n : Int64)
  | badLimit (n : Int64)
  | emptyCountName
  | dollarCountName (name : String)
  | dottedCountName (name : String)
  | noProjections
  | projectedTwice (path : String)
  | mixedProjection
  | noComputedFields
  | duplicateFieldPath (path : String)
  | emptyAccumulatorName
  | compoundAccumulatorName (name : String)
  | idAccumulatorName
  | duplicateAccumulatorName (name : String)
  | wrongValueCount (expected got : Nat)
  | wrongAccumulatorCount (expected got : Nat)
  deriving DecidableEq

/-- The wording of a fault. -/
def ArgumentFault.message : ArgumentFault → String
  | .emptyPath => "field path must not be empty"
  | .dollarPath path => s!"field path '{path}' must not start with '$'"
  | .emptySegment path => s!"field path '{path}' contains an empty segment"
  | .badVariable name => s!"'{name}' is not a valid variable name"
  | .noArguments operator => s!"{operator} requires at least one argument"
  | .noFilters operator => s!"{operator} requires at least one filter"
  | .emptyFieldName => "field name must not be empty"
  | .dollarFieldName name => s!"field name '{name}' must not start with '$'"
  | .duplicateFieldName name => s!"duplicate field name '{name}'"
  | .negativeMask mask => s!"bit mask must not be negative, got {mask.toInt}"
  | .wideMask mask => s!"bit mask must fit in 32 bits, got {mask.toInt}"
  | .negativeSize size => s!"size must not be negative, got {size.toInt}"
  | .unknownType name => s!"'{name}' is not a known type alias"
  | .badDivisor divisor => s!"divisor must be positive, got {divisor.toInt}"
  | .unknownOption option => s!"unknown regex option '{option}'"
  | .duplicateOption option => s!"duplicate regex option '{option}'"
  | .noSortFields => "$sort requires at least one field"
  | .duplicateSortPath path => s!"duplicate sort path '{path}'"
  | .negativeSkip n => s!"skip must not be negative, got {n.toInt}"
  | .badLimit n => s!"limit must be positive, got {n.toInt}"
  | .emptyCountName => "count field name must not be empty"
  | .dollarCountName name => s!"count field name '{name}' must not start with '$'"
  | .dottedCountName name => s!"count field name '{name}' must not contain '.'"
  | .noProjections => "$project requires at least one specification"
  | .projectedTwice path => s!"path '{path}' is projected twice"
  | .mixedProjection => "$project cannot mix exclusion with inclusion"
  | .noComputedFields => "$addFields requires at least one field"
  | .duplicateFieldPath path => s!"duplicate field path '{path}'"
  | .emptyAccumulatorName => "accumulator name must not be empty"
  | .compoundAccumulatorName name => s!"accumulator name '{name}' must be a plain field name"
  | .idAccumulatorName => "accumulator name must not be '_id'"
  | .duplicateAccumulatorName name => s!"duplicate accumulator name '{name}'"
  | .wrongValueCount expected got => s!"expected {expected} values, got {got}"
  | .wrongAccumulatorCount expected got => s!"expected {expected} accumulators, got {got}"

/-- A refused argument: which one, and why. -/
structure ArgumentError where
  argument : String
  fault : ArgumentFault
  deriving DecidableEq

/-- The wording of an error. -/
def ArgumentError.message (e : ArgumentError) : String :=
  s!"invalid argument `{e.argument}`: {e.fault.message}"

/-- Refuses an argument unless a condition holds. -/
def ensure (condition : Bool) (argument : String) (fault : ArgumentFault) :
    Except ArgumentError Unit :=
  if condition then .ok () else .error ⟨argument, fault⟩

/-- The text begins with a dollar sign. -/
def startsWithDollar (text : String) : Bool :=
  text.toList.head? == some '$'

/-- The text contains a dot. -/
def containsDot (text : String) : Bool :=
  text.toList.contains '.'

/-- A field path is not empty, does not begin with a dollar sign, and has no empty segment. -/
def checkPath (argument path : String) : Except ArgumentError Unit := do
  ensure (path != "") argument .emptyPath
  ensure (!startsWithDollar path) argument (.dollarPath path)
  ensure ((pathSegments path).all (· != "")) argument (.emptySegment path)

/-- A variable is a name. -/
def checkVariable (argument name : String) : Except ArgumentError Unit :=
  ensure (Text.isName name) argument (.badVariable name)

/-- Runs a check on every element together with those before it, in order. -/
def checkEach {α : Type} (check : List α → α → Except ArgumentError Unit) (before : List α) :
    List α → Except ArgumentError Unit
  | [] => .ok ()
  | x :: xs => do
    check before x
    checkEach check (before ++ [x]) xs

/-- No two of the names are equal. -/
def checkDistinct (argument : String) (fault : String → ArgumentFault) (names : List String) :
    Except ArgumentError Unit :=
  checkEach (fun before name => ensure (!before.contains name) argument (fault name)) [] names

end DocQuery
