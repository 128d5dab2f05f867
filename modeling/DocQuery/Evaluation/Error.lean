/-!
# Errors of evaluation

What can go wrong when a pipeline runs on documents.

## Main definitions

* `TypeFault` — an argument of a kind or a result of a size that a function does not admit.
* `EvalError` — all errors, with the message.
-/

namespace DocQuery

/-- An argument of a kind that a function does not admit, or a result that is too large.  The
function and the types of its arguments are given by name. -/
inductive TypeFault where
  | rootNeedsDocument (got : String)
  | needsNumber (function got : String)
  | needsNumbers (function left right : String)
  | needsIntegers (function got : String)
  | needsArray (function got : String)
  | needsElementIndex (function got : String)
  | needsText (function got : String)
  | needsTexts (function got : String)
  | needsDelimiter (function left right : String)
  | outOfRange (function : String)
  | overflowed (function : String)
  deriving DecidableEq

/-- The wording of a fault. -/
def TypeFault.message : TypeFault → String
  | .rootNeedsDocument got => s!"$replaceRoot requires a document, got {got}"
  | .needsNumber function got => s!"{function} requires a number, got {got}"
  | .needsNumbers function left right => s!"{function} requires numbers, got {left} and {right}"
  | .needsIntegers function got => s!"{function} requires integers, got {got}"
  | .needsArray function got => s!"{function} requires an array, got {got}"
  | .needsElementIndex function got => s!"{function} requires an array and an integer, got {got}"
  | .needsText function got => s!"{function} requires a string, got {got}"
  | .needsTexts function got => s!"{function} requires strings, got {got}"
  | .needsDelimiter function left right =>
    s!"{function} requires a string and a non-empty delimiter, got {left} and {right}"
  | .outOfRange function => s!"{function} argument out of range"
  | .overflowed function => s!"{function} overflowed"

/-- Why a pipeline cannot run on documents. -/
inductive EvalError where
  | type (fault : TypeFault)
  | divisionByZero
  /-- A text that is no regular expression. -/
  | pattern (pattern : String)
  | unboundVariable (name : String)
  deriving DecidableEq

/-- The wording of an error. -/
def EvalError.message : EvalError → String
  | .type fault => s!"type error: {fault.message}"
  | .divisionByZero => "division by zero"
  | .pattern text => s!"invalid regular expression /{text}/"
  | .unboundVariable name => s!"unbound variable $${name}"

end DocQuery
