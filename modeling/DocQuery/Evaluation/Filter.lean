import DocQuery.Evaluation.Expression
import DocQuery.Pipeline.Filter
import DocQuery.Regex.Compile
import DocQuery.Regex.Search

/-!
# Evaluation of filters

Whether a document satisfies a filter.  An operation tests all values that its path reaches, and an
array among them also by its elements; some of them must pass.

## Main definitions

* `anyElement`, `equalsAny` — tests of all values that a path reaches.
* `Comparison.test`, `BitTest.test` — tests of one value.
* `Filter.holds`, `Operation.holds` — whether a filter or an operation holds.
-/

namespace DocQuery

/-- Some value, or some element of an array among the values, passes a test. -/
def anyElement (test : Value → Bool) (values : List Value) : Bool :=
  values.any fun v => test v || v.items.any test

/-- Some value or element is equal to the expected one; no value at all counts as null. -/
def equalsAny (values : List Value) (expected : Value) : Bool :=
  if values.isEmpty then expected.isNull else anyElement (·.equal expected) values

/-- The values compare with the expected one as asked.  Except for equality and its opposite, only
values of the same kind do. -/
def Comparison.test (comparison : Comparison) (values : List Value) (expected : Value) : Bool :=
  let ordered (test : Ordering → Bool) : Bool :=
    anyElement (fun v => v.sameBracket expected && test (v.order expected)) values
  match comparison with
  | .eq => equalsAny values expected
  | .ne => !equalsAny values expected
  | .gt => ordered (·.isGT)
  | .gte => ordered (·.isGE)
  | .lt => ordered (·.isLT)
  | .lte => ordered (·.isLE)

/-- The bits of an integer that a mask selects are as asked. -/
def BitTest.test (test : BitTest) (mask n : Int64) : Bool :=
  match test with
  | .allClear => n &&& mask == 0
  | .allSet => n &&& mask == mask
  | .anyClear => n &&& mask != mask
  | .anySet => n &&& mask != 0

/-- The integer part of a number, bounded by what 64 bits with a sign can hold. -/
def Value.wholePart? : Value → Option Int
  | .number (.int n) => some n.toInt
  | .number n => some (max (-pow2 63) (min (pow2 63 - 1) n.toBinary64.truncated))
  | _ => none

/-- The value is text in which a pattern matches. -/
def Value.isMatched (pattern : Regex.Pattern) : Value → Bool
  | .string s => pattern.isIn s
  | _ => false

/-- The value is an array of the given length. -/
def Value.hasLength (length : Int) : Value → Bool
  | .array items => items.length == length
  | _ => false

/-- The items of all arrays among the values. -/
def itemsOfAll (values : List Value) : List Value :=
  values.flatMap (·.items)

/-- Some value satisfies a condition; they are looked at in order and only as far as needed. -/
def anyHolds (test : Value → Except EvalError Bool) : List Value → Except EvalError Bool
  | [] => .ok false
  | v :: vs => do if ← test v then return true else anyHolds test vs

/-- The values that a target has for a document or element. -/
def Target.values : Target → Value → List Value
  | .path p, document => document.reached (pathSegments p)
  | .element, v => [v]

mutual

/-- The document satisfies the filter. -/
def Filter.holds : Filter → Value → Except EvalError Bool
  | .field target operation, document => operation.holds (target.values document)
  | .and args, document => Filter.allHold args document
  | .or args, document => Filter.someHolds args document
  | .nor args, document => return !(← Filter.someHolds args document)
  | .not filter, document => return !(← filter.holds document)
  | .expr expression, document => return (← expression.evalOn document).isTruthy

/-- The document satisfies all filters. -/
def Filter.allHold : List Filter → Value → Except EvalError Bool
  | [], _ => .ok true
  | f :: fs, document => do if ← f.holds document then Filter.allHold fs document else return false

/-- The document satisfies some filter. -/
def Filter.someHolds : List Filter → Value → Except EvalError Bool
  | [], _ => .ok false
  | f :: fs, document => do if ← f.holds document then return true else Filter.someHolds fs document

/-- The values pass the test. -/
def Operation.holds : Operation → List Value → Except EvalError Bool
  | .compare comparison expected, values => .ok (comparison.test values expected)
  | .bits test mask, values =>
    .ok (anyElement (fun v => v.integer?.any (test.test mask)) values)
  | .isIn expected, values => .ok (expected.any (equalsAny values))
  | .notIn expected, values => .ok (!expected.any (equalsAny values))
  | .exists expected, values => .ok (values.isEmpty != expected)
  | .regex pattern options, values =>
    match Regex.compile? pattern options with
    | some compiled => .ok (anyElement (·.isMatched compiled) values)
    | none => .error (.pattern pattern)
  | .size size, values => .ok (values.any (·.hasLength size.toInt))
  | .type name, values => .ok (anyElement (·.hasType name) values)
  | .mod divisor remainder, values =>
    .ok (anyElement
      (fun v => v.wholePart?.any fun n => n.tmod divisor.toInt == remainder.toInt) values)
  | .elemMatch filter, values => anyHolds (fun item => filter.holds item) (itemsOfAll values)
  | .not operation, values => return !(← operation.holds values)

end

end DocQuery
