import DocQuery.Evaluation.Error
import DocQuery.Number.Quotient
import DocQuery.Pipeline.Expression
import DocQuery.Text.Blank
import DocQuery.Text.Case
import DocQuery.Value.Order

/-!
# Functions of values

What the functions of expressions and the accumulators of groups compute.  Arithmetic is done in
decimals; each operation takes its operands from values and its result back to a value, but a sum
or a mean is computed as one decimal.

## Main definitions

* `sum`, `avg`, `extreme` — what lists of values add up to.
* `UnaryFunction.eval`, `BinaryFunction.eval`, `VariadicFunction.eval` — the functions.
* `Accumulation.eval` — what a group collects.
-/

namespace DocQuery

/-- The items of an array; any other value has none. -/
def Value.items : Value → List Value
  | .array items => items
  | _ => []

/-- An argument or a result that is not admitted. -/
def typeError {α : Type} (fault : TypeFault) : Except EvalError α :=
  .error (.type fault)

/-! ### Lists of values -/

/-- The numbers among the values, as decimals. -/
def decimals (values : List Value) : List Decimal :=
  values.filterMap fun
    | .number n => n.toDecimal?
    | _ => none

/-- The sum of decimals. -/
def addUp (ds : List Decimal) : Option Decimal :=
  ds.foldlM Decimal.add? Decimal.zero

/-- The sum of the numbers among the values. -/
def sum (values : List Value) : Except EvalError Value :=
  match addUp (decimals values) with
  | some total => .ok (.ofDecimal total)
  | none => typeError (.overflowed "$sum")

/-- The mean of the numbers among the values, null if there are none. -/
def avg (values : List Value) : Except EvalError Value :=
  match decimals values with
  | [] => .ok .null
  | ds =>
    let mean := do (← addUp ds).div? (← Decimal.ofInt? ds.length)
    match mean with
    | some mean => .ok (.ofDecimal mean)
    | none => typeError (.overflowed "$avg")

/-- The first value that is `wanted` compared with all others that are not null; null if there is
none. -/
def extreme (wanted : Ordering) (values : List Value) : Value :=
  let best (best? : Option Value) (value : Value) : Option Value :=
    match best? with
    | none => some value
    | some best => some (if value.order best = wanted then value else best)
  ((values.filter (!·.isNull)).foldl best none).getD .null

/-- The values without those that are equal to an earlier one. -/
def distinct (values : List Value) : List Value :=
  values.foldl (fun kept v => if kept.any (·.equal v) then kept else kept ++ [v]) []

/-- What a group collects from the values of its documents. -/
def Accumulation.eval : Accumulation → List Value → Except EvalError Value
  | .sum, values => DocQuery.sum values
  | .avg, values => DocQuery.avg values
  | .min, values => .ok (extreme .lt values)
  | .max, values => .ok (extreme .gt values)
  | .first, values => .ok (values.head?.getD .null)
  | .last, values => .ok (values.getLast?.getD .null)
  | .push, values => .ok (.array values)
  | .addToSet, values => .ok (.array (distinct values))

/-! ### Functions of one argument -/

/-- A function of an array. -/
def onArray (function : UnaryFunction) (f : List Value → Value) : Value → Except EvalError Value
  | .array items => .ok (f items)
  | arg => typeError (.needsArray function.name arg.typeName)

/-- A function of an array that takes null to null. -/
def onArrayOrNull (function : UnaryFunction) (f : List Value → Value) :
    Value → Except EvalError Value
  | .null => .ok .null
  | arg => onArray function f arg

/-- A function of a text, with its value for null. -/
def onText (function : UnaryFunction) (ifNull : Value) (f : String → String) :
    Value → Except EvalError Value
  | .null => .ok ifNull
  | .string s => .ok (.string (f s))
  | arg => typeError (.needsText function.name arg.typeName)

/-- The values that a sum, a mean or an extreme is taken of: the items of an array, or the value
itself. -/
def operands : Value → List Value
  | .array items => items
  | value => [value]

/-- A function of one argument. -/
def UnaryFunction.eval : UnaryFunction → Value → Except EvalError Value
  | .abs, .null => .ok .null
  | .abs, .number n =>
    match n.toDecimal? with
    | some d => .ok (.ofDecimal d.abs)
    | none => typeError (.outOfRange UnaryFunction.abs.name)
  | .abs, arg => typeError (.needsNumber UnaryFunction.abs.name arg.typeName)
  | .allElementsTrue, arg => onArray .allElementsTrue (fun xs => .bool (xs.all (·.isTruthy))) arg
  | .anyElementTrue, arg => onArray .anyElementTrue (fun xs => .bool (xs.any (·.isTruthy))) arg
  | .sum, arg => DocQuery.sum (operands arg)
  | .avg, arg => DocQuery.avg (operands arg)
  | .min, arg => .ok (extreme .lt (operands arg))
  | .max, arg => .ok (extreme .gt (operands arg))
  | .first, arg => onArrayOrNull .first (fun xs => xs.head?.getD .null) arg
  | .last, arg => onArrayOrNull .last (fun xs => xs.getLast?.getD .null) arg
  | .not, arg => .ok (.bool (!arg.isTruthy))
  | .size, arg => onArray .size (fun xs => .ofNat xs.length) arg
  | .toLower, arg => onText .toLower (.string "") Text.lower arg
  | .toUpper, arg => onText .toUpper (.string "") Text.upper arg
  | .trim, arg => onText .trim .null Text.trim arg
  | .type, arg => .ok (.string arg.typeName)

/-! ### Functions of two arguments -/

/-- An operation on decimals as a function of values; it takes null to null. -/
def arithmetic (name : String) (f : Decimal → Decimal → Option Decimal) (left right : Value) :
    Except EvalError Value :=
  match left, right with
  | .null, _ => .ok .null
  | _, .null => .ok .null
  | .number a, .number b =>
    match a.toDecimal?, b.toDecimal? with
    | some a, some b =>
      match f a b with
      | some result => .ok (.ofDecimal result)
      | none => typeError (.overflowed name)
    | _, _ => typeError (.outOfRange name)
  | left, right => typeError (.needsNumbers name left.typeName right.typeName)

/-- The item at an index, counted from the end if it is negative; null if there is none. -/
def itemAt (items : List Value) (index : Int) : Value :=
  if 0 ≤ index then items[index.toNat]?.getD .null
  else if index.natAbs ≤ items.length then items[items.length - index.natAbs]?.getD .null
  else .null

/-- The item of an array at an index. -/
def elementAt (left right : Value) : Except EvalError Value :=
  match left, right.integer? with
  | .array items, some index => .ok (itemAt items index.toInt)
  | .null, _ => .ok .null
  | left, _ => typeError (.needsElementIndex BinaryFunction.arrayElemAt.name left.typeName)

/-- The parts of a text between the occurrences of another one. -/
def splitText (left right : Value) : Except EvalError Value :=
  match left, right with
  | .null, _ => .ok .null
  | .string s, .string delimiter =>
    if delimiter = "" then
      typeError (.needsDelimiter BinaryFunction.split.name left.typeName right.typeName)
    else
      .ok (.array ((Text.splitAtText delimiter.toList s.toList).map (.string <| String.ofList ·)))
  | left, right =>
    typeError (.needsDelimiter BinaryFunction.split.name left.typeName right.typeName)

/-- A function of two arguments. -/
def BinaryFunction.eval (function : BinaryFunction) (left right : Value) :
    Except EvalError Value :=
  match function with
  | .arrayElemAt => elementAt left right
  | .divide =>
    if right.isZero then .error .divisionByZero
    else arithmetic function.name Decimal.div? left right
  | .mod =>
    if right.isZero then .error .divisionByZero
    else arithmetic function.name Decimal.rem? left right
  | .subtract => arithmetic function.name Decimal.sub? left right
  | .eq => .ok (.bool (left.order right).isEq)
  | .ne => .ok (.bool (left.order right).isNe)
  | .gt => .ok (.bool (left.order right).isGT)
  | .gte => .ok (.bool (left.order right).isGE)
  | .lt => .ok (.bool (left.order right).isLT)
  | .lte => .ok (.bool (left.order right).isLE)
  | .ifNull => .ok (if left.isNull then right else left)
  | .isIn =>
    match right with
    | .array items => .ok (.bool (items.any (·.equal left)))
    | right => typeError (.needsArray function.name right.typeName)
  | .split => splitText left right

/-! ### Functions of any number of arguments -/

/-- Adds or multiplies values from the left, beginning with `total`; null as soon as one is. -/
def accumulate (name : String) (f : Decimal → Decimal → Option Decimal) (total : Value) :
    List Value → Except EvalError Value
  | [] => .ok total
  | arg :: args => do
    let total ← arithmetic name f total arg
    if total.isNull then return .null else accumulate name f total args

/-- Combines integers from the left, beginning with `total`; null as soon as one is. -/
def combineBits (name : String) (f : Int64 → Int64 → Int64) (total : Int64) :
    List Value → Except EvalError Value
  | [] => .ok (.int total)
  | .null :: _ => .ok .null
  | arg :: args =>
    match arg.integer? with
    | some n => combineBits name f (f total n) args
    | none => typeError (.needsIntegers name arg.typeName)

/-- Joins texts from the left, beginning with `joined`; null as soon as one is. -/
def concatenate (joined : String) : List Value → Except EvalError Value
  | [] => .ok (.string joined)
  | .null :: _ => .ok .null
  | .string s :: args => concatenate (joined ++ s) args
  | arg :: _ => typeError (.needsTexts VariadicFunction.concat.name arg.typeName)

/-- A function of any number of arguments. -/
def VariadicFunction.eval (function : VariadicFunction) (args : List Value) :
    Except EvalError Value :=
  match function with
  | .add => accumulate function.name Decimal.add? (.int 0) args
  | .multiply => accumulate function.name Decimal.mul? (.int 1) args
  | .and => .ok (.bool (args.all (·.isTruthy)))
  | .or => .ok (.bool (args.any (·.isTruthy)))
  | .bitAnd => combineBits function.name (· &&& ·) (-1) args
  | .bitOr => combineBits function.name (· ||| ·) 0 args
  | .concat => concatenate "" args

end DocQuery
