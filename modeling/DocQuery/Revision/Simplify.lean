import DocQuery.Revision.Reviser

/-!
# Simplification

Local normal forms of filters and expressions, which do not change what they select or compute:

* a conjunction inside a conjunction, or a disjunction inside a disjunction, is flattened, and one
  of a single filter is that filter;
* a double negation is left out, also of an operation below the negation of its filter;
* the opposite of an equality or a membership is written as the opposite operation, that of a
  disjunction as `nor`;
* sums, products, conjunctions, disjunctions and concatenations of the same kind are flattened;
* sums, products and differences of integer constants are computed.

Nodes are simplified after what is inside them.

## Main definitions

* `Operation.opposite?` — the operation that holds where another one does not.
* `simplerFilter`, `simplerOperation`, `simplerExpression` — one step, at the top of a node.
* `simplifier` — the reviser that takes these steps everywhere.
* `simplify` — a pipeline simplified.
-/

namespace DocQuery

open Revised

/-! ### Filters -/

/-- The operation that holds where this one does not, for equality and membership. -/
def Operation.opposite? : Operation → Option Operation
  | .compare comparison value => comparison.negated?.map (.compare · value)
  | .isIn values => some (.notIn values)
  | .notIn values => some (.isIn values)
  | _ => none

/-- The operands of a conjunction, if the filter is one. -/
def Filter.conjuncts? : Filter → Option (List Filter)
  | .and args => some args
  | _ => none

/-- The operands of a disjunction, if the filter is one. -/
def Filter.disjuncts? : Filter → Option (List Filter)
  | .or args => some args
  | _ => none

/-- The operands with those that have operands of the same kind replaced by these. -/
def spread {α : Type} (operands? : α → Option (List α)) (args : List α) : List α :=
  args.flatMap fun arg => (operands? arg).getD [arg]

/-- Some of the operands has operands of the same kind. -/
def isNested {α : Type} (operands? : α → Option (List α)) (args : List α) : Bool :=
  args.any fun arg => (operands? arg).isSome

/-- A combination of filters of which a single one is left as it is and nested ones are
flattened. -/
def simplerCombination (combine : List Filter → Except ArgumentError Filter)
    (operands? : Filter → Option (List Filter)) :
    List Filter → Except ArgumentError (Revised Filter)
  | [single] => .ok (.changed single)
  | args =>
    if isNested operands? args then renew (combine (spread operands? args)) else .ok .kept

/-- The opposite of a filter, simplified. -/
def simplerNot : Filter → Except ArgumentError (Revised Filter)
  | .not filter => .ok (.changed filter)
  | .or args => renew (Filter.nor? args)
  | .nor args => renew (Filter.or? args)
  | .field target (.not operation) => .ok (.changed (.field target operation))
  | .field target operation =>
    match operation.opposite? with
    | some opposite => .ok (.changed (.field target opposite))
    | none => .ok .kept
  | _ => .ok .kept

/-- A filter simplified at its top. -/
def simplerFilter : Filter → Except ArgumentError (Revised Filter)
  | .and args => simplerCombination Filter.and? Filter.conjuncts? args
  | .or args => simplerCombination Filter.or? Filter.disjuncts? args
  | .not filter => simplerNot filter
  | _ => .ok .kept

/-- An operation simplified at its top. -/
def simplerOperation : Operation → Except ArgumentError (Revised Operation)
  | .not (.not operation) => .ok (.changed operation)
  | .not operation =>
    match operation.opposite? with
    | some opposite => .ok (.changed opposite)
    | none => .ok .kept
  | _ => .ok .kept

/-! ### Expressions -/

/-- The signed integer that an expression is. -/
def Expression.integer? : Expression → Option Int64
  | .constant (.number (.int n)) => some n
  | _ => none

/-- A function whose arguments can be taken out of an argument that applies it as well. -/
def VariadicFunction.isAssociative : VariadicFunction → Bool
  | .add | .multiply | .and | .or | .concat => true
  | .bitAnd | .bitOr => false

/-- The arguments of a function, if the expression applies it. -/
def Expression.argsOf? (function : VariadicFunction) : Expression → Option (List Expression)
  | .variadic f args => if f = function then some args else none
  | _ => none

/-- The value of a sum or a product of integers, if every partial result fits 64 bits. -/
def foldIntegers? (f : Int → Int → Int) (start : Int64) (args : List Expression) : Option Int64 :=
  args.foldlM (fun total arg => do signed64? (f total.toInt (← arg.integer?).toInt)) start

/-- The value of a function of integer constants, if it is known. -/
def VariadicFunction.constant? (function : VariadicFunction) (args : List Expression) :
    Option Int64 :=
  match function with
  | .add => foldIntegers? (· + ·) 0 args
  | .multiply => foldIntegers? (· * ·) 1 args
  | _ => none

/-- An expression simplified at its top. -/
def simplerExpression : Expression → Except ArgumentError (Revised Expression)
  | .variadic function args =>
    if function.isAssociative then
      let flat := spread (Expression.argsOf? function) args
      match function.constant? flat with
      | some n => .ok (.changed (.constant (.int n)))
      | none =>
        if isNested (Expression.argsOf? function) args then
          renew (Expression.variadic? function flat)
        else .ok .kept
    else .ok .kept
  | .binary .subtract left right =>
    let difference := do signed64? ((← left.integer?).toInt - (← right.integer?).toInt)
    match difference with
    | some n => .ok (.changed (.constant (.int n)))
    | none => .ok .kept
  | _ => .ok .kept

/-! ### The reviser -/

/-- Takes a step on a node that has been rebuilt. -/
def thenStep {α : Type} (step : α → Except ArgumentError (Revised α)) :
    Rule (Except ArgumentError) α :=
  fun node rebuilt => do
    let r ← rebuilt
    match ← step (r.resolve node) with
    | .kept => return r
    | .changed new => return .changed new

/-- Simplifies filters, operations and expressions everywhere. -/
def simplifier : Reviser (Except ArgumentError) :=
  { Reviser.default with
    filter := thenStep simplerFilter
    operation := thenStep simplerOperation
    expression := thenStep simplerExpression }

/-- The simplified pipeline. -/
def simplify (p : Pipeline) : Except ArgumentError (Revised Pipeline) :=
  simplifier.revisePipeline p

end DocQuery
