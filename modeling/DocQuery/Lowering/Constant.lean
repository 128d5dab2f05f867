import DocQuery.Context.Basic
import DocQuery.Lowering.Unsupported

/-!
# Constant expressions

An expression that does not look at a document has a value at compile time.  Folding finds that
value; it finds none for an expression that looks at the document, and fails for one that does not
but has no value, such as a parameter that is not bound.

Integers are computed exactly and within 64 bits.  A division that is not exact, and all arithmetic
with a number that is not a signed integer, is done in floating point and must have a finite
result.

## Main definitions

* `fold` — the value of a constant expression.
* `foldInteger` — the value of a constant expression that must be an integer.
-/

namespace DocQuery

/-- The expression has no value for the given reason. -/
def refuse {α : Type} (e : Expr) (reason : Reason) : Except LoweringError α :=
  .error (.unsupported e reason)

namespace Constant

/-- An integer that must fit 64 bits. -/
def checked (n : Int) : Except Reason Value :=
  match signed64? n with
  | some n => .ok (.int n)
  | none => .error .overflow

/-- A floating-point result that must be finite. -/
def finite : Option Binary64 → Except Reason Value
  | some x => .ok (.number (.real x))
  | none => .error .notFinite

/-- A number with the other sign. -/
def negate : Value → Except Reason Value
  | .number n =>
    match n.signed? with
    | some i => checked (-i.toInt)
    | none => finite (some n.toBinary64.neg)
  | _ => .error .negateNeedsNumber

/-- An operation on signed integers.  Division is exact or goes to floating point, also when the
exact quotient does not fit. -/
def integers (op : BinaryOperator) (a b : Int64) : Except Reason Value :=
  match op with
  | .add => checked (a.toInt + b.toInt)
  | .subtract => checked (a.toInt - b.toInt)
  | .multiply => checked (a.toInt * b.toInt)
  | .bitAnd => .ok (.int (a &&& b))
  | .bitOr => .ok (.int (a ||| b))
  | .modulo =>
    if b = 0 then .error .moduloByZero
    else if a = Int64.minValue ∧ b = -1 then .error .overflow
    else checked (a.toInt.tmod b.toInt)
  | .divide =>
    if b = 0 then .error .divisionByZero
    else if a.toInt.tmod b.toInt = 0 ∧ ¬(a = Int64.minValue ∧ b = -1) then
      checked (a.toInt.tdiv b.toInt)
    else finite ((Binary64.ofInt a.toInt).div (.ofInt b.toInt))
  | op => .error (.cannotFold op)

/-- An operation on floating-point numbers. -/
def reals (op : BinaryOperator) (x y : Binary64) : Except Reason Value :=
  match op with
  | .add => finite (x.add y)
  | .subtract => finite (x.sub y)
  | .multiply => finite (x.mul y)
  | .divide => finite (x.div y)
  | .modulo => finite (x.rem y)
  | op => .error (.cannotFold op)

/-- An operation on numbers: on integers if both are signed ones, else in floating point. -/
def numbers (op : BinaryOperator) (m n : Number) : Except Reason Value :=
  match m.signed?, n.signed? with
  | some a, some b => integers op a b
  | _, _ =>
    if op = .bitAnd ∨ op = .bitOr then .error (.needsIntegers op)
    else reals op m.toBinary64 n.toBinary64

/-- The operation can be done at compile time. -/
def isArithmetic : BinaryOperator → Bool
  | .add | .subtract | .multiply | .divide | .modulo | .bitAnd | .bitOr | .coalesce => true
  | _ => false

/-- An operation on values. -/
def operate (op : BinaryOperator) (left right : Value) : Except Reason Value :=
  match op, left, right with
  | .coalesce, left, right => .ok (if left.isNull then right else left)
  | .add, .string s, .string t => .ok (.string (s ++ t))
  | op, .number m, .number n => numbers op m n
  | op, _, _ =>
    if op = .bitAnd ∨ op = .bitOr then .error (.needsIntegers op) else .error (.needsNumbers op)

end Constant

/-- The result of an operation in an expression, or the expression as unsupported. -/
def settle (e : Expr) : Except Reason Value → Except LoweringError (Option Value)
  | .ok value => .ok (some value)
  | .error reason => refuse e reason

mutual

/-- The value of an expression, none if it looks at the document. -/
def fold (context : Context) : Expr → Except LoweringError (Option Value)
  | .integer n => .ok (some (.int n))
  | .float (.finite x) => .ok (some (.number (.real x)))
  | .float (.infinite negative) => refuse (.float (.infinite negative)) .notFinite
  | .string s => .ok (some (.string s))
  | .boolean b => .ok (some (.bool b))
  | .null => .ok (some .null)
  | .param name =>
    match context.parameter? name with
    | some value => .ok (some value)
    | none => refuse (.param name) (.unboundParameter name)
  | .constant type member =>
    match context.constant? type member with
    | some n => .ok (some (.int n))
    | none => refuse (.constant type member) (.unknownConstant type member)
  | .unary op operand => do
    match ← fold context operand with
    | none => return none
    | some value =>
      settle (.unary op operand) <|
        match op, value with
        | .negate, value => Constant.negate value
        | .not, .bool b => .ok (.bool !b)
        | .not, _ => .error .notNeedsBoolean
  | .binary op left right => do
    if !Constant.isArithmetic op then return none
    match ← fold context left with
    | none => return none
    | some a =>
      match ← fold context right with
      | none => return none
      | some b => settle (.binary op left right) (Constant.operate op a b)
  | .array elements => do
    return (← foldAll context elements).map .array
  | .object fields => do
    return (← foldFields context fields).map fun entries => .object (collectFields entries)
  | _ => .ok none

/-- The values of expressions, none as soon as one looks at the document. -/
def foldAll (context : Context) : List Expr → Except LoweringError (Option (List Value))
  | [] => .ok (some [])
  | e :: es => do
    match ← fold context e with
    | none => return none
    | some value => return (← foldAll context es).map (value :: ·)

/-- The values of entries, none as soon as one looks at the document. -/
def foldFields (context : Context) :
    List (String × Expr) → Except LoweringError (Option (List (String × Value)))
  | [] => .ok (some [])
  | (name, e) :: fields => do
    match ← fold context e with
    | none => return none
    | some value => return (← foldFields context fields).map ((name, value) :: ·)

end

/-- The integer that an expression writes, none if it looks at the document.  A constant of
another type is an error. -/
def foldInteger (context : Context) (e : Expr) : Except LoweringError (Option Int64) := do
  match ← fold context e with
  | none => return none
  | some (.number (.int n)) => return some n
  | some value => refuse e (.notIntegerConstant value)

end DocQuery
