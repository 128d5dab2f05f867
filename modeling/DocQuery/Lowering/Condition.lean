import DocQuery.Lowering.Value
import DocQuery.Pipeline.Filter
import DocQuery.Regex.Escape

/-!
# Lowering of conditions

The filter that selects the documents for which a condition of the query language holds.  Conditions
that compare a field with a constant have a form of their own; among them tests of bits and of
remainders, of the length and the type of a field, and of its text.  Any other comparison of a
document is computed as a value; for an array element that cannot be done.

## Main definitions

* `Scope`, `resolveField` — what fields a condition reads.
* `bitTest`, `remainderTest`, `measureTest?`, `methodTest` — the forms of conditions.
* `lowerCondition` — the filter of a condition.
-/

namespace DocQuery

/-- What a condition is about. -/
inductive Scope where
  /-- A document; fields are read through `$`. -/
  | document
  /-- An array element; fields are read through `@`. -/
  | element
  deriving DecidableEq

/-- The target that an expression names in a scope: a field path, or the element itself. -/
def resolveField (scope : Scope) (e : Expr) : Option Target :=
  match scope, e.chain? with
  | .document, some ⟨.root, keys⟩ => (dotted? keys).map .path
  | .element, some ⟨.element, []⟩ => some .element
  | .element, some ⟨.element, keys⟩ => (dotted? keys).map .path
  | _, _ => none

/-- The target that an expression must name. -/
def requireField (scope : Scope) (e whole : Expr) : Except LoweringError Target :=
  match resolveField scope e with
  | some target => .ok target
  | none => refuse whole (.notField e)

/-- The comparison for an operator; only comparing ones are asked for. -/
def comparisonOf : BinaryOperator → Comparison
  | .equal => .eq
  | .notEqual => .ne
  | .less => .lt
  | .lessEqual => .lte
  | .greater => .gt
  | _ => .gte

/-- The operator asks for equality or its opposite. -/
def isEquality (op : BinaryOperator) : Bool :=
  op = .equal || op = .notEqual

/-- The operation, or its opposite if the operator is not equality. -/
def orNegated (op : BinaryOperator) (operation : Operation) : Operation :=
  if op = .equal then operation else .not operation

/-- A value that must be constant, for the whole condition. -/
def requireInteger (context : Context) (whole e : Expr) (reason : Reason) :
    Except LoweringError Int64 := do
  match ← foldInteger context e with
  | some n => return n
  | none => refuse whole reason

/-! ### Forms of comparisons -/

/-- The test of bits for a mask and the value that the masked field is compared with, which is zero
or the mask.  With a mask of zero it counts as zero. -/
def bitTestOf? (op : BinaryOperator) (mask compared : Int64) : Option BitTest :=
  if compared = 0 then some (if op = .equal then .allClear else .anySet)
  else if compared = mask then some (if op = .equal then .allSet else .anyClear)
  else none

/-- `(a & b) op compared`, where one of `a` and `b` is a field and the other a mask. -/
def bitTest (context : Context) (scope : Scope) (whole : Expr) (op : BinaryOperator)
    (a b compared : Expr) : Except LoweringError Filter := do
  if !isEquality op then refuse whole .maskNeedsEquality
  let (target, maskExpr) ←
    match resolveField scope a, resolveField scope b with
    | some target, _ => pure (target, b)
    | none, some target => pure (target, a)
    | none, none => refuse whole .maskNeedsField
  let mask ← requireInteger context whole maskExpr .maskNotConstant
  if ¬(0 ≤ mask.toInt ∧ mask.toInt < pow2 31) then refuse whole (.maskOutOfRange mask)
  let compared ← requireInteger context whole compared .comparedNotConstant
  match bitTestOf? op mask compared with
  | some test => return .field target (← liftArgument (Operation.bits? test mask))
  | none => refuse whole (.comparedNotMask mask)

/-- `(a % b) op compared`, where `a` is a field. -/
def remainderTest (context : Context) (scope : Scope) (whole : Expr) (op : BinaryOperator)
    (a b compared : Expr) : Except LoweringError Filter := do
  if !isEquality op then refuse whole .moduloNeedsEquality
  let target ← requireField scope a whole
  let divisor ← requireInteger context whole b .divisorNotConstant
  let remainder ← requireInteger context whole compared .remainderNotConstant
  return .field target (orNegated op (← liftArgument (Operation.mod? divisor remainder)))

/-- `object.method() op compared` for the length or the type of a field.  There is none if it has
to be computed as a value. -/
def measureTest? (context : Context) (scope : Scope) (whole : Expr) (op : BinaryOperator)
    (object : Expr) (method : String) (compared : Expr) :
    Except LoweringError (Option Filter) := do
  if !isEquality op then return none
  let some target := resolveField scope object | return none
  if method = "count" || method = "length" then
    match ← foldInteger context compared with
    | some n => return some (.field target (orNegated op (← liftArgument (Operation.size? n))))
    | none => return none
  else if method = "type" then
    match ← fold context compared with
    | some (.string name) =>
      return some (.field target (orNegated op (← liftArgument (Operation.type? name))))
    | some _ => refuse whole .typeNotString
    | none => return none
  else return none

/-- The test that the shape of one side of a comparison asks for, if any. -/
def shapeTest? (context : Context) (scope : Scope) (whole : Expr) (op : BinaryOperator)
    (shape other : Expr) : Except LoweringError (Option Filter) :=
  match shape with
  | .binary .bitAnd a b => some <$> bitTest context scope whole op a b other
  | .binary .modulo a b => some <$> remainderTest context scope whole op a b other
  | .call object method [] => measureTest? context scope whole op object method other
  | _ => .ok none

/-- The comparison of a field with a constant, if the sides are such. -/
def plainTest? (context : Context) (scope : Scope) (op : BinaryOperator) (field value : Expr) :
    Except LoweringError (Option Filter) := do
  let some target := resolveField scope field | return none
  match ← fold context value with
  | some value => return some (.field target (.compare (comparisonOf op) value))
  | none => return none

/-- A condition on a document that is computed as a value. -/
def computedTest (context : Context) (scope : Scope) (whole : Expr) :
    Except LoweringError Filter :=
  match scope with
  | .element => refuse whole .elementComparison
  | .document => .expr <$> lowerValue context false whole

/-- The filter of a comparison.  Its shape is looked for on the left first and then, with the
operator turned round, on the right. -/
def comparisonTest (context : Context) (scope : Scope) (op : BinaryOperator)
    (left right : Expr) : Except LoweringError Filter := do
  let whole := Expr.binary op left right
  if let some test ← shapeTest? context scope whole op left right then return test
  if let some test ← shapeTest? context scope whole op.swapped right left then return test
  if let some test ← plainTest? context scope op left right then return test
  if let some test ← plainTest? context scope op.swapped right left then return test
  computedTest context scope whole

/-! ### Methods -/

/-- An argument that must be constant, for the whole condition. -/
def constantArgument (context : Context) (whole arg : Expr) : Except LoweringError Value := do
  match ← fold context arg with
  | some value => return value
  | none => refuse whole (.notConstant arg)

/-- An argument that must be constant text, for the whole condition. -/
def textArgument (context : Context) (whole arg : Expr) (reason : Reason) :
    Except LoweringError String := do
  match ← constantArgument context whole arg with
  | .string s => return s
  | _ => refuse whole reason

/-- The pattern of a method that looks for text. -/
def textPattern (method text : String) : String :=
  if method = "startswith" then s!"^{Regex.escape text}"
  else if method = "endswith" then s!"{Regex.escape text}$"
  else Regex.escape text

/-- A test of the text of a field.  An array contains a value that is not text as an element. -/
def textTest (context : Context) (whole : Expr) (method : String) (arg : Expr) :
    Except LoweringError Operation := do
  match ← constantArgument context whole arg with
  | .string text => liftArgument (Operation.regex? (textPattern method text) "")
  | value =>
    if method = "contains" then return .compare .eq value
    else refuse whole (.needsString method)

/-- A match of a field with a pattern, with options or without. -/
def patternTest (context : Context) (whole pattern : Expr) (options : Option Expr) :
    Except LoweringError Operation := do
  let pattern ← textArgument context whole pattern .patternNotString
  let options ←
    match options with
    | some options => textArgument context whole options .optionsNotString
    | none => pure ""
  liftArgument (Operation.regex? pattern options)

/-- The field has one of the values of a constant array. -/
def membershipTest (context : Context) (whole values : Expr) : Except LoweringError Operation := do
  match ← fold context values with
  | some (.array values) => return .isIn values
  | _ => refuse whole .inNeedsArray

/-- An array at the target has an element. -/
def occupancyTest (whole : Expr) : Target → Except LoweringError Filter
  | .path p => .ok (.field (.path s!"{p}.0") (.exists true))
  | .element => refuse whole .anyNeedsPath

/-- The method looks for text. -/
def looksForText (method : String) : Bool :=
  method = "startswith" || method = "endswith" || method = "contains"

/-- A method call on a field as a test, `any` with a condition apart. -/
def methodTest (context : Context) (whole : Expr) (target : Target) (method : String)
    (args : List Expr) : Except LoweringError Filter :=
  let unknown := refuse whole (.noFilterMethod method args.length)
  match args with
  | [] =>
    if method = "exists" then .ok (.field target (.exists true))
    else if method = "any" then occupancyTest whole target
    else unknown
  | [arg] =>
    if method = "in" then .field target <$> membershipTest context whole arg
    else if looksForText method then .field target <$> textTest context whole method arg
    else if method = "matches" then .field target <$> patternTest context whole arg none
    else unknown
  | [arg, options] =>
    if method = "matches" then .field target <$> patternTest context whole arg (some options)
    else unknown
  | _ => unknown

/-! ### Conditions -/

/-- The operands of a conjunction: an operand that is itself one gives its own. -/
def conjuncts (e : Expr) (filter : Filter) : List Filter :=
  match e, filter with
  | .binary .and _ _, .and args => args
  | _, filter => [filter]

/-- The operands of a disjunction: an operand that is itself one gives its own. -/
def disjuncts (e : Expr) (filter : Filter) : List Filter :=
  match e, filter with
  | .binary .or _ _, .or args => args
  | _, filter => [filter]

/-- The filter of a condition; a field on its own must be true. -/
def lowerCondition (context : Context) : Scope → Expr → Except LoweringError Filter
  | scope, .binary .and left right => do
    let a ← lowerCondition context scope left
    let b ← lowerCondition context scope right
    liftArgument (Filter.and? (conjuncts left a ++ conjuncts right b))
  | scope, .binary .or left right => do
    let a ← lowerCondition context scope left
    let b ← lowerCondition context scope right
    liftArgument (Filter.or? (disjuncts left a ++ disjuncts right b))
  | scope, .unary .not operand => return .not (← lowerCondition context scope operand)
  | scope, .call object "all" args => computedTest context scope (.call object "all" args)
  | scope, .call object "any" [condition] => do
    let target ← requireField scope object (.call object "any" [condition])
    return .field target (.elemMatch (← lowerCondition context .element condition))
  | scope, .call object method args => do
    let target ← requireField scope object (.call object method args)
    methodTest context (.call object method args) target method args
  | scope, .binary op left right =>
    if op.isComparison then comparisonTest context scope op left right
    else refuse (.binary op left right) .notCondition
  | scope, e =>
    match resolveField scope e with
    | some target => .ok (.field target (.compare .eq (.bool true)))
    | none => refuse e .notCondition

end DocQuery
