import DocQuery.Lowering.Condition
import DocQuery.Pipeline.Stage

/-!
# Lowering of queries

Every statement of a query becomes one stage of a pipeline, in the order in which they are written.

## Main definitions

* `assignedValue` — the three kinds of values that a field can be assigned.
* `projectionEntries` — an object that is put in the place of documents, as a projection.
* `accumulator` — what a group collects.
* `lowerStatement`, `lowerQuery` — the stage of a statement, the pipeline of a query.
-/

namespace DocQuery

/-- The value assigned to a path.  A condition on elements filters the array at the path, a value
that refers to an element is computed for each of them, and any other value replaces what is
there. -/
def assignedValue (context : Context) (path : String) (value : Expr) :
    Except LoweringError Expression :=
  match value with
  | .filter condition => do
    let condition ← lowerValue context true condition
    let input ← liftArgument (Expression.field? path)
    liftArgument (Expression.filter? input elementName condition)
  | value =>
    if value.usesElement then do
      let body ← lowerValue context true value
      let input ← liftArgument (Expression.field? path)
      liftArgument (Expression.map? input elementName body)
    else lowerValue context false value

/-- An assignment of a field. -/
def assignment (context : Context) (target value : Expr) :
    Except LoweringError (String × Expression) := do
  let path ← targetPath target
  let value ← assignedValue context path value
  liftArgument (Stage.computedField? path value)

/-- The value is the field of the document with the same name as the key. -/
def isSameField (key : String) (value : Expr) : Bool :=
  value.chain? = some ⟨.root, [.field key]⟩

/-- An entry of a projection: a field that keeps its name is kept, others are computed. -/
def projectionEntry (context : Context) (key : String) (value : Expr) :
    Except LoweringError Projection := do
  if isSameField key value then return .keep key
  else return .compute key (← lowerValue context false value)

/-- The entries of a projection for the entries of an object; `_id` is dropped unless it is
named. -/
def projectionEntries (context : Context) (fields : List (String × Expr)) :
    Except LoweringError (List Projection) := do
  let entries ← fields.mapM fun (key, value) => projectionEntry context key value
  return if fields.any (·.1 = "_id") then entries else .drop "_id" :: entries

/-- The way to collect that a method stands for. -/
def accumulation? : String → Option Accumulation
  | "sum" => some .sum
  | "avg" => some .avg
  | "min" => some .min
  | "max" => some .max
  | "first" => some .first
  | "last" => some .last
  | "push" => some .push
  | "distinct" => some .addToSet
  | _ => none

/-- What a group collects: a method call without arguments on the value of each document, or the
number of documents. -/
def accumulator (context : Context) : Expr → Except LoweringError AccumulatorExpression
  | .call object method [] =>
    if method = "count" then .ok ⟨.sum, .constant (.int 1)⟩
    else
      match accumulation? method with
      | some operator => return ⟨operator, ← lowerValue context false object⟩
      | none => refuse (.call object method []) (.unknownAccumulator method)
  | .call object method args => refuse (.call object method args) .accumulatorArguments
  | e => refuse e .notAccumulator

/-- A key to sort by. -/
def sortKey (key : Expr) (direction : Direction) : Except LoweringError SortKey := do
  liftArgument (SortKey.ofPath? (← targetPath key) direction)

/-- The stage of a statement. -/
def lowerStatement (context : Context) : Statement → Except LoweringError Stage
  | .filter condition => return .select (← lowerCondition context .document condition)
  | .transform assignments => do
    liftArgument (Stage.addFields? (← assignments.mapM fun (t, v) => assignment context t v))
  | .output (.object fields) => do
    liftArgument (Stage.project? (← projectionEntries context fields))
  | .output value => return .replaceRoot (← lowerValue context false value)
  | .sort keys => do liftArgument (Stage.sort? (← keys.mapM fun (k, d) => sortKey k d))
  | .skip n => liftArgument (Stage.skip? n)
  | .limit n => liftArgument (Stage.limit? n)
  | .unwind path keepEmpty => do liftArgument (Stage.unwind? (← targetPath path) keepEmpty)
  | .count name => liftArgument (Stage.count? name)
  | .group key accumulators => do
    let key ← lowerValue context false key
    let accumulators ← accumulators.mapM fun (name, e) => return (name, ← accumulator context e)
    liftArgument (Stage.group? key accumulators)

/-- The pipeline of a query. -/
def lowerQuery (context : Context) (query : Query) : Except LoweringError Pipeline :=
  return ⟨← query.statements.mapM (lowerStatement context)⟩

end DocQuery
