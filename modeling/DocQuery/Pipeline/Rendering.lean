import DocQuery.Pipeline.Stage

/-!
# Pipelines as documents

A pipeline is sent to the server as an array of documents, one for each stage.  Here every node gets
its document.

Some documents mean more than one thing, so a constant that the server would take for an expression
is wrapped in `$literal`, an array that would be taken for a list of arguments in another array, and
a value that would be taken for an operation in `$eq`.  A conjunction of tests on different keys is
written as one document; all others use `$and`.

## Main definitions

* `Value.needsLiteral` — the server would take a constant for an expression.
* `Expression.toValue`, `Filter.toValue`, `Stage.toValue`, `Pipeline.toValue` — the documents.
-/

namespace DocQuery

/-! ### Expressions -/

mutual

/-- A string or a key in the value begins with a dollar sign. -/
def Value.needsLiteral : Value → Bool
  | .null => false
  | .bool _ => false
  | .number _ => false
  | .string s => startsWithDollar s
  | .array items => needLiteral items
  | .object fields => fieldsNeedLiteral fields

/-- Some item needs to be wrapped. -/
def Value.needLiteral : List Value → Bool
  | [] => false
  | item :: items => item.needsLiteral || needLiteral items

/-- Some key begins with a dollar sign, or some value needs to be wrapped. -/
def Value.fieldsNeedLiteral : List (String × Value) → Bool
  | [] => false
  | (key, value) :: fields =>
    startsWithDollar key || value.needsLiteral || fieldsNeedLiteral fields

end

/-- The document of a constant. -/
def literal (value : Value) : Value :=
  if value.needsLiteral then .entry "$literal" value else value

/-- The document of a function of one argument. -/
def UnaryFunction.apply (function : UnaryFunction) (arg : Value) : Value :=
  match function, arg with
  | .trim, arg => .entry function.name (.entry "input" arg)
  | _, .array items => .entry function.name (.array [.array items])
  | _, arg => .entry function.name arg

mutual

/-- The document of an expression. -/
def Expression.toValue : Expression → Value
  | .constant value => literal value
  | .field none path => .string s!"${path}"
  | .field (some name) path => .string s!"$${name}.{path}"
  | .var name => .string s!"$${name}"
  | .unary function arg => function.apply arg.toValue
  | .binary function left right => .entry function.name (.array [left.toValue, right.toValue])
  | .variadic function args => .entry function.name (.array (toValues args))
  | .document fields => .object (toFields fields)
  | .array items => .array (toValues items)
  | .getField name input =>
    .entry "$getField" (.object [("field", .string name), ("input", input.toValue)])
  | .filter input name condition =>
    .entry "$filter" (.object
      [("input", input.toValue), ("as", .string name), ("cond", condition.toValue)])
  | .map input name body =>
    .entry "$map" (.object
      [("input", input.toValue), ("as", .string name), ("in", body.toValue)])

/-- The documents of expressions. -/
def Expression.toValues : List Expression → List Value
  | [] => []
  | e :: es => e.toValue :: toValues es

/-- The documents of named expressions. -/
def Expression.toFields : List (String × Expression) → List (String × Value)
  | [] => []
  | (name, e) :: fields => (name, e.toValue) :: toFields fields

end

/-- The document of an accumulator. -/
def AccumulatorExpression.toValue (a : AccumulatorExpression) : Value :=
  .entry a.operator.name a.arg.toValue

/-! ### Filters -/

/-- The value is an object that the server would take for operations. -/
def Value.looksLikeOperation (value : Value) : Bool :=
  value.fields.any fun (key, _) => startsWithDollar key

/-- What stands for an operation below a path: equality is written as the value alone. -/
def Operation.abbreviate (operation : Operation) (document : Value) : Value :=
  match operation with
  | .compare .eq value => if value.looksLikeOperation then document else value
  | _ => document

/-- The document of an operation that is applied to a target. -/
def Target.toValue (target : Target) (document : Value) : Value :=
  match target with
  | .path p => .entry p document
  | .element => document

/-- The filter is a test of the values at a path. -/
def Filter.testsPath : Filter → Bool
  | .field (.path _) _ => true
  | _ => false

/-- The filter is a test of the element at hand. -/
def Filter.testsElement : Filter → Bool
  | .field .element _ => true
  | _ => false

/-- The document of a conjunction.  Tests of one kind whose documents share no key are put together
into one document. -/
def conjunction (args : List Filter) (documents : List Value) : Value :=
  let entries := documents.flatMap (·.fields)
  if (args.all (·.testsPath) || args.all (·.testsElement)) && decide (entries.map (·.1)).Nodup then
    .object entries
  else
    .entry "$and" (.array documents)

mutual

/-- The document of a filter. -/
def Filter.toValue : Filter → Value
  | .field (.path path) operation => .entry path (operation.abbreviate operation.toValue)
  | .field .element operation => operation.toValue
  | .and args => conjunction args (Filter.toValues args)
  | .or args => .entry "$or" (.array (Filter.toValues args))
  | .nor args => .entry "$nor" (.array (Filter.toValues args))
  | .not (.field target operation) => target.toValue (.entry "$not" operation.toValue)
  | .not filter => .entry "$nor" (.array [filter.toValue])
  | .expr expression => .entry "$expr" expression.toValue

/-- The documents of filters. -/
def Filter.toValues : List Filter → List Value
  | [] => []
  | f :: fs => f.toValue :: Filter.toValues fs

/-- The document of an operation. -/
def Operation.toValue : Operation → Value
  | .compare comparison value => .entry comparison.name value
  | .bits test mask => .entry test.name (.int mask)
  | .isIn values => .entry "$in" (.array values)
  | .notIn values => .entry "$nin" (.array values)
  | .exists expected => .entry "$exists" (.bool expected)
  | .regex pattern options =>
    .object (("$regex", .string pattern)
      :: if options = "" then [] else [("$options", .string options)])
  | .size size => .entry "$size" (.int size)
  | .type name => .entry "$type" (.string name)
  | .mod divisor remainder => .entry "$mod" (.array [.int divisor, .int remainder])
  | .elemMatch filter => .entry "$elemMatch" filter.toValue
  | .not operation => .entry "$not" operation.toValue

end

/-! ### Stages -/

/-- What an entry of a projection is written as.  A constant is always wrapped, since a bare number
or boolean would say that the path is kept or dropped. -/
def Projection.toValue : Projection → Value
  | .keep _ => .int 1
  | .drop _ => .int 0
  | .compute _ (.constant value) => .entry "$literal" value
  | .compute _ expression => expression.toValue

/-- What a direction of sorting is written as. -/
def Direction.toValue : Direction → Value
  | .ascending => .int 1
  | .descending => .int (-1)

/-- The document of a stage. -/
def Stage.toValue : Stage → Value
  | .select filter => .entry "$match" filter.toValue
  | .project entries => .entry "$project" (.object (entries.map fun e => (e.path, e.toValue)))
  | .replaceRoot expression => .entry "$replaceRoot" (.entry "newRoot" expression.toValue)
  | .addFields fields => .entry "$addFields" (.object (fields.map fun (p, e) => (p, e.toValue)))
  | .group key accumulators =>
    .entry "$group" (.object
      (("_id", key.toValue) :: accumulators.map fun (name, a) => (name, a.toValue)))
  | .sort keys => .entry "$sort" (.object (keys.map fun k => (k.path, k.direction.toValue)))
  | .skip n => .entry "$skip" (.int n)
  | .limit n => .entry "$limit" (.int n)
  | .unwind path false => .entry "$unwind" (.string s!"${path}")
  | .unwind path true =>
    .entry "$unwind" (.object
      [("path", .string s!"${path}"), ("preserveNullAndEmptyArrays", .bool true)])
  | .count name => .entry "$count" (.string name)

/-- The documents of the stages. -/
def Pipeline.documents (p : Pipeline) : List Value :=
  p.stages.map (·.toValue)

/-- A pipeline as an array of documents. -/
def Pipeline.toValue (p : Pipeline) : Value :=
  .array p.documents

end DocQuery
