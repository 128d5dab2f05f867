import DocQuery.Evaluation.Function
import DocQuery.Value.Path

/-!
# Evaluation of expressions

The value of an expression for a document.  A path that leads nowhere has the value null.

## Main definitions

* `Environment` — the document and the variables.
* `Expression.eval` — the value of an expression in an environment.
* `Expression.evalOn` — the value of an expression for a document.
-/

namespace DocQuery

/-- What an expression can refer to: the document, and the values of variables, innermost first. -/
structure Environment where
  root : Value
  bindings : List (String × Value)

namespace Environment

/-- The document without variables. -/
def ofDocument (document : Value) : Environment :=
  ⟨document, []⟩

/-- The environment with a further variable. -/
def bind (env : Environment) (name : String) (value : Value) : Environment :=
  { env with bindings := (name, value) :: env.bindings }

/-- The value of a variable; two names stand for the document unless they are bound. -/
def get (env : Environment) (name : String) : Except EvalError Value :=
  match env.bindings.lookup name with
  | some value => .ok value
  | none =>
    if name = "ROOT" || name = "CURRENT" then .ok env.root else .error (.unboundVariable name)

/-- The document, or the value of a variable. -/
def base (env : Environment) : Option String → Except EvalError Value
  | none => .ok env.root
  | some name => env.get name

end Environment

/-- The items for which a test holds. -/
def keepItems (test : Value → Except EvalError Bool) : List Value → Except EvalError (List Value)
  | [] => .ok []
  | item :: items => do
    let kept ← test item
    let rest ← keepItems test items
    return if kept then item :: rest else rest

/-- What a function yields for each item. -/
def mapItems (f : Value → Except EvalError Value) : List Value → Except EvalError (List Value)
  | [] => .ok []
  | item :: items => return (← f item) :: (← mapItems f items)

/-- A function of the items of an array that takes null to null. -/
def overItems (name : String) (f : List Value → Except EvalError (List Value)) :
    Value → Except EvalError Value
  | .array items => .array <$> f items
  | .null => .ok .null
  | value => typeError (.needsArray name value.typeName)

mutual

/-- The value of an expression in an environment. -/
def Expression.eval : Expression → Environment → Except EvalError Value
  | .constant value, _ => .ok value
  | .field scope path, env => return (← env.base scope).atPath path
  | .var name, env => env.get name
  | .unary function arg, env => do function.eval (← arg.eval env)
  | .binary function left right, env => do
    let a ← left.eval env
    function.eval a (← right.eval env)
  | .variadic function args, env => do function.eval (← evalAll args env)
  | .document fields, env => .object <$> evalFields fields env
  | .array items, env => .array <$> evalAll items env
  | .getField name input, env => return ((← input.eval env).fields.lookup name).getD .null
  | .filter input name condition, env => do
    let holds (item : Value) : Except EvalError Bool :=
      return (← condition.eval (env.bind name item)).isTruthy
    overItems "$filter" (keepItems holds) (← input.eval env)
  | .map input name body, env => do
    overItems "$map" (mapItems fun item => body.eval (env.bind name item)) (← input.eval env)

/-- The values of expressions. -/
def Expression.evalAll : List Expression → Environment → Except EvalError (List Value)
  | [], _ => .ok []
  | e :: es, env => return (← e.eval env) :: (← evalAll es env)

/-- The values of named expressions. -/
def Expression.evalFields :
    List (String × Expression) → Environment → Except EvalError (List (String × Value))
  | [], _ => .ok []
  | (name, e) :: fields, env => return (name, ← e.eval env) :: (← evalFields fields env)

end

/-- The value of an expression for a document. -/
def Expression.evalOn (e : Expression) (document : Value) : Except EvalError Value :=
  e.eval (.ofDocument document)

end DocQuery
