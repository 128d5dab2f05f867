import DocQuery.Pipeline.Stage

/-!
# Where variables are bound

A variable has a value in the condition of a `filter` and in the body of a `map` that name it, and
nowhere else; two names stand for the document everywhere.  What a filter, a stage or a pipeline
computes begins with these two names alone, whatever array the document is an element of.

## Main definitions

* `Expression.Scoped` — the variables of an expression are among given ones or bound inside it.
* `Filter.expressions`, `Stage.expressions`, `Pipeline.expressions` — what is computed for
  documents.
* `Filter.Scoped`, `Stage.Scoped`, `Pipeline.Scoped` — all of that is scoped.
-/

namespace DocQuery

/-- The names that stand for the document wherever they are not bound. -/
def documentNames : List String :=
  ["ROOT", "CURRENT"]

/-! ### Expressions -/

/-- Every variable of the expression is one of the given names, or is bound by a `filter` or `map`
that it occurs in the condition or body of. -/
inductive Expression.Scoped : List String → Expression → Prop where
  | constant {names : List String} (value : Value) : Scoped names (.constant value)
  | documentField {names : List String} (path : String) : Scoped names (.field none path)
  | variableField {names : List String} {name : String} (path : String) (h : name ∈ names) :
    Scoped names (.field (some name) path)
  | var {names : List String} {name : String} (h : name ∈ names) : Scoped names (.var name)
  | unary {names : List String} {arg : Expression} (function : UnaryFunction)
    (h : Scoped names arg) : Scoped names (.unary function arg)
  | binary {names : List String} {left right : Expression} (function : BinaryFunction)
    (hleft : Scoped names left) (hright : Scoped names right) :
    Scoped names (.binary function left right)
  | variadic {names : List String} {args : List Expression} (function : VariadicFunction)
    (h : ∀ e ∈ args, Scoped names e) : Scoped names (.variadic function args)
  | document {names : List String} {fields : List (String × Expression)}
    (h : ∀ field ∈ fields, Scoped names field.2) : Scoped names (.document fields)
  | array {names : List String} {items : List Expression} (h : ∀ e ∈ items, Scoped names e) :
    Scoped names (.array items)
  | getField {names : List String} {input : Expression} (name : String) (h : Scoped names input) :
    Scoped names (.getField name input)
  /-- The items are known by their name in the condition, and only there. -/
  | filter {names : List String} {input condition : Expression} {name : String}
    (hinput : Scoped names input) (hcondition : Scoped (name :: names) condition) :
    Scoped names (.filter input name condition)
  | map {names : List String} {input body : Expression} {name : String}
    (hinput : Scoped names input) (hbody : Scoped (name :: names) body) :
    Scoped names (.map input name body)

/-- More names do no harm. -/
theorem Expression.Scoped.mono {names more : List String} {e : Expression} (h : e.Scoped names)
    (hsub : names ⊆ more) : e.Scoped more := by
  -- a name that is bound on the way is added to both lists
  induction h generalizing more with
  | constant value => exact .constant value
  | documentField path => exact .documentField path
  | variableField path hmem => exact .variableField path (hsub hmem)
  | var hmem => exact .var (hsub hmem)
  | unary function _ ih => exact .unary function (ih hsub)
  | binary function _ _ ihleft ihright => exact .binary function (ihleft hsub) (ihright hsub)
  | variadic function _ ih => exact .variadic function fun e he => ih e he hsub
  | document _ ih => exact .document fun field hfield => ih field hfield hsub
  | array _ ih => exact .array fun e he => ih e he hsub
  | getField name _ ih => exact .getField name (ih hsub)
  | filter _ _ ihinput ihcondition =>
    exact .filter (ihinput hsub) (ihcondition (List.cons_subset_cons _ hsub))
  | map _ _ ihinput ihbody => exact .map (ihinput hsub) (ihbody (List.cons_subset_cons _ hsub))

/-! ### Filters -/

mutual

/-- The expressions that a filter computes, also for the elements of arrays. -/
def Filter.expressions : Filter → List Expression
  | .field _ operation => operation.expressions
  | .and args => Filter.expressionsOfAll args
  | .or args => Filter.expressionsOfAll args
  | .nor args => Filter.expressionsOfAll args
  | .not filter => filter.expressions
  | .expr e => [e]

/-- The expressions that filters compute. -/
def Filter.expressionsOfAll : List Filter → List Expression
  | [] => []
  | f :: fs => f.expressions ++ Filter.expressionsOfAll fs

/-- The expressions that an operation computes. -/
def Operation.expressions : Operation → List Expression
  | .elemMatch filter => filter.expressions
  | .not operation => operation.expressions
  | _ => []

end

/-- Every variable of what a filter computes is bound there. -/
def Filter.Scoped (f : Filter) : Prop :=
  ∀ e ∈ f.expressions, e.Scoped documentNames

/-- Every variable of what an operation computes is bound there. -/
def Operation.Scoped (operation : Operation) : Prop :=
  ∀ e ∈ operation.expressions, e.Scoped documentNames

theorem Filter.forall_mem_expressionsOfAll {p : Expression → Prop} {fs : List Filter} :
    (∀ e ∈ Filter.expressionsOfAll fs, p e) ↔ ∀ f ∈ fs, ∀ e ∈ f.expressions, p e := by
  induction fs with
  | nil => simp [Filter.expressionsOfAll]
  | cons f fs ih => rw [Filter.expressionsOfAll, List.forall_mem_append, List.forall_mem_cons, ih]

namespace Filter

theorem scoped_and (args : List Filter) : (and args).Scoped ↔ ∀ f ∈ args, f.Scoped :=
  forall_mem_expressionsOfAll

theorem scoped_or (args : List Filter) : (or args).Scoped ↔ ∀ f ∈ args, f.Scoped :=
  forall_mem_expressionsOfAll

theorem scoped_nor (args : List Filter) : (nor args).Scoped ↔ ∀ f ∈ args, f.Scoped :=
  forall_mem_expressionsOfAll

theorem scoped_not (f : Filter) : (not f).Scoped ↔ f.Scoped := Iff.rfl

theorem scoped_expr (e : Expression) : (expr e).Scoped ↔ e.Scoped documentNames :=
  List.forall_mem_singleton

end Filter

theorem Operation.scoped_not (operation : Operation) : (not operation).Scoped ↔ operation.Scoped :=
  Iff.rfl

/-- An operation without parts computes nothing. -/
theorem Operation.scoped_plain {operation : Operation} (h : ∀ f, operation ≠ .elemMatch f)
    (h' : ∀ negated, operation ≠ .not negated) : operation.Scoped := by
  cases operation with
  | elemMatch f => exact absurd rfl (h f)
  | not negated => exact absurd rfl (h' negated)
  | _ => exact List.forall_mem_nil _

/-! ### Stages and pipelines -/

/-- The expressions that an entry of a projection computes. -/
def Projection.expressions : Projection → List Expression
  | .keep _ => []
  | .drop _ => []
  | .compute _ value => [value]

/-- The expressions that a stage computes. -/
def Stage.expressions : Stage → List Expression
  | .select filter => filter.expressions
  | .project entries => entries.flatMap (·.expressions)
  | .replaceRoot e => [e]
  | .addFields fields => fields.map (·.2)
  | .group key accumulators => key :: accumulators.map (·.2.arg)
  | .sort _ => []
  | .skip _ => []
  | .limit _ => []
  | .unwind _ _ => []
  | .count _ => []

/-- The expressions that a pipeline computes. -/
def Pipeline.expressions (p : Pipeline) : List Expression :=
  p.stages.flatMap (·.expressions)

/-- Every variable of what an entry of a projection computes is bound there. -/
def Projection.Scoped (entry : Projection) : Prop :=
  ∀ e ∈ entry.expressions, e.Scoped documentNames

/-- Every variable of what a stage computes is bound there. -/
def Stage.Scoped (stage : Stage) : Prop :=
  ∀ e ∈ stage.expressions, e.Scoped documentNames

/-- Every variable of what a pipeline computes is bound there. -/
def Pipeline.Scoped (p : Pipeline) : Prop :=
  ∀ e ∈ p.expressions, e.Scoped documentNames

theorem Projection.scoped_compute (path : String) (value : Expression) :
    (compute path value).Scoped ↔ value.Scoped documentNames :=
  List.forall_mem_singleton

namespace Stage

/-- A stage that computes nothing is scoped. -/
theorem scoped_of_expressions_eq_nil {stage : Stage} (h : stage.expressions = []) :
    stage.Scoped := by
  intro e he
  rw [h] at he
  cases he

theorem scoped_project (entries : List Projection) :
    (project entries).Scoped ↔ ∀ entry ∈ entries, entry.Scoped :=
  List.forall_mem_flatMap

theorem scoped_replaceRoot (e : Expression) : (replaceRoot e).Scoped ↔ e.Scoped documentNames :=
  List.forall_mem_singleton

theorem scoped_addFields (fields : List (String × Expression)) :
    (addFields fields).Scoped ↔ ∀ field ∈ fields, field.2.Scoped documentNames :=
  List.forall_mem_map

theorem scoped_group (key : Expression) (accumulators : List (String × AccumulatorExpression)) :
    (group key accumulators).Scoped
      ↔ key.Scoped documentNames ∧ ∀ a ∈ accumulators, a.2.arg.Scoped documentNames := by
  rw [Scoped, expressions, List.forall_mem_cons, List.forall_mem_map]

end Stage

theorem Pipeline.scoped_iff (p : Pipeline) : p.Scoped ↔ ∀ stage ∈ p.stages, stage.Scoped :=
  List.forall_mem_flatMap

end DocQuery
