import DocQuery.Evaluation.Stage
import DocQuery.Proofs.Evaluation.Expression
import DocQuery.Proofs.Evaluation.Filter
import DocQuery.Proofs.Pipeline.Induction
import DocQuery.Proofs.Variables.Scoped

/-!
# Scoped pipelines find their variables

An expression whose variables are bound inside it or have values in the environment never fails for
want of a variable: each `filter` and `map` adds the variable to the environment that it also adds
to the names in scope.  The functions themselves fail in other ways only.

## Main definitions

* `FindsVariables` — a computation does not fail for want of a variable.
* `Environment.Binds` — an environment has values for given names.

## Main results

* `Expression.Scoped.eval` — a scoped expression finds its variables.
* `Filter.Scoped.holds`, `Stage.Scoped.run`, `Pipeline.Scoped.run` — so do scoped filters, stages
  and pipelines, on any documents.
-/

namespace DocQuery

/-- The computation does not fail for want of a variable.  It may fail in another way. -/
def FindsVariables {α : Type} (x : Except EvalError α) : Prop :=
  ∀ name, x ≠ .error (.unboundVariable name)

namespace FindsVariables

variable {α β : Type} {x : Except EvalError α}

theorem ok (a : α) : FindsVariables (.ok a) :=
  nofun

theorem typeError (fault : TypeFault) : FindsVariables (typeError fault : Except EvalError α) :=
  nofun

theorem bind {f : α → Except EvalError β} (h : FindsVariables x)
    (hf : ∀ a, FindsVariables (f a)) : FindsVariables (x >>= f) := by
  cases x with
  | ok a => exact hf a
  | error e =>
    rintro name ⟨⟩
    exact h name rfl

theorem map (f : α → β) (h : FindsVariables x) : FindsVariables (f <$> x) := by
  rw [map_eq_pure_bind]
  exact h.bind fun a => ok (f a)

/-! ### Lists -/

theorem mapM {f : α → Except EvalError β} {l : List α} (h : ∀ a ∈ l, FindsVariables (f a)) :
    FindsVariables (l.mapM f) := by
  induction l with
  | nil => exact ok []
  | cons a l ih =>
    obtain ⟨ha, hl⟩ := List.forall_mem_cons.mp h
    rw [List.mapM_cons]
    exact ha.bind fun b => (ih hl).bind fun bs => ok (b :: bs)

theorem foldlM {f : β → α → Except EvalError β} {l : List α}
    (h : ∀ a ∈ l, ∀ b, FindsVariables (f b a)) (start : β) : FindsVariables (l.foldlM f start) := by
  induction l generalizing start with
  | nil => exact ok start
  | cons a l ih =>
    obtain ⟨ha, hl⟩ := List.forall_mem_cons.mp h
    rw [List.foldlM_cons]
    exact (ha start).bind fun b => ih hl b

theorem keepItems {test : Value → Except EvalError Bool} (h : ∀ item, FindsVariables (test item))
    (items : List Value) : FindsVariables (keepItems test items) := by
  induction items with
  | nil => exact ok []
  | cons item items ih =>
    exact (h item).bind fun kept => ih.bind fun rest => ok (if kept then item :: rest else rest)

theorem anyHolds {test : Value → Except EvalError Bool} (h : ∀ item, FindsVariables (test item))
    (items : List Value) : FindsVariables (anyHolds test items) := by
  induction items with
  | nil => exact ok false
  | cons item items ih =>
    refine (h item).bind fun passed => ?_
    cases passed with
    | true => exact ok true
    | false => exact ih

theorem overItems (name : String) {f : List Value → Except EvalError (List Value)}
    (h : ∀ items, FindsVariables (f items)) (v : Value) : FindsVariables (overItems name f v) := by
  cases v with
  | array items => exact (h items).map Value.array
  | null => exact ok Value.null
  | _ => exact typeError _

end FindsVariables

/-! ### Functions -/

theorem findsVariables_sum (values : List Value) : FindsVariables (sum values) := by
  unfold sum
  split
  · exact .ok _
  · exact .typeError _

theorem findsVariables_avg (values : List Value) : FindsVariables (avg values) := by
  unfold avg
  split
  · exact .ok _
  · dsimp only
    split
    · exact .ok _
    · exact .typeError _

theorem Accumulation.findsVariables_eval (operator : Accumulation) (values : List Value) :
    FindsVariables (operator.eval values) := by
  cases operator with
  | sum => exact findsVariables_sum values
  | avg => exact findsVariables_avg values
  | _ => exact .ok _

theorem findsVariables_onArray (function : UnaryFunction) (f : List Value → Value) (v : Value) :
    FindsVariables (onArray function f v) := by
  cases v with
  | array items => exact .ok _
  | _ => exact .typeError _

theorem findsVariables_onArrayOrNull (function : UnaryFunction) (f : List Value → Value)
    (v : Value) : FindsVariables (onArrayOrNull function f v) := by
  unfold onArrayOrNull
  split
  · exact .ok _
  · exact findsVariables_onArray function f v

theorem findsVariables_onText (function : UnaryFunction) (ifNull : Value) (f : String → String)
    (v : Value) : FindsVariables (onText function ifNull f v) := by
  cases v with
  | null => exact .ok _
  | string s => exact .ok _
  | _ => exact .typeError _

theorem UnaryFunction.findsVariables_eval (function : UnaryFunction) (arg : Value) :
    FindsVariables (function.eval arg) := by
  cases function with
  | abs =>
    cases arg with
    | null => exact .ok _
    | number n =>
      simp only [UnaryFunction.eval]
      split
      · exact .ok _
      · exact .typeError _
    | _ => exact .typeError _
  | sum => exact findsVariables_sum _
  | avg => exact findsVariables_avg _
  | min => exact .ok _
  | max => exact .ok _
  | not => exact .ok _
  | type => exact .ok _
  | allElementsTrue => exact findsVariables_onArray _ _ _
  | anyElementTrue => exact findsVariables_onArray _ _ _
  | size => exact findsVariables_onArray _ _ _
  | first => exact findsVariables_onArrayOrNull _ _ _
  | last => exact findsVariables_onArrayOrNull _ _ _
  | toLower => exact findsVariables_onText _ _ _ _
  | toUpper => exact findsVariables_onText _ _ _ _
  | trim => exact findsVariables_onText _ _ _ _

theorem findsVariables_arithmetic (name : String) (f : Decimal → Decimal → Option Decimal)
    (left right : Value) : FindsVariables (arithmetic name f left right) := by
  unfold arithmetic
  repeat' split
  all_goals first | exact .ok _ | exact .typeError _

theorem findsVariables_elementAt (left right : Value) : FindsVariables (elementAt left right) := by
  unfold elementAt
  split
  · exact .ok _
  · exact .ok _
  · exact .typeError _

theorem findsVariables_splitText (left right : Value) : FindsVariables (splitText left right) := by
  unfold splitText
  split
  · exact .ok _
  · split
    · exact .typeError _
    · exact .ok _
  · exact .typeError _

theorem BinaryFunction.findsVariables_eval (function : BinaryFunction) (left right : Value) :
    FindsVariables (function.eval left right) := by
  cases function with
  | arrayElemAt => exact findsVariables_elementAt left right
  | split => exact findsVariables_splitText left right
  | subtract => exact findsVariables_arithmetic _ _ _ _
  | divide =>
    simp only [BinaryFunction.eval]
    split
    · exact nofun
    · exact findsVariables_arithmetic _ _ _ _
  | mod =>
    simp only [BinaryFunction.eval]
    split
    · exact nofun
    · exact findsVariables_arithmetic _ _ _ _
  | isIn =>
    cases right with
    | array items => exact .ok _
    | _ => exact .typeError _
  | _ => exact .ok _

theorem findsVariables_accumulate (name : String) (f : Decimal → Decimal → Option Decimal)
    (total : Value) (args : List Value) : FindsVariables (accumulate name f total args) := by
  induction args generalizing total with
  | nil => exact .ok total
  | cons arg args ih =>
    refine (findsVariables_arithmetic name f total arg).bind fun next => ?_
    split
    · exact .ok _
    · exact ih next

theorem findsVariables_combineBits (name : String) (f : Int64 → Int64 → Int64) (total : Int64)
    (args : List Value) : FindsVariables (combineBits name f total args) := by
  fun_induction combineBits name f total args with
  | case1 total => exact .ok _
  | case2 total args => exact .ok _
  | case3 total arg args _ n _ ih => exact ih
  | case4 total arg args _ _ => exact .typeError _

theorem findsVariables_concatenate (joined : String) (args : List Value) :
    FindsVariables (concatenate joined args) := by
  induction args generalizing joined with
  | nil => exact .ok _
  | cons arg args ih =>
    cases arg with
    | null => exact .ok _
    | string s => exact ih (joined ++ s)
    | _ => exact .typeError _

theorem VariadicFunction.findsVariables_eval (function : VariadicFunction) (args : List Value) :
    FindsVariables (function.eval args) := by
  cases function with
  | add => exact findsVariables_accumulate _ _ _ _
  | multiply => exact findsVariables_accumulate _ _ _ _
  | and => exact .ok _
  | or => exact .ok _
  | bitAnd => exact findsVariables_combineBits _ _ _ _
  | bitOr => exact findsVariables_combineBits _ _ _ _
  | concat => exact findsVariables_concatenate _ _

/-! ### Expressions -/

namespace Environment

variable {env : Environment} {names : List String}

/-- The environment has a value for each of the names. -/
def Binds (env : Environment) (names : List String) : Prop :=
  ∀ name ∈ names, ∃ value, env.get name = .ok value

theorem get_bind (env : Environment) (bound name : String) (value : Value) :
    (env.bind bound value).get name = if name = bound then .ok value else env.get name := by
  unfold Environment.get Environment.bind
  rw [List.lookup_cons]
  by_cases h : name = bound
  · rw [if_pos h, beq_iff_eq.mpr h]
  · rw [if_neg h, beq_false_of_ne h]

/-- A further variable joins the names that have values, and hides none. -/
theorem Binds.bind (h : env.Binds names) (bound : String) (value : Value) :
    (env.bind bound value).Binds (bound :: names) := by
  intro name hname
  rw [get_bind]
  by_cases heq : name = bound
  · exact ⟨value, if_pos heq⟩
  · rw [if_neg heq]
    exact h name (List.mem_of_ne_of_mem heq hname)

theorem Binds.findsVariables_get (h : env.Binds names) {name : String} (hname : name ∈ names) :
    FindsVariables (env.get name) := by
  obtain ⟨value, hvalue⟩ := h name hname
  rw [hvalue]
  exact .ok value

theorem binds_ofDocument (document : Value) : (ofDocument document).Binds documentNames := by
  intro name hname
  refine ⟨document, ?_⟩
  rcases List.mem_cons.mp hname with rfl | hother
  · rfl
  · rw [List.mem_singleton.mp hother]
    rfl

end Environment

namespace Expression

theorem Scoped.eval {names : List String} {e : Expression} (h : e.Scoped names)
    {env : Environment} (henv : env.Binds names) : FindsVariables (e.eval env) := by
  -- the environment grows with the names when a condition or a body is entered
  induction h generalizing env with
  | constant value => exact .ok value
  | documentField path => exact .ok _
  | variableField path hmem => exact (henv.findsVariables_get hmem).bind fun v => .ok (v.atPath path)
  | var hmem => exact henv.findsVariables_get hmem
  | unary function _ ih => exact (ih henv).bind fun a => function.findsVariables_eval a
  | binary function _ _ ihleft ihright =>
    exact (ihleft henv).bind fun a => (ihright henv).bind fun b => function.findsVariables_eval a b
  | variadic function _ ih =>
    rw [eval_variadic]
    exact (FindsVariables.mapM fun e he => ih e he henv).bind function.findsVariables_eval
  | document _ ih =>
    rw [eval_document]
    exact (FindsVariables.mapM fun field hfield => (ih field hfield henv).map _).map _
  | array _ ih =>
    rw [eval_array]
    exact (FindsVariables.mapM fun e he => ih e he henv).map _
  | getField name _ ih =>
    rw [eval_getField]
    exact (ih henv).map _
  | filter _ _ ihinput ihcondition =>
    rw [eval_filter]
    refine (ihinput henv).bind (FindsVariables.overItems _ (FindsVariables.keepItems fun item => ?_))
    exact (ihcondition (henv.bind _ item)).map _
  | map _ _ ihinput ihbody =>
    rw [eval_map]
    refine (ihinput henv).bind (FindsVariables.overItems _ fun items => ?_)
    exact FindsVariables.mapM fun item _ => ihbody (henv.bind _ item)

theorem Scoped.evalOn {e : Expression} (h : e.Scoped documentNames) (document : Value) :
    FindsVariables (e.evalOn document) :=
  h.eval (Environment.binds_ofDocument document)

end Expression

/-! ### Filters -/

namespace Filter

/-- Operands that find their variables are decided without missing one. -/
theorem findsVariables_decided (stop : Bool) {fs : List Filter} {d : Value}
    (h : ∀ f ∈ fs, FindsVariables (f.holds d)) : FindsVariables (decided stop fs d) := by
  induction fs with
  | nil =>
    rw [decided_nil]
    exact .ok _
  | cons f fs ih =>
    obtain ⟨hf, hfs⟩ := List.forall_mem_cons.mp h
    rw [decided_cons]
    refine hf.bind fun b => ?_
    split
    · exact .ok stop
    · exact ih hfs

/-- A filter and an operation find their variables for any document and any values. -/
theorem findsVariables_of_scoped :
    (∀ f : Filter, f.Scoped → ∀ d, FindsVariables (f.holds d)) ∧
      ∀ operation : Operation, operation.Scoped →
        ∀ values, FindsVariables (operation.holds values) := by
  apply Filter.induction
  case field =>
    intro target operation ih h d
    exact ih h (target.values d)
  case and =>
    intro args ih h d
    rw [holds_and]
    exact findsVariables_decided _ fun f hf => ih f hf ((scoped_and args).mp h f hf) d
  case or =>
    intro args ih h d
    rw [holds_or]
    exact findsVariables_decided _ fun f hf => ih f hf ((scoped_or args).mp h f hf) d
  case nor =>
    intro args ih h d
    rw [holds_nor]
    exact (findsVariables_decided _ fun f hf => ih f hf ((scoped_nor args).mp h f hf) d).map _
  case not =>
    intro f ih h d
    rw [holds_not]
    exact (ih h d).map _
  case expr =>
    intro e h d
    exact ((scoped_expr e).mp h |>.evalOn d).map Value.isTruthy
  case elemMatch =>
    intro f ih h values
    exact FindsVariables.anyHolds (ih h) (itemsOfAll values)
  case negation =>
    intro operation ih h values
    exact (ih h values).map (!·)
  case plain =>
    intro operation hmatch hnot _ values
    cases operation with
    | elemMatch f => exact absurd rfl (hmatch f)
    | not negated => exact absurd rfl (hnot negated)
    | regex pattern options =>
      simp only [Operation.holds]
      split
      · exact .ok _
      · intro name herror
        cases herror
    | _ => exact .ok _

theorem Scoped.holds {f : Filter} (h : f.Scoped) (d : Value) : FindsVariables (f.holds d) :=
  findsVariables_of_scoped.1 f h d

end Filter

/-! ### Stages and pipelines -/

theorem Projection.Scoped.contribute {entry : Projection} (h : entry.Scoped)
    (document output : Value) : FindsVariables (entry.contribute document output) := by
  cases entry with
  | keep path =>
    simp only [Projection.contribute]
    split
    · exact .ok _
    · exact .ok _
  | drop path => exact .ok output
  | compute path e =>
    exact ((scoped_compute path e).mp h |>.evalOn document).bind fun v => .ok (output.assign path v)

theorem findsVariables_project {entries : List Projection} (h : ∀ entry ∈ entries, entry.Scoped)
    (document : Value) : FindsVariables (project entries document) := by
  unfold project
  split
  · exact .ok _
  · exact FindsVariables.foldlM
      (fun entry hentry output => (h entry hentry).contribute document output) _

theorem findsVariables_setFields {fields : List (String × Expression)}
    (h : ∀ field ∈ fields, field.2.Scoped documentNames) (document : Value) :
    FindsVariables (setFields fields document) :=
  FindsVariables.foldlM
    (fun field hfield output =>
      (h field hfield |>.evalOn document).bind fun v => .ok (output.assign field.1 v)) document

theorem findsVariables_replaceRoot {e : Expression} (h : e.Scoped documentNames)
    (document : Value) : FindsVariables (replaceRoot e document) := by
  refine (h.evalOn document).bind fun v => ?_
  cases v with
  | object fields => exact .ok _
  | _ => exact .typeError _

theorem findsVariables_collect (rows : List (List Value)) (place : Nat)
    (accumulators : List (String × AccumulatorExpression)) :
    FindsVariables (collect rows place accumulators) := by
  induction accumulators generalizing place with
  | nil => exact .ok []
  | cons a accumulators ih =>
    exact (a.2.operator.findsVariables_eval _).bind fun v =>
      (ih (place + 1)).bind fun rest => .ok ((a.1, v) :: rest)

/-- Only the key and what is collected are computed from documents; what is collected is then
combined. -/
theorem findsVariables_groupDocuments {key : Expression}
    {accumulators : List (String × AccumulatorExpression)} (hkey : key.Scoped documentNames)
    (haccumulators : ∀ a ∈ accumulators, a.2.arg.Scoped documentNames) (documents : List Value) :
    FindsVariables (groupDocuments key accumulators documents) := by
  have hrow : ∀ document, FindsVariables (groupRow key accumulators document) := fun document =>
    (hkey.evalOn document).bind fun k =>
      (FindsVariables.mapM fun a ha => (haccumulators a ha).evalOn document).bind fun vs => .ok (k, vs)
  refine (FindsVariables.mapM fun document _ => hrow document).bind fun rows => ?_
  refine FindsVariables.mapM fun group _ => ?_
  exact (findsVariables_collect group.2 0 accumulators).bind fun fields => .ok _

theorem Stage.Scoped.run {stage : Stage} (h : stage.Scoped) (documents : List Value) :
    FindsVariables (stage.run documents) := by
  cases stage with
  | select f => exact FindsVariables.keepItems (fun d => Filter.Scoped.holds h d) documents
  | project entries =>
    rw [Stage.run, mapItems_eq_mapM]
    exact FindsVariables.mapM fun d _ => findsVariables_project ((scoped_project entries).mp h) d
  | replaceRoot e =>
    rw [Stage.run, mapItems_eq_mapM]
    exact FindsVariables.mapM fun d _ => findsVariables_replaceRoot ((scoped_replaceRoot e).mp h) d
  | addFields fields =>
    rw [Stage.run, mapItems_eq_mapM]
    exact FindsVariables.mapM fun d _ => findsVariables_setFields ((scoped_addFields fields).mp h) d
  | group key accumulators =>
    obtain ⟨hkey, haccumulators⟩ := (scoped_group key accumulators).mp h
    exact findsVariables_groupDocuments hkey haccumulators documents
  | _ => exact .ok _

theorem Pipeline.Scoped.run {p : Pipeline} (h : p.Scoped) (documents : List Value) :
    FindsVariables (p.run documents) :=
  FindsVariables.foldlM (fun stage hstage ds => ((scoped_iff p).mp h stage hstage).run ds) documents

end DocQuery
