import DocQuery.Evaluation.Expression
import DocQuery.Proofs.Outcome

/-!
# The value of an expression from the values of its parts

The arguments of a function are evaluated one after the other, and the function is applied to their
values.  So an expression can be replaced, inside a larger one, by another that yields its value
wherever it has one.

## Main results

* `Expression.eval_unary`, `Expression.eval_variadic`, … — the value, constructor by constructor.
* `keepItems_eq_ok_iff` — when the items that pass a test can be told.
* `Expression.eval_unary_extendedBy`, … — parts can be replaced, constructor by constructor.
-/

namespace DocQuery

theorem mapItems_eq_mapM (f : Value → Except EvalError Value) (items : List Value) :
    mapItems f items = items.mapM f := by
  induction items with
  | nil => rfl
  | cons item items ih => rw [mapItems, List.mapM_cons, ih]

namespace Expression

/-! ### Equations -/

theorem evalAll_cons (e : Expression) (es : List Expression) (env : Environment) :
    evalAll (e :: es) env = (do return (← e.eval env) :: (← evalAll es env)) := rfl

theorem evalFields_cons (name : String) (e : Expression) (fields : List (String × Expression))
    (env : Environment) :
    evalFields ((name, e) :: fields) env
      = (do return (name, ← e.eval env) :: (← evalFields fields env)) := rfl

theorem evalAll_eq_mapM (es : List Expression) (env : Environment) :
    evalAll es env = es.mapM (·.eval env) := by
  induction es with
  | nil => rfl
  | cons e es ih => rw [evalAll_cons, List.mapM_cons, ih]

theorem evalFields_eq_mapM (fields : List (String × Expression)) (env : Environment) :
    evalFields fields env = fields.mapM fun field => (field.1, ·) <$> field.2.eval env := by
  induction fields with
  | nil => rfl
  | cons field fields ih =>
    obtain ⟨name, e⟩ := field
    rw [evalFields_cons, List.mapM_cons, ih]
    cases e.eval env <;> rfl

@[simp] theorem eval_constant (value : Value) (env : Environment) :
    (constant value).eval env = .ok value := rfl

@[simp] theorem eval_var (name : String) (env : Environment) :
    (var name).eval env = env.get name := rfl

@[simp] theorem eval_unary (function : UnaryFunction) (arg : Expression) (env : Environment) :
    (unary function arg).eval env = (arg.eval env >>= function.eval) := rfl

@[simp] theorem eval_binary (function : BinaryFunction) (left right : Expression)
    (env : Environment) :
    (binary function left right).eval env
      = (left.eval env >>= fun a => right.eval env >>= function.eval a) := rfl

@[simp] theorem eval_variadic (function : VariadicFunction) (args : List Expression)
    (env : Environment) :
    (variadic function args).eval env = (args.mapM (·.eval env) >>= function.eval) := by
  rw [← evalAll_eq_mapM]
  rfl

@[simp] theorem eval_document (fields : List (String × Expression)) (env : Environment) :
    (document fields).eval env
      = .object <$> fields.mapM fun field => (field.1, ·) <$> field.2.eval env := by
  rw [← evalFields_eq_mapM]
  rfl

@[simp] theorem eval_array (items : List Expression) (env : Environment) :
    (array items).eval env = .array <$> items.mapM (·.eval env) := by
  rw [← evalAll_eq_mapM]
  rfl

@[simp] theorem eval_getField (name : String) (input : Expression) (env : Environment) :
    (getField name input).eval env
      = (fun v => (v.fields.lookup name).getD .null) <$> input.eval env := rfl

@[simp] theorem eval_filter (input : Expression) (name : String) (condition : Expression)
    (env : Environment) :
    (filter input name condition).eval env
      = (input.eval env >>= overItems "$filter"
          (keepItems fun item => Value.isTruthy <$> condition.eval (env.bind name item))) := rfl

@[simp] theorem eval_map (input : Expression) (name : String) (body : Expression)
    (env : Environment) :
    (map input name body).eval env
      = (input.eval env >>= overItems "$map"
          (List.mapM fun item => body.eval (env.bind name item))) := by
  rw [← funext (mapItems_eq_mapM _)]
  rfl

end Expression

/-! ### Items that pass a test -/

/-- The test can be made and holds. -/
def passes (test : Value → Except EvalError Bool) (item : Value) : Bool :=
  match test item with
  | .ok b => b
  | .error _ => false

@[simp] theorem passes_of_ok {test : Value → Except EvalError Bool} {item : Value} {b : Bool}
    (h : test item = .ok b) : passes test item = b := by
  rw [passes, h]

/-- All items are tested, also those behind one that is dropped. -/
theorem keepItems_eq_ok_iff {test : Value → Except EvalError Bool} {items kept : List Value} :
    keepItems test items = .ok kept
      ↔ (∀ item ∈ items, ∃ b, test item = .ok b) ∧ kept = items.filter (passes test) := by
  induction items generalizing kept with
  | nil => simp [keepItems, eq_comm]
  | cons item items ih =>
    simp only [keepItems, bind_eq_ok_iff, ih, pure_eq_ok, Except.ok.injEq, List.forall_mem_cons]
    constructor
    · rintro ⟨b, hb, rest, ⟨hitems, rfl⟩, rfl⟩
      refine ⟨⟨⟨b, hb⟩, hitems⟩, ?_⟩
      rw [List.filter_cons, passes_of_ok hb]
    · rintro ⟨⟨⟨b, hb⟩, hitems⟩, rfl⟩
      refine ⟨b, hb, _, ⟨hitems, rfl⟩, ?_⟩
      rw [List.filter_cons, passes_of_ok hb]

/-! ### Replacing parts -/

theorem keepItems_extendedBy {test test' : Value → Except EvalError Bool} {items : List Value}
    (h : ∀ item ∈ items, ExtendedBy (test item) (test' item)) :
    ExtendedBy (keepItems test items) (keepItems test' items) := by
  induction items with
  | nil => exact .refl _
  | cons item items ih =>
    obtain ⟨hitem, hitems⟩ := List.forall_mem_cons.mp h
    rw [keepItems, keepItems]
    exact hitem.bind fun kept => (ih hitems).bind fun rest => .refl _

theorem overItems_extendedBy (name : String) {f f' : List Value → Except EvalError (List Value)}
    {v : Value} (h : ∀ items, v = .array items → ExtendedBy (f items) (f' items)) :
    ExtendedBy (overItems name f v) (overItems name f' v) := by
  cases v with
  | array items => exact (h items rfl).map Value.array
  | _ => exact .refl _

namespace Expression

variable {env : Environment}

theorem eval_unary_extendedBy (function : UnaryFunction) {new arg : Expression}
    (h : ExtendedBy (arg.eval env) (new.eval env)) :
    ExtendedBy ((unary function arg).eval env) ((unary function new).eval env) := by
  rw [eval_unary, eval_unary]
  exact h.bind fun _ => .refl _

theorem eval_binary_extendedBy (function : BinaryFunction) {a b left right : Expression}
    (ha : ExtendedBy (left.eval env) (a.eval env)) (hb : ExtendedBy (right.eval env) (b.eval env)) :
    ExtendedBy ((binary function left right).eval env) ((binary function a b).eval env) := by
  rw [eval_binary, eval_binary]
  exact ha.bind fun _ => hb.bind fun _ => .refl _

theorem eval_variadic_extendedBy (function : VariadicFunction) {news args : List Expression}
    (h : List.Forall₂ (fun e new => ExtendedBy (eval e env) (eval new env)) args news) :
    ExtendedBy ((variadic function args).eval env) ((variadic function news).eval env) := by
  rw [eval_variadic, eval_variadic]
  exact (ExtendedBy.mapM h).bind fun _ => .refl _

theorem eval_array_extendedBy {news items : List Expression}
    (h : List.Forall₂ (fun e new => ExtendedBy (eval e env) (eval new env)) items news) :
    ExtendedBy ((array items).eval env) ((array news).eval env) := by
  rw [eval_array, eval_array]
  exact (ExtendedBy.mapM h).map _

theorem eval_document_extendedBy {news fields : List (String × Expression)}
    (h : List.Forall₂ (fun field new => new.1 = field.1 ∧
      ExtendedBy (eval field.2 env) (eval new.2 env)) fields news) :
    ExtendedBy ((document fields).eval env) ((document news).eval env) := by
  rw [eval_document, eval_document]
  refine ExtendedBy.map _ (.mapM (h.imp fun field new hfield => ?_))
  rw [hfield.1]
  exact hfield.2.map _

theorem eval_getField_extendedBy (name : String) {new input : Expression}
    (h : ExtendedBy (input.eval env) (new.eval env)) :
    ExtendedBy ((getField name input).eval env) ((getField name new).eval env) := by
  rw [eval_getField, eval_getField]
  exact h.map _

/-- A condition is only evaluated for the items of the input. -/
theorem eval_filter_extendedBy {name : String} {a b input condition : Expression}
    (ha : ExtendedBy (input.eval env) (a.eval env))
    (hb : ∀ items, input.eval env = .ok (.array items) → ∀ item ∈ items,
      ExtendedBy (condition.eval (env.bind name item)) (b.eval (env.bind name item))) :
    ExtendedBy ((filter input name condition).eval env) ((filter a name b).eval env) := by
  rw [eval_filter, eval_filter]
  refine ha.bind_of_eq_ok fun v hv => overItems_extendedBy "$filter" ?_
  rintro items rfl
  exact keepItems_extendedBy fun item hitem => (hb items hv item hitem).map _

theorem eval_map_extendedBy {name : String} {a b input body : Expression}
    (ha : ExtendedBy (input.eval env) (a.eval env))
    (hb : ∀ items, input.eval env = .ok (.array items) → ∀ item ∈ items,
      ExtendedBy (body.eval (env.bind name item)) (b.eval (env.bind name item))) :
    ExtendedBy ((map input name body).eval env) ((map a name b).eval env) := by
  rw [eval_map, eval_map]
  refine ha.bind_of_eq_ok fun v hv => overItems_extendedBy "$map" ?_
  rintro items rfl
  exact .mapM (List.forall₂_same.mpr fun item hitem => hb items hv item hitem)

end Expression

end DocQuery
