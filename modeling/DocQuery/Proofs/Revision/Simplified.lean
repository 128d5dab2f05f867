import DocQuery.Proofs.Outcome
import DocQuery.Revision.Simplify

/-!
# The simplified tree

Revision keeps apart a node that stays and a new node that is equal to it.  What the simplified tree
means does not depend on this, so here the two are put together: the simplified tree is the one
that simplification resolves to.  Its equations say that a node is simplified by simplifying what
is inside it and then taking one step at the top.

## Main definitions

* `Expression.simplified`, `Filter.simplified`, `Operation.simplified` — the simplified trees.
* `Expression.stepped`, `Filter.stepped`, `Operation.stepped` — the trees after one step.

## Main results

* `Expression.simplified_variadic`, `Filter.simplified_and`, … — the equations, one for each
  constructor.
-/

namespace DocQuery

open Revised

/-! ### Trees that revisions resolve to -/

/-- The tree that a revision of `old` resolves to, unless the revision fails. -/
def resolved {α : Type} (old : α) (r : Except ArgumentError (Revised α)) :
    Except ArgumentError α :=
  (·.resolve old) <$> r

@[simp] theorem resolved_ok {α : Type} (old : α) (r : Revised α) :
    resolved old (.ok r) = .ok (r.resolve old) := rfl

@[simp] theorem resolved_error {α : Type} (old : α) (e : ArgumentError) :
    resolved old (.error e) = .error e := rfl

/-- A node is first resolved to what it is rebuilt to, and that is then resolved by the step. -/
theorem resolved_thenStep {α : Type} (step : α → Except ArgumentError (Revised α)) (node : α)
    (rebuilt : Except ArgumentError (Revised α)) :
    resolved node (thenStep step node rebuilt)
      = (resolved node rebuilt >>= fun new => resolved new (step new)) := by
  cases rebuilt with
  | error e => rfl
  | ok r =>
    simp only [resolved, thenStep, bind, Except.bind, Functor.map, Except.map, pure, Except.pure]
    cases step (r.resolve node) with
    | error e => rfl
    | ok s => cases s <;> rfl

/-- The rebuilding of a combination from revisions of its operands. -/
theorem resolved_updateAll {α : Type} {make : List α → α} {make? : List α → Except ArgumentError α}
    (hmake : ∀ args, args ≠ [] → make? args = .ok (make args)) {args : List α}
    {rs : List (Revised α)} (hlength : rs.length = args.length) :
    resolved (make args)
        (if keepAll args.length rs then .ok .kept else renew (make? (resolveAll args rs)))
      = .ok (make (resolveAll args rs)) := by
  split
  · next h =>
    rw [resolveAll_of_keepAll h]
    rfl
  · next h =>
    -- without operands there is nothing that could have changed
    have hne : args ≠ [] := by
      rintro rfl
      rw [List.length_nil, List.length_eq_zero_iff] at hlength
      subst hlength
      exact h rfl
    rw [hmake _ (resolveAll_ne_nil hlength hne)]
    rfl

/-- Nodes are revised one by one. -/
theorem mapM_resolved {α : Type} (revise : α → Except ArgumentError (Revised α)) (olds : List α) :
    (olds.mapM fun old => resolved old (revise old)) = resolveAll olds <$> olds.mapM revise := by
  simp only [resolved]
  rw [mapM_map_eq_zipWith]
  cases hrs : olds.mapM revise with
  | error e => rfl
  | ok rs =>
    rw [map_ok, map_ok, resolveAll_eq_zipWith (mapM_eq_ok_iff.mp hrs).length_eq.symm]

/-- The same for named nodes, which keep their names. -/
theorem mapM_resolved_named {α : Type} (revise : α → Except ArgumentError (Revised α))
    (olds : List (String × α)) :
    (olds.mapM fun old => (old.1, ·) <$> resolved old.2 (revise old.2))
      = resolveNamed olds <$> olds.mapM fun old => revise old.2 := by
  simp only [resolved, Functor.map_map]
  rw [mapM_map_eq_zipWith]
  exact congrArg (· <$> _) (funext fun _ => resolveNamed_eq_zipWith.symm)

/-! ### Operands -/

namespace Expression

@[simp] theorem argsOf?_variadic (function : VariadicFunction) (args : List Expression) :
    argsOf? function (variadic function args) = some args :=
  if_pos rfl

theorem argsOf?_eq_some_iff {function : VariadicFunction} {e : Expression}
    {args : List Expression} :
    argsOf? function e = some args ↔ e = variadic function args := by
  constructor
  · intro h
    cases e with
    | variadic f as =>
      rw [argsOf?] at h
      split at h
      · next hf => rw [← Option.some.inj h, hf]
      · cases h
    | _ => cases h
  · rintro rfl
    exact argsOf?_variadic function args

theorem integer?_eq_some_iff {e : Expression} {n : Int64} :
    e.integer? = some n ↔ e = .constant (.int n) := by
  constructor
  · intro h
    cases e with
    | constant v =>
      cases v with
      | number m =>
        cases m with
        | int k =>
          rw [← Option.some.inj h]
          rfl
        | _ => cases h
      | _ => cases h
    | _ => cases h
  · rintro rfl
    rfl

end Expression

theorem Filter.conjuncts?_eq_some_iff {f : Filter} {args : List Filter} :
    f.conjuncts? = some args ↔ f = .and args := by
  constructor
  · intro h
    cases f <;> cases h
    rfl
  · rintro rfl
    rfl

theorem Filter.disjuncts?_eq_some_iff {f : Filter} {args : List Filter} :
    f.disjuncts? = some args ↔ f = .or args := by
  constructor
  · intro h
    cases f <;> cases h
    rfl
  · rintro rfl
    rfl

/-! ### Spread operands -/

theorem spread_of_not_isNested {α : Type} {operands? : α → Option (List α)} {args : List α}
    (h : isNested operands? args = false) : spread operands? args = args := by
  induction args with
  | nil => rfl
  | cons a as ih =>
    rw [isNested, List.any_cons, Bool.or_eq_false_iff] at h
    obtain ⟨hhead, htail⟩ := h
    have hnone : operands? a = none := by simpa using hhead
    rw [spread] at ih ⊢
    rw [List.flatMap_cons, hnone, Option.getD_none, ih htail]
    rfl

/-- What holds of operands and of the operands that they have holds of those that they are spread
to. -/
theorem forall_mem_spread_of_forall_mem {α : Type} {operands? : α → Option (List α)} {p : α → Prop}
    (hp : ∀ a as, p a → operands? a = some as → ∀ b ∈ as, p b) {args : List α}
    (hargs : ∀ a ∈ args, p a) : ∀ a ∈ spread operands? args, p a := by
  intro b hb
  rw [spread, List.mem_flatMap] at hb
  obtain ⟨a, ha, hba⟩ := hb
  cases h : operands? a with
  | none =>
    rw [h, Option.getD_none, List.mem_singleton] at hba
    exact hba ▸ hargs a ha
  | some as =>
    rw [h, Option.getD_some] at hba
    exact hp a as (hargs a ha) h b hba

/-- If there are operands, and each that has operands has one, then so do those that they are spread
to. -/
theorem forall_mem_spread {α : Type} {operands? : α → Option (List α)} {p : α → Prop}
    (hp : ∀ a as, p a → operands? a = some as → as ≠ [] ∧ ∀ b ∈ as, p b) {args : List α}
    (hargs : args ≠ [] ∧ ∀ a ∈ args, p a) :
    spread operands? args ≠ [] ∧ ∀ a ∈ spread operands? args, p a := by
  obtain ⟨hne, hall⟩ := hargs
  constructor
  · intro hnil
    obtain ⟨a, ha⟩ := List.exists_mem_of_ne_nil args hne
    rw [spread, List.flatMap_eq_nil_iff] at hnil
    have hempty := hnil a ha
    cases h : operands? a with
    | none =>
      rw [h] at hempty
      cases hempty
    | some as =>
      rw [h, Option.getD_some] at hempty
      exact (hp a as (hall a ha) h).1 hempty
  · exact forall_mem_spread_of_forall_mem (fun a as ha h => (hp a as ha h).2) hall

/-! ### Checks of rebuilt nodes -/

theorem checked_eq {α : Type} (result : Except ArgumentError α) :
    (Reviser.checked result : Except ArgumentError α) = result := by
  cases result <;> rfl

theorem Expression.variadic?_of_ne_nil (function : VariadicFunction) (args : List Expression)
    (h : args ≠ []) : Expression.variadic? function args = .ok (.variadic function args) := by
  cases args with
  | nil => exact absurd rfl h
  | cons a as => rfl

theorem Filter.and?_of_ne_nil (args : List Filter) (h : args ≠ []) :
    Filter.and? args = .ok (.and args) := by
  cases args with
  | nil => exact absurd rfl h
  | cons a as => rfl

theorem Filter.or?_of_ne_nil (args : List Filter) (h : args ≠ []) :
    Filter.or? args = .ok (.or args) := by
  cases args with
  | nil => exact absurd rfl h
  | cons a as => rfl

theorem Filter.nor?_of_ne_nil (args : List Filter) (h : args ≠ []) :
    Filter.nor? args = .ok (.nor args) := by
  cases args with
  | nil => exact absurd rfl h
  | cons a as => rfl

/-! ### Expressions -/

namespace Expression

/-- The expression after one step at the top. -/
def stepped (e : Expression) : Except ArgumentError Expression :=
  resolved e (simplerExpression e)

/-- The expression simplified everywhere. -/
def simplified (e : Expression) : Except ArgumentError Expression :=
  resolved e (simplifier.reviseExpression e)

@[simp] theorem simplified_constant (value : Value) :
    (constant value).simplified = .ok (.constant value) := rfl

@[simp] theorem simplified_field (scope : Option String) (path : String) :
    (field scope path).simplified = .ok (.field scope path) := rfl

@[simp] theorem simplified_var (name : String) : (var name).simplified = .ok (.var name) := rfl

/-- The simplification of a node takes the step once the node is rebuilt. -/
private theorem simplified_eq {e : Expression} {rebuilt : Except ArgumentError (Revised Expression)}
    (h : simplifier.reviseExpression e = thenStep simplerExpression e rebuilt) :
    e.simplified = (resolved e rebuilt >>= stepped) := by
  rw [simplified, h, resolved_thenStep]
  rfl

/-- Rebuilding a node with one part. -/
private theorem resolved_one (make : Expression → Expression) (part : Expression) :
    resolved (make part) (do return (← simplifier.reviseExpression part).map make)
      = (do return make (← part.simplified)) := by
  unfold simplified resolved
  cases simplifier.reviseExpression part with
  | error e => rfl
  | ok r => exact congrArg Except.ok (resolve_map make part r)

/-- Rebuilding a node with two parts. -/
private theorem resolved_two (make : Expression → Expression → Expression)
    (left right : Expression) :
    resolved (make left right)
        (do
          let a ← simplifier.reviseExpression left
          return both make left right a (← simplifier.reviseExpression right))
      = (do
        let a ← left.simplified
        return make a (← right.simplified)) := by
  unfold simplified resolved
  cases simplifier.reviseExpression left with
  | error e => rfl
  | ok r =>
    cases simplifier.reviseExpression right with
    | error e => rfl
    | ok s => exact congrArg Except.ok (resolve_both make left right r s)

theorem simplified_unary (function : UnaryFunction) (arg : Expression) :
    (unary function arg).simplified
      = (do stepped (.unary function (← arg.simplified))) := by
  rw [simplified_eq rfl, resolved_one]
  cases arg.simplified <;> rfl

theorem simplified_binary (function : BinaryFunction) (left right : Expression) :
    (binary function left right).simplified
      = (do
        let a ← left.simplified
        stepped (.binary function a (← right.simplified))) := by
  rw [simplified_eq rfl, resolved_two]
  cases left.simplified with
  | error e => rfl
  | ok a => cases right.simplified <;> rfl

theorem simplified_getField (name : String) (input : Expression) :
    (getField name input).simplified
      = (do stepped (.getField name (← input.simplified))) := by
  rw [simplified_eq rfl, resolved_one]
  cases input.simplified <;> rfl

theorem simplified_filter (input : Expression) (name : String) (condition : Expression) :
    (filter input name condition).simplified
      = (do
        let a ← input.simplified
        stepped (.filter a name (← condition.simplified))) := by
  rw [simplified_eq rfl, resolved_two (.filter · name ·)]
  cases input.simplified with
  | error e => rfl
  | ok a => cases condition.simplified <;> rfl

theorem simplified_map (input : Expression) (name : String) (body : Expression) :
    (map input name body).simplified
      = (do
        let a ← input.simplified
        stepped (.map a name (← body.simplified))) := by
  rw [simplified_eq rfl, resolved_two (.map · name ·)]
  cases input.simplified with
  | error e => rfl
  | ok a => cases body.simplified <;> rfl

theorem reviseFields_eq_mapM (fields : List (String × Expression)) :
    simplifier.reviseFields fields
      = fields.mapM fun field => simplifier.reviseExpression field.2 := by
  induction fields with
  | nil => rfl
  | cons field fields ih => rw [Reviser.reviseFields, List.mapM_cons, ih]

theorem reviseExpressions_eq_mapM (es : List Expression) :
    simplifier.reviseExpressions es = es.mapM simplifier.reviseExpression := by
  induction es with
  | nil => rfl
  | cons e es ih => rw [Reviser.reviseExpressions, List.mapM_cons, ih]

/-- There are as many revisions as expressions. -/
private theorem length_of_reviseExpressions {es : List Expression} {rs : List (Revised Expression)}
    (h : simplifier.reviseExpressions es = .ok rs) : rs.length = es.length := by
  rw [reviseExpressions_eq_mapM] at h
  exact (mapM_eq_ok_iff.mp h).length_eq.symm

/-- Expressions are simplified one by one. -/
theorem mapM_simplified (es : List Expression) :
    es.mapM simplified = resolveAll es <$> simplifier.reviseExpressions es := by
  rw [reviseExpressions_eq_mapM]
  exact mapM_resolved simplifier.reviseExpression es

/-- Named expressions are simplified one by one. -/
theorem mapM_simplified_named (fields : List (String × Expression)) :
    (fields.mapM fun field => (field.1, ·) <$> field.2.simplified)
      = resolveNamed fields <$> simplifier.reviseFields fields := by
  rw [reviseFields_eq_mapM]
  exact mapM_resolved_named simplifier.reviseExpression fields

theorem simplified_variadic (function : VariadicFunction) (args : List Expression) :
    (variadic function args).simplified
      = (do stepped (.variadic function (← args.mapM simplified))) := by
  rw [simplified_eq rfl, mapM_simplified]
  cases hrs : simplifier.reviseExpressions args with
  | error e => rfl
  | ok rs =>
    rw [ok_bind, checked_eq]
    exact congrArg (· >>= stepped)
      (resolved_updateAll (variadic?_of_ne_nil function) (length_of_reviseExpressions hrs))

theorem simplified_array (items : List Expression) :
    (array items).simplified = (do stepped (.array (← items.mapM simplified))) := by
  rw [simplified_eq rfl, mapM_simplified]
  cases simplifier.reviseExpressions items with
  | error e => rfl
  | ok rs =>
    have hitems : (updateItems items rs).resolve (array items) = array (resolveAll items rs) :=
      resolve_ite_keepAll array
    exact congrArg stepped hitems

theorem simplified_document (fields : List (String × Expression)) :
    (document fields).simplified
      = (do
        stepped (.document
          (← fields.mapM fun field => (field.1, ·) <$> field.2.simplified))) := by
  rw [simplified_eq rfl, mapM_simplified_named]
  cases simplifier.reviseFields fields with
  | error e => rfl
  | ok rs =>
    have hfields : (updateFields fields rs).resolve (document fields)
        = document (resolveNamed fields rs) :=
      resolve_ite_keepAll_named document
    exact congrArg stepped hfields

end Expression

/-! ### Filters and operations -/

/-- The operation after one step at the top. -/
def Operation.stepped (operation : Operation) : Except ArgumentError Operation :=
  resolved operation (simplerOperation operation)

/-- The operation simplified everywhere. -/
def Operation.simplified (operation : Operation) : Except ArgumentError Operation :=
  resolved operation (simplifier.reviseOperation operation)

namespace Filter

/-- The filter after one step at the top. -/
def stepped (f : Filter) : Except ArgumentError Filter :=
  resolved f (simplerFilter f)

/-- The filter simplified everywhere. -/
def simplified (f : Filter) : Except ArgumentError Filter :=
  resolved f (simplifier.reviseFilter f)

private theorem simplified_eq {f : Filter} {rebuilt : Except ArgumentError (Revised Filter)}
    (h : simplifier.reviseFilter f = thenStep simplerFilter f rebuilt) :
    f.simplified = (resolved f rebuilt >>= stepped) := by
  rw [simplified, h, resolved_thenStep]
  rfl

theorem simplified_field (target : Target) (operation : Operation) :
    (field target operation).simplified
      = (do stepped (.field target (← operation.simplified))) := by
  rw [simplified_eq rfl, Operation.simplified]
  cases simplifier.reviseOperation operation with
  | error e => rfl
  | ok r => exact congrArg stepped (resolve_map (field target) operation r)

theorem simplified_not (f : Filter) :
    (not f).simplified = (do stepped (.not (← f.simplified))) := by
  rw [simplified_eq rfl, simplified]
  cases simplifier.reviseFilter f with
  | error e => rfl
  | ok r => exact congrArg stepped (resolve_map not f r)

theorem simplified_expr (e : Expression) :
    (expr e).simplified = (do stepped (.expr (← e.simplified))) := by
  rw [simplified_eq rfl, Expression.simplified]
  cases simplifier.reviseExpression e with
  | error e => rfl
  | ok r => exact congrArg stepped (resolve_map expr e r)

theorem reviseFilters_eq_mapM (fs : List Filter) :
    simplifier.reviseFilters fs = fs.mapM simplifier.reviseFilter := by
  induction fs with
  | nil => rfl
  | cons f fs ih => rw [Reviser.reviseFilters, List.mapM_cons, ih]

/-- A combination is rebuilt from its simplified operands and then takes a step. -/
private theorem simplified_combination {make : List Filter → Filter}
    {make? : List Filter → Except ArgumentError Filter}
    (hmake : ∀ args, args ≠ [] → make? args = .ok (make args)) {args : List Filter}
    (h : simplifier.reviseFilter (make args) = thenStep simplerFilter (make args) (do
      Reviser.checked (Filter.updateArgs make? args (← simplifier.reviseFilters args)))) :
    (make args).simplified = (do stepped (make (← args.mapM simplified))) := by
  rw [simplified_eq h, reviseFilters_eq_mapM]
  have hargs : args.mapM simplified = resolveAll args <$> args.mapM simplifier.reviseFilter :=
    mapM_resolved simplifier.reviseFilter args
  rw [hargs]
  cases hrs : args.mapM simplifier.reviseFilter with
  | error e => rfl
  | ok rs =>
    rw [ok_bind, checked_eq]
    exact congrArg (· >>= stepped)
      (resolved_updateAll hmake (mapM_eq_ok_iff.mp hrs).length_eq.symm)

theorem simplified_and (args : List Filter) :
    (and args).simplified = (do stepped (.and (← args.mapM simplified))) :=
  simplified_combination and?_of_ne_nil rfl

theorem simplified_or (args : List Filter) :
    (or args).simplified = (do stepped (.or (← args.mapM simplified))) :=
  simplified_combination or?_of_ne_nil rfl

theorem simplified_nor (args : List Filter) :
    (nor args).simplified = (do stepped (.nor (← args.mapM simplified))) :=
  simplified_combination nor?_of_ne_nil rfl

end Filter

namespace Operation

private theorem simplified_eq {operation : Operation}
    {rebuilt : Except ArgumentError (Revised Operation)}
    (h : simplifier.reviseOperation operation = thenStep simplerOperation operation rebuilt) :
    operation.simplified = (resolved operation rebuilt >>= stepped) := by
  rw [simplified, h, resolved_thenStep]
  rfl

theorem simplified_elemMatch (f : Filter) :
    (elemMatch f).simplified = (do stepped (.elemMatch (← f.simplified))) := by
  rw [simplified_eq rfl, Filter.simplified]
  cases simplifier.reviseFilter f with
  | error e => rfl
  | ok r => exact congrArg stepped (resolve_map elemMatch f r)

theorem simplified_not (operation : Operation) :
    (not operation).simplified = (do stepped (.not (← operation.simplified))) := by
  rw [simplified_eq rfl, simplified]
  cases simplifier.reviseOperation operation with
  | error e => rfl
  | ok r => exact congrArg stepped (resolve_map not operation r)

/-- An operation without parts is simple already. -/
theorem simplified_plain {operation : Operation} (h : ∀ f, operation ≠ .elemMatch f)
    (h' : ∀ negated, operation ≠ .not negated) : operation.simplified = .ok operation := by
  cases operation with
  | elemMatch f => exact absurd rfl (h f)
  | not negated => exact absurd rfl (h' negated)
  | _ => rfl

end Operation

/-! ### Entries of projections -/

/-- Revision makes no entry anew that only names a path, so those that it leaves as they are it has
kept. -/
theorem Projection.allUnchanged_eq_keepAll {entries : List Projection}
    {rs : List (Revised Projection)}
    (h : List.Forall₂ (fun entry r => simplifier.reviseProjection entry = .ok r) entries rs) :
    allUnchanged entries rs = keepAll entries.length rs := by
  have hentry {entry : Projection} {r : Revised Projection}
      (h : simplifier.reviseProjection entry = .ok r) : entry.isUnchanged r = r.isKept := by
    cases entry with
    | compute path value =>
      obtain ⟨s, -, rfl⟩ := map_eq_ok_iff.mp h
      cases s <;> rfl
    | _ =>
      cases h
      rfl
  rw [keepAll, h.length_eq, beq_self_eq_true, Bool.true_and]
  induction h with
  | nil => rfl
  | cons hr _ ih => rw [allUnchanged, hentry hr, ih, List.all_cons]

end DocQuery
