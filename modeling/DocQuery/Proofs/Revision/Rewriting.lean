import DocQuery.Proofs.Pipeline.Children
import DocQuery.Revision.Reviser

/-!
# Rewriting and rebuilding

A reviser ties the rewriting of nodes to their rebuilding: a node is rebuilt from what its children
are rewritten to, and a rule makes of the node and of this computation what the node is rewritten
to.  Rebuilding alone makes sense for rewriters of any sort, whatever they do to rewrite a node.

## Main definitions

* `Rewriter` — a computation for the nodes of each sort.
* `Rewriter.rebuildExpression`, …, `Rewriter.rebuildPipeline` — nodes rebuilt from rewritten
  children.
* `Reviser.rewriter` — the rewriter that a reviser is.
* `Rewriting` — computations of a rewriter with state, which may fail.
* `Ran` — the computation succeeds.

## Main results

* `Reviser.rulesOver` — a reviser rewrites a node by its rule, over the rebuilding of the node.
-/

namespace DocQuery

/-! ### Rewriters -/

/-- What nodes of each sort are rewritten to, whatever is done for it. -/
structure Rewriter (m : Type → Type) where
  stage : Stage → m (Revised Stage)
  filter : Filter → m (Revised Filter)
  operation : Operation → m (Revised Operation)
  expression : Expression → m (Revised Expression)
  accumulator : AccumulatorExpression → m (Revised AccumulatorExpression)

namespace Rewriter

variable {m : Type → Type} [Monad m] [MonadExceptOf ArgumentError m]

open Reviser (checked)

/-- The expression from its rewritten children. -/
def rebuildExpression (w : Rewriter m) : Expression → m (Revised Expression)
  | .constant _ => pure .kept
  | .field _ _ => pure .kept
  | .var _ => pure .kept
  | .unary function arg => return (← w.expression arg).map (.unary function)
  | .binary function left right => do
    let a ← w.expression left
    return Revised.both (.binary function) left right a (← w.expression right)
  | .variadic function args => do
    checked (Expression.updateArgs function args (← args.mapM w.expression))
  | .document fields =>
    return Expression.updateFields fields (← fields.mapM fun field => w.expression field.2)
  | .array items => return Expression.updateItems items (← items.mapM w.expression)
  | .getField name input => return (← w.expression input).map (.getField name)
  | .filter input name condition => do
    let a ← w.expression input
    return Revised.both (.filter · name ·) input condition a (← w.expression condition)
  | .map input name body => do
    let a ← w.expression input
    return Revised.both (.map · name ·) input body a (← w.expression body)

/-- The accumulator from its rewritten argument. -/
def rebuildAccumulator (w : Rewriter m) (a : AccumulatorExpression) :
    m (Revised AccumulatorExpression) :=
  return a.update (← w.expression a.arg)

/-- The filter from its rewritten children. -/
def rebuildFilter (w : Rewriter m) : Filter → m (Revised Filter)
  | .field target operation => return (← w.operation operation).map (.field target)
  | .and args => do checked (Filter.updateArgs Filter.and? args (← args.mapM w.filter))
  | .or args => do checked (Filter.updateArgs Filter.or? args (← args.mapM w.filter))
  | .nor args => do checked (Filter.updateArgs Filter.nor? args (← args.mapM w.filter))
  | .not filter => return (← w.filter filter).map .not
  | .expr e => return (← w.expression e).map .expr

/-- The operation from its rewritten child. -/
def rebuildOperation (w : Rewriter m) : Operation → m (Revised Operation)
  | .elemMatch filter => return (← w.filter filter).map .elemMatch
  | .not operation => return (← w.operation operation).map .not
  | _ => pure .kept

/-- The entry of a projection from its rewritten value. -/
def rebuildProjection (w : Rewriter m) : Projection → m (Revised Projection)
  | .keep _ => pure .kept
  | .drop _ => pure .kept
  | .compute path value => return (← w.expression value).map (.compute path)

/-- The stage from its rewritten children. -/
def rebuildStage (w : Rewriter m) : Stage → m (Revised Stage)
  | .select filter => return (← w.filter filter).map .select
  | .project entries => do
    checked (Stage.updateProjections entries (← entries.mapM w.rebuildProjection))
  | .replaceRoot e => return (← w.expression e).map .replaceRoot
  | .addFields fields => do
    checked (Stage.updateFields fields (← fields.mapM fun field => w.expression field.2))
  | .group key accumulators => do
    let k ← w.expression key
    let rs ← accumulators.mapM fun a => w.accumulator a.2
    checked (Stage.updateGroup key accumulators k rs)
  | _ => pure .kept

/-- The pipeline from its rewritten stages. -/
def rebuildPipeline (w : Rewriter m) (p : Pipeline) : m (Revised Pipeline) :=
  return p.update (← p.stages.mapM w.stage)

/-- What a node of any sort is rewritten to. -/
def rewriteNode (w : Rewriter m) : Node → m (Revised Node)
  | .stage s => return (← w.stage s).map .stage
  | .filter f => return (← w.filter f).map .filter
  | .operation o => return (← w.operation o).map .operation
  | .expression e => return (← w.expression e).map .expression
  | .accumulator a => return (← w.accumulator a).map .accumulator

/-- A node of any sort from its rewritten children. -/
def rebuildNode (w : Rewriter m) : Node → m (Revised Node)
  | .stage s => return (← w.rebuildStage s).map .stage
  | .filter f => return (← w.rebuildFilter f).map .filter
  | .operation o => return (← w.rebuildOperation o).map .operation
  | .expression e => return (← w.rebuildExpression e).map .expression
  | .accumulator a => return (← w.rebuildAccumulator a).map .accumulator

end Rewriter

/-! ### Revisers -/

namespace Reviser

variable {m : Type → Type} [Monad m] [MonadExceptOf ArgumentError m]

/-- The rewriter that a reviser is. -/
def rewriter (r : Reviser m) : Rewriter m :=
  ⟨r.reviseStage, r.reviseFilter, r.reviseOperation, r.reviseExpression, r.reviseAccumulator⟩

/-- The reviser rewrites each node by its rule, which is given the rebuilding of the node. -/
structure RulesOver (r : Reviser m) : Prop where
  stage : ∀ s, r.reviseStage s = r.stage s (r.rewriter.rebuildStage s)
  filter : ∀ f, r.reviseFilter f = r.filter f (r.rewriter.rebuildFilter f)
  operation : ∀ o, r.reviseOperation o = r.operation o (r.rewriter.rebuildOperation o)
  expression : ∀ e, r.reviseExpression e = r.expression e (r.rewriter.rebuildExpression e)
  accumulator : ∀ a, r.reviseAccumulator a = r.accumulator a (r.rewriter.rebuildAccumulator a)
  pipeline : ∀ p, r.revisePipeline p = r.rewriter.rebuildPipeline p

theorem reviseProjection_eq (r : Reviser m) :
    r.reviseProjection = r.rewriter.rebuildProjection := by
  funext entry
  cases entry <;> rfl

variable [LawfulMonad m] (r : Reviser m)

theorem reviseExpressions_eq (es : List Expression) :
    r.reviseExpressions es = es.mapM r.reviseExpression := by
  induction es with
  | nil => rw [reviseExpressions, List.mapM_nil]
  | cons e es ih => rw [reviseExpressions, List.mapM_cons, ih]

theorem reviseFields_eq (fields : List (String × Expression)) :
    r.reviseFields fields = fields.mapM fun field => r.reviseExpression field.2 := by
  induction fields with
  | nil => rw [reviseFields, List.mapM_nil]
  | cons field fields ih => rw [reviseFields, List.mapM_cons, ih]

theorem reviseFilters_eq (fs : List Filter) :
    r.reviseFilters fs = fs.mapM r.reviseFilter := by
  induction fs with
  | nil => rw [reviseFilters, List.mapM_nil]
  | cons f fs ih => rw [reviseFilters, List.mapM_cons, ih]

theorem rulesOver : r.RulesOver where
  stage s := by
    cases s with
    | project entries =>
      rw [reviseStage, reviseProjection_eq]
      rfl
    | addFields fields =>
      rw [reviseStage, reviseFields_eq]
      rfl
    | _ => rfl
  filter f := by
    cases f with
    | and args =>
      rw [reviseFilter, reviseFilters_eq]
      rfl
    | or args =>
      rw [reviseFilter, reviseFilters_eq]
      rfl
    | nor args =>
      rw [reviseFilter, reviseFilters_eq]
      rfl
    | _ => rfl
  operation o := by cases o <;> rfl
  expression e := by
    cases e with
    | variadic function args =>
      rw [reviseExpression, reviseExpressions_eq]
      rfl
    | document fields =>
      rw [reviseExpression, reviseFields_eq]
      rfl
    | array items =>
      rw [reviseExpression, reviseExpressions_eq]
      rfl
    | _ => rfl
  accumulator a := rfl
  pipeline p := rfl

end Reviser

/-! ### Computations with state -/

/-- A computation of a rewriter: it may change the rewriter and it may fail. -/
abbrev Rewriting (σ α : Type) : Type :=
  ExceptT ArgumentError (StateM σ) α

/-- The computation succeeds: from one state of the rewriter to another one. -/
def Ran {σ α : Type} (x : Rewriting σ α) (s : σ) (a : α) (s' : σ) : Prop :=
  (x.run.run s).run = (.ok a, s')

namespace Ran

variable {σ α β : Type} {s s' : σ}

theorem pure_iff {a b : α} : Ran (pure a) s b s' ↔ a = b ∧ s = s' := by
  show (Except.ok a, s) = (Except.ok b, s') ↔ _
  rw [Prod.mk.injEq, Except.ok.injEq]

theorem bind_iff {x : Rewriting σ α} {f : α → Rewriting σ β} {b : β} :
    Ran (x >>= f) s b s' ↔ ∃ a mid, Ran x s a mid ∧ Ran (f a) mid b s' := by
  have hrun : ((x >>= f).run.run s).run = match (x.run.run s).run with
      | (.ok a, mid) => ((f a).run.run mid).run
      | (.error e, mid) => (.error e, mid) := by
    rw [ExceptT.run_bind, StateT.run_bind, Id.run_bind]
    rcases (x.run.run s).run with ⟨_ | _, _⟩ <;> rfl
  rw [Ran, hrun]
  rcases hx : (x.run.run s).run with ⟨_ | a, mid⟩
  · simp [Ran, hx]
  · constructor
    · exact fun h => ⟨a, mid, hx, h⟩
    · rintro ⟨_, _, ha, h⟩
      cases hx.symm.trans ha
      exact h

theorem map_iff {x : Rewriting σ α} {f : α → β} {b : β} :
    Ran (do return f (← x)) s b s' ↔ ∃ a, Ran x s a s' ∧ f a = b := by
  rw [bind_iff]
  simp only [pure_iff]
  constructor
  · rintro ⟨a, _, hx, rfl, rfl⟩
    exact ⟨a, hx, rfl⟩
  · rintro ⟨a, hx, rfl⟩
    exact ⟨a, s', hx, rfl, rfl⟩

theorem checked_iff {result : Except ArgumentError α} {a : α} :
    Ran (Reviser.checked result) s a s' ↔ result = .ok a ∧ s = s' := by
  cases result with
  | error e => exact ⟨nofun, nofun⟩
  | ok b => rw [Except.ok.injEq]; exact pure_iff

theorem mapM_nil_iff {f : α → Rewriting σ β} {bs : List β} :
    Ran ([].mapM f) s bs s' ↔ bs = [] ∧ s = s' := by
  rw [List.mapM_nil, pure_iff, eq_comm]

theorem mapM_cons_iff {f : α → Rewriting σ β} {a : α} {as : List α} {bs : List β} :
    Ran ((a :: as).mapM f) s bs s' ↔
      ∃ b mid rest, Ran (f a) s b mid ∧ Ran (as.mapM f) mid rest s' ∧ bs = b :: rest := by
  rw [List.mapM_cons, bind_iff]
  simp only [map_iff]
  constructor
  · rintro ⟨b, mid, hb, rest, hrest, rfl⟩
    exact ⟨b, mid, rest, hb, hrest, rfl⟩
  · rintro ⟨b, mid, rest, hb, hrest, rfl⟩
    exact ⟨b, mid, hb, rest, hrest, rfl⟩

theorem length_eq {f : α → Rewriting σ β} {as : List α} {bs : List β}
    (h : Ran (as.mapM f) s bs s') : bs.length = as.length := by
  induction as generalizing s bs with
  | nil =>
    rw [(mapM_nil_iff.mp h).1]
    rfl
  | cons a as ih =>
    obtain ⟨_, _, rest, _, hrest, rfl⟩ := mapM_cons_iff.mp h
    rw [List.length_cons, List.length_cons, ih hrest]

end Ran

end DocQuery
