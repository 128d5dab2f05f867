import DocQuery.Proofs.Pipeline.Children
import DocQuery.Proofs.Pipeline.Induction
import DocQuery.Proofs.Revision.Simplified

/-!
# What simplification keeps

A node is normal if it is none of those that simplification has a rule for.  This is said here of the
node and what stands directly below it, and not by what a step makes of it.  A pipeline is kept as it
is, and not just replaced by an equal one, exactly if all its nodes are normal.

## Main definitions

* `Operation.isNormal`, `Filter.isNormal`, `Expression.isNormal`, `Node.isNormal` — normal nodes.
* `Node.AllNormal` — all of some nodes are normal.

## Main results

* `simplerOperation_eq_kept_iff`, `simplerFilter_eq_kept_iff`, `simplerExpression_eq_kept_iff` — a
  node is normal exactly if no step at its top changes it.
* `Pipeline.simplify_eq_kept_iff` — **a pipeline is kept exactly if all its nodes are normal.**
-/

namespace DocQuery

open Revised

/-! ### Normal nodes -/

/-- The negation of the operation can be written without one. -/
def Operation.takesNegation : Operation → Bool
  | .not _ => true
  | .compare .eq _ => true
  | .compare .ne _ => true
  | .isIn _ => true
  | .notIn _ => true
  | _ => false

/-- The negation of the filter can be written without one. -/
def Filter.takesNegation : Filter → Bool
  | .field _ operation => operation.takesNegation
  | .not _ => true
  | .or _ => true
  | .nor _ => true
  | .and _ => false
  | .expr _ => false

/-- The operation is not the negation of one that takes it. -/
def Operation.isNormal : Operation → Bool
  | .not operation => !operation.takesNegation
  | _ => true

/-- The operands are not a single one, and none of them is of the given kind. -/
def Filter.areFlat (kind : NodeKind) (args : List Filter) : Bool :=
  args.length != 1 && args.all (·.kind != kind)

/-- The filter is not the negation of one that takes it, and neither a conjunction or disjunction of
a single filter nor one that stands over another one. -/
def Filter.isNormal : Filter → Bool
  | .and args => areFlat .andFilter args
  | .or args => areFlat .orFilter args
  | .not filter => !filter.takesNegation
  | _ => true

/-- The expression applies the function. -/
def Expression.applies (function : VariadicFunction) : Expression → Bool
  | .variadic f _ => f == function
  | _ => false

/-- The expression is not one over constants whose value is known, and not an associative function
over itself. -/
def Expression.isNormal : Expression → Bool
  | .variadic function args =>
    !function.isAssociative || args.all (!·.applies function) && (function.constant? args).isNone
  | .binary .subtract left right =>
    match left.integer?, right.integer? with
    | some a, some b => (signed64? (a.toInt - b.toInt)).isNone
    | _, _ => true
  | _ => true

/-- Stages and accumulators are normal whatever is in them. -/
def Node.isNormal : Node → Bool
  | .stage _ => true
  | .filter f => f.isNormal
  | .operation o => o.isNormal
  | .expression e => e.isNormal
  | .accumulator _ => true

/-! ### Steps that keep a node -/

theorem renew_ne_kept {α : Type} (result : Except ArgumentError α) : renew result ≠ .ok .kept := by
  cases result <;> nofun

theorem simplerOperation_eq_kept_iff {operation : Operation} :
    simplerOperation operation = .ok .kept ↔ operation.isNormal = true := by
  cases operation with
  | not operation =>
    cases operation with
    | compare comparison value => cases comparison <;> simp [simplerOperation, Operation.opposite?,
        Comparison.negated?, Operation.isNormal, Operation.takesNegation]
    | _ => simp [simplerOperation, Operation.opposite?, Operation.isNormal, Operation.takesNegation]
  | _ => simp [simplerOperation, Operation.isNormal]

/-- Operands of a kind are those that have operands of that kind. -/
theorem isNested_eq_false_iff {operands? : Filter → Option (List Filter)} {kind : NodeKind}
    (h : ∀ f, (operands? f).isSome = (f.kind == kind)) {args : List Filter} :
    isNested operands? args = false ↔ args.all (·.kind != kind) = true := by
  rw [isNested, List.any_eq_false, List.all_eq_true]
  refine forall₂_congr fun f _ => ?_
  rw [h f]
  simp

theorem simplerCombination_eq_kept_iff {combine : List Filter → Except ArgumentError Filter}
    {operands? : Filter → Option (List Filter)} {kind : NodeKind}
    (h : ∀ f, (operands? f).isSome = (f.kind == kind)) {args : List Filter} :
    simplerCombination combine operands? args = .ok .kept ↔ Filter.areFlat kind args = true := by
  rw [Filter.areFlat, Bool.and_eq_true, ← isNested_eq_false_iff h, simplerCombination.eq_def]
  split
  · simp
  · next hsingle =>
    have hlength : (args.length != 1) = true :=
      bne_iff_ne.mpr fun hone => (List.length_eq_one_iff.mp hone).elim hsingle
    cases hnested : isNested operands? args with
    | true => simp [renew_ne_kept]
    | false => simp [hlength]

theorem simplerNot_eq_kept_iff {f : Filter} :
    simplerNot f = .ok .kept ↔ f.takesNegation = false := by
  cases f with
  | field target operation =>
    cases operation with
    | compare comparison value => cases comparison <;> simp [simplerNot, Operation.opposite?,
        Comparison.negated?, Filter.takesNegation, Operation.takesNegation]
    | _ => simp [simplerNot, Operation.opposite?, Filter.takesNegation, Operation.takesNegation]
  | _ => simp [simplerNot, Filter.takesNegation, renew_ne_kept]

theorem simplerFilter_eq_kept_iff {f : Filter} :
    simplerFilter f = .ok .kept ↔ f.isNormal = true := by
  cases f with
  | and args => exact simplerCombination_eq_kept_iff fun f => by cases f <;> rfl
  | or args => exact simplerCombination_eq_kept_iff fun f => by cases f <;> rfl
  | not f =>
    rw [simplerFilter, simplerNot_eq_kept_iff]
    simp [Filter.isNormal]
  | _ => simp [simplerFilter, Filter.isNormal]

theorem isNested_argsOf?_eq_false_iff {function : VariadicFunction} {args : List Expression} :
    isNested (Expression.argsOf? function) args = false
      ↔ args.all (!·.applies function) = true := by
  rw [isNested, List.any_eq_false, List.all_eq_true]
  refine forall₂_congr fun e _ => ?_
  cases e with
  | variadic f args =>
    by_cases h : f = function <;> simp [Expression.argsOf?, Expression.applies, h]
  | _ => simp [Expression.argsOf?, Expression.applies]

theorem simplerExpression_eq_kept_iff {e : Expression} :
    simplerExpression e = .ok .kept ↔ e.isNormal = true := by
  cases e with
  | variadic function args =>
    rw [simplerExpression, Expression.isNormal]
    cases function.isAssociative with
    | false => simp
    | true =>
      rw [if_pos rfl, Bool.not_true, Bool.false_or, Bool.and_eq_true,
        ← isNested_argsOf?_eq_false_iff]
      dsimp only
      cases hnested : isNested (Expression.argsOf? function) args with
      | true =>
        cases function.constant? (spread (Expression.argsOf? function) args) <;>
          simp [renew_ne_kept]
      | false =>
        rw [spread_of_not_isNested hnested]
        cases function.constant? args <;> simp
  | binary function left right =>
    cases function with
    | subtract =>
      rw [simplerExpression, Expression.isNormal]
      cases left.integer? with
      | none => simp
      | some a =>
        cases right.integer? with
        | none => simp
        | some b => cases hdifference : signed64? (a.toInt - b.toInt) <;> simp [hdifference]
    | _ => simp [simplerExpression, Expression.isNormal]
  | _ => simp [simplerExpression, Expression.isNormal]

/-! ### Revisions that keep a node -/

section Kept

variable {α β γ : Type}

/-- A node is kept if it is rebuilt as it is and the step keeps it. -/
theorem thenStep_eq_kept_iff {step : α → Except ArgumentError (Revised α)} {node : α}
    {rebuilt : Except ArgumentError (Revised α)} :
    thenStep step node rebuilt = .ok .kept ↔ rebuilt = .ok .kept ∧ step node = .ok .kept := by
  cases rebuilt with
  | error e => simp [thenStep]
  | ok r =>
    cases r with
    | kept =>
      simp only [thenStep, ok_bind, resolve_kept, true_and]
      cases step node with
      | error e => simp
      | ok s => cases s <;> simp
    | changed new =>
      simp only [thenStep, ok_bind, resolve_changed]
      cases step new with
      | error e => simp
      | ok s => cases s <;> simp

theorem map_eq_kept_iff {f : α → β} {x : Except ArgumentError (Revised α)} :
    (do return (← x).map f) = .ok .kept ↔ x = .ok .kept := by
  cases x with
  | error e => simp
  | ok r => cases r <;> simp [Revised.map]

theorem both_eq_kept_iff {f : α → β → γ} {a : α} {b : β} {x : Except ArgumentError (Revised α)}
    {y : Except ArgumentError (Revised β)} :
    (do
        let r ← x
        return both f a b r (← y)) = .ok .kept ↔ x = .ok .kept ∧ y = .ok .kept := by
  cases x with
  | error e => simp
  | ok r =>
    cases y with
    | error e => simp
    | ok s => cases r <;> cases s <;> simp [both]

/-- All nodes are kept if each of them is. -/
theorem keepAll_iff_of_mapM_eq_ok {f : α → Except ArgumentError (Revised β)} {olds : List α}
    {rs : List (Revised β)} (h : olds.mapM f = .ok rs) :
    keepAll olds.length rs = true ↔ ∀ old ∈ olds, f old = .ok .kept := by
  have hall := mapM_eq_ok_iff.mp h
  rw [keepAll_iff_forall hall.length_eq.symm]
  constructor
  · exact fun hkept =>
      forall_mem_of_forall₂_of_forall_mem hall.flip hkept fun r old hr hr' => hr' ▸ hr
  · refine fun hkept => forall_mem_of_forall₂_of_forall_mem hall hkept fun old r hr hold => ?_
    rw [hr] at hold
    exact Except.ok.inj hold

/-- A node with any number of parts is rebuilt as it is if each of them is kept. -/
theorem mapM_eq_kept_iff {f : α → Except ArgumentError (Revised β)} {olds : List α}
    {rebuild : List (Revised β) → Except ArgumentError (Revised γ)}
    (h : ∀ rs, olds.mapM f = .ok rs →
      (rebuild rs = .ok .kept ↔ keepAll olds.length rs = true)) :
    (olds.mapM f >>= rebuild) = .ok .kept ↔ ∀ old ∈ olds, f old = .ok .kept := by
  cases hrs : olds.mapM f with
  | error e =>
    refine ⟨nofun, fun hkept => ?_⟩
    obtain ⟨rs, hrs', -⟩ := exists_mapM_eq_ok (r := fun _ _ => True) fun old hold =>
      ⟨Revised.kept, hkept old hold, trivial⟩
    rw [hrs] at hrs'
    cases hrs'
  | ok rs => rw [ok_bind, h rs hrs, keepAll_iff_of_mapM_eq_ok hrs]

/-- The same for a node that is rebuilt as it is, or made anew, by the revisions of its parts. -/
theorem mapM_renew_eq_kept_iff {f : α → Except ArgumentError (Revised β)} {olds : List α}
    {make : List (Revised β) → Except ArgumentError γ} :
    (olds.mapM f >>= fun rs => Reviser.checked
        (if keepAll olds.length rs then .ok .kept else renew (make rs))) = .ok .kept
      ↔ ∀ old ∈ olds, f old = .ok .kept := by
  refine mapM_eq_kept_iff fun rs _ => ?_
  rw [checked_eq]
  split
  · next h => simp [h]
  · next h => simp [renew_ne_kept, h]

/-- The same if making it anew needs no checks. -/
theorem mapM_changed_eq_kept_iff {f : α → Except ArgumentError (Revised β)} {olds : List α}
    {make : List (Revised β) → γ} :
    (olds.mapM f >>= fun rs =>
        .ok (if keepAll olds.length rs then .kept else .changed (make rs)))
        = (.ok .kept : Except ArgumentError (Revised γ))
      ↔ ∀ old ∈ olds, f old = .ok .kept := by
  refine mapM_eq_kept_iff fun rs _ => ?_
  split
  · next h => simp [h]
  · next h => simp [h]

end Kept

/-! ### Trees that are kept -/

namespace Node

/-- All of the nodes are normal. -/
def AllNormal (nodes : List Node) : Prop :=
  ∀ node ∈ nodes, node.isNormal = true

theorem allNormal_cons {node : Node} {nodes : List Node} :
    AllNormal (node :: nodes) ↔ node.isNormal = true ∧ AllNormal nodes :=
  List.forall_mem_cons

theorem allNormal_append {front nodes : List Node} :
    AllNormal (front ++ nodes) ↔ AllNormal front ∧ AllNormal nodes :=
  List.forall_mem_append

end Node

open Node (AllNormal allNormal_cons allNormal_append)

namespace Expression

private theorem revise_eq_kept_iff_of_rebuilt {e : Expression} {parts : List Node}
    {rebuilt : Except ArgumentError (Revised Expression)}
    (h : simplifier.reviseExpression e = thenStep simplerExpression e rebuilt)
    (hnodes : e.nodes = .expression e :: parts) (hparts : rebuilt = .ok .kept ↔ AllNormal parts) :
    simplifier.reviseExpression e = .ok .kept ↔ AllNormal e.nodes := by
  rw [h, thenStep_eq_kept_iff, hparts, simplerExpression_eq_kept_iff, hnodes, allNormal_cons,
    and_comm]
  rfl

/-- An expression is kept exactly if all its nodes are normal. -/
theorem revise_eq_kept_iff (e : Expression) :
    simplifier.reviseExpression e = .ok .kept ↔ AllNormal e.nodes := by
  induction e using Expression.induction with
  | constant value =>
    exact revise_eq_kept_iff_of_rebuilt rfl rfl ⟨fun _ => List.forall_mem_nil _, fun _ => rfl⟩
  | field scope path =>
    exact revise_eq_kept_iff_of_rebuilt rfl rfl ⟨fun _ => List.forall_mem_nil _, fun _ => rfl⟩
  | var name =>
    exact revise_eq_kept_iff_of_rebuilt rfl rfl ⟨fun _ => List.forall_mem_nil _, fun _ => rfl⟩
  | unary function arg ih =>
    exact revise_eq_kept_iff_of_rebuilt rfl rfl (map_eq_kept_iff.trans ih)
  | binary function left right ihl ihr =>
    refine revise_eq_kept_iff_of_rebuilt rfl rfl ?_
    exact (both_eq_kept_iff.trans (and_congr ihl ihr)).trans allNormal_append.symm
  | variadic function args ih =>
    refine revise_eq_kept_iff_of_rebuilt rfl rfl ?_
    rw [reviseExpressions_eq_mapM]
    exact (mapM_renew_eq_kept_iff.trans (forall₂_congr ih)).trans forall_mem_nodesOfAll.symm
  | document fields ih =>
    refine revise_eq_kept_iff_of_rebuilt rfl rfl ?_
    rw [reviseFields_eq_mapM]
    exact (mapM_changed_eq_kept_iff.trans (forall₂_congr ih)).trans forall_mem_nodesOfFields.symm
  | array items ih =>
    refine revise_eq_kept_iff_of_rebuilt rfl rfl ?_
    rw [reviseExpressions_eq_mapM]
    exact (mapM_changed_eq_kept_iff.trans (forall₂_congr ih)).trans forall_mem_nodesOfAll.symm
  | getField name input ih =>
    exact revise_eq_kept_iff_of_rebuilt rfl rfl (map_eq_kept_iff.trans ih)
  | filter input name condition ihi ihc =>
    refine revise_eq_kept_iff_of_rebuilt rfl rfl ?_
    exact (both_eq_kept_iff.trans (and_congr ihi ihc)).trans allNormal_append.symm
  | map input name body ihi ihb =>
    refine revise_eq_kept_iff_of_rebuilt rfl rfl ?_
    exact (both_eq_kept_iff.trans (and_congr ihi ihb)).trans allNormal_append.symm

end Expression

private theorem Filter.revise_eq_kept_iff_of_rebuilt {f : Filter} {parts : List Node}
    {rebuilt : Except ArgumentError (Revised Filter)}
    (h : simplifier.reviseFilter f = thenStep simplerFilter f rebuilt)
    (hnodes : f.nodes = .filter f :: parts) (hparts : rebuilt = .ok .kept ↔ AllNormal parts) :
    simplifier.reviseFilter f = .ok .kept ↔ AllNormal f.nodes := by
  rw [h, thenStep_eq_kept_iff, hparts, simplerFilter_eq_kept_iff, hnodes, allNormal_cons, and_comm]
  rfl

private theorem Operation.revise_eq_kept_iff_of_rebuilt {operation : Operation} {parts : List Node}
    {rebuilt : Except ArgumentError (Revised Operation)}
    (h : simplifier.reviseOperation operation = thenStep simplerOperation operation rebuilt)
    (hnodes : operation.nodes = .operation operation :: parts)
    (hparts : rebuilt = .ok .kept ↔ AllNormal parts) :
    simplifier.reviseOperation operation = .ok .kept ↔ AllNormal operation.nodes := by
  rw [h, thenStep_eq_kept_iff, hparts, simplerOperation_eq_kept_iff, hnodes, allNormal_cons,
    and_comm]
  rfl

namespace Filter

/-- A combination is rebuilt as it is if its operands are kept. -/
private theorem revise_combination_eq_kept_iff {make : List Filter → Filter}
    {make? : List Filter → Except ArgumentError Filter} {args : List Filter}
    (h : simplifier.reviseFilter (make args) = thenStep simplerFilter (make args) (do
      Reviser.checked (Filter.updateArgs make? args (← simplifier.reviseFilters args))))
    (hnodes : (make args).nodes = .filter (make args) :: nodesOfAll args)
    (ih : ∀ f ∈ args, simplifier.reviseFilter f = .ok .kept ↔ AllNormal f.nodes) :
    simplifier.reviseFilter (make args) = .ok .kept ↔ AllNormal (make args).nodes := by
  refine revise_eq_kept_iff_of_rebuilt h hnodes ?_
  rw [reviseFilters_eq_mapM]
  exact (mapM_renew_eq_kept_iff.trans (forall₂_congr ih)).trans forall_mem_nodesOfAll.symm

/-- Filters and operations are kept exactly if all their nodes are normal. -/
private theorem revise_eq_kept_iff_and :
    (∀ f : Filter, simplifier.reviseFilter f = .ok .kept ↔ AllNormal f.nodes) ∧
    ∀ operation : Operation,
      simplifier.reviseOperation operation = .ok .kept ↔ AllNormal operation.nodes := by
  apply Filter.induction
  case field =>
    exact fun target operation ih =>
      revise_eq_kept_iff_of_rebuilt rfl rfl (map_eq_kept_iff.trans ih)
  case and => exact fun _ => revise_combination_eq_kept_iff rfl rfl
  case or => exact fun _ => revise_combination_eq_kept_iff rfl rfl
  case nor => exact fun _ => revise_combination_eq_kept_iff rfl rfl
  case not =>
    exact fun f ih => revise_eq_kept_iff_of_rebuilt rfl rfl (map_eq_kept_iff.trans ih)
  case expr =>
    exact fun e => revise_eq_kept_iff_of_rebuilt rfl rfl
      (map_eq_kept_iff.trans e.revise_eq_kept_iff)
  case elemMatch =>
    exact fun f ih => Operation.revise_eq_kept_iff_of_rebuilt rfl rfl (map_eq_kept_iff.trans ih)
  case negation =>
    exact fun operation ih =>
      Operation.revise_eq_kept_iff_of_rebuilt rfl rfl (map_eq_kept_iff.trans ih)
  case plain =>
    intro operation hmatch hnot
    have hrevise : simplifier.reviseOperation operation
        = thenStep simplerOperation operation (.ok .kept) := by
      cases operation with
      | elemMatch f => exact absurd rfl (hmatch f)
      | not negated => exact absurd rfl (hnot negated)
      | _ => rfl
    exact Operation.revise_eq_kept_iff_of_rebuilt hrevise (Operation.nodes_plain hmatch hnot)
      ⟨fun _ => List.forall_mem_nil _, fun _ => rfl⟩

theorem revise_eq_kept_iff (f : Filter) :
    simplifier.reviseFilter f = .ok .kept ↔ AllNormal f.nodes :=
  revise_eq_kept_iff_and.1 f

end Filter

/-! ### Stages and pipelines that are kept -/

theorem Projection.revise_eq_kept_iff (entry : Projection) :
    simplifier.reviseProjection entry = .ok .kept ↔ AllNormal entry.nodes := by
  cases entry with
  | compute path value => exact map_eq_kept_iff.trans value.revise_eq_kept_iff
  | _ => exact ⟨fun _ => nofun, fun _ => rfl⟩

theorem AccumulatorExpression.revise_eq_kept_iff (a : AccumulatorExpression) :
    simplifier.reviseAccumulator a = .ok .kept ↔ AllNormal a.nodes := by
  rw [nodes, allNormal_cons, ← a.arg.revise_eq_kept_iff]
  exact map_eq_kept_iff.trans (and_iff_right rfl).symm

namespace Stage

theorem updateFields_eq_kept_iff {fields : List (String × Expression)}
    {rs : List (Revised Expression)} (hlength : rs.length = fields.length) :
    updateFields fields rs = .ok .kept ↔ keepAll fields.length rs = true := by
  rw [updateFields, hlength, beq_self_eq_true, ensure, if_pos rfl, ok_bind, pure_eq_ok]
  split
  · next h => simp [h]
  · next h => simp [h]

theorem updateGroup_eq_kept_iff {key : Expression}
    {accumulators : List (String × AccumulatorExpression)} {k : Revised Expression}
    {rs : List (Revised AccumulatorExpression)} (hlength : rs.length = accumulators.length) :
    updateGroup key accumulators k rs = .ok .kept
      ↔ k = .kept ∧ keepAll accumulators.length rs = true := by
  rw [updateGroup, hlength, beq_self_eq_true, ensure, if_pos rfl, ok_bind, pure_eq_ok]
  cases k with
  | changed new => simp [isKept]
  | kept =>
    rw [isKept, Bool.true_and]
    split
    · next h => simp [h]
    · next h => simp [h]

private theorem revise_group_eq_kept_iff (key : Expression)
    (accumulators : List (String × AccumulatorExpression)) :
    simplifier.reviseStage (.group key accumulators) = .ok .kept
      ↔ AllNormal key.nodes ∧ ∀ a ∈ accumulators, AllNormal a.2.nodes := by
  have hupdate {k : Revised Expression} {rs : List (Revised AccumulatorExpression)}
      (h : (accumulators.mapM fun a => simplifier.reviseAccumulator a.2) = .ok rs) :
      (Reviser.checked (updateGroup key accumulators k rs) : Except ArgumentError (Revised Stage))
          = .ok .kept ↔ k = .kept ∧ keepAll accumulators.length rs = true := by
    rw [checked_eq, updateGroup_eq_kept_iff (mapM_eq_ok_iff.mp h).length_eq.symm]
  rw [← key.revise_eq_kept_iff]
  simp only [← AccumulatorExpression.revise_eq_kept_iff]
  show (simplifier.reviseExpression key >>= fun k =>
    (accumulators.mapM fun a => simplifier.reviseAccumulator a.2) >>= fun rs =>
      Reviser.checked (updateGroup key accumulators k rs)) = _ ↔ _
  constructor
  · intro h
    obtain ⟨k, hk, hrest⟩ := bind_eq_ok_iff.mp h
    obtain ⟨rs, hrs, hgroup⟩ := bind_eq_ok_iff.mp hrest
    obtain ⟨rfl, hkept⟩ := (hupdate hrs).mp hgroup
    exact ⟨hk, (keepAll_iff_of_mapM_eq_ok hrs).mp hkept⟩
  · rintro ⟨hk, haccumulators⟩
    rw [hk, ok_bind]
    exact (mapM_eq_kept_iff fun rs hrs => (hupdate hrs).trans (and_iff_right rfl)).mpr
      haccumulators

/-- A stage is kept exactly if all nodes in it are normal. -/
theorem revise_eq_kept_iff (stage : Stage) :
    simplifier.reviseStage stage = .ok .kept ↔ AllNormal stage.nodes := by
  refine Iff.trans ?_ (allNormal_cons.trans (and_iff_right rfl)).symm
  cases stage with
  | select f => exact map_eq_kept_iff.trans f.revise_eq_kept_iff
  | project entries =>
    have hentries := (forall₂_congr fun entry (_ : entry ∈ entries) =>
      entry.revise_eq_kept_iff).trans List.forall_mem_flatMap.symm
    refine Iff.trans (mapM_eq_kept_iff fun rs hrs => ?_) hentries
    rw [checked_eq, updateProjections,
      Projection.allUnchanged_eq_keepAll (mapM_eq_ok_iff.mp hrs)]
    split
    · next h => simp [h]
    · next h => simp [renew_ne_kept, h]
  | replaceRoot e => exact map_eq_kept_iff.trans e.revise_eq_kept_iff
  | addFields fields =>
    have hfields := (forall₂_congr fun field (_ : field ∈ fields) =>
      field.2.revise_eq_kept_iff).trans Expression.forall_mem_nodesOfFields.symm
    show (simplifier.reviseFields fields >>= fun rs => Reviser.checked (updateFields fields rs)) = _
      ↔ _
    rw [Expression.reviseFields_eq_mapM]
    refine Iff.trans (mapM_eq_kept_iff fun rs hrs => ?_) hfields
    rw [checked_eq, updateFields_eq_kept_iff (mapM_eq_ok_iff.mp hrs).length_eq.symm]
  | group key accumulators =>
    exact (revise_group_eq_kept_iff key accumulators).trans
      ((and_congr_right' List.forall_mem_flatMap.symm).trans allNormal_append.symm)
  | _ => exact ⟨fun _ => nofun, fun _ => rfl⟩

end Stage

/-- **A pipeline is kept exactly if all its nodes are normal.** -/
theorem Pipeline.simplify_eq_kept_iff (p : Pipeline) :
    simplify p = .ok .kept ↔ AllNormal p.nodes := by
  have hstages := (forall₂_congr fun stage (_ : stage ∈ p.stages) =>
    stage.revise_eq_kept_iff).trans List.forall_mem_flatMap.symm
  exact mapM_changed_eq_kept_iff.trans hstages

end DocQuery
