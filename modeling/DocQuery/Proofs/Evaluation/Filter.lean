import DocQuery.Evaluation.Filter
import DocQuery.Proofs.Outcome
import DocQuery.Revision.Simplify

/-!
# The meaning of combined filters

Conjunctions and disjunctions look at their operands in order and stop at the first decision, so
operands can be grouped freely, but not exchanged: an operand that fails counts only if it is
reached.

## Main definitions

* `Filter.decided` — the outcome of operands in order, of a conjunction or a disjunction.

## Main results

* `Filter.holds_not`, `Filter.holds_nor`, `Operation.holds_not` — negation of the outcome.
* `Filter.decided_append` — operands can be grouped.
* `Filter.decided_spread` — a nested operand can give its own operands.
* `Filter.decided_congr` — operands can be replaced.
-/

namespace DocQuery

/-- The outcome of a test turned round; an error stays. -/
def negated (outcome : Except EvalError Bool) : Except EvalError Bool :=
  (!·) <$> outcome

@[simp] theorem negated_ok (b : Bool) : negated (.ok b) = .ok (!b) := rfl

@[simp] theorem negated_error (e : EvalError) : negated (.error e) = .error e := rfl

@[simp] theorem negated_negated (outcome : Except EvalError Bool) :
    negated (negated outcome) = outcome := by
  cases outcome with
  | error e => rfl
  | ok b => cases b <;> rfl

theorem bind_return_not (outcome : Except EvalError Bool) :
    (do return !(← outcome)) = negated outcome := by
  cases outcome <;> rfl

namespace Filter

@[simp] theorem holds_field (target : Target) (operation : Operation) (d : Value) :
    (field target operation).holds d = operation.holds (target.values d) := rfl

/-- The outcome of operands that are looked at in order, up to the first one with the outcome
`stop`: that of a conjunction if this is false, that of a disjunction if it is true. -/
def decided (stop : Bool) (fs : List Filter) (d : Value) : Except EvalError Bool :=
  if stop then someHolds fs d else allHold fs d

@[simp] theorem holds_and (args : List Filter) (d : Value) :
    (and args).holds d = decided false args d := rfl

@[simp] theorem holds_or (args : List Filter) (d : Value) :
    (or args).holds d = decided true args d := rfl

@[simp] theorem holds_nor (args : List Filter) (d : Value) :
    (nor args).holds d = negated (decided true args d) := by
  rw [← bind_return_not]
  rfl

@[simp] theorem holds_not (f : Filter) (d : Value) : (not f).holds d = negated (f.holds d) := by
  rw [← bind_return_not]
  rfl

/-! ### Operands in order -/

@[simp] theorem decided_nil (stop : Bool) (d : Value) : decided stop [] d = .ok !stop := by
  cases stop <;> rfl

theorem decided_cons (stop : Bool) (f : Filter) (fs : List Filter) (d : Value) :
    decided stop (f :: fs) d
      = (f.holds d >>= fun b => if b = stop then .ok stop else decided stop fs d) := by
  cases stop with
  | false =>
    show (f.holds d >>= fun b => if b then allHold fs d else .ok false) = _
    refine congrArg _ (funext fun b => ?_)
    cases b <;> rfl
  | true =>
    show (f.holds d >>= fun b => if b then .ok true else someHolds fs d) = _
    refine congrArg _ (funext fun b => ?_)
    cases b <;> rfl

@[simp] theorem decided_singleton (stop : Bool) (f : Filter) (d : Value) :
    decided stop [f] d = f.holds d := by
  rw [decided_cons, decided_nil]
  cases f.holds d with
  | error e => rfl
  | ok b => cases b <;> cases stop <;> rfl

theorem decided_append (stop : Bool) (fs gs : List Filter) (d : Value) :
    decided stop (fs ++ gs) d
      = (decided stop fs d >>= fun b => if b = stop then .ok stop else decided stop gs d) := by
  induction fs with
  | nil => cases stop <;> rfl
  | cons f fs ih =>
    rw [List.cons_append, decided_cons, decided_cons, ih]
    cases f.holds d with
    | error e => rfl
    | ok b => cases b <;> cases stop <;> rfl

/-- An operand and the operands that it is spread to are a conjunction of the same outcome. -/
theorem decided_conjuncts (f : Filter) (d : Value) :
    decided false (f.conjuncts?.getD [f]) d = f.holds d := by
  cases f with
  | and args => exact (holds_and args d).symm
  | _ => exact decided_singleton false _ d

/-- An operand and the operands that it is spread to are a disjunction of the same outcome. -/
theorem decided_disjuncts (f : Filter) (d : Value) :
    decided true (f.disjuncts?.getD [f]) d = f.holds d := by
  cases f with
  | or args => exact (holds_or args d).symm
  | _ => exact decided_singleton true _ d

theorem decided_spread {stop : Bool} {operands? : Filter → Option (List Filter)} {d : Value}
    (h : ∀ f, decided stop ((operands? f).getD [f]) d = f.holds d) (fs : List Filter) :
    decided stop (spread operands? fs) d = decided stop fs d := by
  induction fs with
  | nil => rfl
  | cons f fs ih =>
    rw [spread, List.flatMap_cons, decided_append, h, decided_cons]
    exact congrArg _ (funext fun b => by rw [← ih, spread])

/-- Operands can be replaced by others with the same outcomes. -/
theorem decided_congr {stop : Bool} {fs gs : List Filter} {d : Value}
    (h : List.Forall₂ (fun f g => g.holds d = f.holds d) fs gs) :
    decided stop gs d = decided stop fs d := by
  induction h with
  | nil => rfl
  | cons hf _ ih => rw [decided_cons, decided_cons, hf, ih]

end Filter

/-- A test can be replaced by another one with the same outcome for each value. -/
theorem anyHolds_congr {test test' : Value → Except EvalError Bool} {values : List Value}
    (h : ∀ v ∈ values, test' v = test v) : anyHolds test' values = anyHolds test values := by
  induction values with
  | nil => rfl
  | cons v vs ih =>
    rw [anyHolds, anyHolds, h v List.mem_cons_self, ih fun u hu => h u (List.mem_cons_of_mem v hu)]

namespace Operation

@[simp] theorem holds_not (operation : Operation) (values : List Value) :
    (not operation).holds values = negated (operation.holds values) := by
  rw [← bind_return_not]
  rfl

@[simp] theorem holds_elemMatch (f : Filter) (values : List Value) :
    (elemMatch f).holds values = anyHolds f.holds (itemsOfAll values) := rfl

/-- The opposite operation has the opposite outcome. -/
theorem holds_of_opposite? {operation opposite : Operation}
    (h : operation.opposite? = some opposite) (values : List Value) :
    opposite.holds values = negated (operation.holds values) := by
  cases operation with
  | compare comparison expected =>
    cases comparison <;> cases h <;> simp [holds, Comparison.test]
  | isIn expected =>
    cases h
    simp [holds]
  | notIn expected =>
    cases h
    simp [holds]
  | _ => cases h

end Operation

/-- A test of the negated operation has the outcome of the negated test. -/
theorem Filter.holds_field_not (target : Target) (operation : Operation) (d : Value) :
    (field target (.not operation)).holds d = (not (field target operation)).holds d := by
  rw [holds_field, Operation.holds_not, holds_not, holds_field]

end DocQuery
