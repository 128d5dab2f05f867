import DocQuery.Proofs.Pipeline.WellFormed
import DocQuery.Proofs.Revision.Simplified

/-!
# The steps of simplification

What a step can make of a well-formed node, case by case.  A step on such a node does not fail, and
the node that it makes is well formed.

## Main definitions

* `Expression.Steps`, `Operation.Steps`, `Filter.Steps` — the nodes that a step leads to.

## Main results

* `Expression.stepped_eq_ok`, `Operation.stepped_eq_ok`, `Filter.stepped_eq_ok` — a step does not
  fail, and leads to one of these nodes.
* `Expression.Steps.wellFormed`, `Operation.Steps.wellFormed`, `Filter.Steps.wellFormed` — they are
  well formed.
-/

namespace DocQuery

open Revised

/-! ### Expressions -/

namespace Expression

/-- A step leads from the first expression to the second one. -/
inductive Steps : Expression → Expression → Prop where
  | same (e : Expression) : Steps e e
  /-- The value of a sum or a product of constants. -/
  | computed {function : VariadicFunction} {args : List Expression} {n : Int64}
    (h : function.constant? (spread (argsOf? function) args) = some n) :
    Steps (.variadic function args) (.constant (.int n))
  | flattened {function : VariadicFunction} (args : List Expression)
    (h : function.isAssociative = true) :
    Steps (.variadic function args) (.variadic function (spread (argsOf? function) args))
  /-- The value of a difference of constants. -/
  | subtracted {left right : Expression} {a b n : Int64} (hleft : left.integer? = some a)
    (hright : right.integer? = some b) (h : signed64? (a.toInt - b.toInt) = some n) :
    Steps (.binary .subtract left right) (.constant (.int n))

/-- Spread operands are there and are well formed. -/
theorem wellFormed_spread {function : VariadicFunction} {args : List Expression}
    (hw : (variadic function args).wellFormed = true) :
    spread (argsOf? function) args ≠ [] ∧
      ∀ e ∈ spread (argsOf? function) args, e.wellFormed = true := by
  refine forall_mem_spread (fun e es he hes => ?_) ((wellFormed_variadic function args).mp hw)
  rw [argsOf?_eq_some_iff.mp hes] at he
  exact (wellFormed_variadic function es).mp he

theorem Steps.wellFormed {old new : Expression} (h : Steps old new) (hw : old.wellFormed = true) :
    new.wellFormed = true := by
  cases h with
  | same => exact hw
  | computed => rfl
  | flattened args => exact (wellFormed_variadic _ _).mpr (wellFormed_spread hw)
  | subtracted => rfl

private theorem stepped_variadic_eq_ok {function : VariadicFunction} {args : List Expression}
    (hw : (variadic function args).wellFormed = true) :
    ∃ new, (variadic function args).stepped = .ok new ∧ Steps (variadic function args) new := by
  rw [stepped, simplerExpression]
  split
  · next hassociative =>
    dsimp only
    -- a constant is looked for among the spread arguments, so it comes before the spreading
    cases hconstant : function.constant? (spread (argsOf? function) args) with
    | some n => exact ⟨_, rfl, .computed hconstant⟩
    | none =>
      dsimp only
      split
      · rw [variadic?_of_ne_nil function _ (wellFormed_spread hw).1]
        exact ⟨_, rfl, .flattened args hassociative⟩
      · exact ⟨_, rfl, .same _⟩
  · exact ⟨_, rfl, .same _⟩

private theorem stepped_subtract_eq_ok (left right : Expression) :
    ∃ new, (binary .subtract left right).stepped = .ok new ∧
      Steps (binary .subtract left right) new := by
  cases hdifference : (do signed64? ((← left.integer?).toInt - (← right.integer?).toInt)) with
  | none =>
    refine ⟨_, ?_, .same _⟩
    rw [stepped, simplerExpression, hdifference]
    rfl
  | some n =>
    obtain ⟨a, ha, hrest⟩ := Option.bind_eq_some_iff.mp hdifference
    obtain ⟨b, hb, hn⟩ := Option.bind_eq_some_iff.mp hrest
    refine ⟨constant (.int n), ?_, .subtracted ha hb hn⟩
    rw [stepped, simplerExpression, hdifference]
    rfl

theorem stepped_eq_ok {e : Expression} (hw : e.wellFormed = true) :
    ∃ new, e.stepped = .ok new ∧ Steps e new := by
  cases e with
  | variadic function args => exact stepped_variadic_eq_ok hw
  | binary function left right =>
    cases function with
    | subtract => exact stepped_subtract_eq_ok left right
    | _ => exact ⟨_, rfl, .same _⟩
  | _ => exact ⟨_, rfl, .same _⟩

end Expression

/-! ### Operations -/

namespace Operation

/-- A step leads from the first operation to the second one. -/
inductive Steps : Operation → Operation → Prop where
  | same (operation : Operation) : Steps operation operation
  | twiceNegated (operation : Operation) : Steps (.not (.not operation)) operation
  | opposite {operation opposite : Operation} (h : operation.opposite? = some opposite) :
    Steps (.not operation) opposite

/-- What the opposite of an operation is. -/
theorem opposite?_cases {operation opposite : Operation}
    (h : operation.opposite? = some opposite) :
    (∃ comparison value, opposite = .compare comparison value) ∨
      (∃ values, opposite = .isIn values) ∨ ∃ values, opposite = .notIn values := by
  cases operation with
  | compare comparison value =>
    obtain ⟨negated, -, rfl⟩ := Option.map_eq_some_iff.mp h
    exact .inl ⟨negated, value, rfl⟩
  | isIn values =>
    cases h
    exact .inr (.inr ⟨values, rfl⟩)
  | notIn values =>
    cases h
    exact .inr (.inl ⟨values, rfl⟩)
  | _ => cases h

theorem wellFormed_opposite {operation opposite : Operation}
    (h : operation.opposite? = some opposite) : opposite.wellFormed = true := by
  obtain ⟨_, _, rfl⟩ | ⟨_, rfl⟩ | ⟨_, rfl⟩ := opposite?_cases h
  all_goals rfl

theorem Steps.wellFormed {old new : Operation} (h : Steps old new) (hw : old.wellFormed = true) :
    new.wellFormed = true := by
  cases h with
  | same => exact hw
  | twiceNegated => exact hw
  | opposite hopposite => exact wellFormed_opposite hopposite

theorem stepped_eq_ok (operation : Operation) :
    ∃ new, operation.stepped = .ok new ∧ Steps operation new := by
  rw [stepped, simplerOperation.eq_def]
  split
  · exact ⟨_, rfl, .twiceNegated _⟩
  · split
    · next hopposite => exact ⟨_, rfl, .opposite hopposite⟩
    · exact ⟨_, rfl, .same _⟩
  · exact ⟨_, rfl, .same _⟩

end Operation

/-! ### Filters -/

namespace Filter

/-- A step leads from the first filter to the second one. -/
inductive Steps : Filter → Filter → Prop where
  | same (f : Filter) : Steps f f
  | singleConjunct (f : Filter) : Steps (.and [f]) f
  | conjuncts (args : List Filter) : Steps (.and args) (.and (spread conjuncts? args))
  | singleDisjunct (f : Filter) : Steps (.or [f]) f
  | disjuncts (args : List Filter) : Steps (.or args) (.or (spread disjuncts? args))
  | twiceNegated (f : Filter) : Steps (.not (.not f)) f
  | notOr (args : List Filter) : Steps (.not (.or args)) (.nor args)
  | notNor (args : List Filter) : Steps (.not (.nor args)) (.or args)
  /-- The negation of a test is negated. -/
  | negatedTest (target : Target) (operation : Operation) :
    Steps (.not (.field target (.not operation))) (.field target operation)
  | opposite (target : Target) {operation opposite : Operation}
    (h : operation.opposite? = some opposite) :
    Steps (.not (.field target operation)) (.field target opposite)

/-- Spread conjuncts are there and are well formed. -/
theorem wellFormed_spread_conjuncts {args : List Filter} (hw : (and args).wellFormed = true) :
    spread conjuncts? args ≠ [] ∧ ∀ f ∈ spread conjuncts? args, f.wellFormed = true := by
  refine forall_mem_spread (fun f fs hf hfs => ?_) ((wellFormed_and args).mp hw)
  rw [conjuncts?_eq_some_iff.mp hfs] at hf
  exact (wellFormed_and fs).mp hf

/-- Spread disjuncts are there and are well formed. -/
theorem wellFormed_spread_disjuncts {args : List Filter} (hw : (or args).wellFormed = true) :
    spread disjuncts? args ≠ [] ∧ ∀ f ∈ spread disjuncts? args, f.wellFormed = true := by
  refine forall_mem_spread (fun f fs hf hfs => ?_) ((wellFormed_or args).mp hw)
  rw [disjuncts?_eq_some_iff.mp hfs] at hf
  exact (wellFormed_or fs).mp hf

theorem Steps.wellFormed {old new : Filter} (h : Steps old new) (hw : old.wellFormed = true) :
    new.wellFormed = true := by
  cases h with
  | same => exact hw
  | singleConjunct => exact ((wellFormed_and _).mp hw).2 _ List.mem_cons_self
  | conjuncts args => exact (wellFormed_and _).mpr (wellFormed_spread_conjuncts hw)
  | singleDisjunct => exact ((wellFormed_or _).mp hw).2 _ List.mem_cons_self
  | disjuncts args => exact (wellFormed_or _).mpr (wellFormed_spread_disjuncts hw)
  | twiceNegated => exact hw
  | notOr args => exact (wellFormed_nor args).mpr ((wellFormed_or args).mp hw)
  | notNor args => exact (wellFormed_or args).mpr ((wellFormed_nor args).mp hw)
  | negatedTest => exact hw
  | opposite target hopposite =>
    exact (wellFormed_field _ _).mpr
      ⟨((wellFormed_field _ _).mp hw).1, Operation.wellFormed_opposite hopposite⟩

/-- A combination steps to its single operand, or to one with spread operands. -/
private theorem stepped_combination_eq_ok {make : List Filter → Filter}
    {make? : List Filter → Except ArgumentError Filter} {operands? : Filter → Option (List Filter)}
    (hmake : ∀ args, args ≠ [] → make? args = .ok (make args)) {args : List Filter}
    (hsingle : ∀ f, Steps (make [f]) f) (hspread : Steps (make args) (make (spread operands? args)))
    (hne : spread operands? args ≠ []) :
    ∃ new, resolved (make args) (simplerCombination make? operands? args) = .ok new ∧
      Steps (make args) new := by
  unfold simplerCombination
  split
  · exact ⟨_, rfl, hsingle _⟩
  · split
    · rw [hmake _ hne]
      exact ⟨_, rfl, hspread⟩
    · exact ⟨_, rfl, .same _⟩

private theorem stepped_not_eq_ok {f : Filter} (hw : f.wellFormed = true) :
    ∃ new, (not f).stepped = .ok new ∧ Steps (not f) new := by
  rw [stepped, simplerFilter, simplerNot.eq_def]
  split
  · exact ⟨_, rfl, .twiceNegated _⟩
  · next args =>
    rw [nor?_of_ne_nil args ((wellFormed_or args).mp hw).1]
    exact ⟨_, rfl, .notOr args⟩
  · next args =>
    rw [or?_of_ne_nil args ((wellFormed_nor args).mp hw).1]
    exact ⟨_, rfl, .notNor args⟩
  · exact ⟨_, rfl, .negatedTest _ _⟩
  · split
    · next hopposite => exact ⟨_, rfl, .opposite _ hopposite⟩
    · exact ⟨_, rfl, .same _⟩
  · exact ⟨_, rfl, .same _⟩

theorem stepped_eq_ok {f : Filter} (hw : f.wellFormed = true) :
    ∃ new, f.stepped = .ok new ∧ Steps f new := by
  cases f with
  | and args =>
    exact stepped_combination_eq_ok and?_of_ne_nil .singleConjunct (.conjuncts args)
      (wellFormed_spread_conjuncts hw).1
  | or args =>
    exact stepped_combination_eq_ok or?_of_ne_nil .singleDisjunct (.disjuncts args)
      (wellFormed_spread_disjuncts hw).1
  | not f => exact stepped_not_eq_ok hw
  | _ => exact ⟨_, rfl, .same _⟩

end Filter

end DocQuery
