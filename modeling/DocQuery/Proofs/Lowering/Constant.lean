import DocQuery.Lowering.Condition
import DocQuery.Proofs.Outcome

/-!
# Constants in lowered expressions

An expression with a value at compile time is lowered to that constant, and it names no field.

## Main results

* `fold_operand`, `fold_operands` — what a folded operation is folded from.
* `lowerValue_of_fold` — a constant is lowered to its value.
* `resolveField_of_fold` — a constant names no field.
-/

namespace DocQuery

variable {context : Context} {e : Expr} {value : Value}

/-! ### What is folded -/

theorem fold_root (context : Context) : fold context .root = .ok none := rfl

theorem fold_element (context : Context) : fold context .element = .ok none := rfl

theorem fold_access (context : Context) (object key : Expr) :
    fold context (.access object key) = .ok none := rfl

theorem fold_call (context : Context) (object : Expr) (method : String) (args : List Expr) :
    fold context (.call object method args) = .ok none := rfl

/-- The value of a binary operation, if both operands have one. -/
theorem fold_binary (context : Context) (op : BinaryOperator) (left right : Expr) :
    fold context (.binary op left right)
      = (do
        if !Constant.isArithmetic op then return none
        match ← fold context left with
        | none => return none
        | some a =>
          match ← fold context right with
          | none => return none
          | some b => settle (.binary op left right) (Constant.operate op a b)) := rfl

theorem fold_array (context : Context) (elements : List Expr) :
    fold context (.array elements)
      = (do return (← foldAll context elements).map .array) := rfl

theorem settle_eq_ok {result : Except Reason Value} (h : settle e result = .ok (some value)) :
    result = .ok value := by
  cases result with
  | error reason => cases h
  | ok value' =>
    cases h
    rfl

theorem fold_unary {op : UnaryOperator} (h : fold context e = .ok none) :
    fold context (.unary op e) = .ok none := by
  show (fold context e >>= _) = _
  rw [h]
  rfl

theorem fold_binary_of_not_isArithmetic {op : BinaryOperator}
    (h : Constant.isArithmetic op = false) (left right : Expr) :
    fold context (.binary op left right) = .ok none := by
  rw [fold_binary, h]
  rfl

theorem fold_binary_of_left {op : BinaryOperator} {left : Expr} (h : fold context left = .ok none)
    (right : Expr) : fold context (.binary op left right) = .ok none := by
  rw [fold_binary, h]
  cases Constant.isArithmetic op <;> rfl

theorem fold_binary_of_right {op : BinaryOperator} {left right : Expr}
    (h : fold context left = .ok (some value)) (h' : fold context right = .ok none) :
    fold context (.binary op left right) = .ok none := by
  rw [fold_binary, h, ok_bind, h']
  cases Constant.isArithmetic op <;> rfl

/-- The operand of a folded operation is folded, and a negation negates its value. -/
theorem fold_operand {op : UnaryOperator} (h : fold context (.unary op e) = .ok (some value)) :
    ∃ a, fold context e = .ok (some a) ∧ (op = .negate → Constant.negate a = .ok value) := by
  obtain ⟨found, hfound, h⟩ := bind_eq_ok_iff.mp h
  cases found with
  | none => cases h
  | some a =>
    refine ⟨a, hfound, fun hop => ?_⟩
    subst hop
    exact settle_eq_ok h

/-- Both operands of a folded operation are folded, and it is done with their values. -/
theorem fold_operands {op : BinaryOperator} {left right : Expr}
    (h : fold context (.binary op left right) = .ok (some value)) :
    ∃ a b, fold context left = .ok (some a) ∧ fold context right = .ok (some b)
      ∧ Constant.operate op a b = .ok value := by
  cases hop : Constant.isArithmetic op with
  | false =>
    rw [fold_binary_of_not_isArithmetic hop] at h
    cases h
  | true =>
    rw [fold_binary, hop] at h
    obtain ⟨found, hleft, h⟩ := bind_eq_ok_iff.mp h
    cases found with
    | none => cases h
    | some a =>
      obtain ⟨found, hright, h⟩ := bind_eq_ok_iff.mp h
      cases found with
      | none => cases h
      | some b => exact ⟨a, b, hleft, hright, settle_eq_ok h⟩

theorem foldInteger_eq_some_iff {n : Int64} :
    foldInteger context e = .ok (some n) ↔ fold context e = .ok (some (.int n)) := by
  rw [foldInteger, bind_eq_ok_iff]
  constructor
  · rintro ⟨found, hfound, h⟩
    rw [hfound]
    split at h
    · cases h
    · cases h
      rfl
    · cases h
  · intro h
    exact ⟨_, h, rfl⟩

theorem foldInteger_of_fold {found : Option Int64} (h : fold context e = .ok (some value))
    (hfound : foldInteger context e = .ok found) : ∃ n, value = .int n ∧ found = some n := by
  rw [foldInteger, h, ok_bind] at hfound
  split at hfound
  · next heq => cases heq
  · next n heq =>
    cases heq
    cases hfound
    exact ⟨n, rfl, rfl⟩
  · cases hfound

/-- An array of expressions that are folded is folded. -/
theorem fold_array_of_folds {elements : List Expr}
    (h : ∀ e ∈ elements, ∃ value, fold context e = .ok (some value)) :
    ∃ values, fold context (.array elements) = .ok (some (.array values)) := by
  have hall : ∃ values, foldAll context elements = .ok (some values) := by
    induction elements with
    | nil => exact ⟨[], rfl⟩
    | cons e es ih =>
      obtain ⟨⟨value, hvalue⟩, hrest⟩ := List.forall_mem_cons.mp h
      obtain ⟨values, hvalues⟩ := ih hrest
      refine ⟨value :: values, ?_⟩
      rw [foldAll, hvalue, ok_bind, hvalues]
      rfl
  obtain ⟨values, hvalues⟩ := hall
  exact ⟨values, by rw [fold_array, hvalues]; rfl⟩

/-! ### How constants are lowered -/

theorem constantOr_of_fold (h : fold context e = .ok (some value))
    (otherwise : Unit → Except LoweringError Expression) :
    constantOr context e otherwise = .ok (.constant value) := by
  rw [constantOr, h]
  rfl

theorem constantOr_of_fold_none (h : fold context e = .ok none)
    (otherwise : Unit → Except LoweringError Expression) :
    constantOr context e otherwise = otherwise () := by
  rw [constantOr, h]
  rfl

theorem lowerValue_of_fold (bound : Bool) (h : fold context e = .ok (some value)) :
    lowerValue context bound e = .ok (.constant value) := by
  unfold lowerValue
  split <;> exact constantOr_of_fold h _

theorem chain?_of_fold (h : fold context e = .ok (some value)) : e.chain? = none := by
  cases e with
  | root => simp [fold_root] at h
  | element => simp [fold_element] at h
  | access object key => simp [fold_access] at h
  | _ => rfl

theorem resolveField_of_fold (scope : Scope) (h : fold context e = .ok (some value)) :
    resolveField scope e = none := by
  unfold resolveField
  rw [chain?_of_fold h]
  cases scope <;> rfl

end DocQuery
