import DocQuery.Proofs.Evaluation.Single
import DocQuery.Proofs.Lowering.Path

/-!
# Lowered comparisons

A comparison with a constant has a form of its own when the other side is a field, masked bits, a
remainder or a length, whichever side the constant stands on.  What each form is made of follows
from its having been made.

## Main definitions

* `Comparison.operator`, `Comparison.function` — what a comparison is written and computed by.
* `fieldBitTest` — the test of a field for its bits, once it is known which operand is the mask.
* `MaskTest` — a mask and a value for which there is a test.
* `compared` — a subject compared with a constant, on either side.

## Main results

* `fieldBitTest_eq_ok_iff` — which masks of a field can be tested.
* `bitTest_eq_ok`, `remainderTest_eq_ok`, `measureTest?_count_eq_ok` — what the forms are made of.
* `lowerCondition_compared` — a comparison has the form that its subject asks for.
* `lowerValue_compared` — a comparison has the value that it has on the values of its sides.
-/

namespace DocQuery

variable {context : Context} {scope : Scope} {whole : Expr} {op : BinaryOperator}

/-! ### Operators -/

/-- The operator for a comparison. -/
def Comparison.operator : Comparison → BinaryOperator
  | .eq => .equal
  | .ne => .notEqual
  | .lt => .less
  | .lte => .lessEqual
  | .gt => .greater
  | .gte => .greaterEqual

/-- The comparison that says the same of exchanged operands. -/
def Comparison.mirrored : Comparison → Comparison
  | .eq => .eq
  | .ne => .ne
  | .lt => .gt
  | .lte => .gte
  | .gt => .lt
  | .gte => .lte

/-- The function that computes a comparison. -/
def Comparison.function : Comparison → BinaryFunction
  | .eq => .eq
  | .ne => .ne
  | .lt => .lt
  | .lte => .lte
  | .gt => .gt
  | .gte => .gte

namespace Comparison

variable (comparison : Comparison)

theorem isComparison_operator : comparison.operator.isComparison = true := by
  cases comparison <;> rfl

theorem operator_ne_add : comparison.operator ≠ .add := by
  cases comparison <;> decide

theorem comparisonOf_operator : comparisonOf comparison.operator = comparison := by
  cases comparison <;> rfl

theorem swapped_operator_mirrored : comparison.mirrored.operator.swapped = comparison.operator := by
  cases comparison <;> rfl

theorem accepts_mirrored (o : Ordering) :
    comparison.mirrored.accepts o.swap = comparison.accepts o := by
  cases comparison <;> cases o <;> rfl

theorem eval_function (a b : Value) :
    comparison.function.eval a b = .ok (.bool (comparison.accepts (a.order b))) := by
  cases comparison <;> rfl

theorem binaryExpression_operator (text : Bool) (left right : Expression) :
    binaryExpression comparison.operator text left right
      = .ok (.binary comparison.function left right) := by
  cases comparison <;> rfl

end Comparison

/-! ### Fields and integers that are asked for -/

theorem requireField_eq_ok {e : Expr} {target : Target}
    (h : requireField scope e whole = .ok target) : resolveField scope e = some target := by
  rw [requireField] at h
  cases he : resolveField scope e with
  | none =>
    rw [he] at h
    cases h
  | some found =>
    rw [he] at h
    cases h
    rfl

theorem requireInteger_eq_ok {e : Expr} {reason : Reason} {n : Int64}
    (h : requireInteger context whole e reason = .ok n) : fold context e = .ok (some (.int n)) := by
  rw [requireInteger, bind_eq_ok_iff] at h
  obtain ⟨found, hfound, h⟩ := h
  cases found with
  | none => cases h
  | some k =>
    cases h
    exact foldInteger_eq_some_iff.mp hfound

theorem requireInteger_eq_ok_iff {e : Expr} {reason : Reason} {n : Int64} :
    requireInteger context whole e reason = .ok n ↔ fold context e = .ok (some (.int n)) := by
  refine ⟨requireInteger_eq_ok, fun h => ?_⟩
  rw [requireInteger, foldInteger_eq_some_iff.mpr h]
  rfl

/-! ### Forms of tests -/

section Masked

variable {p m r : Expr} {target : Target} {f : Filter}

/-- The test of a field, once it is known which operand is the mask. -/
def fieldBitTest (context : Context) (whole : Expr) (op : BinaryOperator) (target : Target)
    (m r : Expr) : Except LoweringError Filter := do
  let mask ← requireInteger context whole m .maskNotConstant
  if ¬(0 ≤ mask.toInt ∧ mask.toInt < pow2 31) then refuse whole (.maskOutOfRange mask)
  let compared ← requireInteger context whole r .comparedNotConstant
  match bitTestOf? op mask compared with
  | some test => return .field target (← liftArgument (Operation.bits? test mask))
  | none => refuse whole (.comparedNotMask mask)

theorem bitTest_of_left (hop : isEquality op = true) (hp : resolveField scope p = some target) :
    bitTest context scope whole op p m r = fieldBitTest context whole op target m r := by
  unfold bitTest
  rw [hop, hp]
  rfl

theorem bitTest_of_right (hop : isEquality op = true) (hm : resolveField scope m = none)
    (hp : resolveField scope p = some target) :
    bitTest context scope whole op m p r = fieldBitTest context whole op target m r := by
  unfold bitTest
  rw [hop, hm, hp]
  rfl

/-- A mask and a value for which there is a test. -/
structure MaskTest (context : Context) (m r : Expr) (mask compared : Int64) : Prop where
  mask_eq : fold context m = .ok (some (.int mask))
  nonneg : 0 ≤ mask.toInt
  lt : mask.toInt < pow2 31
  compared_eq : fold context r = .ok (some (.int compared))
  zero_or_mask : compared = 0 ∨ compared = mask

theorem MaskTest.bits?_eq_ok {mask compared : Int64} (h : MaskTest context m r mask compared)
    (test : BitTest) : Operation.bits? test mask = .ok (.bits test mask) := by
  simp only [Operation.bits?, ensure, h.nonneg, h.lt]
  rfl

/-- The test of bits that an equality, or its opposite, with zero or the mask asks for. -/
def maskedBits (op : BinaryOperator) (compared : Int64) : BitTest :=
  if compared = 0 then if op = .equal then .allClear else .anySet
  else if op = .equal then .allSet else .anyClear

theorem bitTestOf?_eq_some_iff {mask compared : Int64} {test : BitTest} :
    bitTestOf? op mask compared = some test
      ↔ (compared = 0 ∨ compared = mask) ∧ test = maskedBits op compared := by
  unfold bitTestOf? maskedBits
  by_cases hzero : compared = 0
  · rw [if_pos hzero, if_pos hzero, Option.some.injEq, eq_comm]
    exact (and_iff_right (.inl hzero)).symm
  · rw [if_neg hzero, if_neg hzero]
    by_cases hmask : compared = mask
    · rw [if_pos hmask, Option.some.injEq, eq_comm]
      exact (and_iff_right (.inr hmask)).symm
    · rw [if_neg hmask]
      exact iff_of_false nofun fun h => h.1.elim hzero hmask

theorem fieldBitTest_eq_ok_iff :
    fieldBitTest context whole op target m r = .ok f
      ↔ ∃ mask compared, MaskTest context m r mask compared
          ∧ f = .field target (.bits (maskedBits op compared) mask) := by
  constructor
  · intro h
    obtain ⟨mask, hmask, h⟩ := bind_eq_ok_iff.mp h
    dsimp only at h
    split at h
    · cases h
    next hrange =>
    obtain ⟨hnonneg, hlt⟩ := not_not.mp hrange
    obtain ⟨compared, hcompared, h⟩ := bind_eq_ok_iff.mp h
    split at h
    · next test htest =>
      obtain ⟨hvalue, rfl⟩ := bitTestOf?_eq_some_iff.mp htest
      simp only [Operation.bits?, bind_eq_ok_iff, liftArgument_eq_ok_iff, pure_eq_ok,
        Except.ok.injEq] at h
      obtain ⟨_, ⟨-, -, -, -, rfl⟩, rfl⟩ := h
      exact ⟨mask, compared, ⟨requireInteger_eq_ok hmask, hnonneg, hlt,
        requireInteger_eq_ok hcompared, hvalue⟩, rfl⟩
    · cases h
  · rintro ⟨mask, compared, h, rfl⟩
    have htest : bitTestOf? op mask compared = some (maskedBits op compared) :=
      bitTestOf?_eq_some_iff.mpr ⟨h.zero_or_mask, rfl⟩
    have hrange : ¬¬(0 ≤ mask.toInt ∧ mask.toInt < pow2 31) := not_not.mpr ⟨h.nonneg, h.lt⟩
    rw [fieldBitTest, requireInteger_eq_ok_iff.mpr h.mask_eq, ok_bind, if_neg hrange,
      requireInteger_eq_ok_iff.mpr h.compared_eq]
    simp only [ok_bind, htest, h.bits?_eq_ok]
    rfl

end Masked

theorem bitTest_eq_ok {a b compared : Expr} {f : Filter}
    (h : bitTest context scope whole op a b compared = .ok f) :
    ∃ target mask r test,
      (resolveField scope a = some target ∧ fold context b = .ok (some (.int mask))
        ∨ resolveField scope b = some target ∧ fold context a = .ok (some (.int mask)))
      ∧ fold context compared = .ok (some (.int r))
      ∧ bitTestOf? op mask r = some test ∧ f = .field target (.bits test mask) := by
  cases hop : isEquality op with
  | false =>
    simp only [bitTest, hop] at h
    cases h
  | true =>
    cases ha : resolveField scope a with
    | some target =>
      rw [bitTest_of_left hop ha] at h
      obtain ⟨mask, r, htest, rfl⟩ := fieldBitTest_eq_ok_iff.mp h
      exact ⟨target, mask, r, _, .inl ⟨rfl, htest.mask_eq⟩, htest.compared_eq,
        bitTestOf?_eq_some_iff.mpr ⟨htest.zero_or_mask, rfl⟩, rfl⟩
    | none =>
      cases hb : resolveField scope b with
      | some target =>
        rw [bitTest_of_right hop ha hb] at h
        obtain ⟨mask, r, htest, rfl⟩ := fieldBitTest_eq_ok_iff.mp h
        exact ⟨target, mask, r, _, .inr ⟨rfl, htest.mask_eq⟩, htest.compared_eq,
          bitTestOf?_eq_some_iff.mpr ⟨htest.zero_or_mask, rfl⟩, rfl⟩
      | none =>
        simp only [bitTest, hop] at h
        rw [ha, hb] at h
        cases h

theorem remainderTest_eq_ok {a b compared : Expr} {f : Filter}
    (h : remainderTest context scope whole op a b compared = .ok f) :
    ∃ target divisor remainder, resolveField scope a = some target
      ∧ fold context b = .ok (some (.int divisor))
      ∧ fold context compared = .ok (some (.int remainder))
      ∧ divisor ≠ 0 ∧ f = .field target (orNegated op (.mod divisor remainder)) := by
  cases hop : isEquality op with
  | false =>
    simp only [remainderTest, hop] at h
    cases h
  | true =>
    simp only [remainderTest, hop] at h
    obtain ⟨target, htarget, h⟩ := bind_eq_ok_iff.mp h
    obtain ⟨divisor, hdivisor, h⟩ := bind_eq_ok_iff.mp h
    obtain ⟨remainder, hremainder, h⟩ := bind_eq_ok_iff.mp h
    simp only [Operation.mod?, bind_eq_ok_iff, liftArgument_eq_ok_iff, pure_eq_ok,
      Except.ok.injEq] at h
    obtain ⟨_, ⟨_, hpos, rfl⟩, rfl⟩ := h
    refine ⟨target, divisor, remainder, requireField_eq_ok htarget,
      requireInteger_eq_ok hdivisor, requireInteger_eq_ok hremainder, ?_, rfl⟩
    rintro rfl
    cases hpos

theorem measureTest?_count_eq_ok {object compared : Expr} {value : Value} {test : Option Filter}
    (hop : isEquality op = true) (hcompared : fold context compared = .ok (some value))
    (h : measureTest? context scope whole op object "count" compared = .ok test) :
    (resolveField scope object = none ∧ test = none)
      ∨ ∃ target n, resolveField scope object = some target ∧ value = .int n
        ∧ test = some (.field target (orNegated op (.size n))) := by
  simp only [measureTest?, hop] at h
  cases htarget : resolveField scope object with
  | none =>
    rw [htarget] at h
    cases h
    exact .inl ⟨rfl, rfl⟩
  | some target =>
    rw [htarget] at h
    obtain ⟨found, hfound, h⟩ := bind_eq_ok_iff.mp h
    obtain ⟨n, rfl, rfl⟩ := foldInteger_of_fold hcompared hfound
    simp only [Operation.size?, bind_eq_ok_iff, liftArgument_eq_ok_iff, pure_eq_ok,
      Except.ok.injEq] at h
    obtain ⟨_, ⟨_, -, rfl⟩, rfl⟩ := h
    exact .inr ⟨target, n, rfl, rfl, rfl⟩

/-- Why a constant that is written as a mask or a remainder is refused as a side of a comparison. -/
def Expr.shapeRefusal? (op : BinaryOperator) : Expr → Option Reason
  | .binary .bitAnd _ _ => some (if isEquality op then .maskNeedsField else .maskNeedsEquality)
  | .binary .modulo a _ => some (if isEquality op then .notField a else .moduloNeedsEquality)
  | _ => none

/-- A constant has the form of no test, and one that is written like a test is refused. -/
theorem shapeTest?_constant {e : Expr} {value : Value} (h : fold context e = .ok (some value))
    (other : Expr) :
    shapeTest? context scope whole op e other
      = match e.shapeRefusal? op with
        | none => .ok none
        | some reason => refuse whole reason := by
  -- every form has a field for an operand, and an operand of a constant names none
  unfold shapeTest?
  split
  · next a b =>
    obtain ⟨_, _, ha, hb, -⟩ := fold_operands h
    rw [bitTest, resolveField_of_fold scope ha, resolveField_of_fold scope hb, Expr.shapeRefusal?]
    cases isEquality op <;> rfl
  · next a b =>
    obtain ⟨_, _, ha, -, -⟩ := fold_operands h
    rw [remainderTest, requireField, resolveField_of_fold scope ha, Expr.shapeRefusal?]
    cases isEquality op <;> rfl
  · rw [fold_call] at h
    cases h
  · rw [Expr.shapeRefusal?] <;> assumption

theorem shapeTest?_of_fold {e other : Expr} {value : Value} {test : Option Filter}
    (h : fold context e = .ok (some value))
    (ht : shapeTest? context scope whole op e other = .ok test) : test = none := by
  rw [shapeTest?_constant h] at ht
  split at ht
  · cases ht
    rfl
  · cases ht

theorem plainTest?_of_fold {e : Expr} {value : Value} (h : fold context e = .ok (some value))
    (other : Expr) : plainTest? context scope op e other = .ok none := by
  rw [plainTest?, resolveField_of_fold scope h]
  rfl

/-! ### Comparisons with a constant -/

/-- A subject compared with a constant; the sides are exchanged if the comparison is turned
round. -/
def compared (turned : Bool) (comparison : Comparison) (subject constant : Expr) : Expr :=
  if turned then .binary comparison.mirrored.operator constant subject
  else .binary comparison.operator subject constant

section Compared

variable {turned : Bool} {comparison : Comparison} {subject constant : Expr} {value : Value}
  {rest : Except LoweringError Filter} {f : Filter}

theorem fold_compared : fold context (compared turned comparison subject constant) = .ok none := by
  cases turned <;> cases comparison <;> exact fold_binary_of_not_isArithmetic rfl _ _

theorem lowerCondition_comparison (h : op.isComparison = true) (left right : Expr) :
    lowerCondition context scope (.binary op left right)
      = comparisonTest context scope op left right := by
  cases op with
  | and => cases h
  | or => cases h
  | _ => exact if_pos h

/-- The first form that there is, is the one. -/
private theorem orElse_eq_ok {test : Except LoweringError (Option Filter)}
    (h : (do
      if let some found ← test then return found
      rest) = .ok f) :
    test = .ok (some f) ∨ test = .ok none ∧ rest = .ok f := by
  obtain ⟨found, hfound, h⟩ := bind_eq_ok_iff.mp h
  cases found with
  | none => exact .inr ⟨hfound, h⟩
  | some found =>
    cases h
    exact .inl hfound

/-- A subject that is a field is compared as one. -/
private theorem plain_orElse_eq_ok (hconstant : fold context constant = .ok (some value))
    (h : (do
      if let some found ← plainTest? context scope comparison.operator subject constant then
        return found
      rest) = .ok f) :
    (∃ target, resolveField scope subject = some target
        ∧ f = .field target (.compare comparison value))
      ∨ resolveField scope subject = none ∧ rest = .ok f := by
  rw [plainTest?, comparison.comparisonOf_operator, hconstant] at h
  cases htarget : resolveField scope subject with
  | none =>
    rw [htarget] at h
    exact .inr ⟨rfl, h⟩
  | some target =>
    rw [htarget] at h
    cases h
    exact .inl ⟨target, rfl, rfl⟩

/-- A comparison is tested in the form that its subject asks for, else as a field if its subject is
one, and else as a value. -/
theorem lowerCondition_compared (hwhole : compared turned comparison subject constant = whole)
    (hconstant : fold context constant = .ok (some value))
    (h : lowerCondition context scope whole = .ok f) :
    shapeTest? context scope whole comparison.operator subject constant = .ok (some f)
      ∨ shapeTest? context scope whole comparison.operator subject constant = .ok none
        ∧ ((∃ target, resolveField scope subject = some target
            ∧ f = .field target (.compare comparison value))
          ∨ resolveField scope subject = none ∧ computedTest context scope whole = .ok f) := by
  subst hwhole
  cases turned with
  | false =>
    rw [compared, if_neg Bool.false_ne_true,
      lowerCondition_comparison comparison.isComparison_operator] at h
    rcases orElse_eq_ok h with hshape | ⟨hshape, h⟩
    · exact .inl hshape
    rcases orElse_eq_ok h with hother | ⟨-, h⟩
    · cases shapeTest?_of_fold hconstant hother
    rcases plain_orElse_eq_ok hconstant h with hplain | ⟨hnone, h⟩
    · exact .inr ⟨hshape, .inl hplain⟩
    rw [plainTest?_of_fold hconstant] at h
    exact .inr ⟨hshape, .inr ⟨hnone, h⟩⟩
  | true =>
    rw [compared, if_pos rfl, lowerCondition_comparison comparison.mirrored.isComparison_operator,
      comparisonTest, comparison.swapped_operator_mirrored] at h
    -- the left side is tried first, and here it is the constant
    rcases orElse_eq_ok h with hother | ⟨-, h⟩
    · cases shapeTest?_of_fold hconstant hother
    rcases orElse_eq_ok h with hshape | ⟨hshape, h⟩
    · exact .inl hshape
    rw [plainTest?_of_fold hconstant] at h
    rcases plain_orElse_eq_ok hconstant h with hplain | ⟨hnone, h⟩
    · exact .inr ⟨hshape, .inl hplain⟩
    · exact .inr ⟨hshape, .inr ⟨hnone, h⟩⟩

theorem lowerValue_binary {bound : Bool} {left right : Expr}
    (hfold : fold context (.binary op left right) = .ok none) (hop : op ≠ .add) :
    lowerValue context bound (.binary op left right)
      = (lowerValue context bound left >>= fun a => lowerValue context bound right >>= fun b =>
          liftArgument (binaryExpression op false a b)) := by
  rw [lowerValue, constantOr_of_fold_none hfold, if_neg hop]
  rfl

/-- A comparison has the value that it has on the values of its sides. -/
theorem lowerValue_compared {bound : Bool} {x : Expression}
    (hconstant : fold context constant = .ok (some value))
    (h : lowerValue context bound (compared turned comparison subject constant) = .ok x) :
    ∃ s, lowerValue context bound subject = .ok s ∧ ∀ {env u}, s.eval env = .ok u →
      x.eval env = .ok (.bool (comparison.accepts (u.order value))) := by
  have hfold : fold context (compared turned comparison subject constant) = .ok none :=
    fold_compared
  cases turned with
  | false =>
    rw [compared, if_neg Bool.false_ne_true] at h hfold
    rw [lowerValue_binary hfold comparison.operator_ne_add, lowerValue_of_fold bound hconstant,
      bind_eq_ok_iff] at h
    obtain ⟨s, hs, h⟩ := h
    rw [ok_bind, comparison.binaryExpression_operator] at h
    cases h
    refine ⟨s, hs, fun {env u} hu => ?_⟩
    rw [Expression.eval_binary, hu, Expression.eval_constant]
    exact comparison.eval_function u value
  | true =>
    rw [compared, if_pos rfl] at h hfold
    rw [lowerValue_binary hfold comparison.mirrored.operator_ne_add,
      lowerValue_of_fold bound hconstant, ok_bind, bind_eq_ok_iff] at h
    obtain ⟨s, hs, h⟩ := h
    rw [comparison.mirrored.binaryExpression_operator] at h
    cases h
    refine ⟨s, hs, fun {env u} hu => ?_⟩
    rw [Expression.eval_binary, hu, Expression.eval_constant, ok_bind, ok_bind,
      comparison.mirrored.eval_function, ← Value.order_swap, comparison.accepts_mirrored]

end Compared

end DocQuery
