import DocQuery.Proofs.Lowering.Mask

/-!
# Fields compared with constants

A field that is compared with a constant is tested for that constant, and if the constant stands on
the left, by the operator turned round.  The forms of tests are looked for before constants are, and
so a constant that is itself written as a mask or a remainder is not taken for one: its operands
name no field, and the comparison is refused.

## Main results

* `plainTest?_of_resolveField` — the test of a field for a constant.
* `lowerCondition_fieldComparison` — **what a field compared with a constant becomes.**
-/

namespace DocQuery

variable {context : Context} {scope : Scope} {p c : Expr} {op : BinaryOperator} {target : Target}
  {v : Value}

/-- The field is tested for the constant. -/
theorem plainTest?_of_resolveField (hp : resolveField scope p = some target)
    (hc : fold context c = .ok (some v)) :
    plainTest? context scope op p c
      = .ok (some (.field target (.compare (comparisonOf op) v))) := by
  rw [plainTest?, hp, hc]
  rfl

theorem comparisonTest_constant_right (hp : resolveField scope p = some target)
    (hc : fold context c = .ok (some v)) :
    comparisonTest context scope op p c
      = match c.shapeRefusal? op.swapped with
        | none => .ok (.field target (.compare (comparisonOf op) v))
        | some reason => refuse (.binary op p c) reason := by
  rw [comparisonTest, shapeTest?_of_resolveField hp, shapeTest?_constant hc,
    plainTest?_of_resolveField hp hc]
  cases c.shapeRefusal? op.swapped <;> rfl

theorem comparisonTest_constant_left (hp : resolveField scope p = some target)
    (hc : fold context c = .ok (some v)) :
    comparisonTest context scope op c p
      = match c.shapeRefusal? op with
        | none => .ok (.field target (.compare (comparisonOf op.swapped) v))
        | some reason => refuse (.binary op c p) reason := by
  rw [comparisonTest, shapeTest?_constant hc, shapeTest?_of_resolveField hp,
    plainTest?_of_fold hc, plainTest?_of_resolveField hp hc]
  cases c.shapeRefusal? op <;> rfl

/-- The reason does not depend on the side on which the constant stands. -/
theorem Expr.shapeRefusal?_swapped (c : Expr) (op : BinaryOperator) :
    c.shapeRefusal? op.swapped = c.shapeRefusal? op := by
  unfold Expr.shapeRefusal?
  rw [isEquality_swapped]

/-- A constant is refused only if it is written as a mask or a remainder. -/
theorem Expr.shapeRefusal?_eq_none_iff (c : Expr) (op : BinaryOperator) :
    c.shapeRefusal? op = none ↔ c.isMaskOrRemainder = false := by
  unfold Expr.shapeRefusal? Expr.isMaskOrRemainder
  split <;> simp

/-- **What a field compared with a constant becomes.**  The constant may stand on either side.  If
it is written neither as a mask nor as a remainder, the field is tested for it: by the operator
itself if the constant stands on the right, and by the operator turned round if it stands on the
left.  Otherwise the comparison is refused, on both sides for the same reason. -/
theorem lowerCondition_fieldComparison (context : Context) (scope : Scope) {p c : Expr}
    {op : BinaryOperator} {target : Target} {v : Value} (hop : op.isComparison = true)
    (hp : resolveField scope p = some target) (hc : fold context c = .ok (some v)) :
    (c.isMaskOrRemainder = false →
      lowerCondition context scope (.binary op p c)
          = .ok (.field target (.compare (comparisonOf op) v))
        ∧ lowerCondition context scope (.binary op c p)
          = .ok (.field target (.compare (comparisonOf op.swapped) v)))
    ∧ (c.isMaskOrRemainder = true → ∃ reason, c.shapeRefusal? op = some reason
        ∧ lowerCondition context scope (.binary op p c) = refuse (.binary op p c) reason
        ∧ lowerCondition context scope (.binary op c p) = refuse (.binary op c p) reason) := by
  rw [lowerCondition_comparison hop, lowerCondition_comparison hop,
    comparisonTest_constant_right hp hc, comparisonTest_constant_left hp hc,
    Expr.shapeRefusal?_swapped, ← Expr.shapeRefusal?_eq_none_iff c op]
  cases hreason : c.shapeRefusal? op with
  | none =>
    refine ⟨fun _ => ⟨rfl, rfl⟩, fun hshape => ?_⟩
    rw [(Expr.shapeRefusal?_eq_none_iff c op).mp hreason] at hshape
    cases hshape
  | some reason => exact ⟨nofun, fun _ => ⟨reason, rfl, rfl, rfl⟩⟩

/-- A sum with a parameter on either side of a nested field, and a remainder of constants. -/
theorem lowerCondition_fieldComparison_parameter :
    let context := Context.empty.bind "min" (.int 10)
    let p : Expr := .access (.access .root (.key "age")) (.string "years")
    let target : Target := .path "age.years"
    let c : Expr := .binary .add (.param "min") (.integer 5)
    let remainder : Expr := .binary .modulo (.param "min") (.integer 4)
    BinaryOperator.less.isComparison = true ∧ resolveField .document p = some target
      ∧ fold context c = .ok (some (.int 15)) ∧ c.isMaskOrRemainder = false
      ∧ lowerCondition context .document (.binary .less p c)
          = .ok (.field target (.compare .lt (.int 15)))
      ∧ lowerCondition context .document (.binary .less c p)
          = .ok (.field target (.compare .gt (.int 15)))
      ∧ fold context remainder = .ok (some (.int 2)) ∧ remainder.isMaskOrRemainder = true
      ∧ lowerCondition context .document (.binary .less p remainder)
          = refuse (.binary .less p remainder) .moduloNeedsEquality := by
  intro context p target c remainder
  have hop : BinaryOperator.less.isComparison = true := rfl
  have hp : resolveField .document p = some target := by rfl
  have hc : fold context c = .ok (some (.int 15)) := by rfl
  have hremainder : fold context remainder = .ok (some (.int 2)) := by rfl
  obtain ⟨htested, -⟩ := lowerCondition_fieldComparison context .document hop hp hc
  obtain ⟨-, hrefused⟩ := lowerCondition_fieldComparison context .document hop hp hremainder
  obtain ⟨reason, hreason, hright, -⟩ := hrefused rfl
  cases hreason
  exact ⟨hop, hp, hc, rfl, (htested rfl).1, (htested rfl).2, hremainder, rfl, hright⟩

/-- A constant mask `6 & 3` has the value 2, but a field cannot be compared with it. -/
theorem lowerCondition_ne_of_constant_mask :
    let p : Expr := .access .root (.key "a")
    let c : Expr := .binary .bitAnd (.integer 6) (.integer 3)
    resolveField .document p = some (.path "a") ∧ BinaryOperator.equal.isComparison = true
      ∧ fold .empty c = .ok (some (.int 2))
      ∧ lowerCondition .empty .document (.binary .equal p c)
          = refuse (.binary .equal p c) .maskNeedsField
      ∧ lowerCondition .empty .document (.binary .equal p c)
          ≠ .ok (.field (.path "a") (.compare .eq (.int 2))) := by
  intro p c
  have hrefused : lowerCondition .empty .document (.binary .equal p c)
      = refuse (.binary .equal p c) .maskNeedsField := by rfl
  refine ⟨by rfl, rfl, by rfl, hrefused, ?_⟩
  rw [hrefused]
  exact nofun

end DocQuery
