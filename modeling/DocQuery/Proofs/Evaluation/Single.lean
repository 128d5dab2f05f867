import DocQuery.Proofs.Evaluation.Filter
import DocQuery.Proofs.Value.Order

/-!
# Tests of one value

A test looks at all values that its path reaches, and into arrays among them.  Of one value that is
no array, it says what the function of the same name computes.

## Main definitions

* `Comparison.accepts` — the comparison as a property of the order.
* `Comparison.Suits` — the values for which test and function agree.

## Main results

* `Comparison.test_of_suits` — a comparison of one value goes by the order.
* `any_equalsAny_toList` — membership of one value goes by equality.
-/

namespace DocQuery

/-- The comparison holds of operands in this order. -/
def Comparison.accepts : Comparison → Ordering → Bool
  | .eq, o => o.isEq
  | .ne, o => o.isNe
  | .lt, o => o.isLT
  | .lte, o => o.isLE
  | .gt, o => o.isGT
  | .gte, o => o.isGE

/-- The comparison treats a value, or that there is none, alike as a test and as a function.  For
equality and its opposite it is enough that the value is no array; for the others there must be a
value, of the type of the expected one. -/
def Comparison.Suits : Comparison → Option Value → Value → Prop
  | .eq, found, _ => ∀ items, found ≠ some (.array items)
  | .ne, found, _ => ∀ items, found ≠ some (.array items)
  | _, found, expected =>
    ∃ v, found = some v ∧ (∀ items, v ≠ .array items) ∧ v.sameBracket expected = true

/-- Equality, or its opposite. -/
def equality (negated : Bool) : Comparison :=
  if negated then .ne else .eq

theorem accepts_equality (negated : Bool) (o : Ordering) :
    (equality negated).accepts o = (o.isEq != negated) := by
  cases negated <;> cases o <;> rfl

theorem anyElement_singleton {v : Value} (h : ∀ items, v ≠ .array items) (test : Value → Bool) :
    anyElement test [v] = test v := by
  have hitems : v.items = [] := by
    cases v with
    | array items => exact absurd rfl (h items)
    | _ => rfl
  rw [anyElement, List.any_cons, List.any_nil, hitems, List.any_nil, Bool.or_false, Bool.or_false]

theorem Value.isNull_eq_equal (v : Value) : v.isNull = Value.null.equal v := by
  cases v <;> rfl

theorem equalsAny_toList {found : Option Value} (h : ∀ items, found ≠ some (.array items))
    (expected : Value) : equalsAny found.toList expected = (found.getD .null).equal expected := by
  cases found with
  | none => exact expected.isNull_eq_equal
  | some v =>
    have hv : ∀ items, v ≠ .array items := fun items hitems => h items (congrArg some hitems)
    exact anyElement_singleton hv (·.equal expected)

theorem Comparison.test_of_suits {comparison : Comparison} {found : Option Value}
    {expected : Value} (h : comparison.Suits found expected) :
    comparison.test found.toList expected
      = comparison.accepts ((found.getD .null).order expected) := by
  have hequal (v : Value) : v.equal expected = (v.order expected).isEq := by
    rw [Value.equal]
    cases v.order expected <;> rfl
  have hordered (test : Ordering → Bool) {v : Value} (hv : ∀ items, v ≠ .array items)
      (hb : v.sameBracket expected = true) :
      anyElement (fun v => v.sameBracket expected && test (v.order expected)) [v]
        = test (v.order expected) := by
    rw [anyElement_singleton hv, hb, Bool.true_and]
  -- equality takes a missing value for null, the others need a value of the same bracket
  cases comparison with
  | eq => rw [test, equalsAny_toList h, hequal, accepts]
  | ne =>
    rw [test, equalsAny_toList h, hequal, accepts]
    cases (found.getD .null).order expected <;> rfl
  | _ =>
    obtain ⟨v, rfl, hv, hb⟩ := h
    exact hordered _ hv hb

theorem any_equalsAny_toList {found : Option Value} (h : ∀ items, found ≠ some (.array items))
    (expected : List Value) :
    expected.any (equalsAny found.toList) = expected.any (·.equal (found.getD .null)) := by
  have hequal : equalsAny found.toList = fun v : Value => v.equal (found.getD .null) := by
    funext v
    rw [equalsAny_toList h, Value.equal_comm]
  rw [hequal]

/-! ### Integers and arrays -/

theorem Value.int_ne_array (n : Int64) (items : List Value) : Value.int n ≠ .array items := by
  intro h
  cases h

theorem Operation.holds_bits_int (test : BitTest) (mask n : Int64) :
    (Operation.bits test mask).holds [.int n] = .ok (test.test mask n) := by
  rw [holds, anyElement_singleton (Value.int_ne_array n)]
  rfl

theorem Operation.holds_mod_int (divisor remainder n : Int64) :
    (Operation.mod divisor remainder).holds [.int n]
      = .ok (n.toInt.tmod divisor.toInt == remainder.toInt) := by
  rw [holds, anyElement_singleton (Value.int_ne_array n)]
  rfl

theorem Operation.holds_size_array (size : Int64) (items : List Value) :
    (Operation.size size).holds [.array items] = .ok ((items.length : Int) == size.toInt) := by
  rw [holds, List.any_cons, List.any_nil, Bool.or_false]
  rfl

/-- Looking at the items one after the other finds out whether one of them passes. -/
theorem anyHolds_eq_any {test : Value → Except EvalError Bool} {items : List Value}
    {outcomes : List Bool} (h : List.Forall₂ (fun item b => test item = .ok b) items outcomes) :
    anyHolds test items = .ok (outcomes.any id) := by
  induction h with
  | nil => rfl
  | @cons item b items outcomes hb _ ih =>
    rw [anyHolds, hb, ok_bind, ih]
    cases b <;> rfl

end DocQuery
