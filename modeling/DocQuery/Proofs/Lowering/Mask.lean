import DocQuery.Proofs.Lowering.Condition

/-!
# Masked fields

A field that is masked and compared is tested for its bits, or it is refused.  It is tested if the
comparison is for equality or its opposite, the mask is a constant that fits 32 bits with a sign and
is not negative, and what it is compared with is zero or the mask; then the test says of an integer
what the comparison says of its masked bits.  Which operand the field is and on which side the
masked field stands makes no difference, and nothing is left to be computed.

## Main definitions

* `maskComparison` — a masked field in a comparison, in its four arrangements.

## Main results

* `bitTest_masked_eq_ok_iff` — which masks of a field can be tested.
* `comparisonTest_turned` — behind any other side, the masked field is reached or an error is.
* `lowerCondition_maskComparison` — **when a masked field is tested, by what, and what that says.**
-/

namespace DocQuery

variable {context : Context} {scope : Scope} {whole p m r : Expr} {op : BinaryOperator}
  {target : Target} {f : Filter}

/-! ### Fields and constants -/

/-- What names a field is a chain. -/
theorem exists_chain?_of_resolveField {e : Expr} (h : resolveField scope e = some target) :
    ∃ chain, e.chain? = some chain := by
  refine Option.ne_none_iff_exists'.mp fun hnone => ?_
  unfold resolveField at h
  rw [hnone] at h
  cases scope <;> cases h

/-- What names a field looks at the document. -/
theorem fold_of_resolveField {e : Expr} (h : resolveField scope e = some target) :
    fold context e = .ok none := by
  obtain ⟨chain, hchain⟩ := exists_chain?_of_resolveField h
  cases e with
  | root => exact fold_root context
  | element => exact fold_element context
  | access object key => exact fold_access context object key
  | _ => cases hchain

/-- A field on its own has the form of no test. -/
theorem shapeTest?_of_resolveField {e : Expr} (h : resolveField scope e = some target)
    (other : Expr) : shapeTest? context scope whole op e other = .ok none := by
  obtain ⟨chain, hchain⟩ := exists_chain?_of_resolveField h
  cases e with
  | root => rfl
  | element => rfl
  | access object key => rfl
  | _ => cases hchain

/-- The field is an operand of the masked field, so that one has no value at compile time. -/
theorem fold_masked_ne (maskFirst : Bool) (hp : resolveField scope p = some target)
    {value : Value} : fold context (masked maskFirst p m) ≠ .ok (some value) := by
  have hnone : fold context p = .ok none := fold_of_resolveField hp
  intro h
  cases maskFirst with
  | false =>
    obtain ⟨_, _, hfield, -, -⟩ := fold_operands h
    cases hnone.symm.trans hfield
  | true =>
    obtain ⟨_, _, -, hfield, -⟩ := fold_operands h
    cases hnone.symm.trans hfield

/-! ### Masked fields that can be tested -/

/-- A masked field can be tested for equality or its opposite, with a mask and a value for which
there is a test. -/
theorem bitTest_masked_eq_ok_iff (maskFirst : Bool) (hp : resolveField scope p = some target) :
    bitTest context scope whole op (if maskFirst then m else p) (if maskFirst then p else m) r
        = .ok f
      ↔ isEquality op = true ∧ ∃ mask compared, MaskTest context m r mask compared
          ∧ f = .field target (.bits (maskedBits op compared) mask) := by
  cases hop : isEquality op with
  | false =>
    refine iff_of_false (fun h => ?_) fun h => Bool.false_ne_true h.1
    simp only [bitTest, hop] at h
    cases h
  | true =>
    cases maskFirst with
    | false =>
      rw [if_neg Bool.false_ne_true, if_neg Bool.false_ne_true, bitTest_of_left hop hp,
        fieldBitTest_eq_ok_iff, eq_self_iff_true, true_and]
    | true =>
      rw [if_pos rfl, if_pos rfl]
      cases hm : resolveField scope m with
      | none =>
        rw [bitTest_of_right hop hm hp, fieldBitTest_eq_ok_iff, eq_self_iff_true, true_and]
      | some other =>
        -- the mask is taken for the field, and the field then is no constant mask
        rw [bitTest_of_left hop hm, fieldBitTest_eq_ok_iff]
        refine iff_of_false ?_ ?_
        · rintro ⟨mask, _, h, -⟩
          cases (fold_of_resolveField hp).symm.trans h.mask_eq
        · rintro ⟨-, mask, _, h, -⟩
          cases (fold_of_resolveField hm).symm.trans h.mask_eq

/-! ### Masked fields in a comparison -/

/-- A field masked and compared, with the mask in front or behind, and on either side. -/
def maskComparison (turned maskFirst : Bool) (op : BinaryOperator) (p m r : Expr) : Expr :=
  if turned then .binary op r (masked maskFirst p m) else .binary op (masked maskFirst p m) r

/-- The expression is a mask or a remainder itself. -/
def Expr.isMaskOrRemainder : Expr → Bool
  | .binary .bitAnd _ _ => true
  | .binary .modulo _ _ => true
  | _ => false

theorem shapeTest?_masked (maskFirst : Bool) (r : Expr) :
    shapeTest? context scope whole op (masked maskFirst p m) r
      = some <$> bitTest context scope whole op (if maskFirst then m else p)
          (if maskFirst then p else m) r := by
  cases maskFirst <;> rfl

theorem comparisonTest_masked (maskFirst : Bool) :
    comparisonTest context scope op (masked maskFirst p m) r
      = bitTest context scope (.binary op (masked maskFirst p m) r) op
          (if maskFirst then m else p) (if maskFirst then p else m) r := by
  rw [comparisonTest, shapeTest?_masked]
  generalize bitTest context scope _ op _ _ r = test
  cases test <;> rfl

/-- A length or a type is compared with a constant only. -/
theorem measureTest?_ne_some {object e : Expr} {method : String}
    (he : ∀ value, fold context e ≠ .ok (some value)) :
    measureTest? context scope whole op object method e ≠ .ok (some f) := by
  intro h
  unfold measureTest? at h
  split at h
  · cases h
  split at h
  · split at h
    · obtain ⟨found, hfound, h⟩ := bind_eq_ok_iff.mp h
      cases found with
      | none => cases h
      | some n => exact he _ (foldInteger_eq_some_iff.mp hfound)
    · split at h
      · obtain ⟨found, hfound, h⟩ := bind_eq_ok_iff.mp h
        cases found with
        | none => cases h
        | some value => exact he value hfound
      · cases h
  · cases h

/-- A side without a shape of its own is passed over; a call is, or it fails, and is no constant. -/
theorem shapeTest?_of_not_isMaskOrRemainder {e : Expr} (hr : r.isMaskOrRemainder = false)
    (he : ∀ value, fold context e ≠ .ok (some value)) :
    shapeTest? context scope whole op r e = .ok none
      ∨ (∃ error, shapeTest? context scope whole op r e = .error error)
        ∧ fold context r = .ok none := by
  unfold shapeTest?
  split
  · cases hr
  · cases hr
  · next object method =>
    cases h : measureTest? context scope whole op object method e with
    | error error => exact .inr ⟨⟨error, rfl⟩, fold_call context object method []⟩
    | ok found =>
      cases found with
      | none => exact .inl rfl
      | some f => exact absurd h (measureTest?_ne_some he)
  · exact .inl rfl

/-- On the right a masked field is tested with the operator turned round, unless what stands on the
left fails before. -/
theorem comparisonTest_turned (op : BinaryOperator) (maskFirst : Bool)
    (hr : r.isMaskOrRemainder = false) (hp : resolveField scope p = some target) :
    comparisonTest context scope op r (masked maskFirst p m)
        = bitTest context scope (.binary op r (masked maskFirst p m)) op.swapped
            (if maskFirst then m else p) (if maskFirst then p else m) r
      ∨ (∃ error, comparisonTest context scope op r (masked maskFirst p m) = .error error)
        ∧ fold context r = .ok none := by
  have hmasked : ∀ value, fold context (masked maskFirst p m) ≠ .ok (some value) :=
    fun _ => fold_masked_ne maskFirst hp
  rw [comparisonTest]
  rcases shapeTest?_of_not_isMaskOrRemainder hr hmasked with h | ⟨⟨error, h⟩, hfold⟩
  · rw [h, shapeTest?_masked]
    generalize bitTest context scope _ op.swapped _ _ r = test
    left
    cases test <;> rfl
  · rw [h]
    exact .inr ⟨⟨error, rfl⟩, hfold⟩

theorem isEquality_swapped (op : BinaryOperator) : isEquality op.swapped = isEquality op := by
  cases op <;> rfl

theorem swapped_of_isEquality (h : isEquality op = true) : op.swapped = op := by
  cases op <;> first | rfl | cases h

theorem isEquality_iff : isEquality op = true ↔ op = .equal ∨ op = .notEqual := by
  simp [isEquality]

/-- A masked field is tested in every arrangement in the same cases. -/
theorem lowerCondition_maskComparison_eq_ok_iff (turned maskFirst : Bool)
    (hp : resolveField scope p = some target) (hop : op.isComparison = true)
    (hr : turned = true → r.isMaskOrRemainder = false) :
    lowerCondition context scope (maskComparison turned maskFirst op p m r) = .ok f
      ↔ isEquality op = true ∧ ∃ mask compared, MaskTest context m r mask compared
          ∧ f = .field target (.bits (maskedBits op compared) mask) := by
  cases turned with
  | false =>
    rw [maskComparison, if_neg Bool.false_ne_true, lowerCondition_comparison hop,
      comparisonTest_masked, bitTest_masked_eq_ok_iff maskFirst hp]
  | true =>
    rw [maskComparison, if_pos rfl, lowerCondition_comparison hop]
    rcases comparisonTest_turned op maskFirst (hr rfl) hp with h | ⟨⟨error, h⟩, hfold⟩
    · rw [h, bitTest_masked_eq_ok_iff maskFirst hp, isEquality_swapped]
      refine and_congr_right fun hequality => ?_
      rw [swapped_of_isEquality hequality]
    · rw [h]
      refine iff_of_false nofun ?_
      rintro ⟨-, mask, compared, htest, -⟩
      cases hfold.symm.trans htest.compared_eq

/-! ### What the tests say -/

/-- The test says of an integer what the comparison says of its masked bits. -/
theorem test_maskedBits {mask compared : Int64} (h : compared = 0 ∨ compared = mask) (n : Int64) :
    (maskedBits op compared).test mask n
      = if op = .equal then n &&& mask == compared else n &&& mask != compared := by
  unfold maskedBits
  by_cases hzero : compared = 0
  · rw [if_pos hzero, hzero]
    split <;> rfl
  · obtain rfl := h.resolve_left hzero
    rw [if_neg hzero]
    split <;> rfl

/-- **When a masked field is tested, by what, and what the test says.**  In each of the four
arrangements the comparison is lowered exactly if it is for equality or its opposite, with a
constant mask from zero to the largest signed integer of 32 bits and a constant that is zero or the
mask.  What it is lowered to is one test of the bits of the field, and never computed; a field with
one integer passes it exactly if its masked bits compare so. -/
theorem lowerCondition_maskComparison (context : Context) (turned maskFirst : Bool)
    {p m r : Expr} {op : BinaryOperator} {target : Target}
    (hp : resolveField .document p = some target) (hop : op.isComparison = true)
    (hr : turned = true → r.isMaskOrRemainder = false) (f : Filter) :
    (lowerCondition context .document (maskComparison turned maskFirst op p m r) = .ok f
      ↔ (op = .equal ∨ op = .notEqual) ∧ ∃ mask compared : Int64,
          fold context m = .ok (some (.int mask)) ∧ 0 ≤ mask.toInt ∧ mask.toInt ≤ 2147483647
          ∧ fold context r = .ok (some (.int compared)) ∧ (compared = 0 ∨ compared = mask)
          ∧ f = .field target (.bits
            (if compared = 0 then if op = .equal then .allClear else .anySet
              else if op = .equal then .allSet else .anyClear) mask))
    ∧ (lowerCondition context .document (maskComparison turned maskFirst op p m r) = .ok f →
        ∃ mask compared : Int64, fold context m = .ok (some (.int mask))
          ∧ fold context r = .ok (some (.int compared))
          ∧ ∀ (d : Value) (v : Int64), target.values d = [.int v] →
            f.holds d = .ok
              (if op = .equal then v &&& mask == compared else v &&& mask != compared)) := by
  have h31 : (pow2 31 : Int) = 2147483648 := rfl
  rw [lowerCondition_maskComparison_eq_ok_iff turned maskFirst hp hop hr, isEquality_iff]
  refine ⟨and_congr_right fun _ => ?_, ?_⟩
  · constructor
    · rintro ⟨mask, compared, h, rfl⟩
      have hlt := h.lt
      exact ⟨mask, compared, h.mask_eq, h.nonneg, by omega, h.compared_eq, h.zero_or_mask, rfl⟩
    · rintro ⟨mask, compared, hm, hnonneg, hle, hcompared, hvalue, rfl⟩
      exact ⟨mask, compared, ⟨hm, hnonneg, by omega, hcompared, hvalue⟩, rfl⟩
  · rintro ⟨-, mask, compared, h, rfl⟩
    refine ⟨mask, compared, h.mask_eq, h.compared_eq, fun d v hv => ?_⟩
    rw [Filter.holds_field, hv, Operation.holds_bits_int, test_maskedBits h.zero_or_mask]

/-- A mask that is computed, in front of the field and on the right, and a document that has all of
its bits. -/
theorem lowerCondition_maskComparison_turned :
    let p : Expr := .access (.access .root (.key "state")) (.string "flags")
    let m : Expr := .binary .bitOr (.integer 1) (.integer 4)
    let filter : Filter := .field (.path "state.flags") (.bits .anyClear 5)
    let d : Value := .object [("state", .object [("flags", .int 13)])]
    resolveField .document p = some (.path "state.flags") ∧ BinaryOperator.notEqual.isComparison
      ∧ (Expr.integer 5).isMaskOrRemainder = false
      ∧ lowerCondition .empty .document (maskComparison true true .notEqual p m (.integer 5))
          = .ok filter
      ∧ (Target.path "state.flags").values d = [.int 13] ∧ filter.holds d = .ok false := by
  intro p m filter d
  have hp : resolveField .document p = some (.path "state.flags") := by rfl
  have hd : (Target.path "state.flags").values d = [.int 13] := by rfl
  have hop : BinaryOperator.notEqual.isComparison = true := rfl
  have hr : (Expr.integer 5).isMaskOrRemainder = false := rfl
  obtain ⟨hiff, hmeaning⟩ := lowerCondition_maskComparison .empty true true (m := m) hp hop
    (fun _ => hr) filter
  have hlowered := hiff.mpr ⟨.inr rfl, 5, 5, rfl, by decide, by decide, rfl, .inr rfl, rfl⟩
  obtain ⟨mask, compared, hmask, hcompared, hholds⟩ := hmeaning hlowered
  cases hmask
  cases hcompared
  exact ⟨hp, hop, hr, hlowered, hd, hholds d 13 hd⟩

end DocQuery
