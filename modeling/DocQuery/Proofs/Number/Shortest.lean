import DocQuery.Proofs.Number.Nearest
import Mathlib.Data.Nat.Cast.Order.Field

/-!
# Digits that read back

The digits that are found for a number read back as that number: the decimal that they write is
nearer to it than to any other number.

## Main results

* `Binary64.near_shortestDigits` — the digits stand for a decimal near the number.
* `Binary64.nearest_shortestDigits` — so that this decimal rounds to the number.
-/

namespace DocQuery

/-! ### Counting digits -/

theorem lt_pow_digitCount (n : ℕ) : n < 10 ^ digitCount n := by
  unfold digitCount
  split
  · next h =>
    subst h
    exact Nat.one_pos
  · exact (Nat.length_toDigits_le_iff (by decide) Nat.length_toDigits_pos).mp le_rfl

theorem pow_digitCount_le {n : ℕ} (hn : n ≠ 0) : 10 ^ digitCount n ≤ 10 * n := by
  rw [digitCount, if_neg hn]
  have hpos : 0 < (Nat.toDigits 10 n).length := Nat.length_toDigits_pos
  obtain ⟨length, hlength⟩ := Nat.exists_eq_add_of_lt hpos
  rw [hlength, Nat.zero_add, Nat.pow_succ']
  refine Nat.mul_le_mul_left 10 (Nat.le_of_not_lt fun hlt => ?_)
  cases length with
  | zero => omega
  | succ length =>
    have hle := (Nat.length_toDigits_le_iff (by decide) (Nat.succ_pos length)).mpr hlt
    omega

theorem zpow_floorLog10_le {num den : ℕ} (hnum : 0 < num) (hden : 0 < den) :
    (10 : ℚ) ^ floorLog10 num den ≤ num / den := by
  have hden' : (0 : ℚ) < den := Nat.cast_pos.mpr hden
  unfold floorLog10
  split
  · next hle =>
    have hpow : (10 ^ digitCount (num / den) : ℚ) ≤ 10 * (num / den : ℕ) := by
      exact_mod_cast pow_digitCount_le (Nat.div_pos hle hden).ne'
    rw [zpow_sub₀ (by norm_num), zpow_natCast, zpow_one, div_le_iff₀' (by norm_num)]
    exact hpow.trans (mul_le_mul_of_nonneg_left Nat.cast_div_le (by norm_num))
  · have hlt := (Nat.div_lt_iff_lt_mul hnum).mp (lt_pow_digitCount ((den - 1) / num))
    have hle : (den : ℚ) ≤ 10 ^ digitCount ((den - 1) / num) * num := by
      exact_mod_cast Nat.le_of_pred_lt hlt
    rw [zpow_neg, zpow_natCast, inv_le_iff_one_le_mul₀' (by positivity), ← mul_div_assoc,
      one_le_div hden']
    exact hle

namespace Binary64

variable {x : Binary64} {tie : Tie} {k : ℤ} {d : ℕ}

/-! ### The decimals next to a number -/

theorem significand_pos (hx : x.isZero = false) : 0 < x.significand :=
  Nat.pos_of_ne_zero (ne_of_beq_false hx)

/-- What is found on a grid reads back. -/
theorem readsBack_of_decimalOnGrid? (h : x.decimalOnGrid? tie k = some d) :
    x.readsBack k d = true := by
  have hkept {c c' : ℕ} (hc : (if x.readsBack k c then some c else none) = some c') :
      x.readsBack k c' = true := by
    obtain ⟨hreads, hc⟩ := Option.ite_none_right_eq_some.mp hc
    exact Option.some.inj hc ▸ hreads
  simp only [decimalOnGrid?] at h
  split at h
  · next lower upper hlower hupper =>
    have hd : d = lower ∨ d = upper := by
      split at h
      · exact .inl (Option.some.inj h).symm
      · exact .inr (Option.some.inj h).symm
      · exact .inr (Option.some.inj h).symm
      · split at h
        · exact .inl (Option.some.inj h).symm
        · exact .inr (Option.some.inj h).symm
    rcases hd with rfl | rfl
    · exact hkept hlower
    · exact hkept hupper
  · next lower hlower _ =>
    cases h
    exact hkept hlower
  · exact hkept h

/-- On a grid that is finer than the numbers near `x`, one of the decimals next to `x` reads back. -/
theorem exists_decimalOnGrid?_eq_some (hx : x.isZero = false) (tie : Tie)
    (hstep : x.stepAt k + x.lowest * x.quarterAt k < x.highest * x.quarterAt k) :
    ∃ d, x.decimalOnGrid? tie k = some d := by
  have hsignificand := significand_pos hx
  have hquarter : 0 < x.quarterAt k := Nat.mul_pos (pow2_pos _) (pow10_pos _)
  have hlow : x.lowest * x.quarterAt k < 4 * x.significand * x.quarterAt k := by
    refine Nat.mul_lt_mul_of_pos_right ?_ hquarter
    unfold lowest
    split <;> omega
  have hhigh : 4 * x.significand * x.quarterAt k < x.highest * x.quarterAt k := by
    refine Nat.mul_lt_mul_of_pos_right ?_ hquarter
    unfold highest
    omega
  have hbelow := Nat.div_mul_le_self (4 * x.significand * x.quarterAt k) (x.stepAt k)
  have habove := Nat.lt_div_mul_add (a := 4 * x.significand * x.quarterAt k) (b := x.stepAt k)
    (Nat.mul_pos (pow10_pos _) (pow2_pos _))
  simp only [decimalOnGrid?]
  generalize 4 * x.significand * x.quarterAt k / x.stepAt k = below at hbelow habove ⊢
  have hreads : x.readsBack k below = true ∨ x.readsBack k (below + 1) = true := by
    simp only [readsBack, Nat.succ_mul]
    split <;> simp only [Bool.and_eq_true, decide_eq_true_eq] <;> omega
  cases hl : x.readsBack k below <;> cases hu : x.readsBack k (below + 1)
  · simp [hl, hu] at hreads
  · exact ⟨below + 1, rfl⟩
  · exact ⟨below, rfl⟩
  · simp only [if_true]
    split
    · exact ⟨below, rfl⟩
    · exact ⟨below + 1, rfl⟩
    · exact ⟨below + 1, rfl⟩
    · split
      · exact ⟨below, rfl⟩
      · exact ⟨below + 1, rfl⟩

/-- The midpoints around `x` are further apart than `x` is in units of its seventeenth digit. -/
theorem lowest_add_lt_highest (hx : x.isZero = false) :
    (x.lowest + 4 * x.significand / 10 ^ 16 : ℚ) < x.highest := by
  have hpos := significand_pos hx
  have hlt : x.significand < 2 ^ 53 := x.significand_lt
  have hlt : (x.significand : ℚ) < 2 ^ 53 := by exact_mod_cast hlt
  rw [cast_highest]
  by_cases hpower : x.significand = pow2 52 ∧ x.exponent ≠ -1074
  · have hlowest : (x.lowest : ℚ) = 4 * 2 ^ 52 - 1 := by
      rw [lowest, if_pos hpower, hpower.1]
      norm_num [pow2]
    rw [hlowest, hpower.1]
    norm_num [pow2]
  · have hlowest : x.lowest + 2 = 4 * x.significand := by
      rw [lowest, if_neg hpower]
      omega
    have hlowest : (x.lowest + 2 : ℚ) = 4 * x.significand := by exact_mod_cast hlowest
    have hdigit : (4 * x.significand / 10 ^ 16 : ℚ) < 4 := by
      rw [div_lt_iff₀ (by norm_num)]
      linarith
    linarith

/-- So one of the decimals with seventeen digits next to `x` reads back. -/
theorem exists_seventeen_digits (hx : x.isZero = false) (tie : Tie) {leading : ℤ}
    (hleading : (10 : ℚ) ^ leading ≤ x.significand * 2 ^ x.exponent) :
    ∃ d, x.decimalOnGrid? tie (leading - 16) = some d := by
  refine exists_decimalOnGrid?_eq_some hx tie ?_
  have hpower : (10 : ℚ) ^ (leading - 16) ≤ 4 * x.significand / 10 ^ 16 * x.quarter := by
    rw [zpow_exponent] at hleading
    rw [zpow_sub₀ (by norm_num), div_mul_eq_mul_div]
    refine div_le_div_of_nonneg_right ?_ (by positivity)
    linarith
  have hgap := mul_lt_mul_of_pos_right (lowest_add_lt_highest hx) x.quarter_pos
  have hstep : ((10 : ℚ) ^ (leading - 16) + x.lowest * x.quarter) * x.scaleAt (leading - 16)
      < x.highest * x.quarter * x.scaleAt (leading - 16) := by
    refine mul_lt_mul_of_pos_right ?_ (x.scaleAt_pos _)
    linarith
  rw [add_mul, mul_assoc, mul_assoc, ← cast_stepAt, ← cast_quarterAt] at hstep
  exact_mod_cast hstep

/-! ### The search for the fewest digits -/

theorem withoutTrailingZeros_eq (n d : ℕ) (k : ℤ) :
    ((withoutTrailingZeros n d k).1 : ℚ) * 10 ^ (withoutTrailingZeros n d k).2 = d * 10 ^ k := by
  induction n generalizing d k with
  | zero => rfl
  | succ n ih =>
    rw [withoutTrailingZeros]
    split
    · next hd =>
      have hdiv : (d : ℚ) = 10 * (d / 10 : ℕ) := by
        exact_mod_cast (Nat.mul_div_cancel' (Nat.dvd_of_mod_eq_zero hd)).symm
      rw [ih, zpow_add₀ (by norm_num), zpow_one, hdiv]
      ring
    · rfl

theorem Near.pos (hx : x.isZero = false) {q : ℚ} (h : x.Near q) : 0 < q := by
  have hpos : (1 : ℚ) ≤ x.significand := Nat.one_le_cast.mpr (significand_pos hx)
  refine lt_of_lt_of_le (mul_pos ?_ x.quarter_pos) h.low_le
  linarith

/-- The exponent of the first digit is not too large for the magnitude of the number. -/
theorem zpow_leading_le (hx : x.isZero = false) :
    (10 : ℚ) ^ floorLog10 (x.significand * pow2 x.exponent.toNat) (pow2 (-x.exponent).toNat)
      ≤ x.significand * 2 ^ x.exponent := by
  have hpow : (pow2 (-x.exponent).toNat : ℚ) ≠ 0 := (Nat.cast_pos.mpr (pow2_pos _)).ne'
  have h := zpow_floorLog10_le (Nat.mul_pos (significand_pos hx) (pow2_pos x.exponent.toNat))
    (pow2_pos (-x.exponent).toNat)
  rwa [Nat.cast_mul, cast_pow2_toNat x.exponent, ← mul_assoc, mul_div_cancel_right₀ _ hpow] at h

/-- The shortest digits of a number stand for a decimal near it. -/
theorem near_shortestDigits (hx : x.isZero = false) (tie : Tie) :
    x.Near ((x.shortestDigits tie).1 * 10 ^ (x.shortestDigits tie).2) := by
  obtain ⟨d, hd⟩ := exists_seventeen_digits hx tie (zpow_leading_le hx)
  simp only [shortestDigits, withoutTrailingZeros_eq]
  generalize floorLog10 _ _ = leading at hd ⊢
  have hfound : ((List.range 17).findSome? fun n : ℕ =>
      (x.decimalOnGrid? tie (leading - n)).map (·, leading - n)).isSome := by
    refine List.findSome?_isSome_iff.mpr ⟨16, by decide, ?_⟩
    rw [show leading - (16 : ℕ) = leading - 16 from rfl, hd]
    rfl
  obtain ⟨found, hfound⟩ := Option.isSome_iff_exists.mp hfound
  obtain ⟨n, -, hgrid⟩ := List.exists_of_findSome?_eq_some hfound
  obtain ⟨d', hd', rfl⟩ := Option.map_eq_some_iff.mp hgrid
  rw [hfound, Option.getD_some]
  exact (readsBack_iff x _ d').mp (readsBack_of_decimalOnGrid? hd')

theorem shortestDigits_pos (hx : x.isZero = false) (tie : Tie) : 0 < (x.shortestDigits tie).1 := by
  refine Nat.pos_of_ne_zero fun hzero => ?_
  have hpos := (near_shortestDigits hx tie).pos hx
  rw [hzero, Nat.cast_zero, zero_mul] at hpos
  exact lt_irrefl 0 hpos

/-- The shortest digits read back: the decimal that they write rounds to the number. -/
theorem nearest_shortestDigits (hx : x.isZero = false) (tie : Tie) :
    nearest x.negative ((x.shortestDigits tie).1 * pow10 (x.shortestDigits tie).2.toNat)
      (pow10 (-(x.shortestDigits tie).2).toNat) = some x := by
  refine nearest_of_near (Nat.mul_pos (shortestDigits_pos hx tie) (pow10_pos _)) (pow10_pos _) ?_
  have hpow : (pow10 (-(x.shortestDigits tie).2).toNat : ℚ) ≠ 0 :=
    (Nat.cast_pos.mpr (pow10_pos _)).ne'
  rw [Nat.cast_mul, cast_pow10_toNat, ← mul_assoc, mul_div_cancel_right₀ _ hpow]
  exact near_shortestDigits hx tie

end Binary64

end DocQuery
