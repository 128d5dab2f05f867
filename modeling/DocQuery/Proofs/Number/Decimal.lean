import DocQuery.Proofs.Number.Binary64
import DocQuery.Proofs.Number.Integer

/-!
# Floating-point numbers that have a decimal

A floating-point number becomes a decimal by trading factors of two for factors of ten and rounding
away the digits that do not fit.  This goes through for every number below `2 ^ 96` and for no other.

## Main results

* `Decimal.ofBinary64?_eq_none_iff` — the numbers without a decimal, told by their exponent.
* `Number.exponent_le_of_toDecimal?` — what has a decimal is below `2 ^ 96` in floating point too.
-/

namespace DocQuery

theorem pow2_zero : pow2 0 = 1 := rfl

theorem pow2_succ (n : Nat) : pow2 (n + 1) = 2 * pow2 n := by
  rw [pow2, pow2, Nat.pow_eq, Nat.pow_eq, Nat.pow_succ, Nat.mul_comm]

theorem pow2_add (m n : Nat) : pow2 (m + n) = pow2 m * pow2 n :=
  Nat.pow_add 2 m n

theorem pow2_le_pow2 {m n : Nat} (h : m ≤ n) : pow2 m ≤ pow2 n :=
  Nat.pow_le_pow_right (by decide) h

/-- Above the units the significand has all its 53 bits. -/
theorem Binary64.le_significand {x : Binary64} (h : 0 < x.exponent) : pow2 52 ≤ x.significand := by
  rcases x.canonical with hleast | ⟨-, hle⟩
  · omega
  · exact hle

namespace Decimal

/-! ### Trading factors -/

/-- Divisions by two are traded one for one, so that the power of ten grows by no more than their
number. -/
theorem divideByTwos_bounds {n m : Nat} (k : Int) (hm : m < pow2 96) :
    (divideByTwos n m k).1 < pow2 96 ∧ (divideByTwos n m k).2 ≤ k + n := by
  induction n generalizing m k with
  | zero => exact ⟨hm, by simp [divideByTwos]⟩
  | succ n ih =>
    rw [divideByTwos]
    split
    · obtain ⟨hlt, hle⟩ := ih (m := m / 2) (k + 1) (by omega)
      exact ⟨hlt, by omega⟩
    · split
      · next hfits =>
        obtain ⟨hlt, hle⟩ := ih k hfits
        exact ⟨hlt, by omega⟩
      · obtain ⟨hlt, hle⟩ := ih (m := m / 2) (k + 1) (by omega)
        exact ⟨hlt, by omega⟩

/-- Divisions by five that leave the mantissa within 96 bits are traded for doublings alone. -/
theorem divideByFives?_of_lt {n m : Nat} (k : Int) (h : m * pow2 n < pow2 96) :
    divideByFives? n m k = some (m * pow2 n, k - n) := by
  induction n generalizing m k with
  | zero => simp [divideByFives?, pow2_zero]
  | succ n ih =>
    have hpow : m * pow2 (n + 1) = 2 * m * pow2 n := by
      rw [pow2_succ, ← Nat.mul_assoc, Nat.mul_comm m]
    have hdouble : 2 * m ≤ 2 * m * pow2 n := Nat.le_mul_of_pos_right _ (Nat.two_pow_pos n)
    have h96 : pow2 96 = 2 * pow2 95 := pow2_succ 95
    rw [hpow] at h
    rw [divideByFives?, if_pos (by omega), ih (k - 1) h, hpow]
    congr 2
    omega

/-- Otherwise the doublings come to an end with a division still to be traded, and there is no
way on. -/
theorem divideByFives?_of_le {n m : Nat} {k : Int} (hk : k = n) (hm : m < pow2 96)
    (h : pow2 96 ≤ m * pow2 n) : divideByFives? n m k = none := by
  induction n generalizing m k with
  | zero =>
    rw [pow2_zero, Nat.mul_one] at h
    omega
  | succ n ih =>
    have hpow : m * pow2 (n + 1) = 2 * m * pow2 n := by
      rw [pow2_succ, ← Nat.mul_assoc, Nat.mul_comm m]
    have h96 : pow2 96 = 2 * pow2 95 := pow2_succ 95
    rw [divideByFives?]
    split
    · exact ih (by omega) (by omega) (hpow ▸ h)
    · exact if_pos (by omega)

/-! ### Dropping digits -/

theorem dropDigits?_le {n m m' : Nat} (h : dropDigits? n m = some m') : m' ≤ m := by
  induction n generalizing m with
  | zero =>
    cases h
    exact Nat.le_refl m'
  | succ n ih =>
    rw [dropDigits?] at h
    split at h
    · cases h
    · have hle := ih h
      split at hle <;> omega

theorem dropExcess_bounds (scale m : Nat) :
    (dropExcess scale m).1 ≤ m ∧ (dropExcess scale m).2 ≤ scale := by
  induction scale generalizing m with
  | zero => exact ⟨Nat.le_refl m, Nat.le_refl 0⟩
  | succ scale ih =>
    rw [dropExcess]
    split
    · next hm =>
      have h52 : 10 ≤ pow2 52 := by decide
      have hround : (if 5 ≤ m % 10 then m / 10 + 1 else m / 10) ≤ m := by split <;> omega
      obtain ⟨hle, hscale⟩ := ih (if 5 ≤ m % 10 then m / 10 + 1 else m / 10)
      exact ⟨Nat.le_trans hle hround, by omega⟩
    · exact ⟨Nat.le_refl m, Nat.le_refl _⟩

theorem stripZeros_bounds (scale m : Nat) :
    (stripZeros scale m).1 ≤ m ∧ (stripZeros scale m).2 ≤ scale := by
  induction scale generalizing m with
  | zero => exact ⟨Nat.le_refl m, Nat.le_refl 0⟩
  | succ scale ih =>
    rw [stripZeros]
    split
    · obtain ⟨hle, hscale⟩ := ih (m / 10)
      exact ⟨by omega, by omega⟩
    · exact ⟨Nat.le_refl m, Nat.le_refl _⟩

/-! ### The numbers that have a decimal -/

/-- The decimal for `m · 10 ^ k`, with the digits rounded away that do not fit or are not sure. -/
def rounded? (negative : Bool) (m : Nat) (k : Int) : Option Decimal := do
  let m ← timesTens? k.toNat m
  let scale := (-k).toNat
  let (m, scale) := match dropDigits? (scale - 28) m with
    | some m => (m, min scale 28)
    | none => (0, 0)
  let (m, scale) := dropExcess scale m
  let (m, scale) := stripZeros scale m
  ofParts? negative m scale

theorem ofBinary64?_of_nonpos {x : Binary64} (h : x.exponent ≤ 0) :
    ofBinary64? x = rounded? x.negative
      (divideByTwos (-x.exponent).toNat x.significand x.exponent).1
      (divideByTwos (-x.exponent).toNat x.significand x.exponent).2 := by
  unfold ofBinary64? rounded?
  rw [if_pos h]
  rfl

theorem ofBinary64?_of_pos {x : Binary64} (h : 0 < x.exponent) :
    ofBinary64? x = (divideByFives? x.exponent.toNat x.significand x.exponent).bind
      fun traded => rounded? x.negative traded.1 traded.2 := by
  unfold ofBinary64? rounded?
  rw [if_neg (Int.not_le.mpr h)]
  rfl

/-- A fraction of at most 96 bits can be rounded. -/
theorem exists_rounded?_eq_some (negative : Bool) {m : Nat} {k : Int} (hm : m < pow2 96)
    (hk : k ≤ 0) : ∃ d, rounded? negative m k = some d := by
  have hzero : k.toNat = 0 := by omega
  have hkept : ∀ m scale, m < pow2 96 → scale ≤ 28 → ∃ d, ofParts? negative
      (stripZeros (dropExcess scale m).2 (dropExcess scale m).1).1
      (stripZeros (dropExcess scale m).2 (dropExcess scale m).1).2 = some d := by
    intro m scale hm hscale
    obtain ⟨hm', hscale'⟩ := dropExcess_bounds scale m
    obtain ⟨hm'', hscale''⟩ := stripZeros_bounds (dropExcess scale m).2 (dropExcess scale m).1
    exact ⟨_, dif_pos ⟨by omega, by omega⟩⟩
  simp only [rounded?, hzero, timesTens?, bind, Option.bind]
  cases hdrop : dropDigits? ((-k).toNat - 28) m with
  | none => exact hkept 0 0 (by decide) (by decide)
  | some m' =>
    have hle := dropDigits?_le hdrop
    exact hkept m' (min (-k).toNat 28) (by omega) (by omega)

/-- **A number has no decimal exactly if its magnitude is at least `2 ^ 96`**, which for a significand
of 53 bits is a matter of the exponent. -/
theorem ofBinary64?_eq_none_iff (x : Binary64) : ofBinary64? x = none ↔ 44 ≤ x.exponent := by
  have hlt := x.significand_lt
  by_cases hexponent : x.exponent ≤ 0
  · obtain ⟨hm, hk⟩ := divideByTwos_bounds (n := (-x.exponent).toNat) x.exponent
      (Nat.lt_trans hlt (by decide : pow2 53 < pow2 96))
    have hk : (divideByTwos (-x.exponent).toNat x.significand x.exponent).2 ≤ 0 := by omega
    obtain ⟨d, hd⟩ := exists_rounded?_eq_some x.negative hm hk
    rw [ofBinary64?_of_nonpos hexponent, hd]
    exact iff_of_false nofun (by omega)
  · have hpos : 0 < x.exponent := by omega
    have hnat : x.exponent = (x.exponent.toNat : Int) := by omega
    rw [ofBinary64?_of_pos hpos]
    by_cases h44 : 44 ≤ x.exponent
    · have hle : pow2 52 * pow2 44 ≤ x.significand * pow2 x.exponent.toNat :=
        Nat.mul_le_mul (Binary64.le_significand hpos) (pow2_le_pow2 (by omega))
      rw [← pow2_add] at hle
      rw [divideByFives?_of_le hnat (Nat.lt_trans hlt (by decide : pow2 53 < pow2 96)) hle]
      exact iff_of_true rfl h44
    · have hfits : x.significand * pow2 x.exponent.toNat < pow2 96 := by
        calc x.significand * pow2 x.exponent.toNat
            < pow2 53 * pow2 x.exponent.toNat := Nat.mul_lt_mul_of_pos_right hlt (Nat.two_pow_pos _)
          _ ≤ pow2 53 * pow2 43 := Nat.mul_le_mul_left _ (pow2_le_pow2 (by omega))
          _ = pow2 96 := (pow2_add 53 43).symm
      obtain ⟨d, hd⟩ := exists_rounded?_eq_some x.negative hfits
        (k := x.exponent - x.exponent.toNat) (by omega)
      rw [divideByFives?_of_lt _ hfits, Option.bind_some, hd]
      exact iff_of_false nofun h44

end Decimal

/-! ### Integers in floating point -/

namespace Binary64

theorem exponent_of_ofParts? {negative : Bool} {significand : Nat} {exponent : Int} {x : Binary64}
    (h : ofParts? negative significand exponent = some x) : x.exponent = exponent := by
  unfold ofParts? at h
  split at h
  · rw [← Option.some.inj h]
  · cases h

/-- A number of 64 bits has at most twelve of them behind its significand once it is rounded. -/
theorem exponent_nearest_le {negative : Bool} {n : Nat} {x : Binary64} (hn : n < pow2 64)
    (h : nearest negative n 1 = some x) : x.exponent ≤ 12 := by
  by_cases hzero : n = 0
  · rw [nearest, if_pos hzero] at h
    rw [← Option.some.inj h]
    exact (by decide : (-1074 : Int) ≤ 12)
  · have hlog : n.log2 < 64 := (Nat.log2_lt hzero).mpr hn
    simp only [nearest, if_neg hzero, floorLog2_one hzero] at h
    split at h
    · have hexponent := exponent_of_ofParts? h
      omega
    · have hexponent := exponent_of_ofParts? h
      omega

theorem exponent_ofInt_le {n : Int} (hn : n.natAbs < pow2 64) : (ofInt n).exponent ≤ 12 := by
  rw [ofInt]
  cases h : nearest (decide (n < 0)) n.natAbs 1 with
  | none => decide
  | some x => exact exponent_nearest_le hn h

end Binary64

/-- A number that has a decimal is below `2 ^ 96` in floating point as well. -/
theorem Number.exponent_le_of_toDecimal? {n : Number} {d : Decimal} (h : n.toDecimal? = some d) :
    n.toBinary64.exponent ≤ 43 := by
  have hfloat {x : Binary64} (hx : Decimal.ofBinary64? x = some d) : x.exponent ≤ 43 := by
    refine Int.not_lt.mp fun hlarge => ?_
    rw [(Decimal.ofBinary64?_eq_none_iff x).mpr (by omega)] at hx
    cases hx
  cases n with
  | int n =>
    have hle : (Binary64.ofInt n.toInt).exponent ≤ 12 := by
      refine Binary64.exponent_ofInt_le (Nat.lt_of_le_of_lt (Int64.natAbs_toInt_le n) ?_)
      decide
    exact Int.le_trans hle (by decide)
  | large n beyond => exact hfloat h
  | real x => exact hfloat h

/-- A number that has none is not. -/
theorem Number.le_exponent_of_toDecimal? {n : Number} (h : n.toDecimal? = none) :
    44 ≤ n.toBinary64.exponent := by
  cases n with
  | int n =>
    obtain ⟨d, hd, -⟩ := toDecimal?_int n
    rw [hd] at h
    cases h
  | large n beyond => exact (Decimal.ofBinary64?_eq_none_iff _).mp h
  | real x => exact (Decimal.ofBinary64?_eq_none_iff x).mp h

end DocQuery
