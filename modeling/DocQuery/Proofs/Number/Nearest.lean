import DocQuery.Number.Shortest
import Mathlib.Algebra.Order.Field.Power
import Mathlib.Data.Int.Log
import Mathlib.Data.Rat.Floor
import Mathlib.Tactic.FieldSimp
import Mathlib.Tactic.Linarith
import Mathlib.Tactic.NormNum.Pow
import Mathlib.Tactic.Positivity

/-!
# Rounding to the nearest number

What the nearest number to a quotient is, said with rational numbers: a quotient between the
midpoints around a number rounds to that number, and a quotient on a midpoint rounds to the even
one of its two neighbours.

## Main definitions

* `Binary64.Near x q` — `q` lies between the midpoints around `x`, which count as between them if the
  significand of `x` is even.

## Main results

* `floorLog2_eq_log` — the exponent that is found for a quotient is its binary logarithm.
* `Binary64.nearest_of_near` — what is near a number rounds to it.
-/

namespace DocQuery

/-! ### Powers with an integer exponent -/

theorem pow2_pos (n : Nat) : 0 < pow2 n :=
  Nat.two_pow_pos n

theorem pow10_pos (n : Nat) : 0 < pow10 n :=
  Nat.pow_pos (by decide)

theorem toNat_pow_eq {b : ℚ} (hb : b ≠ 0) (e : ℤ) : b ^ e.toNat = b ^ e * b ^ (-e).toNat := by
  have h : (e.toNat : ℤ) = e + (-e).toNat := by omega
  rw [← zpow_natCast, h, zpow_add₀ hb, zpow_natCast]

/-- A power of two with a positive exponent is moved across to the other side of a comparison. -/
theorem cast_pow2_toNat (e : ℤ) : (pow2 e.toNat : ℚ) = 2 ^ e * pow2 (-e).toNat := by
  simp only [pow2, Nat.pow_eq, Nat.cast_pow, Nat.cast_ofNat]
  exact toNat_pow_eq two_ne_zero e

theorem cast_pow10_toNat (e : ℤ) : (pow10 e.toNat : ℚ) = 10 ^ e * pow10 (-e).toNat := by
  simp only [pow10, Nat.pow_eq, Nat.cast_pow, Nat.cast_ofNat]
  exact toNat_pow_eq (by norm_num) e

/-! ### Intervals that are closed or open -/

/-- A number lies between two others, which belong to the interval if it is closed. -/
def Within (closed : Prop) [Decidable closed] (low high q : ℚ) : Prop :=
  if closed then low ≤ q ∧ q ≤ high else low < q ∧ q < high

section Within

variable {closed : Prop} [Decidable closed] {low high q : ℚ}

theorem Within.low_le (h : Within closed low high q) : low ≤ q := by
  unfold Within at h
  split at h
  · exact h.1
  · exact h.1.le

theorem Within.le_high (h : Within closed low high q) : q ≤ high := by
  unfold Within at h
  split at h
  · exact h.2
  · exact h.2.le

/-- Only a closed interval contains its ends. -/
theorem Within.closed_of_eq (h : Within closed low high q) (hq : q = low ∨ q = high) : closed := by
  unfold Within at h
  split at h
  · assumption
  · rcases hq with rfl | rfl
    · exact absurd h.1 (lt_irrefl q)
    · exact absurd h.2 (lt_irrefl q)

theorem Within.mono {low' high' : ℚ} (h : Within closed low high q) (hlow : low' ≤ low)
    (hhigh : high ≤ high') : Within closed low' high' q := by
  unfold Within at h ⊢
  split at h <;> rename_i hclosed
  · rw [if_pos hclosed]
    exact ⟨hlow.trans h.1, h.2.trans hhigh⟩
  · rw [if_neg hclosed]
    exact ⟨hlow.trans_lt h.1, h.2.trans_le hhigh⟩

/-- Units of measurement do not matter. -/
theorem within_mul_iff {unit : ℚ} (hunit : 0 < unit) :
    Within closed (low * unit) (high * unit) (q * unit) ↔ Within closed low high q := by
  simp only [Within, mul_le_mul_iff_left₀ hunit, mul_lt_mul_iff_left₀ hunit]

end Within

/-! ### Rounding quotients -/

/-- A number rounds to `r`: it is at most a half away, and less than that unless `r` is even. -/
def RoundsTo (q : ℚ) (r : ℕ) : Prop :=
  Within (r % 2 = 0) (r - 1 / 2) (r + 1 / 2) q

/-- The same said with natural numbers: the quotient is at most a half away on either side. -/
theorem RoundsTo.bounds {n d r : ℕ} (hd : 0 < d) (h : RoundsTo (n / d) r) :
    (2 * (d * r) ≤ 2 * n + d ∧ (2 * (d * r) = 2 * n + d → r % 2 = 0))
      ∧ (2 * n ≤ 2 * (d * r) + d ∧ (2 * n = 2 * (d * r) + d → r % 2 = 0)) := by
  have hd' : (0 : ℚ) < d := Nat.cast_pos.mpr hd
  have hlow := h.low_le
  have hhigh := h.le_high
  rw [le_div_iff₀ hd'] at hlow
  rw [div_le_iff₀ hd'] at hhigh
  have hlow : (2 * (d * r) : ℚ) ≤ 2 * n + d := by linarith
  have hhigh : (2 * n : ℚ) ≤ 2 * (d * r) + d := by linarith
  refine ⟨⟨by exact_mod_cast hlow, fun heq => h.closed_of_eq (.inl ?_)⟩,
    by exact_mod_cast hhigh, fun heq => h.closed_of_eq (.inr ?_)⟩
  · have heq : (2 * (d * r) : ℚ) = 2 * n + d := by exact_mod_cast heq
    rw [div_eq_iff hd'.ne']
    linarith
  · have heq : (2 * n : ℚ) = 2 * (d * r) + d := by exact_mod_cast heq
    rw [div_eq_iff hd'.ne']
    linarith

/-- What is at most a half away from a quotient is one of the two numbers around it. -/
theorem eq_div_or_eq_succ {n d r : ℕ} (hd : 0 < d) (hlow : 2 * (d * r) ≤ 2 * n + d)
    (hhigh : 2 * n ≤ 2 * (d * r) + d) : r = n / d ∨ r = n / d + 1 := by
  have hn : d * (n / d) + n % d = n := Nat.div_add_mod n d
  have hm : n % d < d := Nat.mod_lt n hd
  have hle : n / d < r + 1 := by
    refine Nat.div_lt_of_lt_mul ?_
    rw [Nat.mul_succ]
    omega
  have hge : r < n / d + 2 := by
    by_contra hcon
    have hmul : d * (n / d + 2) ≤ d * r := Nat.mul_le_mul_left d (Nat.le_of_not_lt hcon)
    rw [Nat.mul_add] at hmul
    omega
  omega

theorem divHalfEven_eq {n d r : ℕ} (hd : 0 < d) (h : RoundsTo (n / d) r) : divHalfEven n d = r := by
  obtain ⟨⟨hlow, hlow'⟩, hhigh, hhigh'⟩ := h.bounds hd
  have hn : d * (n / d) + n % d = n := Nat.div_add_mod n d
  have hm : n % d < d := Nat.mod_lt n hd
  have hr := eq_div_or_eq_succ hd hlow hhigh
  simp only [divHalfEven]
  generalize n / d = q at *
  rcases hr with rfl | rfl
  · split
    · rfl
    · split <;> [skip; split] <;> omega
  · rw [Nat.mul_succ] at hlow hhigh hlow' hhigh'
    split
    · omega
    · split <;> [rfl; split] <;> omega

/-! ### Binary logarithms -/

/-- The guess by the lengths of the two numbers is at most one too large. -/
theorem log_sub_log_bounds {num den : ℕ} (hnum : 0 < num) (hden : 0 < den) :
    (2 : ℚ) ^ ((num.log2 : ℤ) - den.log2 - 1) ≤ num / den
      ∧ (num / den : ℚ) < 2 ^ ((num.log2 : ℤ) - den.log2 + 1) := by
  have hden' : (0 : ℚ) < den := Nat.cast_pos.mpr hden
  have hnumlow : (2 : ℚ) ^ (num.log2 : ℤ) ≤ num := by
    exact_mod_cast Nat.log2_self_le hnum.ne'
  have hnumhigh : (num : ℚ) < 2 ^ (num.log2 + 1 : ℤ) := by
    exact_mod_cast Nat.lt_log2_self
  have hdenlow : (2 : ℚ) ^ (den.log2 : ℤ) ≤ den := by
    exact_mod_cast Nat.log2_self_le hden.ne'
  have hdenhigh : (den : ℚ) < 2 ^ (den.log2 + 1 : ℤ) := by
    exact_mod_cast Nat.lt_log2_self
  constructor
  · rw [le_div_iff₀ hden']
    calc (2 : ℚ) ^ ((num.log2 : ℤ) - den.log2 - 1) * den
        ≤ 2 ^ ((num.log2 : ℤ) - den.log2 - 1) * 2 ^ (den.log2 + 1 : ℤ) :=
          mul_le_mul_of_nonneg_left hdenhigh.le (by positivity)
      _ = 2 ^ (num.log2 : ℤ) := by
          rw [← zpow_add₀ two_ne_zero]
          congr 1
          omega
      _ ≤ num := hnumlow
  · rw [div_lt_iff₀ hden']
    calc (num : ℚ) < 2 ^ (num.log2 + 1 : ℤ) := hnumhigh
      _ = 2 ^ ((num.log2 : ℤ) - den.log2 + 1) * 2 ^ (den.log2 : ℤ) := by
          rw [← zpow_add₀ two_ne_zero]
          congr 1
          omega
      _ ≤ 2 ^ ((num.log2 : ℤ) - den.log2 + 1) * den :=
          mul_le_mul_of_nonneg_left hdenlow (by positivity)

theorem mul_pow2_lt_iff {num den : ℕ} (hden : 0 < den) (e : ℤ) :
    num * pow2 (-e).toNat < den * pow2 e.toNat ↔ (num / den : ℚ) < 2 ^ e := by
  have hden' : (0 : ℚ) < den := Nat.cast_pos.mpr hden
  have hpow : (0 : ℚ) < pow2 (-e).toNat := Nat.cast_pos.mpr (pow2_pos _)
  rw [← Nat.cast_lt (α := ℚ), Nat.cast_mul, Nat.cast_mul, cast_pow2_toNat e, ← mul_assoc,
    mul_lt_mul_iff_left₀ hpow, div_lt_iff₀' hden']

theorem floorLog2_eq_log {num den : ℕ} (hnum : 0 < num) (hden : 0 < den) :
    Binary64.floorLog2 num den = Int.log 2 (num / den : ℚ) := by
  have hq : (0 : ℚ) < num / den := div_pos (Nat.cast_pos.mpr hnum) (Nat.cast_pos.mpr hden)
  obtain ⟨hlow, hhigh⟩ := log_sub_log_bounds hnum hden
  have hlow := (Int.zpow_le_iff_le_log one_lt_two hq).mp hlow
  have hhigh := (Int.lt_zpow_iff_log_lt one_lt_two hq).mp hhigh
  simp only [Binary64.floorLog2, mul_pow2_lt_iff hden]
  split
  · next hlt =>
    have hlt := (Int.lt_zpow_iff_log_lt one_lt_two hq).mp hlt
    omega
  · next hge =>
    have hge := (Int.zpow_le_iff_le_log one_lt_two hq).mp (le_of_not_gt hge)
    omega

namespace Binary64

/-! ### The numbers around a number -/

/-- A quarter of the unit of a number, of which its neighbours are two or four away. -/
def quarter (x : Binary64) : ℚ :=
  2 ^ (x.exponent - 2)

theorem quarter_pos (x : Binary64) : 0 < x.quarter :=
  zpow_pos two_pos _

/-- A number lies between the midpoints around `x`. -/
def Near (x : Binary64) (q : ℚ) : Prop :=
  Within (x.significand % 2 = 0) (x.lowest * x.quarter) (x.highest * x.quarter) q

/-- The common scale on which quarters of the unit are compared with multiples of `10 ^ k`. -/
def scaleAt (x : Binary64) (k : ℤ) : ℚ :=
  pow2 (2 - x.exponent).toNat * pow10 (-k).toNat

theorem scaleAt_pos (x : Binary64) (k : ℤ) : 0 < x.scaleAt k :=
  mul_pos (Nat.cast_pos.mpr (pow2_pos _)) (Nat.cast_pos.mpr (pow10_pos _))

theorem cast_quarterAt (x : Binary64) (k : ℤ) : (x.quarterAt k : ℚ) = x.quarter * x.scaleAt k := by
  have h := cast_pow2_toNat (x.exponent - 2)
  rw [show -(x.exponent - 2) = 2 - x.exponent from neg_sub _ _] at h
  rw [quarterAt, Nat.cast_mul, h, quarter, scaleAt, mul_assoc]

theorem cast_stepAt (x : Binary64) (k : ℤ) : (x.stepAt k : ℚ) = 10 ^ k * x.scaleAt k := by
  rw [stepAt, Nat.cast_mul, cast_pow10_toNat k, scaleAt, mul_assoc, mul_comm (pow10 _ : ℚ)]

theorem readsBack_iff (x : Binary64) (k : ℤ) (d : ℕ) :
    x.readsBack k d = true ↔ x.Near (d * 10 ^ k) := by
  rw [Near, ← within_mul_iff (x.scaleAt_pos k), mul_assoc, mul_assoc, mul_assoc, ← cast_quarterAt,
    ← cast_stepAt, Within]
  simp only [readsBack, ← Nat.cast_mul, Nat.cast_le, Nat.cast_lt]
  split <;> simp

theorem le_lowest (x : Binary64) : (4 * x.significand - 2 : ℚ) ≤ x.lowest := by
  have hlowest : 4 * x.significand ≤ x.lowest + 2 := by
    unfold lowest
    split <;> omega
  have hlowest : (4 * x.significand : ℚ) ≤ x.lowest + 2 := by exact_mod_cast hlowest
  linarith

theorem cast_highest (x : Binary64) : (x.highest : ℚ) = 4 * x.significand + 2 := by
  rw [highest]
  push_cast
  rfl

section Near

variable {x : Binary64} {q : ℚ}

theorem Near.low_le (h : x.Near q) : (4 * x.significand - 2) * x.quarter ≤ q :=
  (mul_le_mul_of_nonneg_right x.le_lowest x.quarter_pos.le).trans (Within.low_le h)

theorem Near.le_high (h : x.Near q) : q ≤ (4 * x.significand + 2) * x.quarter := by
  have hhigh := Within.le_high h
  rwa [cast_highest] at hhigh

/-- Powers of two in quarters of the unit of a number. -/
theorem zpow_add_exponent (x : Binary64) (n : ℕ) :
    (2 : ℚ) ^ (n + x.exponent - 2) = 2 ^ n * x.quarter := by
  rw [quarter, ← zpow_natCast, ← zpow_add₀ two_ne_zero]
  congr 1
  omega

theorem zpow_exponent (x : Binary64) : (2 : ℚ) ^ x.exponent = 4 * x.quarter := by
  have h := x.zpow_add_exponent 2
  rwa [show ((2 : ℕ) : ℤ) + x.exponent - 2 = x.exponent by omega,
    show (2 : ℚ) ^ 2 = 4 by norm_num] at h

/-- In its own unit a number is what everything near it rounds to. -/
theorem Near.roundsTo (h : x.Near q) : RoundsTo (q / 2 ^ x.exponent) x.significand := by
  have hpos : (0 : ℚ) < 2 ^ x.exponent := zpow_pos two_pos _
  have hlow := mul_le_mul_of_nonneg_right x.le_lowest x.quarter_pos.le
  rw [RoundsTo, ← within_mul_iff hpos, div_mul_cancel₀ q hpos.ne', zpow_exponent]
  refine Within.mono h ?_ ?_
  · linarith
  · rw [cast_highest]
    linarith

theorem Near.lt_zpow (h : x.Near q) : q < 2 ^ (x.exponent + 53) := by
  have hpow := x.zpow_add_exponent 55
  have hsignificand : (x.significand : ℚ) + 1 ≤ 2 ^ 53 := by
    have hlt : x.significand + 1 ≤ 2 ^ 53 := x.significand_lt
    exact_mod_cast hlt
  rw [show x.exponent + 53 = (55 : ℕ) + x.exponent - 2 by omega, hpow]
  refine h.le_high.trans_lt (mul_lt_mul_of_pos_right ?_ x.quarter_pos)
  linarith

/-- The numbers in a power of two's lower neighbourhood have a smaller unit. -/
theorem Near.eq_power (h : x.Near q) (he : x.exponent ≠ -1074) (hq : q < 2 ^ (x.exponent + 52)) :
    x.significand = pow2 52 := by
  obtain hcanonical | ⟨-, hle⟩ := x.canonical
  · exact absurd hcanonical he
  · rw [show x.exponent + 52 = (54 : ℕ) + x.exponent - 2 by omega, zpow_add_exponent] at hq
    have hlt := lt_of_mul_lt_mul_right (h.low_le.trans_lt hq) x.quarter_pos.le
    have hlt : (x.significand : ℚ) < 2 ^ 52 + 1 := by linarith
    have hlt : x.significand < 2 ^ 52 + 1 := by exact_mod_cast hlt
    exact Nat.le_antisymm (Nat.le_of_lt_succ hlt) hle

/-- Below a power of two, but nearer to it than to its lower neighbour, the carry of the rounding
leads to the power. -/
theorem Near.roundsTo_carry (h : x.Near q) (he : x.exponent ≠ -1074)
    (hq : q < 2 ^ (x.exponent + 52)) : RoundsTo (q / 2 ^ (x.exponent - 1)) (pow2 53) := by
  have hunit : (2 : ℚ) ^ (x.exponent - 1) = 2 * x.quarter := by
    have hpow := x.zpow_add_exponent 1
    rwa [show ((1 : ℕ) : ℤ) + x.exponent - 2 = x.exponent - 1 by omega, pow_one] at hpow
  have hlowest : (x.lowest : ℚ) = 2 ^ 54 - 1 := by
    rw [lowest, if_pos ⟨h.eq_power he hq, he⟩, h.eq_power he hq]
    norm_num [pow2]
  have hpower : ((pow2 53 : ℕ) : ℚ) = 2 ^ 53 := by norm_num [pow2]
  have hpos : (0 : ℚ) < 2 ^ (x.exponent - 1) := zpow_pos two_pos _
  have hlow := Within.low_le h
  rw [hlowest] at hlow
  rw [show x.exponent + 52 = (54 : ℕ) + x.exponent - 2 by omega, zpow_add_exponent] at hq
  rw [RoundsTo, ← within_mul_iff hpos, div_mul_cancel₀ q hpos.ne', hunit, hpower, Within,
    if_pos (by decide)]
  have hquarter := x.quarter_pos
  constructor <;> linarith

/-- The exponent that rounding works with: that of the number, but one less below a power of two. -/
theorem Near.exponent_eq (h : x.Near q) (hpos : 0 < q) :
    max (-1074) (Int.log 2 q - 52)
      = if x.exponent ≠ -1074 ∧ q < 2 ^ (x.exponent + 52) then x.exponent - 1 else x.exponent := by
  have hle : -1074 ≤ x.exponent := by
    rcases x.canonical with he | ⟨he, -⟩ <;> omega
  have hhigh := (Int.lt_zpow_iff_log_lt one_lt_two hpos).mp h.lt_zpow
  split_ifs with hbelow
  · obtain ⟨he, hq⟩ := hbelow
    have hlow : (2 : ℚ) ^ (x.exponent + 51) ≤ q := by
      have hsignificand : (x.significand : ℚ) = 2 ^ 52 := by
        rw [h.eq_power he hq]
        norm_num [pow2]
      have hlow := h.low_le
      rw [hsignificand] at hlow
      rw [show x.exponent + 51 = (53 : ℕ) + x.exponent - 2 by omega, zpow_add_exponent]
      refine le_trans (mul_le_mul_of_nonneg_right ?_ x.quarter_pos.le) hlow
      norm_num
    have hlow := (Int.zpow_le_iff_le_log one_lt_two hpos).mp hlow
    have hhigh := (Int.lt_zpow_iff_log_lt one_lt_two hpos).mp hq
    omega
  · by_cases he : x.exponent = -1074
    · omega
    · have hlow : (2 : ℚ) ^ (x.exponent + 52) ≤ q := le_of_not_gt fun hq => hbelow ⟨he, hq⟩
      have hlow := (Int.zpow_le_iff_le_log one_lt_two hpos).mp hlow
      omega

/-- The quotient that rounding works with is measured in units of the exponent. -/
theorem scaled_div (num den : ℕ) (e : ℤ) :
    ((num * pow2 (-e).toNat : ℕ) / (den * pow2 e.toNat : ℕ) : ℚ) = num / den / 2 ^ e := by
  have hpow : (pow2 (-e).toNat : ℚ) ≠ 0 := (Nat.cast_pos.mpr (pow2_pos _)).ne'
  rw [Nat.cast_mul, Nat.cast_mul, cast_pow2_toNat e, ← mul_assoc, mul_div_mul_right _ _ hpow,
    div_div]

theorem ofParts?_self (x : Binary64) :
    ofParts? x.negative x.significand x.exponent = some x :=
  dif_pos ⟨x.significand_lt, x.exponent_le, x.canonical⟩

/-- Rounding a quotient yields the number that it is near to. -/
theorem nearest_of_near {num den : ℕ} (hnum : 0 < num) (hden : 0 < den)
    (h : x.Near (num / den)) : nearest x.negative num den = some x := by
  have hpos : (0 : ℚ) < num / den := div_pos (Nat.cast_pos.mpr hnum) (Nat.cast_pos.mpr hden)
  have hden' (e : ℤ) : 0 < den * pow2 e.toNat := Nat.mul_pos hden (pow2_pos _)
  have hexponent := h.exponent_eq hpos
  rw [← floorLog2_eq_log hnum hden] at hexponent
  simp only [nearest, if_neg hnum.ne', hexponent]
  by_cases hbelow : x.exponent ≠ -1074 ∧ (num / den : ℚ) < 2 ^ (x.exponent + 52)
  · have hround := h.roundsTo_carry hbelow.1 hbelow.2
    rw [← scaled_div] at hround
    have hparts := x.ofParts?_self
    rw [h.eq_power hbelow.1 hbelow.2] at hparts
    rw [if_pos hbelow, divHalfEven_eq (hden' _) hround, if_pos rfl, Int.sub_add_cancel, hparts]
  · have hround := h.roundsTo
    rw [← scaled_div] at hround
    rw [if_neg hbelow, divHalfEven_eq (hden' _) hround, if_neg x.significand_lt.ne, x.ofParts?_self]

/-- A rational number is near to one number of each sign. -/
theorem Near.eq {y : Binary64} (hx : x.Near q) (hy : y.Near q) (hpos : 0 < q)
    (hsign : x.negative = y.negative) : x = y := by
  have hnum : 0 < q.num.toNat := by
    have hnum := Rat.num_pos.mpr hpos
    omega
  have hq : (q.num.toNat / q.den : ℚ) = q := by
    have hcast : ((q.num.toNat : ℤ) : ℚ) = q.num := by
      rw [Int.toNat_of_nonneg (Rat.num_pos.mpr hpos).le]
    rw [← Int.cast_natCast, hcast, Rat.num_div_den]
  have hxn := nearest_of_near hnum q.den_pos (x := x) (by rwa [hq])
  have hyn := nearest_of_near hnum q.den_pos (x := y) (by rwa [hq])
  rw [hsign, hyn] at hxn
  exact (Option.some.inj hxn).symm

end Near

end Binary64

end DocQuery
