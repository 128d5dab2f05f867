import DocQuery.Value.Basic

/-!
# Integers in floating point

An integer becomes a floating-point number by rounding to its 53 leading bits.  An integer that is
not zero has some, so it does not become zero.

## Main results

* `Binary64.isZero_ofInt` — zero is the only integer of 64 bits that becomes zero.
-/

namespace DocQuery

theorem divHalfEven_bounds (n d : Nat) : n / d ≤ divHalfEven n d ∧ divHalfEven n d ≤ n / d + 1 := by
  simp only [divHalfEven]
  repeat' split
  all_goals omega

/-- A larger number is not rounded to a smaller quotient. -/
theorem divHalfEven_mono {m n : Nat} (h : m ≤ n) (d : Nat) : divHalfEven m d ≤ divHalfEven n d := by
  have hquotient : m / d ≤ n / d := Nat.div_le_div_right h
  rcases Nat.lt_or_eq_of_le hquotient with hlt | heq
  · have hm := (divHalfEven_bounds m d).2
    have hn := (divHalfEven_bounds n d).1
    omega
  · -- between the same neighbours it depends on what is left over
    have hmod : m % d ≤ n % d := by
      have hm := Nat.div_add_mod m d
      have hn := Nat.div_add_mod n d
      rw [heq] at hm
      omega
    simp only [divHalfEven, heq]
    repeat' split
    all_goals omega

namespace Binary64

theorem floorLog2_one {n : Nat} (hn : n ≠ 0) : floorLog2 n 1 = n.log2 := by
  have hlow : 2 ^ n.log2 ≤ n := Nat.log2_self_le hn
  have hone : Nat.log2 1 = 0 := by decide
  have hguess : ¬n * pow2 (-(n.log2 : Int)).toNat < 1 * pow2 (n.log2 : Int).toNat := by
    have hneg : (-(n.log2 : Int)).toNat = 0 := by omega
    rw [hneg, Int.toNat_natCast, pow2, pow2]
    simpa using hlow
  simp only [floorLog2, hone, Int.natCast_zero, Int.sub_zero]
  exact if_neg hguess

/-- A significand of 53 bits is in canonical form for every exponent in range. -/
theorem exists_ofParts?_eq_some (negative : Bool) {significand : Nat} {exponent : Int}
    (h : pow2 52 ≤ significand) (h' : significand < pow2 53) (he : -1074 ≤ exponent)
    (he' : exponent ≤ 971) :
    ∃ x, ofParts? negative significand exponent = some x ∧ x.isZero = false := by
  have hparts : significand < pow2 53 ∧ exponent ≤ 971
      ∧ (exponent = -1074 ∨ (-1074 ≤ exponent ∧ pow2 52 ≤ significand)) :=
    ⟨h', he', .inr ⟨he, h⟩⟩
  have hpos : 0 < pow2 52 := by decide
  have hzero : significand ≠ 0 := by omega
  exact ⟨_, dif_pos hparts, beq_false_of_ne hzero⟩

/-- The 53 leading bits of an integer, which has zeros behind it if there are not as many. -/
theorem leadingBits_bounds {n : Nat} (hn : n ≠ 0) :
    let exponent : Int := n.log2 - 52
    let bits := n * pow2 (-exponent).toNat / (1 * pow2 exponent.toNat)
    pow2 52 ≤ bits ∧ bits < pow2 53 := by
  intro exponent bits
  have hlow : 2 ^ n.log2 ≤ n := Nat.log2_self_le hn
  have hhigh : n < 2 ^ (n.log2 + 1) := Nat.lt_log2_self
  simp only [bits, pow2, Nat.one_mul, Nat.pow_eq]
  -- a short integer is shifted up to 53 bits, a long one is shifted down
  rcases Nat.le_total n.log2 52 with hlog | hlog
  · have hup : (-exponent).toNat = 52 - n.log2 := by omega
    have hdown : exponent.toNat = 0 := by omega
    have h52 : 2 ^ n.log2 * 2 ^ (52 - n.log2) = 2 ^ 52 := by
      rw [← Nat.pow_add, Nat.add_sub_cancel' hlog]
    have h53 : 2 ^ (n.log2 + 1) * 2 ^ (52 - n.log2) = 2 ^ 53 := by
      rw [Nat.pow_succ, Nat.mul_right_comm, h52, ← Nat.pow_succ]
    have hpos : 0 < 2 ^ (52 - n.log2) := Nat.two_pow_pos _
    rw [hup, hdown, Nat.pow_zero, Nat.div_one, ← h52, ← h53]
    exact ⟨Nat.mul_le_mul_right _ hlow, Nat.mul_lt_mul_of_pos_right hhigh hpos⟩
  · have hup : (-exponent).toNat = 0 := by omega
    have hdown : exponent.toNat = n.log2 - 52 := by omega
    have h52 : 2 ^ 52 * 2 ^ (n.log2 - 52) = 2 ^ n.log2 := by
      rw [← Nat.pow_add, Nat.add_sub_cancel' hlog]
    have h53 : 2 ^ 53 * 2 ^ (n.log2 - 52) = 2 ^ (n.log2 + 1) := by
      rw [Nat.pow_succ, Nat.mul_right_comm, h52, Nat.pow_succ]
    have hpos : 0 < 2 ^ (n.log2 - 52) := Nat.two_pow_pos _
    rw [hup, hdown, Nat.pow_zero, Nat.mul_one, Nat.le_div_iff_mul_le hpos,
      Nat.div_lt_iff_lt_mul hpos, h52, h53]
    exact ⟨hlow, hhigh⟩

theorem exists_nearest_eq_some (negative : Bool) {n : Nat} (hn : n ≠ 0) (h : n < pow2 64) :
    ∃ x, nearest negative n 1 = some x ∧ x.isZero = false := by
  obtain ⟨hlow, hhigh⟩ := leadingBits_bounds hn
  obtain ⟨hle, hle'⟩ := divHalfEven_bounds (n * pow2 (-(n.log2 - 52 : Int)).toNat)
    (1 * pow2 (n.log2 - 52 : Int).toNat)
  have hlog : n.log2 < 64 := (Nat.log2_lt hn).mpr h
  have hexponent : max (-1074) (floorLog2 n 1 - 52) = (n.log2 - 52 : Int) := by
    rw [floorLog2_one hn]
    omega
  rw [nearest, if_neg hn]
  -- rounding up may carry into a bit more, which is shifted out again
  simp only [hexponent]
  split
  · exact exists_ofParts?_eq_some negative (by decide) (by decide) (by omega) (by omega)
  · next hne =>
    exact exists_ofParts?_eq_some negative (by omega) (by omega) (by omega) (by omega)

theorem isZero_ofInt (n : Int64) : (ofInt n.toInt).isZero = decide (n = 0) := by
  by_cases hn : n = 0
  · subst hn
    rfl
  · have hn' : n.toInt.natAbs ≠ 0 := by
      intro h
      exact hn (Int64.toInt_inj.mp (Int.natAbs_eq_zero.mp h))
    have hlt : n.toInt.natAbs < pow2 64 := by
      have h64 : pow2 64 = 2 ^ 64 := rfl
      have hle := n.le_toInt
      have hge := n.toInt_lt
      omega
    obtain ⟨x, hx, hzero⟩ := exists_nearest_eq_some (decide (n.toInt < 0)) hn' hlt
    rw [ofInt, hx, Option.getD_some, hzero, decide_eq_false hn]

end Binary64

end DocQuery
