import DocQuery.Evaluation.Function

/-!
# Integers in decimal arithmetic

A decimal of scale zero holds an integer.  Decimal arithmetic on integers is exact as long as the
result fits 96 bits, which every sum, difference or product of two 64-bit integers does, and the way
from a 64-bit integer into decimals and back loses nothing.

## Main definitions

* `Decimal.Holds d n` — `d` is the integer `n`, written without a fraction.

## Main results

* `Decimal.add?_of_holds`, `sub?_of_holds`, `mul?_of_holds`, `rem?_of_holds` — arithmetic is exact.
* `Decimal.div?_of_holds` — a quotient without a remainder is exact too.
* `arithmetic_int` — an operation on 64-bit integers whose exact result fits 64 bits yields it.
-/

namespace DocQuery

/-! ### Integers of 64 bits -/

theorem signed64?_toInt (n : Int64) : signed64? n.toInt = some n := by
  have h : -(pow2 63 : Int) ≤ n.toInt ∧ n.toInt < (pow2 63 : Int) := ⟨n.le_toInt, n.toInt_lt⟩
  simp [signed64?, h]

theorem toInt_of_signed64? {n : Int} {k : Int64} (h : signed64? n = some k) : k.toInt = n := by
  simp only [signed64?] at h
  split at h
  · next hn =>
    cases h
    exact Int64.toInt_ofInt_of_le hn.1 hn.2
  · cases h

theorem signed64?_isSome {n : Int} (h : -pow2 63 ≤ n) (h' : n < pow2 63) :
    ∃ k, signed64? n = some k := by
  exact ⟨Int64.ofInt n, by simp [signed64?, h, h']⟩

theorem Int64.natAbs_toInt_le (n : Int64) : n.toInt.natAbs ≤ pow2 63 := by
  have h : -(pow2 63 : Int) ≤ n.toInt := n.le_toInt
  have h' : n.toInt < pow2 63 := n.toInt_lt
  omega

/-- The magnitude of a 64-bit integer fits the mantissa of a decimal. -/
theorem Int64.natAbs_toInt_lt (n : Int64) : n.toInt.natAbs < pow2 96 := by
  have h63 : pow2 63 < pow2 96 := by decide
  exact Nat.lt_of_le_of_lt (natAbs_toInt_le n) h63

/-- A remainder of 64-bit integers fits 64 bits. -/
theorem exists_toInt_eq_tmod (a : Int64) {b : Int64} (hb : b ≠ 0) :
    ∃ k : Int64, k.toInt = a.toInt.tmod b.toInt := by
  have hb0 : 0 < b.toInt.natAbs := by
    refine Int.natAbs_pos.mpr fun h0 => hb (Int64.toInt_inj.mp h0)
  have hle := Int64.natAbs_toInt_le b
  have htmod : (a.toInt.tmod b.toInt).natAbs < b.toInt.natAbs := by
    rw [Int.natAbs_tmod]
    exact Nat.mod_lt _ hb0
  obtain ⟨k, hk⟩ := signed64?_isSome (n := a.toInt.tmod b.toInt) (by omega) (by omega)
  exact ⟨k, toInt_of_signed64? hk⟩

namespace Decimal

/-! ### Decimals without a fraction -/

/-- The decimal is written without a fraction and has the value `n`. -/
def Holds (d : Decimal) (n : Int) : Prop :=
  d.scale = 0 ∧ d.valueAt 0 = n

theorem holds_iff {d : Decimal} {n : Int} :
    d.Holds n ↔ d.scale = 0 ∧ (if d.negative then -(d.mantissa : Int) else d.mantissa) = n := by
  simp only [Holds, valueAt]
  constructor <;> rintro ⟨hs, hv⟩ <;> refine ⟨hs, ?_⟩ <;> rw [hs] at * <;>
    simpa [pow10] using hv

theorem Holds.mantissa_eq {d : Decimal} {n : Int} (h : d.Holds n) : d.mantissa = n.natAbs := by
  obtain ⟨-, hv⟩ := holds_iff.mp h
  split at hv <;> omega

theorem Holds.valueAt_zero {d : Decimal} {n : Int} (h : d.Holds n) : d.valueAt 0 = n := h.2

theorem Holds.mantissa_eq_zero_iff {d : Decimal} {n : Int} (h : d.Holds n) :
    d.mantissa = 0 ↔ n = 0 := by
  rw [h.mantissa_eq]
  omega

theorem Holds.commonScale_eq {a b : Decimal} {m n : Int} (ha : a.Holds m) (hb : b.Holds n) :
    commonScale a b = 0 := by
  simp [commonScale, ha.1, hb.1]

theorem zero_holds : zero.Holds 0 := holds_iff.mpr ⟨rfl, rfl⟩

theorem Holds.neg {d : Decimal} {n : Int} (h : d.Holds n) : d.neg.Holds (-n) := by
  obtain ⟨hs, hv⟩ := holds_iff.mp h
  refine holds_iff.mpr ⟨hs, ?_⟩
  cases hd : d.negative <;> simp_all [Decimal.neg]
  omega

theorem Holds.abs {d : Decimal} {n : Int} (h : d.Holds n) : d.abs.Holds n.natAbs := by
  refine holds_iff.mpr ⟨h.1, ?_⟩
  simp [Decimal.abs, h.mantissa_eq]

/-- An integer of at most 96 bits is held by the decimal of its sign and magnitude. -/
theorem ofParts?_holds {n : Int} (h : n.natAbs < pow2 96) :
    ∃ d, ofParts? (decide (n < 0)) n.natAbs 0 = some d ∧ d.Holds n := by
  have hn : n.natAbs < pow2 96 ∧ 0 ≤ 28 := ⟨h, by decide⟩
  refine ⟨⟨decide (n < 0), n.natAbs, 0, hn.1, hn.2⟩, by simp [ofParts?, hn], ?_⟩
  refine holds_iff.mpr ⟨rfl, ?_⟩
  simp only [decide_eq_true_eq]
  split <;> omega

theorem ofInt?_holds {n : Int} (h : n.natAbs < pow2 96) : ∃ d, ofInt? n = some d ∧ d.Holds n :=
  ofParts?_holds h

theorem divHalfEven_one (n : Nat) : divHalfEven n 1 = n := by
  simp [divHalfEven, Nat.mod_one]

/-- Rounding leaves an integer as it is. -/
theorem ofScaled?_holds {n : Int} (h : n.natAbs < pow2 96) :
    ∃ d, ofScaled? n 0 = some d ∧ d.Holds n := by
  have hp : pow10 0 = 1 := rfl
  simpa [ofScaled?, fit?, hp, divHalfEven_one] using ofParts?_holds h

/-! ### Arithmetic -/

variable {a b : Decimal} {m n : Int}

theorem add?_of_holds (ha : a.Holds m) (hb : b.Holds n) (h : (m + n).natAbs < pow2 96) :
    ∃ c, add? a b = some c ∧ c.Holds (m + n) := by
  unfold add?
  split
  · next ha0 =>
    have hm : m = 0 := ha.mantissa_eq_zero_iff.mp ha0
    exact ⟨b, rfl, by simpa [hm] using hb⟩
  · split
    · next hb0 =>
      have hn : n = 0 := hb.mantissa_eq_zero_iff.mp hb0
      exact ⟨a, rfl, by simpa [hn] using ha⟩
    · rw [ha.commonScale_eq hb, ha.valueAt_zero, hb.valueAt_zero]
      exact ofScaled?_holds h

theorem sub?_of_holds (ha : a.Holds m) (hb : b.Holds n) (h : (m - n).natAbs < pow2 96) :
    ∃ c, sub? a b = some c ∧ c.Holds (m - n) := by
  unfold sub?
  split
  · next hb0 =>
    have hn : n = 0 := hb.mantissa_eq_zero_iff.mp hb0
    refine ⟨_, rfl, ?_⟩
    split
    · next ha0 =>
      have hm : m = 0 := ha.mantissa_eq_zero_iff.mp ha0
      simpa [hm, hn] using hb
    · simpa [hn] using ha
  · rw [Int.sub_eq_add_neg] at *
    exact add?_of_holds ha hb.neg h

theorem mul?_of_holds (ha : a.Holds m) (hb : b.Holds n) (h : (m * n).natAbs < pow2 96) :
    ∃ c, mul? a b = some c ∧ c.Holds (m * n) := by
  simp only [mul?, ha.mantissa_eq_zero_iff, hb.mantissa_eq_zero_iff]
  split
  · next h0 =>
    have hmn : m * n = 0 := by rcases h0 with h0 | h0 <;> simp [h0]
    exact ⟨zero, rfl, by simpa [hmn] using zero_holds⟩
  · rw [ha.1, hb.1, ha.valueAt_zero, hb.valueAt_zero]
    exact ofScaled?_holds h

/-- An integer below the divisor in magnitude is its own remainder. -/
theorem tmod_eq_self (h : m.natAbs < n.natAbs) : m.tmod n = m := by
  have htmod : (m.tmod n).natAbs = m.natAbs := by
    rw [Int.natAbs_tmod, Nat.mod_eq_of_lt h]
  rcases Int.le_total 0 m with hm | hm
  · have := Int.tmod_nonneg n hm
    omega
  · have := Int.tmod_nonneg n (Int.neg_nonneg_of_nonpos hm)
    rw [Int.neg_tmod] at this
    omega

theorem order_of_holds (ha : a.Holds m) (hb : b.Holds n) : order a b = compare m n := by
  rw [order, ha.commonScale_eq hb, ha.valueAt_zero, hb.valueAt_zero]

/-- The remainder goes with the division toward zero. -/
theorem rem?_of_holds (ha : a.Holds m) (hb : b.Holds n) (hn : n ≠ 0) (h : m.natAbs < pow2 96) :
    ∃ c, rem? a b = some c ∧ c.Holds (m.tmod n) := by
  have hb0 : b.mantissa ≠ 0 := mt hb.mantissa_eq_zero_iff.mp hn
  have htmod : (m.tmod n).natAbs = m.natAbs % n.natAbs := Int.natAbs_tmod m n
  rw [rem?, if_neg hb0, order_of_holds ha.abs hb.abs]
  -- what is below the divisor is returned as it is, and only the rest is divided
  cases ho : compare (m.natAbs : Int) n.natAbs with
  | lt =>
    have hlt : m.natAbs < n.natAbs := by
      have := Int.compare_eq_lt.mp ho
      omega
    have hm : m.tmod n = m := tmod_eq_self hlt
    refine ⟨_, rfl, ?_⟩
    rw [hm]
    split
    · next ha0 =>
      rw [ha.mantissa_eq_zero_iff.mp ha0]
      exact zero_holds
    · exact ha
  | eq =>
    have heq : m.natAbs = n.natAbs := by
      have := Int.compare_eq_eq.mp ho
      omega
    have hm : m.tmod n = 0 := by
      rw [heq, Nat.mod_self] at htmod
      exact Int.natAbs_eq_zero.mp htmod
    exact ⟨zero, rfl, hm ▸ zero_holds⟩
  | gt =>
    rw [ha.commonScale_eq hb, ha.valueAt_zero, hb.valueAt_zero]
    apply ofScaled?_holds
    rw [htmod]
    exact Nat.lt_of_le_of_lt (Nat.mod_le _ _) h

/-- A division that leaves no remainder ends at its first step, before any digit is added. -/
theorem div?_of_holds (ha : a.Holds m) (hb : b.Holds n) (hn : n ≠ 0) (hexact : m.tmod n = 0) :
    ∃ c, div? a b = some c ∧ c.Holds (m.tdiv n) := by
  have hb0 : b.mantissa ≠ 0 := mt hb.mantissa_eq_zero_iff.mp hn
  rw [div?, if_neg hb0]
  by_cases ha0 : a.mantissa = 0
  · rw [if_pos ha0, ha.mantissa_eq_zero_iff.mp ha0, Int.zero_tdiv]
    exact ⟨zero, rfl, zero_holds⟩
  · have hmod : a.mantissa % b.mantissa = 0 := by
      rw [ha.mantissa_eq, hb.mantissa_eq, ← Int.natAbs_tmod, hexact, Int.natAbs_zero]
    have hdigits : divideOut? b.mantissa 58 a.mantissa ((a.scale : Int) - b.scale)
        = some (a.mantissa / b.mantissa, 0) := by
      rw [ha.1, hb.1, divideOut?, if_pos hmod]
      rfl
    have hfits : a.mantissa / b.mantissa < pow2 96 ∧ 0 ≤ 28 :=
      ⟨Nat.lt_of_le_of_lt (Nat.div_le_self _ _) a.mantissa_lt, by decide⟩
    rw [if_neg ha0, hdigits]
    refine ⟨⟨a.negative != b.negative, a.mantissa / b.mantissa, 0, hfits.1, hfits.2⟩, ?_,
      holds_iff.mpr ⟨rfl, ?_⟩⟩
    · simp [hmod, ofParts?, hfits]
    · rw [← (holds_iff.mp ha).2, ← (holds_iff.mp hb).2]
      cases a.negative <;> cases b.negative <;> simp

end Decimal

/-! ### Values -/

/-- The decimal of a 64-bit integer. -/
theorem toDecimal?_int (n : Int64) :
    ∃ d, (Number.int n).toDecimal? = some d ∧ d.Holds n.toInt := by
  exact Decimal.ofInt?_holds (Int64.natAbs_toInt_lt n)

theorem ofDecimal_of_holds {d : Decimal} {k : Int64} (h : d.Holds k.toInt) :
    Value.ofDecimal d = .int k := by
  obtain ⟨hs, hv⟩ := Decimal.holds_iff.mp h
  have hi : d.integer? = some k.toInt := by
    have hp : pow10 0 = 1 := rfl
    simp [Decimal.integer?, hs, hp, Nat.mod_one, hv]
  simp [Value.ofDecimal, hi, signed64?_toInt]

/-- An operation on 64-bit integers that is exact in decimals, with a result of 64 bits. -/
theorem arithmetic_int {name : String} {f : Decimal → Decimal → Option Decimal} {a b k : Int64}
    (hf : ∀ {d e : Decimal}, d.Holds a.toInt → e.Holds b.toInt →
      ∃ c, f d e = some c ∧ c.Holds k.toInt) :
    arithmetic name f (.int a) (.int b) = .ok (.int k) := by
  obtain ⟨d, hd, hda⟩ := toDecimal?_int a
  obtain ⟨e, he, heb⟩ := toDecimal?_int b
  obtain ⟨c, hc, hck⟩ := hf hda heb
  simp [arithmetic, Value.int, hd, he, hc, ofDecimal_of_holds hck]

variable {name : String} {a b k : Int64}

theorem arithmetic_add (h : k.toInt = a.toInt + b.toInt) :
    arithmetic name Decimal.add? (.int a) (.int b) = .ok (.int k) := by
  refine arithmetic_int fun hd he => ?_
  have hk := Int64.natAbs_toInt_lt k
  rw [h] at hk ⊢
  exact Decimal.add?_of_holds hd he hk

theorem arithmetic_sub (h : k.toInt = a.toInt - b.toInt) :
    arithmetic name Decimal.sub? (.int a) (.int b) = .ok (.int k) := by
  refine arithmetic_int fun hd he => ?_
  have hk := Int64.natAbs_toInt_lt k
  rw [h] at hk ⊢
  exact Decimal.sub?_of_holds hd he hk

theorem arithmetic_mul (h : k.toInt = a.toInt * b.toInt) :
    arithmetic name Decimal.mul? (.int a) (.int b) = .ok (.int k) := by
  refine arithmetic_int fun hd he => ?_
  have hk := Int64.natAbs_toInt_lt k
  rw [h] at hk ⊢
  exact Decimal.mul?_of_holds hd he hk

theorem arithmetic_rem (hb : b ≠ 0) (h : k.toInt = a.toInt.tmod b.toInt) :
    arithmetic name Decimal.rem? (.int a) (.int b) = .ok (.int k) := by
  refine arithmetic_int fun hd he => ?_
  have hb0 : b.toInt ≠ 0 := fun h0 => hb (Int64.toInt_inj.mp h0)
  rw [h]
  exact Decimal.rem?_of_holds hd he hb0 (Int64.natAbs_toInt_lt a)

theorem arithmetic_div (hb : b ≠ 0) (hexact : a.toInt.tmod b.toInt = 0)
    (h : k.toInt = a.toInt.tdiv b.toInt) :
    arithmetic name Decimal.div? (.int a) (.int b) = .ok (.int k) := by
  refine arithmetic_int fun hd he => ?_
  have hb0 : b.toInt ≠ 0 := fun h0 => hb (Int64.toInt_inj.mp h0)
  rw [h]
  exact Decimal.div?_of_holds hd he hb0 hexact

end DocQuery
