import DocQuery.Proofs.Number.Decimal

/-!
# Integers beyond 64 bits with a sign

An integer from `2 ^ 63` on goes through floating point, where its last eleven bits are rounded away.
So it is compared as the nearest multiple of `2 ^ 11`, while every other integer of 64 bits is
compared as itself.

## Main definitions

* `comparedInteger` — the integer as which an integer is compared.

## Main results

* `Binary64.ofInt_large` — a large integer in floating point.
* `Decimal.ofBinary64?_holds` — an integer in floating point as a decimal.
* `comparedInteger_mono`, `comparedInteger_eq_iff` — what this does to the order of integers.
* `Number.toDecimal?_of_integer?` — the decimal of an integer.
-/

namespace DocQuery

/-! ### Large integers in floating point -/

namespace Binary64

/-- An integer of 64 bits from `2 ^ 63` on has eleven bits too many, or twelve once it has been
rounded up to `2 ^ 64`. -/
theorem ofInt_large {n : Nat} (hlow : pow2 63 ≤ n) (hhigh : n < pow2 64) :
    (ofInt n).negative = false ∧ 0 < (ofInt n).exponent
      ∧ (ofInt n).magnitudeAt 0 = 2048 * divHalfEven n 2048 := by
  have h63 : pow2 63 = 2048 * pow2 52 := rfl
  have h64 : pow2 64 = 2048 * pow2 53 := rfl
  have hn : n ≠ 0 := Nat.ne_of_gt (Nat.lt_of_lt_of_le (by decide) hlow)
  have hlog : n.log2 = 63 := (Nat.log2_eq_iff hn).mpr ⟨hlow, hhigh⟩
  have hexponent : max (-1074) (floorLog2 n 1 - 52) = 11 := by
    rw [floorLog2_one hn, hlog]
    rfl
  have hscaled : n * pow2 (-11 : Int).toNat = n ∧ 1 * pow2 (11 : Int).toNat = 2048 :=
    ⟨Nat.mul_one n, rfl⟩
  have hsign : decide ((n : Int) < 0) = false := decide_eq_false (by omega)
  obtain ⟨hle, hle'⟩ := divHalfEven_bounds n 2048
  rw [ofInt, hsign, Int.natAbs_natCast, nearest, if_neg hn]
  simp only [hexponent, hscaled]
  -- only the numbers next to `2 ^ 64` are rounded up to it
  split
  · next hcarry =>
    have hparts : ofParts? false (pow2 52) (11 + 1)
        = some ⟨false, pow2 52, 12, by decide, by decide, by decide⟩ := rfl
    rw [hparts, hcarry]
    exact ⟨rfl, by decide, rfl⟩
  · next hne =>
    have hparts : divHalfEven n 2048 < pow2 53 ∧ (11 : Int) ≤ 971
        ∧ ((11 : Int) = -1074 ∨ (-1074 ≤ (11 : Int) ∧ pow2 52 ≤ divHalfEven n 2048)) :=
      ⟨by omega, by decide, .inr ⟨by decide, by omega⟩⟩
    have hpos : (0 : Int) < 11 := by decide
    rw [ofParts?, dif_pos hparts]
    exact ⟨rfl, hpos, Nat.mul_comm _ _⟩

end Binary64

/-- An integer in floating point that fits 96 bits is held by its decimal. -/
theorem Decimal.ofBinary64?_holds {x : Binary64} (hpos : 0 < x.exponent)
    (hfits : x.magnitudeAt 0 < pow2 96) :
    ∃ d, ofBinary64? x = some d ∧ d.Holds (x.valueAt 0) := by
  have hmagnitude : x.magnitudeAt 0 = x.significand * pow2 x.exponent.toNat := by
    rw [Binary64.magnitudeAt, Int.sub_zero]
  rw [hmagnitude] at hfits
  have hpower : x.exponent - x.exponent.toNat = 0 := by omega
  have hparts : x.significand * pow2 x.exponent.toNat < pow2 96 ∧ 0 ≤ 28 := ⟨hfits, by decide⟩
  -- nothing stands behind the point, so nothing is rounded away
  have hrounded : rounded? x.negative (x.significand * pow2 x.exponent.toNat) 0
      = ofParts? x.negative (x.significand * pow2 x.exponent.toNat) 0 := rfl
  rw [ofBinary64?_of_pos hpos, divideByFives?_of_lt _ hfits, Option.bind_some, hpower, hrounded,
    ofParts?, dif_pos hparts]
  refine ⟨_, rfl, holds_iff.mpr ⟨rfl, ?_⟩⟩
  rw [Binary64.valueAt, hmagnitude]

/-! ### What integers are compared as -/

/-- The integer as which an integer is compared: itself if it is below `2 ^ 63`, and otherwise the
nearest multiple of `2 ^ 11`, a half to the even one. -/
def comparedInteger (n : Int) : Int :=
  if n < pow2 63 then n else (2048 * divHalfEven n.toNat 2048 : Nat)

variable {m n : Int}

theorem comparedInteger_of_lt (h : n < pow2 63) : comparedInteger n = n :=
  if_pos h

theorem comparedInteger_of_le (h : pow2 63 ≤ n) :
    comparedInteger n = (2048 * divHalfEven n.toNat 2048 : Nat) :=
  if_neg (Int.not_lt.mpr h)

/-- A large integer stays one. -/
theorem le_comparedInteger (h : pow2 63 ≤ n) : pow2 63 ≤ comparedInteger n := by
  have h63 : pow2 63 = 2048 * pow2 52 := rfl
  obtain ⟨hle, -⟩ := divHalfEven_bounds n.toNat 2048
  rw [comparedInteger_of_le h]
  omega

theorem comparedInteger_mono (h : m ≤ n) : comparedInteger m ≤ comparedInteger n := by
  by_cases hn : n < pow2 63
  · rwa [comparedInteger_of_lt hn, comparedInteger_of_lt (Int.lt_of_le_of_lt h hn)]
  · have hn : pow2 63 ≤ n := Int.not_lt.mp hn
    by_cases hm : m < pow2 63
    · rw [comparedInteger_of_lt hm]
      exact Int.le_trans (Int.le_of_lt hm) (le_comparedInteger hn)
    · rw [comparedInteger_of_le (Int.not_lt.mp hm), comparedInteger_of_le hn]
      have hround := divHalfEven_mono (Int.toNat_le_toNat h) 2048
      omega

/-- Two integers are compared as the same one only if they are, or if both are large and round
alike. -/
theorem comparedInteger_eq_iff : comparedInteger m = comparedInteger n ↔
    m = n ∨ pow2 63 ≤ m ∧ pow2 63 ≤ n
      ∧ divHalfEven m.toNat 2048 = divHalfEven n.toNat 2048 := by
  constructor
  · intro h
    by_cases hm : m < pow2 63
    · by_cases hn : n < pow2 63
      · rw [comparedInteger_of_lt hm, comparedInteger_of_lt hn] at h
        exact .inl h
      · have hlarge := le_comparedInteger (Int.not_lt.mp hn)
        rw [← h, comparedInteger_of_lt hm] at hlarge
        omega
    · by_cases hn : n < pow2 63
      · have hlarge := le_comparedInteger (Int.not_lt.mp hm)
        rw [h, comparedInteger_of_lt hn] at hlarge
        omega
      · have hm := Int.not_lt.mp hm
        have hn := Int.not_lt.mp hn
        rw [comparedInteger_of_le hm, comparedInteger_of_le hn] at h
        exact .inr ⟨hm, hn, by omega⟩
  · rintro (rfl | ⟨hm, hn, hround⟩)
    · rfl
    · rw [comparedInteger_of_le hm, comparedInteger_of_le hn, hround]

theorem comparedInteger_lt (hlt : m < n) (h : m < pow2 63) :
    comparedInteger m < comparedInteger n := by
  refine Int.lt_iff_le_and_ne.mpr ⟨comparedInteger_mono (Int.le_of_lt hlt), fun heq => ?_⟩
  rcases comparedInteger_eq_iff.mp heq with rfl | ⟨hm, -, -⟩
  · exact Int.lt_irrefl m hlt
  · omega

/-- An integer below `2 ^ 63` is compared as itself with every integer. -/
theorem compare_comparedInteger (h : m < pow2 63 ∨ n < pow2 63) :
    compare (comparedInteger m) (comparedInteger n) = compare m n := by
  rcases Int.lt_trichotomy m n with hlt | rfl | hlt
  · rw [Int.compare_eq_lt.mpr hlt, Int.compare_eq_lt.mpr (comparedInteger_lt hlt (by omega))]
  · rw [Int.compare_eq_eq.mpr rfl, Int.compare_eq_eq.mpr rfl]
  · rw [Int.compare_eq_gt.mpr hlt, Int.compare_eq_gt.mpr (comparedInteger_lt hlt (by omega))]

/-! ### Numbers that are integers -/

namespace Number

/-- An integer is compared as a decimal of its own. -/
theorem toDecimal?_of_integer? {a : Number} (h : a.integer? = some n) :
    ∃ d, a.toDecimal? = some d ∧ d.Holds (comparedInteger n) := by
  cases a with
  | int k =>
    obtain rfl := Option.some.inj h
    rw [comparedInteger_of_lt k.toInt_lt]
    exact toDecimal?_int k
  | large k beyond =>
    obtain rfl := Option.some.inj h
    obtain ⟨hsign, hpos, hvalue⟩ := Binary64.ofInt_large beyond k.toNat_lt
    obtain ⟨-, hle⟩ := divHalfEven_bounds k.toNat 2048
    have hlt : k.toNat < pow2 64 := k.toNat_lt
    have h64 : pow2 64 = 2048 * pow2 53 := rfl
    have h96 : pow2 96 = 2048 * pow2 85 := rfl
    have hpow : pow2 53 + 1 < pow2 85 := by decide
    have hcompared : comparedInteger k.toNat = (Binary64.ofInt k.toNat).valueAt 0 := by
      rw [comparedInteger_of_le (Int.ofNat_le.mpr beyond), Int.toNat_natCast, Binary64.valueAt,
        hsign, hvalue]
      rfl
    rw [hcompared]
    exact Decimal.ofBinary64?_holds hpos (by omega)
  | real x => cases h

end Number

end DocQuery
