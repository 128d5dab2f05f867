import DocQuery.Evaluation.Filter
import DocQuery.Proofs.Evaluation.Grouping
import DocQuery.Proofs.Number.Large
import DocQuery.Proofs.Outcome

/-!
# Integers in conditions and groups

Integers of 64 bits are compared as integers, unless both of them are beyond `2 ^ 63`.  Such integers
are compared after rounding, so some of them are not told apart: not by an equality, not in a list of
values, not in a set, and not as the keys of a group.  A condition on a remainder takes every integer
beyond `2 ^ 63` for the last one before it.

## Main definitions

* `Value.IsInteger` — a value is an integer of 64 bits, with or without a sign.
* `RoundAlike` — two integers that are not told apart.

## Main results

* `Value.integers_compared` — **how integers are compared, and which of them are confused.**
* `Filter.holds_mod` — **which remainder of an integer is tested.**
-/

namespace DocQuery

/-- The value is an integer. -/
def Value.IsInteger (v : Value) (n : Int) : Prop :=
  ∃ a, v = .number a ∧ a.integer? = some n

/-- The integers are the same, or both are beyond 64 bits with a sign and round to the same multiple
of `2 ^ 11`. -/
def RoundAlike (m n : Int) : Prop :=
  m = n ∨ pow2 63 ≤ m ∧ pow2 63 ≤ n ∧ divHalfEven m.toNat 2048 = divHalfEven n.toNat 2048

instance (m n : Int) : Decidable (RoundAlike m n) :=
  inferInstanceAs (Decidable (_ ∨ _))

namespace Value.IsInteger

variable {a b : Value} {m n : Int}

/-! ### Comparisons -/

theorem order_eq (ha : a.IsInteger m) (hb : b.IsInteger n) :
    a.order b = compare (comparedInteger m) (comparedInteger n) := by
  obtain ⟨x, rfl, hx⟩ := ha
  obtain ⟨y, rfl, hy⟩ := hb
  obtain ⟨d, hd, hm⟩ := Number.toDecimal?_of_integer? hx
  obtain ⟨e, he, hn⟩ := Number.toDecimal?_of_integer? hy
  rw [order, Number.order_of_some hd he, Decimal.order_of_holds hm hn]

theorem equal_iff_alike (ha : a.IsInteger m) (hb : b.IsInteger n) :
    a.equal b = true ↔ RoundAlike m n := by
  rw [equal_iff, ha.order_eq hb, Int.compare_eq_eq]
  exact comparedInteger_eq_iff

theorem equal_eq (ha : a.IsInteger m) (hb : b.IsInteger n) : a.equal b = decide (RoundAlike m n) :=
  Bool.eq_iff_iff.mpr ((ha.equal_iff_alike hb).trans decide_eq_true_iff.symm)

theorem order_ne_gt (ha : a.IsInteger m) (hb : b.IsInteger n) (h : m ≤ n) : a.order b ≠ .gt := by
  rw [ha.order_eq hb, ne_eq, Int.compare_eq_gt]
  exact Int.not_lt.mpr (comparedInteger_mono h)

/-! ### Equality in conditions, sets and groups -/

theorem items_eq (ha : a.IsInteger m) : a.items = [] := by
  obtain ⟨x, rfl, -⟩ := ha
  rfl

theorem equalsAny_eq (ha : a.IsInteger m) (expected : Value) :
    equalsAny [a] expected = a.equal expected := by
  rw [equalsAny, if_neg (by simp), anyElement]
  simp [ha.items_eq]

/-- Two integers of a set are represented by the same one if they round alike. -/
theorem exists_kept (ha : a.IsInteger m) (hb : b.IsInteger n) {kept values : List Value}
    (h : Represents kept values) (hamem : a ∈ values) (hbmem : b ∈ values) :
    ∃ v ∈ kept, ∃ w ∈ kept, v.equal a = true ∧ w.equal b = true ∧ (v = w ↔ RoundAlike m n) := by
  obtain ⟨v, hv, hva⟩ := h.covers a hamem
  obtain ⟨w, hw, hwb⟩ := h.covers b hbmem
  exact ⟨v, hv, w, hw, hva, hwb,
    (eq_iff_of_pairwise h.apart hv hw hva hwb).trans (ha.equal_iff_alike hb)⟩

/-- Two rows are in one group if the integers that they are grouped by round alike. -/
theorem exists_group (ha : a.IsInteger m) (hb : b.IsInteger n)
    {rows : List (Value × List Value)} {groups : List (Value × List (List Value))}
    (h : Groups rows groups) {r s : List Value} (hr : (a, r) ∈ rows) (hs : (b, s) ∈ rows) :
    ∃ g ∈ groups, ∃ g' ∈ groups, g.1.equal a = true ∧ r ∈ g.2 ∧ g'.1.equal b = true ∧ s ∈ g'.2
      ∧ (g = g' ↔ RoundAlike m n) := by
  obtain ⟨g, hg, hga, hrg⟩ := h.exists_mem hr
  obtain ⟨g', hg', hgb, hsg⟩ := h.exists_mem hs
  have hapart := List.pairwise_map.mp h.keys.apart
  exact ⟨g, hg, g', hg', hga, hrg, hgb, hsg,
    (eq_iff_of_pairwise hapart hg hg' hga hgb).trans (ha.equal_iff_alike hb)⟩

end Value.IsInteger

/-- How two integers are compared.  If one of them is below `2 ^ 63`, their order is that of the
integers, and if not, it is that of the nearest multiples of `2 ^ 11`, which is never the reverse.
They are equal exactly if they round alike, and then an equality holds between them, a list with one
of them contains the other, they have the same representative in every set, and documents with these
keys come into the same group. -/
theorem Value.integers_compared {a b : Value} {m n : Int} (ha : a.IsInteger m)
    (hb : b.IsInteger n) :
    (m < pow2 63 ∨ n < pow2 63 → a.order b = compare m n)
    ∧ (m ≤ n → a.order b ≠ .gt)
    ∧ (a.equal b = true ↔ RoundAlike m n)
    ∧ (Operation.compare .eq b).holds [a] = .ok (decide (RoundAlike m n))
    ∧ (∀ others, (Operation.isIn (b :: others)).holds [a]
        = .ok (decide (RoundAlike m n) || others.any a.equal))
    ∧ (∀ values, a ∈ values → b ∈ values →
        ∃ kept, Accumulation.addToSet.eval values = .ok (.array kept)
          ∧ ∃ v ∈ kept, ∃ w ∈ kept, v.equal a = true ∧ w.equal b = true ∧ (v = w ↔ RoundAlike m n))
    ∧ ∀ rows r s, (a, r) ∈ rows → (b, s) ∈ rows →
        ∃ g ∈ groupRows rows, ∃ g' ∈ groupRows rows, g.1.equal a = true ∧ r ∈ g.2
          ∧ g'.1.equal b = true ∧ s ∈ g'.2 ∧ (g = g' ↔ RoundAlike m n) := by
  refine ⟨fun h => ?_, ha.order_ne_gt hb, ha.equal_iff_alike hb, ?_, fun others => ?_,
    fun values hamem hbmem => ?_, fun rows r s => ha.exists_group hb (groups_groupRows rows)⟩
  · rw [ha.order_eq hb, compare_comparedInteger h]
  · rw [Operation.holds, Comparison.test, ha.equalsAny_eq, ha.equal_eq hb]
  · rw [Operation.holds, List.any_cons, ha.equalsAny_eq, ha.equal_eq hb,
      funext ha.equalsAny_eq]
  · exact ⟨_, rfl, ha.exists_kept hb (represents_distinct values) hamem hbmem⟩

/-- An integer with a sign beside a large one. -/
theorem Value.integers_compared_mixed :
    let a : Value := .int 9223372036854775807
    let b : Value := .number (.large 9223372036854775808 (by decide))
    a.IsInteger 9223372036854775807 ∧ b.IsInteger 9223372036854775808
      ∧ a.order b = .lt ∧ a.equal b ≠ true := by
  intro a b
  have ha : a.IsInteger 9223372036854775807 := ⟨_, rfl, rfl⟩
  have hb : b.IsInteger 9223372036854775808 := ⟨_, rfl, rfl⟩
  obtain ⟨horder, -, hequal, -⟩ := integers_compared ha hb
  refine ⟨ha, hb, (horder (by decide)).trans rfl, fun h => ?_⟩
  exact absurd (hequal.mp h) (by decide)

/-- Two large integers one after the other are equal, and documents with these keys are put into one
group. -/
theorem Value.large_integers_confused :
    let a : Value := .number (.large 9223372036854775808 (by decide))
    let b : Value := .number (.large 9223372036854775809 (by decide))
    a.IsInteger 9223372036854775808 ∧ b.IsInteger 9223372036854775809
      ∧ a.order b = .eq ∧ b.order a = .eq
      ∧ (groupRows [(a, []), (b, [])]).length = 1 := by
  refine ⟨⟨_, rfl, rfl⟩, ⟨_, rfl, rfl⟩, ?_, ?_, ?_⟩ <;> decide +kernel

/-! ### Remainders -/

namespace Value.IsInteger

variable {v : Value} {n : Int}

/-- Above the last integer of 64 bits with a sign, that one is taken. -/
theorem wholePart?_eq (h : v.IsInteger n) : v.wholePart? = some (min n (pow2 63 - 1)) := by
  obtain ⟨x, rfl, hx⟩ := h
  cases x with
  | int k =>
    obtain rfl := Option.some.inj hx
    have hlt : k.toInt < pow2 63 := k.toInt_lt
    rw [wholePart?, Int.min_eq_left (by omega)]
  | large k beyond =>
    obtain rfl := Option.some.inj hx
    obtain ⟨hsign, hpos, hvalue⟩ := Binary64.ofInt_large beyond k.toNat_lt
    have hlarge := le_comparedInteger (Int.ofNat_le.mpr beyond)
    have hwhole : (Binary64.ofInt k.toNat).truncated = comparedInteger k.toNat := by
      have hdown : (-(Binary64.ofInt k.toNat).exponent).toNat = 0 := by omega
      rw [Binary64.magnitudeAt, Int.sub_zero] at hvalue
      rw [comparedInteger_of_le (Int.ofNat_le.mpr beyond), Int.toNat_natCast, ← hvalue]
      simp only [Binary64.truncated, hsign, hdown, pow2_zero, Nat.div_one]
      rfl
    have hpow : (0 : Int) < pow2 63 := by decide
    have hbeyond : (pow2 63 : Int) ≤ k.toNat := Int.ofNat_le.mpr beyond
    rw [wholePart?, Number.toBinary64, hwhole]
    · refine congrArg some ?_
      omega
    · rintro _ ⟨⟩
  | real x => cases hx

end Value.IsInteger

/-- The last integer before `2 ^ 63` has the same remainder as a larger one if the divisor divides
their distance. -/
theorem min_tmod_eq_iff {n d : Int} :
    (min n (pow2 63 - 1)).tmod d = n.tmod d ↔ n < pow2 63 ∨ d ∣ n - (pow2 63 - 1) := by
  have hpos : (0 : Int) < pow2 63 := by decide
  by_cases hn : n < pow2 63
  · rw [Int.min_eq_left (by omega)]
    exact iff_of_true rfl (.inl hn)
  · have hn : pow2 63 ≤ n := Int.not_lt.mp hn
    rw [Int.min_eq_right (by omega), Int.tmod_eq_emod_of_nonneg (by omega),
      Int.tmod_eq_emod_of_nonneg (by omega), eq_comm, Int.emod_eq_emod_iff_emod_sub_eq_zero,
      ← Int.dvd_iff_emod_eq_zero]
    exact (or_iff_right (Int.not_lt.mpr hn)).symm

/-- What a condition on a remainder says of an integer: it tests the remainder of the integer itself
or, if that is beyond `2 ^ 63`, of the last one before.  That is the same remainder exactly if the
divisor divides the distance of the two. -/
theorem Filter.holds_mod {path : String} {document v : Value} {n : Int} {divisor remainder : Int64}
    {operation : Operation} (hoperation : Operation.mod? divisor remainder = .ok operation)
    (hreached : document.reached (pathSegments path) = [v]) (hv : v.IsInteger n) :
    (Filter.field (.path path) operation).holds document
        = .ok (decide ((min n (pow2 63 - 1)).tmod divisor.toInt = remainder.toInt))
    ∧ ((min n (pow2 63 - 1)).tmod divisor.toInt = n.tmod divisor.toInt
        ↔ n < pow2 63 ∨ divisor.toInt ∣ n - (pow2 63 - 1)) := by
  obtain ⟨-, -, hoperation⟩ := bind_eq_ok_iff.mp hoperation
  cases hoperation
  refine ⟨?_, min_tmod_eq_iff⟩
  rw [holds, Target.values, hreached, Operation.holds, anyElement]
  simp [hv.items_eq, hv.wholePart?_eq, beq_eq_decide]

/-- Ten more than the last integer before `2 ^ 63` have the same last digit. -/
theorem Filter.holds_mod_tenMore :
    let v : Value := .number (.large 9223372036854775817 (by decide))
    Operation.mod? 10 7 = .ok (.mod 10 7)
      ∧ (Value.object [("n", v)]).reached (pathSegments "n") = [v]
      ∧ v.IsInteger 9223372036854775817
      ∧ (Filter.field (.path "n") (.mod 10 7)).holds (.object [("n", v)]) = .ok true
      ∧ (9223372036854775817 : Int).tmod 10 = 7 := by
  intro v
  have hoperation : Operation.mod? 10 7 = .ok (.mod 10 7) := rfl
  have hreached : (Value.object [("n", v)]).reached (pathSegments "n") = [v] := by rfl
  have hv : v.IsInteger 9223372036854775817 := ⟨_, rfl, rfl⟩
  obtain ⟨hholds, -⟩ := holds_mod hoperation hreached hv
  exact ⟨hoperation, hreached, hv, hholds.trans (congrArg _ (decide_eq_true (by decide))), by decide⟩

/-- One more than the last integer before `2 ^ 63` has not. -/
theorem Filter.holds_mod_ne :
    let v : Value := .number (.large 9223372036854775808 (by decide))
    Operation.mod? 10 8 = .ok (.mod 10 8)
      ∧ v.IsInteger 9223372036854775808
      ∧ (9223372036854775808 : Int).tmod 10 = 8
      ∧ (Filter.field (.path "n") (.mod 10 8)).holds (.object [("n", v)]) = .ok false := by
  exact ⟨rfl, ⟨_, rfl, rfl⟩, by decide, by rfl⟩

end DocQuery
