import DocQuery.Proofs.Number.Decimal
import DocQuery.Proofs.Value.Order

/-!
# The order of values is a total preorder

Pairs of numbers are compared in three ways, as integers, as decimals or in floating point.  All of
them agree with one rank in the integers: numbers with a decimal have its value, and those without
are beyond `2 ^ 96`, where floating point and decimals cannot disagree about which is the larger one.
So numbers are preordered, and arrays and objects are ordered by their first difference.

## Main definitions

* `Number.rank` — the integer by which a number is ordered.
* `Chains` — what comes after `a` passes the order on.

## Main results

* `Number.order_eq_compare_rank` — **numbers are ordered by their rank.**
* `Value.order_chains` — the order of values is transitive, and equal values can be exchanged in it.
* `Value.order_preorder` — **the order of values is a total preorder**, and equality an equivalence.
-/

namespace DocQuery

/-! ### Comparing multiples and signs -/

theorem compare_mul_right (m n : Int) {k : Int} (hk : 0 < k) :
    compare (m * k) (n * k) = compare m n := by
  simp only [compare, compareOfLessAndEq, Int.mul_lt_mul_right hk,
    Int.mul_eq_mul_right_iff (Int.ne_of_gt hk)]

/-- A number that is larger in magnitude is compared by its sign alone. -/
theorem compare_signed (negative : Bool) {m : Nat} {n : Int} (h : n.natAbs < m) :
    compare (if negative then -(m : Int) else m) n = if negative then .lt else .gt := by
  cases negative with
  | false => exact Int.compare_eq_gt.mpr (by simp only [Bool.false_eq_true, if_false]; omega)
  | true => exact Int.compare_eq_lt.mpr (by simp only [if_true]; omega)

theorem signed_mul (negative : Bool) (m k : Nat) :
    (if negative then -(m : Int) else m) * k
      = if negative then -((m * k : Nat) : Int) else (m * k : Nat) := by
  cases negative with
  | false => rfl
  | true => simp only [if_true, Int.natCast_mul, Int.neg_mul]

/-! ### Decimals and floating point on a common scale -/

namespace Decimal

theorem valueAt_of_le (d : Decimal) {s t : Nat} (hs : d.scale ≤ s) (ht : s ≤ t) :
    d.valueAt t = d.valueAt s * pow10 (t - s) := by
  have hpow : pow10 (t - d.scale) = pow10 (s - d.scale) * pow10 (t - s) := by
    have hsum : t - d.scale = s - d.scale + (t - s) := by omega
    rw [hsum]
    exact Nat.pow_add 10 _ _
  simp only [valueAt, signed_mul]
  rw [hpow, Nat.mul_assoc]

theorem order_eq_compare (a b : Decimal) :
    a.order b = compare (a.valueAt 28) (b.valueAt 28) := by
  have hscale : commonScale a b ≤ 28 := Nat.max_le.mpr ⟨a.scale_le, b.scale_le⟩
  have hpos : (0 : Int) < pow10 (28 - commonScale a b) := by
    exact Int.natCast_pos.mpr (Nat.pow_pos (by decide))
  have hleft : a.scale ≤ commonScale a b := Nat.le_max_left _ _
  have hright : b.scale ≤ commonScale a b := Nat.le_max_right _ _
  rw [order, a.valueAt_of_le hleft hscale, b.valueAt_of_le hright hscale,
    compare_mul_right _ _ hpos]

theorem natAbs_valueAt_lt (d : Decimal) : (d.valueAt 28).natAbs < pow2 96 * pow10 28 := by
  have hmagnitude : (d.valueAt 28).natAbs = d.mantissa * pow10 (28 - d.scale) := by
    simp only [valueAt]
    split <;> omega
  have hpow : pow10 (28 - d.scale) ≤ pow10 28 :=
    Nat.pow_le_pow_right (by decide) (Nat.sub_le 28 d.scale)
  rw [hmagnitude]
  calc d.mantissa * pow10 (28 - d.scale)
      ≤ d.mantissa * pow10 28 := Nat.mul_le_mul_left _ hpow
    _ < pow2 96 * pow10 28 := Nat.mul_lt_mul_of_pos_right d.mantissa_lt (by decide)

end Decimal

namespace Binary64

theorem valueAt_of_le (x : Binary64) {e f : Int} (he : e ≤ f) (hf : f ≤ x.exponent) :
    x.valueAt e = x.valueAt f * pow2 (f - e).toNat := by
  have hpow : pow2 (x.exponent - e).toNat = pow2 (x.exponent - f).toNat * pow2 (f - e).toNat := by
    have hsum : (x.exponent - e).toNat = (x.exponent - f).toNat + (f - e).toNat := by omega
    rw [hsum, pow2_add]
  simp only [valueAt, magnitudeAt, signed_mul]
  rw [hpow, Nat.mul_assoc]

/-- Integers in floating point are ordered as integers. -/
theorem order_eq_compare {x y : Binary64} (hx : 0 ≤ x.exponent) (hy : 0 ≤ y.exponent) :
    x.order y = compare (x.valueAt 0) (y.valueAt 0) := by
  have hexponent : 0 ≤ commonExponent x y := Int.le_min.mpr ⟨hx, hy⟩
  have hpos : (0 : Int) < pow2 (commonExponent x y - 0).toNat :=
    Int.natCast_pos.mpr (Nat.two_pow_pos _)
  have hleft : commonExponent x y ≤ x.exponent := Int.min_le_left _ _
  have hright : commonExponent x y ≤ y.exponent := Int.min_le_right _ _
  rw [order, x.valueAt_of_le hexponent hleft, y.valueAt_of_le hexponent hright,
    compare_mul_right _ _ hpos]

theorem magnitudeAt_le {x : Binary64} (hx : 0 < x.exponent) (e : Int) :
    pow2 52 * pow2 (x.exponent - e).toNat ≤ x.magnitudeAt e :=
  Nat.mul_le_mul_right _ (le_significand hx)

/-- A number with a larger exponent is compared by its sign alone, unless it is subnormal. -/
theorem order_of_exponent_lt {x y : Binary64} (h : y.exponent < x.exponent)
    (hx : 0 < x.exponent) : x.order y = if x.negative then .lt else .gt := by
  have hexponent : commonExponent x y = y.exponent := Int.min_eq_right (Int.le_of_lt h)
  have hlarge : pow2 53 ≤ x.magnitudeAt y.exponent := by
    calc pow2 53 = pow2 52 * pow2 1 := pow2_add 52 1
      _ ≤ pow2 52 * pow2 (x.exponent - y.exponent).toNat :=
        Nat.mul_le_mul_left _ (pow2_le_pow2 (by omega))
      _ ≤ x.magnitudeAt y.exponent := magnitudeAt_le hx _
  have hsmall : (y.valueAt y.exponent).natAbs = y.significand := by
    have hunit : pow2 (y.exponent - y.exponent).toNat = 1 := by
      rw [Int.sub_self]
      rfl
    simp only [valueAt, magnitudeAt, hunit]
    split <;> omega
  rw [order, hexponent]
  refine compare_signed x.negative ?_
  rw [hsmall]
  exact Nat.lt_of_lt_of_le y.significand_lt hlarge

end Binary64

/-! ### Numbers -/

namespace Number

/-- The integer by which a number is ordered: its value in units of `10 ^ -28`, rounded as decimals
are. -/
def rank (n : Number) : Int :=
  match n.toDecimal? with
  | some d => d.valueAt 28
  | none => n.toBinary64.valueAt 0 * pow10 28

theorem rank_of_some {n : Number} {d : Decimal} (h : n.toDecimal? = some d) :
    n.rank = d.valueAt 28 := by
  rw [rank, h]

theorem rank_of_none {n : Number} (h : n.toDecimal? = none) :
    n.rank = n.toBinary64.valueAt 0 * pow10 28 := by
  rw [rank, h]

/-- Numbers with a decimal are ordered as decimals, also where they are compared as integers. -/
theorem order_of_some {a b : Number} {d e : Decimal} (ha : a.toDecimal? = some d)
    (hb : b.toDecimal? = some e) : a.order b = d.order e := by
  cases a with
  | int m =>
    cases b with
    | int n =>
      obtain ⟨d', hd, hm⟩ := toDecimal?_int m
      obtain ⟨e', he, hn⟩ := toDecimal?_int n
      obtain rfl := Option.some.inj (ha.symm.trans hd)
      obtain rfl := Option.some.inj (hb.symm.trans he)
      exact (Decimal.order_of_holds hm hn).symm
    | _ => simp only [order, signed?, ha, hb]
  | _ => simp only [order, signed?, ha, hb]

/-- A number without a decimal is compared in floating point. -/
theorem order_of_none {a b : Number} (h : a.toDecimal? = none) :
    a.order b = a.toBinary64.order b.toBinary64 := by
  cases a with
  | int m =>
    obtain ⟨d, hd, -⟩ := toDecimal?_int m
    rw [hd] at h
    cases h
  | _ => simp only [order, signed?, h]

/-- A number without a decimal is beyond every number with one, on its own side of zero. -/
theorem order_of_none_some {a b : Number} {e : Decimal} (ha : a.toDecimal? = none)
    (hb : b.toDecimal? = some e) : a.order b = compare a.rank b.rank := by
  have hlarge := le_exponent_of_toDecimal? ha
  have hsmall := exponent_le_of_toDecimal? hb
  rw [order_of_none ha, Binary64.order_of_exponent_lt (by omega) (by omega), rank_of_none ha,
    rank_of_some hb, Binary64.valueAt, signed_mul]
  refine (compare_signed _ (Nat.lt_of_lt_of_le e.natAbs_valueAt_lt ?_)).symm
  refine Nat.mul_le_mul_right _ ?_
  calc pow2 96 = pow2 52 * pow2 44 := pow2_add 52 44
    _ ≤ pow2 52 * pow2 (a.toBinary64.exponent - 0).toNat :=
      Nat.mul_le_mul_left _ (pow2_le_pow2 (by omega))
    _ ≤ a.toBinary64.magnitudeAt 0 := Binary64.magnitudeAt_le (by omega) 0

/-- **Numbers are ordered by their rank.** -/
theorem order_eq_compare_rank (a b : Number) : a.order b = compare a.rank b.rank := by
  cases ha : a.toDecimal? with
  | some d =>
    cases hb : b.toDecimal? with
    | some e =>
      rw [order_of_some ha hb, Decimal.order_eq_compare, rank_of_some ha, rank_of_some hb]
    | none => rw [← order_swap b a, order_of_none_some hb ha, Int.compare_swap]
  | none =>
    cases hb : b.toDecimal? with
    | some e => exact order_of_none_some ha hb
    | none =>
      have hlarge := le_exponent_of_toDecimal? ha
      have hlarge' := le_exponent_of_toDecimal? hb
      have hpos : (0 : Int) < pow10 28 := by decide
      rw [order_of_none ha, Binary64.order_eq_compare (by omega) (by omega), rank_of_none ha,
        rank_of_none hb, compare_mul_right _ _ hpos]

end Number

/-! ### Passing the order on -/

/-- If `a` is at most `b`, and `b` at most `c`, then `a` compares with `c` as the first difference
among the two says. -/
def Chains {α : Type} (order : α → α → Ordering) (a : α) : Prop :=
  ∀ b c, (order a b).isLE → (order b c).isLE → order a c = (order a b).then (order b c)

theorem chains_compare {α : Type} [Ord α] [Std.TransOrd α] (a : α) : Chains compare a := by
  intro b c hab hbc
  cases h : compare a b with
  | lt =>
    rw [Ordering.lt_then]
    exact Std.TransCmp.lt_of_lt_of_isLE h hbc
  | eq =>
    rw [Ordering.eq_then]
    exact Std.TransCmp.congr_left h
  | gt =>
    rw [h] at hab
    cases hab

/-- What is ordered by its first difference passes the order on if its first part and, where that
decides nothing, the rest do. -/
theorem then_chains {o o' r r' s : Ordering} (h : (o.then r).isLE) (h' : (o'.then r').isLE)
    (hs : r.isLE → r'.isLE → s = r.then r') :
    (o.then o').then s = (o.then r).then (o'.then r') := by
  cases o with
  | gt => cases h
  | lt => rfl
  | eq =>
    cases o' with
    | gt => cases h'
    | eq => exact hs h h'
    | lt => cases r <;> first | rfl | cases h

namespace Value

theorem orderItems_chains {xs : List Value} (h : ∀ x ∈ xs, Chains order x) :
    Chains orderItems xs := by
  induction xs with
  | nil =>
    intro ys zs hxy hyz
    cases ys with
    | nil => cases zs <;> rfl
    | cons y ys =>
      cases zs with
      | nil => cases hyz
      | cons z zs => rfl
  | cons x xs ih =>
    obtain ⟨hx, hxs⟩ := List.forall_mem_cons.mp h
    intro ys zs hxy hyz
    cases ys with
    | nil => cases hxy
    | cons y ys =>
      cases zs with
      | nil => cases hyz
      | cons z zs =>
        rw [orderItems] at hxy hyz
        rw [orderItems, orderItems, orderItems,
          hx y z (Ordering.isLE_left_of_isLE_then hxy) (Ordering.isLE_left_of_isLE_then hyz)]
        exact then_chains hxy hyz fun hle hle' => ih hxs ys zs hle hle'

theorem orderFields_chains {xs : List (String × Value)}
    (h : ∀ field ∈ xs, Chains order field.2) : Chains orderFields xs := by
  induction xs with
  | nil =>
    intro ys zs hxy hyz
    cases ys with
    | nil => cases zs <;> rfl
    | cons y ys =>
      cases zs with
      | nil => cases hyz
      | cons z zs => rfl
  | cons field xs ih =>
    obtain ⟨hx, hxs⟩ := List.forall_mem_cons.mp h
    obtain ⟨k, x⟩ := field
    intro ys zs hxy hyz
    cases ys with
    | nil => cases hxy
    | cons field' ys =>
      cases zs with
      | nil => cases hyz
      | cons field'' zs =>
        obtain ⟨l, y⟩ := field'
        obtain ⟨m, z⟩ := field''
        rw [orderFields] at hxy hyz
        rw [orderFields, orderFields, orderFields, chains_compare k l m
          (Ordering.isLE_left_of_isLE_then hxy) (Ordering.isLE_left_of_isLE_then hyz)]
        refine then_chains hxy hyz fun hle hle' => ?_
        rw [hx y z (Ordering.isLE_left_of_isLE_then hle) (Ordering.isLE_left_of_isLE_then hle')]
        exact then_chains hle hle' fun hrest hrest' => ih hxs ys zs hrest hrest'

/-! ### Values of different types -/

theorem order_of_bracket_ne {a b : Value} (h : a.bracket ≠ b.bracket) :
    a.order b = compare a.bracket b.bracket := by
  cases a <;> cases b <;> first | rfl | exact absurd rfl h

theorem order_of_bracket_lt {a b : Value} (h : a.bracket < b.bracket) : a.order b = .lt := by
  rw [order_of_bracket_ne (Nat.ne_of_lt h)]
  exact Nat.compare_eq_lt.mpr h

theorem bracket_le_of_isLE {a b : Value} (h : (a.order b).isLE) : a.bracket ≤ b.bracket := by
  by_cases hne : a.bracket = b.bracket
  · exact Nat.le_of_eq hne
  · rw [order_of_bracket_ne hne] at h
    exact Nat.isLE_compare.mp h

/-- Only values of one type have to be looked at: a difference of types decides. -/
theorem chains_of_bracket {a : Value}
    (h : ∀ b c, a.bracket = b.bracket → b.bracket = c.bracket → (a.order b).isLE →
      (b.order c).isLE → a.order c = (a.order b).then (b.order c)) : Chains order a := by
  intro b c hab hbc
  have hle := bracket_le_of_isLE hab
  have hle' := bracket_le_of_isLE hbc
  rcases Nat.lt_or_eq_of_le hle with hlt | heq
  · rw [order_of_bracket_lt hlt, order_of_bracket_lt (Nat.lt_of_lt_of_le hlt hle')]
    rfl
  · rcases Nat.lt_or_eq_of_le hle' with hlt | heq'
    · rw [order_of_bracket_lt hlt, order_of_bracket_lt (Nat.lt_of_le_of_lt hle hlt)]
      cases horder : a.order b with
      | gt =>
        rw [horder] at hab
        cases hab
      | _ => rfl
    · exact h b c heq heq' hab hbc

/-- The order of values is transitive, and equal values can be exchanged in it. -/
theorem order_chains (a : Value) : Chains order a := by
  induction a using Value.induction with
  | null =>
    refine chains_of_bracket fun b c hb hc _ _ => ?_
    cases b <;> cases hb
    cases c <;> cases hc
    rfl
  | bool p =>
    refine chains_of_bracket fun b c hb hc hab hbc => ?_
    cases b <;> cases hb
    cases c <;> cases hc
    exact chains_compare p.toNat _ _ hab hbc
  | number m =>
    refine chains_of_bracket fun b c hb hc hab hbc => ?_
    cases b <;> cases hb
    cases c <;> cases hc
    simp only [order, Number.order_eq_compare_rank] at hab hbc ⊢
    exact chains_compare m.rank _ _ hab hbc
  | string s =>
    refine chains_of_bracket fun b c hb hc hab hbc => ?_
    cases b <;> cases hb
    cases c <;> cases hc
    exact chains_compare s _ _ hab hbc
  | array xs ih =>
    refine chains_of_bracket fun b c hb hc hab hbc => ?_
    cases b <;> cases hb
    cases c <;> cases hc
    exact orderItems_chains ih _ _ hab hbc
  | object xs ih =>
    refine chains_of_bracket fun b c hb hc hab hbc => ?_
    cases b <;> cases hb
    cases c <;> cases hc
    exact orderFields_chains ih _ _ hab hbc

/-! ### The preorder -/

theorem order_self (a : Value) : a.order a = .eq := by
  have hswap := order_swap a a
  cases h : a.order a with
  | eq => rfl
  | _ =>
    rw [h] at hswap
    cases hswap

theorem equal_iff {a b : Value} : a.equal b = true ↔ a.order b = .eq :=
  beq_iff_eq

theorem isLE_of_ne_gt {o : Ordering} (h : o ≠ .gt) : o.isLE := by
  cases o with
  | gt => exact absurd rfl h
  | _ => rfl

/-- **The order of values is a total preorder**, whatever is nested in them and however their numbers
are compared: it turns round with its arguments, every value is equal to itself, and what is not
above a value that is not above another is not above that one either.  So equality is an
equivalence. -/
theorem order_preorder :
    (∀ a b : Value, b.order a = (a.order b).swap) ∧ (∀ a : Value, a.order a = .eq) ∧
    (∀ a b c : Value, a.order b ≠ .gt → b.order c ≠ .gt → a.order c ≠ .gt) ∧
    Equivalence fun a b : Value => a.equal b = true := by
  refine ⟨fun a b => (order_swap a b).symm, order_self, fun a b c hab hbc => ?_,
    fun a => equal_iff.mpr (order_self a), fun {a b} h => ?_, fun {a b c} hab hbc => ?_⟩
  · rw [order_chains a b c (isLE_of_ne_gt hab) (isLE_of_ne_gt hbc)]
    cases h : a.order b with
    | gt => exact absurd h hab
    | lt => exact nofun
    | eq => exact hbc
  · rw [← equal_comm a b]
    exact h
  · rw [equal_iff] at hab hbc ⊢
    have hchain := order_chains a b c (by rw [hab]; rfl) (by rw [hbc]; rfl)
    rw [hchain, hab, hbc]
    rfl

/-- A signed integer and a large one are compared as decimals, and both of them with a number beyond
the decimals in floating point. -/
theorem order_preorder_mixed :
    let signed := array [int 9007199254740993, null]
    let large := array [number (.large 9223372036854775809 (by decide)), null]
    let beyond := array [number (.real (.ofInt 1267650600228229401496703205376)), null]
    signed.order large ≠ .gt ∧ large.order beyond ≠ .gt ∧ signed.order beyond ≠ .gt := by
  intro signed large beyond
  have hlarge : signed.order large ≠ .gt := by decide +kernel
  have hbeyond : large.order beyond ≠ .gt := by decide +kernel
  exact ⟨hlarge, hbeyond, order_preorder.2.2.1 signed large beyond hlarge hbeyond⟩

end Value

end DocQuery
