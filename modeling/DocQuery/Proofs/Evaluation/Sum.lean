import DocQuery.Proofs.Evaluation.Regrouping
import Mathlib

/-!
# Sums of integers

There are two ways to add up integers.  The sum of an array is one decimal from the first item to
the last, which fewer than `2 ^ 32` integers of 64 bits cannot exceed, so that sum is exact and the
order of the items does not matter.  The sum of several arguments becomes a number of the document
again after each of them.  It is exact as well as long as all partial sums fit 64 bits, which the
order of the arguments can decide.  A partial sum beyond that is rounded to a floating-point number.

## Main definitions

* `exactSum` — the sum of integers without a bound.
* `PartialSumsFit` — the integers up to any place have a sum within 64 bits.
* `EnvelopeFits` — the positive and the negative ones by themselves have.

## Main results

* `sum_of_magnitudes`, `sum_of_integers` — the sum of an array is exact.
* `PartialSumsFit.accumulates` — partial sums within 64 bits are not rounded.
* `EnvelopeFits.partialSumsFit` — in no order of such integers does a partial sum exceed 64 bits.
* `eval_sum_of_integers` — **both sums of integers, in any order.**
-/

namespace DocQuery

variable {xs ys : List Int64}

/-! ### Exact sums -/

/-- The sum of integers without a bound. -/
def exactSum (xs : List Int64) : Int :=
  (xs.map Int64.toInt).sum

@[simp] theorem exactSum_nil : exactSum [] = 0 := rfl

@[simp] theorem exactSum_cons (x : Int64) (xs : List Int64) :
    exactSum (x :: xs) = x.toInt + exactSum xs := by
  simp [exactSum]

theorem exactSum_of_perm (h : ys.Perm xs) : exactSum ys = exactSum xs :=
  (h.map Int64.toInt).sum_eq

/-- The integers from the first one up to any place have a sum that fits 64 bits. -/
def PartialSumsFit (xs : List Int64) : Prop :=
  ∀ front, front <+: xs → -(2 ^ 63 : Int) ≤ exactSum front ∧ exactSum front < 2 ^ 63

/-- The positive ones among the integers have a sum that fits 64 bits, and so have the negative
ones. -/
def EnvelopeFits (xs : List Int64) : Prop :=
  -(2 ^ 63 : Int) ≤ (xs.map fun x => min x.toInt 0).sum
    ∧ (xs.map fun x => max x.toInt 0).sum < 2 ^ 63

instance (xs : List Int64) : Decidable (PartialSumsFit xs) :=
  decidable_of_iff (∀ front ∈ xs.inits, -(2 ^ 63 : Int) ≤ exactSum front ∧ exactSum front < 2 ^ 63)
    (by simp only [List.mem_inits, PartialSumsFit])

instance (xs : List Int64) : Decidable (EnvelopeFits xs) :=
  inferInstanceAs (Decidable (_ ∧ _))

/-- What is picked from integers has a sum between the sum of all negative ones and that of all
positive ones. -/
theorem exactSum_bounds (h : ys.Sublist xs) :
    (xs.map fun x => min x.toInt 0).sum ≤ exactSum ys
      ∧ exactSum ys ≤ (xs.map fun x => max x.toInt 0).sum := by
  induction h with
  | slnil => exact ⟨Int.le_refl 0, Int.le_refl 0⟩
  | cons x _ ih =>
    simp only [List.map_cons, List.sum_cons]
    omega
  | cons_cons x _ ih =>
    simp only [List.map_cons, List.sum_cons, exactSum_cons]
    omega

theorem EnvelopeFits.of_perm (h : EnvelopeFits xs) (hperm : ys.Perm xs) : EnvelopeFits ys := by
  rw [EnvelopeFits, (hperm.map fun x => min x.toInt 0).sum_eq,
    (hperm.map fun x => max x.toInt 0).sum_eq]
  exact h

theorem EnvelopeFits.partialSumsFit (h : EnvelopeFits xs) : PartialSumsFit xs := by
  intro front hfront
  obtain ⟨hlow, hhigh⟩ := exactSum_bounds hfront.sublist
  exact ⟨Int.le_trans h.1 hlow, Int.lt_of_le_of_lt hhigh h.2⟩

/-! ### The sum of an array -/

/-- Integers are added to a decimal exactly while their magnitudes cannot lead beyond 96 bits. -/
theorem foldlM_add?_of_holds {ds : List Decimal}
    (h : List.Forall₂ (fun d x => d.Holds (Int64.toInt x)) ds xs) {d : Decimal} {n : Int}
    (hd : d.Holds n) (hbound : n.natAbs + (xs.map fun x => x.toInt.natAbs).sum < pow2 96) :
    ∃ c, ds.foldlM Decimal.add? d = some c ∧ c.Holds (n + exactSum xs) := by
  induction h generalizing d n with
  | nil => exact ⟨d, rfl, by simpa using hd⟩
  | @cons e x ds xs he _ ih =>
    rw [List.map_cons, List.sum_cons] at hbound
    obtain ⟨c, hc, hcholds⟩ := Decimal.add?_of_holds hd he (by omega)
    obtain ⟨total, htotal, hholds⟩ := ih hcholds (by omega)
    refine ⟨total, ?_, ?_⟩
    · rw [List.foldlM_cons, hc]
      exact htotal
    · rwa [exactSum_cons, ← Int.add_assoc]

theorem decimals_of_integers (xs : List Int64) :
    List.Forall₂ (fun d x => d.Holds (Int64.toInt x)) (decimals (xs.map .int)) xs := by
  induction xs with
  | nil => exact .nil
  | cons x xs ih =>
    obtain ⟨d, hd, hholds⟩ := toDecimal?_int x
    have hcons : decimals ((x :: xs).map .int) = d :: decimals (xs.map .int) :=
      List.filterMap_cons_some hd
    rw [hcons]
    exact .cons hholds ih

/-- The sum of an array of integers is exact while their magnitudes add up to less than
`2 ^ 96`. -/
theorem sum_of_magnitudes {total : Int64}
    (hbound : (xs.map fun x => x.toInt.natAbs).sum < pow2 96)
    (htotal : total.toInt = exactSum xs) : sum (xs.map .int) = .ok (.int total) := by
  have hzero : (0 : Int).natAbs + (xs.map fun x => x.toInt.natAbs).sum < pow2 96 := by
    rwa [Int.natAbs_zero, Nat.zero_add]
  obtain ⟨c, hc, hholds⟩ := foldlM_add?_of_holds (decimals_of_integers xs) Decimal.zero_holds hzero
  rw [Int.zero_add, ← htotal] at hholds
  rw [sum, addUp, hc]
  exact congrArg Except.ok (ofDecimal_of_holds hholds)

/-- The sum of an array of integers is exact. -/
theorem sum_of_integers {total : Int64} (hlength : xs.length < 2 ^ 32)
    (htotal : total.toInt = exactSum xs) : sum (xs.map .int) = .ok (.int total) := by
  refine sum_of_magnitudes ?_ htotal
  have h96 : pow2 96 = 2 ^ 33 * pow2 63 := by decide
  have h63 : 0 < pow2 63 := by decide
  calc (xs.map fun x => x.toInt.natAbs).sum
      ≤ xs.length * pow2 63 := by
        simpa using List.sum_le_card_nsmul (xs.map fun x => x.toInt.natAbs) (pow2 63)
          (List.forall_mem_map.mpr fun x _ => Int64.natAbs_toInt_le x)
    _ < pow2 96 := by
      rw [h96]
      exact Nat.mul_lt_mul_of_pos_right (hlength.trans (by decide)) h63

/-! ### The sum of arguments -/

theorem total_add_of_integers (xs : List Int64) :
    VariadicFunction.add.total (xs.map some) = some (exactSum xs) := by
  induction xs with
  | nil => rfl
  | cons x xs ih =>
    rw [List.map_cons, VariadicFunction.total_cons_some, ih, exactSum_cons]
    rfl

theorem PartialSumsFit.accumulates (h : PartialSumsFit xs) :
    VariadicFunction.add.Accumulates (xs.map some) := by
  rintro front ⟨behind, hsplit⟩
  obtain ⟨first, rest, rfl, rfl, -⟩ := List.map_eq_append_iff.mp hsplit.symm
  obtain ⟨hlow, hhigh⟩ := h first (List.prefix_append _ _)
  obtain ⟨k, hk⟩ := signed64?_isSome hlow hhigh
  exact ⟨some k, by rw [total_add_of_integers, ← toInt_of_signed64? hk]; rfl⟩

namespace Expression

/-- **Both sums of integers, in any order.**  The sum of an array of fewer than `2 ^ 32` integers is
their exact sum if that fits 64 bits, and the order of the items makes no difference.  The sum of
arguments is the same in every order in which all partial sums fit 64 bits, and that is every order
if the positive ones and the negative ones by themselves have such a sum. -/
theorem eval_sum_of_integers {xs ys : List Int64} {total : Int64} {env : Environment}
    {es : List Expression} (hlength : xs.length < 2 ^ 32) (htotal : total.toInt = exactSum xs)
    (hperm : ys.Perm xs) (hes : List.Forall₂ (fun e y => e.eval env = .ok (.int y)) es ys) :
    (unary .sum (array es)).eval env = .ok (.int total)
      ∧ (PartialSumsFit ys → (variadic .add es).eval env = .ok (.int total))
      ∧ (EnvelopeFits xs → (variadic .add es).eval env = .ok (.int total)) := by
  have hlength' : ys.length < 2 ^ 32 := hperm.length_eq ▸ hlength
  have htotal' : total.toInt = exactSum ys := htotal.trans (exactSum_of_perm hperm).symm
  have hvalues : es.mapM (·.eval env) = .ok (ys.map .int) :=
    mapM_eq_ok_iff.mpr (List.forall₂_map_right_iff.mpr hes)
  have harguments : PartialSumsFit ys → (variadic .add es).eval env = .ok (.int total) := by
    intro h
    have hterms : HaveTerms env es (ys.map some) := List.forall₂_map_right_iff.mpr hes
    obtain ⟨t, ht, hvalue⟩ := eval_variadic_of_accumulates rfl hterms h.accumulates
    rw [total_add_of_integers, ← htotal'] at ht
    obtain ⟨k, rfl, hk⟩ := Option.map_eq_some_iff.mp ht.symm
    rwa [Int64.toInt_inj.mp hk] at hvalue
  refine ⟨?_, harguments, fun h => harguments (h.of_perm hperm).partialSumsFit⟩
  rw [eval_unary, eval_array, hvalues]
  exact sum_of_integers hlength' htotal'

/-- The largest integer is reached in the order in which the negative argument comes first, although
the positive ones exceed it. -/
theorem eval_sum_of_integers_reordered :
    let xs : List Int64 := [9223372036854775807, 3, -3]
    let ys : List Int64 := [-3, 9223372036854775807, 3]
    let env := Environment.ofDocument (.object [("a", .int (-3)), ("b", .int 3)])
    let es : List Expression :=
      [.field none "a", .constant (.int 9223372036854775807), .field none "b"]
    (xs.length < 2 ^ 32 ∧ (9223372036854775807 : Int64).toInt = exactSum xs ∧ ys.Perm xs
      ∧ List.Forall₂ (fun e y => e.eval env = .ok (.int y)) es ys ∧ PartialSumsFit ys)
    ∧ (unary .sum (array es)).eval env = .ok (.int 9223372036854775807)
    ∧ (variadic .add es).eval env = .ok (.int 9223372036854775807) := by
  intro xs ys env es
  have hlength : xs.length < 2 ^ 32 := by decide
  have htotal : (9223372036854775807 : Int64).toInt = exactSum xs := by decide
  have hperm : ys.Perm xs := by decide
  have hes : List.Forall₂ (fun e y => e.eval env = .ok (.int y)) es ys :=
    .cons rfl (.cons rfl (.cons rfl .nil))
  have hfit : PartialSumsFit ys := by decide
  obtain ⟨hsum, hadd, -⟩ := eval_sum_of_integers hlength htotal hperm hes
  exact ⟨⟨hlength, htotal, hperm, hes, hfit⟩, hsum, hadd hfit⟩

/-- Behind a partial sum beyond 64 bits the sum of arguments is one off. -/
theorem eval_add_ne_of_integers :
    let xs : List Int64 := [9223372036854775807, 2, -2]
    let es : List Expression := [.field none "a", .field none "b", .field none "c"]
    let env := Environment.ofDocument
      (.object [("a", .int 9223372036854775807), ("b", .int 2), ("c", .int (-2))])
    (xs.length < 2 ^ 32 ∧ (9223372036854775807 : Int64).toInt = exactSum xs
      ∧ List.Forall₂ (fun e x => e.eval env = .ok (.int x)) es xs)
    ∧ (variadic .add es).eval env = .ok (.int 9223372036854775806)
    ∧ (variadic .add es.reverse).eval env = .ok (.int 9223372036854775807)
    ∧ (unary .sum (array es)).eval env = .ok (.int 9223372036854775807) :=
  ⟨⟨by decide, by decide, .cons rfl (.cons rfl (.cons rfl .nil))⟩, rfl, rfl, rfl⟩

end Expression

end DocQuery
