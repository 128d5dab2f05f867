import DocQuery.Number.Binary64

/-!
# Shortest digits

The fewest decimal digits that read back as a given binary64 number, and among those the nearest
to its exact value.

A decimal reads back as `x` when it lies between the midpoints to the neighbours of `x`, the
midpoints included when the significand is even.  On the grid of decimals with a given number of
digits only the two points around `x` can be nearest, so that it is enough to try these two on
each grid, from one digit up.  Seventeen digits always suffice.

## Main definitions

* `Tie` — which of two equally near decimals is taken.
* `Binary64.readsBack` — a decimal lies between the midpoints.
* `Binary64.shortestDigits` — the digits and the power of ten of the last one.
-/

namespace DocQuery

/-- Which of two decimals is taken when the number lies half-way between them. -/
inductive Tie where
  /-- The one with an even last digit. -/
  | even
  /-- The larger one. -/
  | up

/-- The number of decimal digits of `n`; zero has none. -/
def digitCount (n : Nat) : Nat :=
  if n = 0 then 0 else (Nat.toDigits 10 n).length

/-- The exponent of the largest power of ten that is at most `num / den`, both positive. -/
def floorLog10 (num den : Nat) : Int :=
  if den ≤ num then (digitCount (num / den) : Int) - 1
  else -(digitCount ((den - 1) / num) : Int)

namespace Binary64

/-! The decimal `d · 10 ^ k` and the midpoints around `x`, which are multiples of a quarter of its
unit `2 ^ exponent`, are compared as integers on a common scale. -/

/-- A quarter of the unit of `x`, on the scale on which it is compared with multiples of
`10 ^ k`. -/
def quarterAt (x : Binary64) (k : Int) : Nat :=
  pow2 (x.exponent - 2).toNat * pow10 (-k).toNat

/-- The power `10 ^ k`, on the scale on which its multiples are compared with `x`. -/
def stepAt (x : Binary64) (k : Int) : Nat :=
  pow10 k.toNat * pow2 (2 - x.exponent).toNat

/-- The midpoint below `x`, in quarters of its unit.  Below a power of two the numbers lie twice as
close. -/
def lowest (x : Binary64) : Nat :=
  if x.significand = pow2 52 ∧ x.exponent ≠ -1074 then 4 * x.significand - 1
  else 4 * x.significand - 2

/-- The midpoint above `x`, in quarters of its unit. -/
def highest (x : Binary64) : Nat :=
  4 * x.significand + 2

/-- The decimal `d · 10 ^ k` reads back as `x`. -/
def readsBack (x : Binary64) (k : Int) (d : Nat) : Bool :=
  let low := x.lowest * x.quarterAt k
  let high := x.highest * x.quarterAt k
  let point := d * x.stepAt k
  if x.significand % 2 = 0 then low ≤ point && point ≤ high else low < point && point < high

/-- The decimal `d · 10 ^ k` next to `x` that reads back as `x`, if there is one. -/
def decimalOnGrid? (x : Binary64) (tie : Tie) (k : Int) : Option Nat :=
  let exact := 4 * x.significand * x.quarterAt k
  let step := x.stepAt k
  let below := exact / step
  let lower := if x.readsBack k below then some below else none
  let upper := if x.readsBack k (below + 1) then some (below + 1) else none
  match lower, upper with
  | some d, some d' =>
    match compare (2 * (exact % step)) step, tie with
    | .lt, _ => some d
    | .gt, _ => some d'
    | .eq, .up => some d'
    | .eq, .even => if d % 2 = 0 then some d else some d'
  | some d, none => some d
  | none, found => found

/-- `d · 10 ^ k` with the zeros at the end of `d` moved into the exponent, at most `n` of them. -/
def withoutTrailingZeros : Nat → Nat → Int → Nat × Int
  | 0, d, k => (d, k)
  | n + 1, d, k => if d % 10 = 0 then withoutTrailingZeros n (d / 10) (k + 1) else (d, k)

/-- The shortest digits of a number other than zero: `(d, k)` stands for `d · 10 ^ k`, and the
last digit of `d` is not zero. -/
def shortestDigits (x : Binary64) (tie : Tie) : Nat × Int :=
  let leading := floorLog10 (x.significand * pow2 x.exponent.toNat) (pow2 (-x.exponent).toNat)
  let onGrid (n : Nat) : Option (Nat × Int) :=
    (x.decimalOnGrid? tie (leading - n)).map (·, leading - n)
  let (d, k) := ((List.range 17).findSome? onGrid).getD (0, 0)
  withoutTrailingZeros 18 d k

end Binary64

end DocQuery
