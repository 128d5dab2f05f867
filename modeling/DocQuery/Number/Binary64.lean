import DocQuery.Number.Rounding

/-!
# Finite binary64 numbers

The finite floating-point numbers of 64 bits, held as sign, significand and exponent in their one
canonical form, with arithmetic that computes exactly and rounds once to the nearest number, a
half to the even significand.  An operation whose rounded result is not finite has no result.

## Main definitions

* `Binary64` — a finite number `± significand · 2 ^ exponent`.
* `Binary64.nearest` — the number nearest to a quotient of natural numbers.
* `Binary64.add`, `sub`, `mul`, `div`, `rem` — rounded arithmetic.
* `Binary64.order` — the order of the values; the two zeros are equal.
* `Binary64.truncated`, `isIntegral` — the integer part, and whether it is all.
-/

namespace DocQuery

/-- A finite binary64 number.  A significand below `2 ^ 52` occurs only with the least exponent,
so that equal bits and equal fields are the same thing. -/
structure Binary64 where
  /-- The sign bit; zero has one too. -/
  negative : Bool
  /-- The significand, an integer of at most 53 bits. -/
  significand : Nat
  /-- The power of two that the significand counts. -/
  exponent : Int
  significand_lt : significand < pow2 53
  exponent_le : exponent ≤ 971
  canonical : exponent = -1074 ∨ (-1074 ≤ exponent ∧ pow2 52 ≤ significand)
  deriving DecidableEq

namespace Binary64

/-- The number with the given parts, if they are in canonical form and in range. -/
def ofParts? (negative : Bool) (significand : Nat) (exponent : Int) : Option Binary64 :=
  if h : significand < pow2 53 ∧ exponent ≤ 971
      ∧ (exponent = -1074 ∨ (-1074 ≤ exponent ∧ pow2 52 ≤ significand)) then
    some ⟨negative, significand, exponent, h.1, h.2.1, h.2.2⟩
  else
    none

/-- Zero with a sign. -/
def zero (negative : Bool) : Binary64 :=
  ⟨negative, 0, -1074, by decide, by decide, Or.inl rfl⟩

instance : Inhabited Binary64 := ⟨zero false⟩

/-! ### Rounding -/

/-- The exponent of the largest power of two that is at most `num / den`, both positive. -/
def floorLog2 (num den : Nat) : Int :=
  let guess : Int := (num.log2 : Int) - den.log2
  if num * pow2 (-guess).toNat < den * pow2 guess.toNat then guess - 1 else guess

/-- The number nearest to `num / den`, with `den` positive; none if it is beyond the finite
numbers. -/
def nearest (negative : Bool) (num den : Nat) : Option Binary64 :=
  if num = 0 then some (zero negative)
  else
    let exponent := max (-1074) (floorLog2 num den - 52)
    let significand := divHalfEven (num * pow2 (-exponent).toNat) (den * pow2 exponent.toNat)
    if significand = pow2 53 then ofParts? negative (pow2 52) (exponent + 1)
    else ofParts? negative significand exponent

/-- The number nearest to `n · 2 ^ exponent`. -/
def nearestScaled (negative : Bool) (n : Nat) (exponent : Int) : Option Binary64 :=
  nearest negative (n * pow2 exponent.toNat) (pow2 (-exponent).toNat)

/-- The number nearest to an integer, zero if it is beyond the finite numbers.  An integer of 96
bits never is. -/
def ofInt (n : Int) : Binary64 :=
  (nearest (decide (n < 0)) n.natAbs 1).getD (zero false)

/-- Ten to the power `n` as a floating-point number, zero if it is beyond the finite numbers. -/
def tenPow (n : Nat) : Binary64 :=
  (nearest false (pow10 n) 1).getD (zero false)

/-! ### Values and order -/

/-- The magnitude of `x` as a multiple of `2 ^ e`, for an `e` not above its exponent. -/
def magnitudeAt (x : Binary64) (e : Int) : Nat :=
  x.significand * pow2 (x.exponent - e).toNat

/-- The value of `x` as a multiple of `2 ^ e`, for an `e` not above its exponent. -/
def valueAt (x : Binary64) (e : Int) : Int :=
  if x.negative then -(x.magnitudeAt e : Int) else x.magnitudeAt e

/-- The lesser exponent of two numbers: both are multiples of that power of two. -/
def commonExponent (x y : Binary64) : Int :=
  min x.exponent y.exponent

/-- The order of the values.  The two zeros are equal. -/
def order (x y : Binary64) : Ordering :=
  compare (x.valueAt (commonExponent x y)) (y.valueAt (commonExponent x y))

/-- One of the two zeros. -/
def isZero (x : Binary64) : Bool :=
  x.significand == 0

/-- The number without its fraction, toward zero. -/
def truncated (x : Binary64) : Int :=
  let magnitude := x.significand * pow2 x.exponent.toNat / pow2 (-x.exponent).toNat
  if x.negative then -(magnitude : Int) else magnitude

/-- The number has no fraction. -/
def isIntegral (x : Binary64) : Bool :=
  x.significand % pow2 (-x.exponent).toNat == 0

/-! ### Arithmetic -/

/-- The number with the other sign. -/
def neg (x : Binary64) : Binary64 :=
  { x with negative := !x.negative }

/-- The rounded sum.  A sum of zero is negative only if both numbers are. -/
def add (x y : Binary64) : Option Binary64 :=
  let e := commonExponent x y
  let sum := x.valueAt e + y.valueAt e
  if sum = 0 then some (zero (x.negative && y.negative))
  else nearestScaled (decide (sum < 0)) sum.natAbs e

/-- The rounded difference. -/
def sub (x y : Binary64) : Option Binary64 :=
  x.add y.neg

/-- The rounded product. -/
def mul (x y : Binary64) : Option Binary64 :=
  nearestScaled (x.negative != y.negative) (x.significand * y.significand)
    (x.exponent + y.exponent)

/-- The rounded quotient; none for a divisor of zero. -/
def div (x y : Binary64) : Option Binary64 :=
  if y.isZero then none
  else
    let e := commonExponent x y
    nearest (x.negative != y.negative) (x.magnitudeAt e) (y.magnitudeAt e)

/-- The remainder of the division toward zero, which is exact and has the sign of the dividend;
none for a divisor of zero. -/
def rem (x y : Binary64) : Option Binary64 :=
  if y.isZero then none
  else
    let e := commonExponent x y
    nearestScaled x.negative (x.magnitudeAt e % y.magnitudeAt e) e

/-- The nearest integer, a half away from zero. -/
def rounded (x : Binary64) : Option Binary64 :=
  nearest x.negative
    (divHalfUp (x.significand * pow2 x.exponent.toNat) (pow2 (-x.exponent).toNat)) 1

end Binary64

end DocQuery
