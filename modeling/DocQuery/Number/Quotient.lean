import DocQuery.Number.Decimal

/-!
# Quotients of decimals

Division divides out some digits at a time, up to nine, until nothing is left or no further digit
fits; only then it rounds.  A quotient that comes out early keeps the zeros that its last digits
brought, except for those that four tests find, of eight, four, two digits and one.

## Main definitions

* `Decimal.divideOut?` — the digits of a quotient and its scale.
* `Decimal.div?` — the quotient.
-/

namespace DocQuery

namespace Decimal

/-- The largest number of digits, up to the one given, that `q` can be continued by. -/
def room (q : Nat) : Nat → Nat
  | 0 => 0
  | n + 1 => if q * pow10 (n + 1) < pow2 96 then n + 1 else room q n

/-- `num / den` at the given scale, or at the one below if that does not fit. -/
def roundOff (num den : Nat) (scale : Int) : Nat × Int :=
  if divHalfEven num den < pow2 96 then (divHalfEven num den, scale)
  else (divHalfEven num (10 * den), scale - 1)

/-- The digits of `num / den`, where `num` has the given scale, and their scale; none if even the
integer part does not fit.  Every step adds a digit, so that 57 steps lead from the scale -28 to
the end. -/
def divideOut? (den : Nat) : (fuel : Nat) → (num : Nat) → (scale : Int) → Option (Nat × Int)
  | 0, _, _ => none
  | fuel + 1, num, scale =>
    if num % den = 0 then
      if 0 ≤ scale then some (num / den, scale)
      else
        let more := min 9 (-scale).toNat
        if num * pow10 more / den < pow2 96 then
          divideOut? den fuel (num * pow10 more) (scale + more)
        else none
    else
      let more := room (num / den) (min 9 (28 - scale).toNat)
      if more + scale < 0 then none
      else if more = 0 then some (roundOff num den scale)
      else if num * pow10 more / den < pow2 96 then
        divideOut? den fuel (num * pow10 more) (scale + more)
      else some (roundOff (num * pow10 more) den (scale + more))

/-- Drops that many zeros from the end of a fraction, if they are there and the mantissa has the
given number of zero bits. -/
def dropZeros (count bits : Nat) : Nat × Int → Nat × Int
  | (mantissa, scale) =>
    if mantissa % pow2 bits = 0 ∧ count ≤ scale ∧ mantissa % pow10 count = 0 then
      (mantissa / pow10 count, scale - count)
    else (mantissa, scale)

/-- Drops zeros from the end of a fraction: groups of eight, then four, two and one. -/
def dropSomeZeros (digits : Nat × Int) : Nat × Int :=
  let eights := dropZeros 8 32 (dropZeros 8 32 (dropZeros 8 32 digits))
  dropZeros 1 1 (dropZeros 2 2 (dropZeros 4 4 eights))

/-- The quotient; none for a divisor of zero. -/
def div? (a b : Decimal) : Option Decimal := do
  if b.mantissa = 0 then none
  else if a.mantissa = 0 then some zero
  else
    let digits ← divideOut? b.mantissa 58 a.mantissa (a.scale - b.scale)
    let (mantissa, scale) :=
      if a.mantissa % b.mantissa = 0 then digits else dropSomeZeros digits
    if scale < 0 then none else ofParts? (a.negative != b.negative) mantissa scale.toNat

end Decimal

end DocQuery
