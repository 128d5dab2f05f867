import DocQuery.Number.Layout

/-!
# Decimals

Decimal numbers of 96 bits: a sign, a mantissa below `2 ^ 96` and a scale of at most 28 digits
after the point.  Arithmetic computes exactly and keeps as many digits after the point as fit,
rounding a half to the even digit.  An operation whose integer part does not fit has no result.

## Main definitions

* `Decimal` — the type.
* `Decimal.ofInt?`, `Decimal.ofBinary64?` — conversions into decimals.
* `Decimal.add?`, `sub?`, `mul?`, `rem?` — arithmetic.
* `Decimal.order` — the order of the values.
* `Decimal.integer?`, `Decimal.toBinary64?` — conversions out of decimals.
* `Decimal.print` — the plain digits.
-/

namespace DocQuery

/-- The decimal `± mantissa / 10 ^ scale`. -/
structure Decimal where
  /-- The sign; zero has one too. -/
  negative : Bool
  /-- The digits, as an integer of at most 96 bits. -/
  mantissa : Nat
  /-- How many of the digits stand after the point. -/
  scale : Nat
  mantissa_lt : mantissa < pow2 96
  scale_le : scale ≤ 28
  deriving DecidableEq

namespace Decimal

/-- The decimal with the given parts, if they are in range. -/
def ofParts? (negative : Bool) (mantissa scale : Nat) : Option Decimal :=
  if h : mantissa < pow2 96 ∧ scale ≤ 28 then some ⟨negative, mantissa, scale, h.1, h.2⟩ else none

/-- An integer as a decimal, if it fits 96 bits. -/
def ofInt? (n : Int) : Option Decimal :=
  ofParts? (decide (n < 0)) n.natAbs 0

/-- Zero. -/
def zero : Decimal :=
  ⟨false, 0, 0, by decide, by decide⟩

/-- The value as a multiple of `10 ^ -scale`, for a scale not below its own. -/
def valueAt (d : Decimal) (scale : Nat) : Int :=
  let magnitude := d.mantissa * pow10 (scale - d.scale)
  if d.negative then -(magnitude : Int) else magnitude

/-- The larger scale of two decimals. -/
def commonScale (a b : Decimal) : Nat :=
  max a.scale b.scale

/-- The order of the values. -/
def order (a b : Decimal) : Ordering :=
  compare (a.valueAt (commonScale a b)) (b.valueAt (commonScale a b))

/-- The magnitude without the sign. -/
def abs (d : Decimal) : Decimal :=
  { d with negative := false }

/-! ### Arithmetic -/

/-- `num / den` with the largest scale up to the given one that fits, a half to the even digit. -/
def fit? (negative : Bool) (num den : Nat) : Nat → Option Decimal
  | 0 => ofParts? negative (divHalfEven num den) 0
  | scale + 1 =>
    match ofParts? negative (divHalfEven (num * pow10 (scale + 1)) den) (scale + 1) with
    | some d => some d
    | none => fit? negative num den scale

/-- The value `n / 10 ^ scale` as a decimal of at most that scale. -/
def ofScaled? (n : Int) (scale : Nat) : Option Decimal :=
  fit? (decide (n < 0)) n.natAbs (pow10 scale) (min 28 scale)

/-- The decimal with the other sign. -/
def neg (d : Decimal) : Decimal :=
  { d with negative := !d.negative }

/-- The sum.  Zero leaves the other term as it is, with its own scale. -/
def add? (a b : Decimal) : Option Decimal :=
  if a.mantissa = 0 then some b
  else if b.mantissa = 0 then some a
  else ofScaled? (a.valueAt (commonScale a b) + b.valueAt (commonScale a b)) (commonScale a b)

/-- The difference. -/
def sub? (a b : Decimal) : Option Decimal :=
  if b.mantissa = 0 then some (if a.mantissa = 0 then b else a) else add? a b.neg

/-- The product. -/
def mul? (a b : Decimal) : Option Decimal :=
  if a.mantissa = 0 ∨ b.mantissa = 0 then some zero
  else ofScaled? (a.valueAt a.scale * b.valueAt b.scale) (a.scale + b.scale)

/-- The remainder of the division toward zero, with the sign of the dividend; none for a divisor
of zero.  A dividend smaller than the divisor is left as it is. -/
def rem? (a b : Decimal) : Option Decimal :=
  if b.mantissa = 0 then none
  else match order a.abs b.abs with
    | .lt => some (if a.mantissa = 0 then zero else a)
    | .eq => some zero
    | .gt => ofScaled? ((a.valueAt (commonScale a b)).tmod (b.valueAt (commonScale a b)))
      (commonScale a b)

/-- The mantissa and scale without zeros at the end of the fraction. -/
def stripZeros : (scale : Nat) → (mantissa : Nat) → Nat × Nat
  | 0, m => (m, 0)
  | scale + 1, m => if m % 10 = 0 then stripZeros scale (m / 10) else (m, scale + 1)

/-! ### From floating point

A number `m · 2 ^ e` becomes a decimal by trading factors of two for factors of ten, and the
digits that a significand of 53 bits cannot be sure of are rounded away. -/

/-- Trades `n` divisions by two: `m / 2 ^ n · 10 ^ k` in the form `m' · 10 ^ k'`, where an odd `m`
is multiplied by five as long as it fits 96 bits and halved otherwise. -/
def divideByTwos : Nat → Nat → Int → Nat × Int
  | 0, m, k => (m, k)
  | n + 1, m, k =>
    if m % 2 = 0 then divideByTwos n (m / 2) (k + 1)
    else if 5 * m < pow2 96 then divideByTwos n (5 * m) k
    else divideByTwos n (m / 2) (k + 1)

/-- Trades `n` divisions by five, doubling `m` against a power of ten as long as it fits 95 bits
and dividing it otherwise; none once the result cannot fit. -/
def divideByFives? : Nat → Nat → Int → Option (Nat × Int)
  | 0, m, k => some (m, k)
  | n + 1, m, k =>
    if m < pow2 95 then divideByFives? n (2 * m) (k - 1)
    else if 2 * k > n + 1 then none
    else divideByFives? n (m / 5) k

/-- `m · 10 ^ n`, as long as it fits 96 bits. -/
def timesTens? : Nat → Nat → Option Nat
  | 0, m => some m
  | n + 1, m => if 10 * m < pow2 96 then timesTens? n (10 * m) else none

/-- Drops `n` digits, rounding up after each one that is five or more; none once nothing is
left. -/
def dropDigits? : Nat → Nat → Option Nat
  | 0, m => some m
  | n + 1, m =>
    if m / 10 = 0 then none
    else dropDigits? n (if 5 ≤ m % 10 then m / 10 + 1 else m / 10)

/-- Drops digits of the fraction until the mantissa is below `2 ^ 52`. -/
def dropExcess : (scale : Nat) → (mantissa : Nat) → Nat × Nat
  | 0, m => (m, 0)
  | scale + 1, m =>
    if pow2 52 ≤ m then dropExcess scale (if 5 ≤ m % 10 then m / 10 + 1 else m / 10)
    else (m, scale + 1)

/-- The decimal for a floating-point number; none if it is too large. -/
def ofBinary64? (x : Binary64) : Option Decimal := do
  let (m, k) ←
    if x.exponent ≤ 0 then
      pure (divideByTwos (-x.exponent).toNat x.significand x.exponent)
    else
      divideByFives? x.exponent.toNat x.significand x.exponent
  let m ← timesTens? k.toNat m
  let scale := (-k).toNat
  let (m, scale) := match dropDigits? (scale - 28) m with
    | some m => (m, min scale 28)
    | none => (0, 0)
  let (m, scale) := dropExcess scale m
  let (m, scale) := stripZeros scale m
  ofParts? x.negative m scale

/-! ### Out of decimals -/

/-- The value as an integer, if it has no fraction. -/
def integer? (d : Decimal) : Option Int :=
  if d.mantissa % pow10 d.scale = 0 then
    let magnitude := d.mantissa / pow10 d.scale
    some (if d.negative then -(magnitude : Int) else magnitude)
  else
    none

/-- Ten to the power `n` by repeated squaring from `x`, in rounded arithmetic; the fuel bounds the
number of squarings. -/
def powBySquaring : Nat → Binary64 → Binary64 → Nat → Option Binary64
  | 0, result, _, _ => some result
  | fuel + 1, result, x, n => do
    let result ← if n % 2 = 1 then result.mul x else pure result
    if n / 2 = 0 then pure result
    else powBySquaring fuel result (← x.mul x) (n / 2)

/-- The floating-point number for a decimal.  The integer part and the fraction are converted
separately and added, and the sum is rounded to the decimal's own scale. -/
def toBinary64? (d : Decimal) : Option Binary64 := do
  let signed (x : Binary64) : Binary64 := if d.negative then x.neg else x
  if d.scale = 0 then
    pure (signed (.ofInt d.mantissa))
  else
    let whole := Binary64.ofInt (d.mantissa / pow10 d.scale : Nat)
    let fraction ← (Binary64.ofInt (d.mantissa % pow10 d.scale : Nat)).div
      (.ofInt (pow10 d.scale : Nat))
    if fraction.isZero then
      pure (signed whole)
    else
      let value ← whole.add fraction
      let power ← powBySquaring 5 (.ofInt 1) (.ofInt 10) d.scale
      let rounded ← (← value.mul power).rounded
      pure (signed (← rounded.div power))

/-- The plain digits, with all digits of the scale. -/
def print (d : Decimal) : String :=
  let digits := Nat.toDigits 10 d.mantissa
  let padded := List.replicate (d.scale + 1 - digits.length) '0' ++ digits
  let whole := padded.take (padded.length - d.scale)
  let fraction := if d.scale = 0 then [] else '.' :: padded.drop (padded.length - d.scale)
  String.ofList ((if d.negative then ['-'] else []) ++ whole ++ fraction)

end Decimal

end DocQuery
