import DocQuery.Number.Rounding

/-!
# Numerals

Numbers written in decimal digits, with the bounds of 64-bit integers.

## Main definitions

* `naturalOf?` — the number that a run of digits writes.
* `signed64?` — an integer as a 64-bit signed integer, if it fits.
* `signedOf?`, `unsignedOf?` — a numeral with an optional sign, read within 64 bits.
-/

namespace DocQuery

/-- The value of a digit. -/
def digitValue (c : Char) : Nat :=
  c.toNat - '0'.toNat

/-- The number that digits write when they follow the digits of `n`. -/
def appendDigits (n : Nat) (digits : List Char) : Nat :=
  digits.foldl (fun n c => 10 * n + digitValue c) n

/-- The number written by the characters, which must be digits and at least one. -/
def naturalOf? (cs : List Char) : Option Nat :=
  if cs.isEmpty || !cs.all Char.isDigit then none else some (appendDigits 0 cs)

/-- `n` as a 64-bit signed integer, if it fits. -/
def signed64? (n : Int) : Option Int64 :=
  if -pow2 63 ≤ n ∧ n < pow2 63 then some (Int64.ofInt n) else none

/-- The 64-bit signed integer written by digits after an optional sign. -/
def signedOf? (cs : List Char) : Option Int64 := do
  match cs with
  | '-' :: digits => signed64? (-(← naturalOf? digits))
  | '+' :: digits => signed64? (← naturalOf? digits)
  | digits => signed64? (← naturalOf? digits)

/-- The natural number below `2 ^ 64` written by digits after an optional plus sign. -/
def unsignedOf? (cs : List Char) : Option Nat := do
  let digits := match cs with
    | '+' :: rest => rest
    | _ => cs
  let n ← naturalOf? digits
  if n < pow2 64 then some n else none

end DocQuery
