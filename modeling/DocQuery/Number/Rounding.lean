/-!
# Powers and rounded quotients

The powers by which the numbers of this library are scaled and bounded, and quotients of natural
numbers rounded to natural numbers.  The two rules of rounding differ only for a quotient that lies
exactly half-way between its neighbours.

## Main definitions

* `pow2`, `pow10` — the powers of two and ten.
* `divHalfEven` — a half goes to the even neighbour.
* `divHalfUp` — a half goes to the larger neighbour.
-/

namespace DocQuery

/-- Two to the power of `n`. -/
def pow2 (n : Nat) : Nat :=
  Nat.pow 2 n

/-- Ten to the power of `n`. -/
def pow10 (n : Nat) : Nat :=
  Nat.pow 10 n

/-- `n / d` rounded to the nearest number, a half to the even neighbour. -/
def divHalfEven (n d : Nat) : Nat :=
  let q := n / d
  let twice := 2 * (n % d)
  if twice < d then q
  else if d < twice then q + 1
  else if q % 2 = 0 then q else q + 1

/-- `n / d` rounded to the nearest number, a half to the larger neighbour. -/
def divHalfUp (n d : Nat) : Nat :=
  if 2 * (n % d) < d then n / d else n / d + 1

end DocQuery
