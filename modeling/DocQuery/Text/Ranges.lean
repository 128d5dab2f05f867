/-!
# Sets of characters given by ranges

A property of characters that a standard fixes by enumeration is written as a list of inclusive
ranges of code points in increasing order.

## Main definitions

* `Ranges.has` — membership of a character in such a list.
-/

namespace DocQuery.Text

/-- Inclusive ranges of code points, in increasing order. -/
abbrev Ranges := List (Nat × Nat)

/-- `c` lies in one of the ranges. -/
def Ranges.has (ranges : Ranges) (c : Char) : Bool :=
  ranges.any fun (first, last) => first ≤ c.toNat && c.toNat ≤ last

end DocQuery.Text
