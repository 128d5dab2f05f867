import DocQuery.Value.Basic

/-!
# The order of values

All values are ordered together: null, numbers, strings, objects, arrays, booleans.  Numbers are
ordered by value whatever their type; strings by code points; arrays and objects entry by entry,
the shorter one first.

## Main definitions

* `Number.order`, `Value.order` — the order.
* `Value.equal` — equality in this order, in which `1` and `1.0` are equal.
* `Value.sameBracket` — the two values are of comparable types.
* `sortBy` — the stable sort of a list.
-/

namespace DocQuery

/-- The order of numbers.  Signed integers are compared as they are, other numbers as decimals,
and numbers too large for a decimal in floating point. -/
def Number.order (a b : Number) : Ordering :=
  match a.signed?, b.signed? with
  | some m, some n => compare m.toInt n.toInt
  | _, _ =>
    match a.toDecimal?, b.toDecimal? with
    | some d, some e => d.order e
    | _, _ => a.toBinary64.order b.toBinary64

namespace Value

/-- The place of a value's type in the order of types. -/
def bracket : Value → Nat
  | .null => 1
  | .number _ => 2
  | .string _ => 3
  | .object _ => 4
  | .array _ => 5
  | .bool _ => 8

/-- The types of the two values have the same place in the order. -/
def sameBracket (a b : Value) : Bool :=
  a.bracket == b.bracket

mutual

/-- The order of all values. -/
def order : Value → Value → Ordering
  | .null, .null => .eq
  | .number m, .number n => m.order n
  | .string s, .string t => compare s t
  | .bool a, .bool b => compare a.toNat b.toNat
  | .array xs, .array ys => orderItems xs ys
  | .object xs, .object ys => orderFields xs ys
  | a, b => compare a.bracket b.bracket

/-- Arrays are ordered by their first different items, else the shorter one comes first. -/
def orderItems : List Value → List Value → Ordering
  | [], [] => .eq
  | [], _ :: _ => .lt
  | _ :: _, [] => .gt
  | x :: xs, y :: ys => (order x y).then (orderItems xs ys)

/-- Objects are ordered by their first different entries, by key and then by value, else the
shorter one comes first. -/
def orderFields : List (String × Value) → List (String × Value) → Ordering
  | [], [] => .eq
  | [], _ :: _ => .lt
  | _ :: _, [] => .gt
  | (k, x) :: xs, (l, y) :: ys => (compare k l).then ((order x y).then (orderFields xs ys))

end

/-- Equality in the order of values. -/
def equal (a b : Value) : Bool :=
  a.order b == .eq

end Value

/-! ### Sorting -/

/-- Puts `x` into a list in descending order, in front of everything that is not above it. -/
def insertDescending {α : Type} (order : α → α → Ordering) (x : α) : List α → List α
  | [] => [x]
  | y :: ys => if (order x y).isLT then y :: insertDescending order x ys else x :: y :: ys

/-- The list in ascending order; elements that are equal in the order keep theirs. -/
def sortBy {α : Type} (order : α → α → Ordering) (xs : List α) : List α :=
  (xs.foldl (fun sorted x => insertDescending order x sorted) []).reverse

end DocQuery
