import DocQuery.Pipeline.Stage

/-!
# Equality of pipelines

Whether two pipelines are built in the same way from the same parts, as a computation.  Objects are
the same whatever the order of their entries, and the two zeros of floating point are the same.

## Main definitions

* `Value.same`, `Expression.same`, `Filter.same`, `Stage.same`, `Pipeline.same` — the comparisons.
-/

namespace DocQuery

/-- The two numbers have the same value and are of the same sort. -/
def Number.same : Number → Number → Bool
  | .int m, .int n => m == n
  | .large m _, .large n _ => m == n
  | .real x, .real y => x.order y == .eq
  | _, _ => false

mutual

/-- The two values are built in the same way. -/
def Value.same : Value → Value → Bool
  | .null, .null => true
  | .bool a, .bool b => a == b
  | .number m, .number n => m.same n
  | .string s, .string t => s == t
  | .array xs, .array ys => sameItems xs ys
  | .object xs, .object ys => xs.length == ys.length && sameFields xs ys
  | _, _ => false

/-- The two lists have the same values. -/
def Value.sameItems : List Value → List Value → Bool
  | [], [] => true
  | x :: xs, y :: ys => x.same y && sameItems xs ys
  | _, _ => false

/-- Every entry of the first list is one of the second. -/
def Value.sameFields : List (String × Value) → List (String × Value) → Bool
  | [], _ => true
  | (k, x) :: xs, ys => (ys.any fun (l, y) => k == l && x.same y) && sameFields xs ys

end

mutual

/-- The two expressions are the same. -/
def Expression.same : Expression → Expression → Bool
  | .constant a, .constant b => a.same b
  | .field s p, .field t q => s == t && p == q
  | .var a, .var b => a == b
  | .unary f a, .unary g b => f = g && a.same b
  | .binary f a b, .binary g c d => f = g && a.same c && b.same d
  | .variadic f as, .variadic g bs => f = g && sameAll as bs
  | .document fs, .document gs => sameFields fs gs
  | .array as, .array bs => sameAll as bs
  | .getField n a, .getField k b => n == k && a.same b
  | .filter a n b, .filter c k d => n == k && a.same c && b.same d
  | .map a n b, .map c k d => n == k && a.same c && b.same d
  | _, _ => false

/-- The two lists have the same expressions. -/
def Expression.sameAll : List Expression → List Expression → Bool
  | [], [] => true
  | a :: as, b :: bs => a.same b && sameAll as bs
  | _, _ => false

/-- The two lists have the same named expressions. -/
def Expression.sameFields : List (String × Expression) → List (String × Expression) → Bool
  | [], [] => true
  | (n, a) :: as, (k, b) :: bs => n == k && a.same b && sameFields as bs
  | _, _ => false

end

mutual

/-- The two filters are the same. -/
def Filter.same : Filter → Filter → Bool
  | .field s o, .field t p => s = t && o.same p
  | .and fs, .and gs => Filter.sameAll fs gs
  | .or fs, .or gs => Filter.sameAll fs gs
  | .nor fs, .nor gs => Filter.sameAll fs gs
  | .not f, .not g => f.same g
  | .expr a, .expr b => a.same b
  | _, _ => false

/-- The two lists have the same filters. -/
def Filter.sameAll : List Filter → List Filter → Bool
  | [], [] => true
  | f :: fs, g :: gs => f.same g && Filter.sameAll fs gs
  | _, _ => false

/-- The two operations are the same. -/
def Operation.same : Operation → Operation → Bool
  | .compare c a, .compare d b => c = d && a.same b
  | .bits s m, .bits t n => s = t && m == n
  | .isIn as, .isIn bs => Value.sameItems as bs
  | .notIn as, .notIn bs => Value.sameItems as bs
  | .exists a, .exists b => a == b
  | .regex p o, .regex q r => p == q && o == r
  | .size a, .size b => a == b
  | .type a, .type b => a == b
  | .mod a b, .mod c d => a == c && b == d
  | .elemMatch f, .elemMatch g => f.same g
  | .not o, .not p => o.same p
  | _, _ => false

end

/-- The two entries of a projection are the same. -/
def Projection.same : Projection → Projection → Bool
  | .keep p, .keep q => p == q
  | .drop p, .drop q => p == q
  | .compute p a, .compute q b => p == q && a.same b
  | _, _ => false

/-- The two lists have elements that are the same one by one. -/
def allSame {α : Type} (same : α → α → Bool) : List α → List α → Bool
  | [], [] => true
  | a :: as, b :: bs => same a b && allSame same as bs
  | _, _ => false

/-- The two accumulators are the same. -/
def AccumulatorExpression.same (a b : AccumulatorExpression) : Bool :=
  a.operator = b.operator && a.arg.same b.arg

/-- The two stages are the same. -/
def Stage.same : Stage → Stage → Bool
  | .select f, .select g => f.same g
  | .project as, .project bs => allSame Projection.same as bs
  | .replaceRoot a, .replaceRoot b => a.same b
  | .addFields fs, .addFields gs => Expression.sameFields fs gs
  | .group a as, .group b bs =>
    a.same b && allSame (fun x y => x.1 == y.1 && x.2.same y.2) as bs
  | .sort ks, .sort ls => ks = ls
  | .skip m, .skip n => m == n
  | .limit m, .limit n => m == n
  | .unwind p a, .unwind q b => p == q && a == b
  | .count m, .count n => m == n
  | _, _ => false

/-- The two pipelines are the same. -/
def Pipeline.same (p q : Pipeline) : Bool :=
  allSame Stage.same p.stages q.stages

end DocQuery
