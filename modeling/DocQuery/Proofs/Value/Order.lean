import DocQuery.Proofs.Number.Integer
import DocQuery.Proofs.Pipeline.Induction
import DocQuery.Value.Order

/-!
# The order of values read backwards

The order of two values turns round when they change places, so a comparison says the same as the
mirrored comparison of the exchanged values.

## Main results

* `Value.order_swap` — the order turned round.
* `Value.equal_comm` — equality goes both ways.
* `Value.order_int` — signed integers are ordered as integers.
-/

namespace DocQuery

theorem Decimal.order_swap (a b : Decimal) : (a.order b).swap = b.order a := by
  have hscale : commonScale b a = commonScale a b := Nat.max_comm b.scale a.scale
  rw [order, order, hscale, Int.compare_swap]

theorem Binary64.order_swap (x y : Binary64) : (x.order y).swap = y.order x := by
  have hexponent : commonExponent y x = commonExponent x y := Int.min_comm y.exponent x.exponent
  rw [order, order, hexponent, Int.compare_swap]

theorem Number.order_swap (a b : Number) : (a.order b).swap = b.order a := by
  rw [order, order]
  cases a.signed? <;> cases b.signed?
  case some.some => exact Int.compare_swap _ _
  all_goals
    cases a.toDecimal? <;> cases b.toDecimal?
    case some.some => exact Decimal.order_swap _ _
    all_goals exact Binary64.order_swap _ _

namespace Value

theorem orderItems_swap {xs : List Value}
    (h : ∀ x ∈ xs, ∀ y, (order x y).swap = order y x) (ys : List Value) :
    (orderItems xs ys).swap = orderItems ys xs := by
  induction xs generalizing ys with
  | nil => cases ys <;> rfl
  | cons x xs ih =>
    cases ys with
    | nil => rfl
    | cons y ys =>
      rw [orderItems, orderItems, Ordering.swap_then, h x List.mem_cons_self,
        ih fun z hz => h z (List.mem_cons_of_mem x hz)]

theorem orderFields_swap {xs : List (String × Value)}
    (h : ∀ field ∈ xs, ∀ y, (order field.2 y).swap = order y field.2)
    (ys : List (String × Value)) : (orderFields xs ys).swap = orderFields ys xs := by
  induction xs generalizing ys with
  | nil => cases ys <;> rfl
  | cons field xs ih =>
    cases ys with
    | nil => rfl
    | cons field' ys =>
      obtain ⟨k, x⟩ := field
      obtain ⟨l, y⟩ := field'
      have hkey : (compare k l).swap = compare l k := Std.OrientedOrd.eq_swap.symm
      rw [orderFields, orderFields, Ordering.swap_then, Ordering.swap_then, hkey,
        h _ List.mem_cons_self y, ih fun z hz => h z (List.mem_cons_of_mem _ hz)]

theorem order_swap (a b : Value) : (a.order b).swap = b.order a := by
  induction a using Value.induction generalizing b with
  | null => cases b <;> rfl
  | bool p =>
    cases b with
    | bool q => exact Std.OrientedOrd.eq_swap.symm
    | _ => rfl
  | number m =>
    cases b with
    | number n => exact m.order_swap n
    | _ => rfl
  | string s =>
    cases b with
    | string t => exact Std.OrientedOrd.eq_swap.symm
    | _ => rfl
  | array xs ih =>
    cases b with
    | array ys => exact orderItems_swap ih ys
    | _ => rfl
  | object xs ih =>
    cases b with
    | object ys => exact orderFields_swap ih ys
    | _ => rfl

theorem equal_comm (a b : Value) : a.equal b = b.equal a := by
  rw [equal, equal, ← order_swap b a]
  cases b.order a <;> rfl

theorem order_int (m n : Int64) : (int m).order (int n) = compare m.toInt n.toInt := by
  rw [int, int, order]
  rfl

end Value

end DocQuery
