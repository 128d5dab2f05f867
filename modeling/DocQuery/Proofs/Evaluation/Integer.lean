import DocQuery.Proofs.Number.Binary64
import DocQuery.Proofs.Number.Integer
import DocQuery.Proofs.Outcome

/-!
# Functions of integers

Functions compute with numbers in decimals and with bits in 64 bits.  Two integers of 64 bits have
as their sum, difference, product, quotient or remainder the integer that they should, if there is
one and it fits 64 bits.

## Main results

* `BinaryFunction.eval_subtract_int`, `eval_mod_int`, `eval_divide_int` — the functions of two
  arguments.
* `VariadicFunction.eval_add_int`, `eval_multiply_int`, `eval_bitAnd_int`, `eval_bitOr_int` — those
  of any number of arguments, for two.
-/

namespace DocQuery

variable {a b k : Int64}

theorem Value.isZero_int (n : Int64) : (Value.int n).isZero = decide (n = 0) := by
  rw [Value.int, Value.isZero, Number.toBinary64, Binary64.isZero_ofInt]

namespace BinaryFunction

theorem eval_subtract_int (hk : k.toInt = a.toInt - b.toInt) :
    subtract.eval (.int a) (.int b) = .ok (.int k) :=
  arithmetic_sub hk

theorem eval_mod_int (hb : b ≠ 0) (hk : k.toInt = a.toInt.tmod b.toInt) :
    mod.eval (.int a) (.int b) = .ok (.int k) := by
  rw [eval, Value.isZero_int, decide_eq_false hb, if_neg Bool.false_ne_true]
  exact arithmetic_rem hb hk

theorem eval_divide_int (hb : b ≠ 0) (hexact : a.toInt.tmod b.toInt = 0)
    (hk : k.toInt = a.toInt.tdiv b.toInt) : divide.eval (.int a) (.int b) = .ok (.int k) := by
  rw [eval, Value.isZero_int, decide_eq_false hb, if_neg Bool.false_ne_true]
  exact arithmetic_div hb hexact hk

end BinaryFunction

namespace VariadicFunction

/-- Two integers are accumulated one after the other if the first one is what the unit makes of
it. -/
theorem accumulate_int {name : String} {f : Decimal → Decimal → Option Decimal} {unit : Int64}
    (ha : arithmetic name f (.int unit) (.int a) = .ok (.int a))
    (hb : arithmetic name f (.int a) (.int b) = .ok (.int k)) :
    accumulate name f (.int unit) [.int a, .int b] = .ok (.int k) := by
  rw [accumulate, ha, ok_bind, if_neg (by simp [Value.int, Value.isNull]), accumulate, hb, ok_bind,
    if_neg (by simp [Value.int, Value.isNull]), accumulate]

theorem eval_add_int (hk : k.toInt = a.toInt + b.toInt) :
    add.eval [.int a, .int b] = .ok (.int k) :=
  accumulate_int (arithmetic_add (Int.zero_add _).symm) (arithmetic_add hk)

theorem eval_multiply_int (hk : k.toInt = a.toInt * b.toInt) :
    multiply.eval [.int a, .int b] = .ok (.int k) :=
  accumulate_int (arithmetic_mul (Int.one_mul _).symm) (arithmetic_mul hk)

theorem eval_bitAnd_int (a b : Int64) : bitAnd.eval [.int a, .int b] = .ok (.int (a &&& b)) := by
  simp [eval, Value.int, combineBits, Value.integer?]

theorem eval_bitOr_int (a b : Int64) : bitOr.eval [.int a, .int b] = .ok (.int (a ||| b)) := by
  simp [eval, Value.int, combineBits, Value.integer?]

end VariadicFunction

end DocQuery
