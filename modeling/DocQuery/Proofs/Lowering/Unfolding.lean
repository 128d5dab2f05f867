import DocQuery.Proofs.Evaluation.Expression
import DocQuery.Proofs.Evaluation.Integer
import DocQuery.Proofs.Lowering.Constant

/-!
# Folding and evaluation

A constant expression is computed when a query is lowered: in integers of 64 bits, as long as no
result is a floating-point number.  If its operators were lowered one by one instead, they would be
evaluated in decimals, with a difference from zero for a negation and a concatenation for a sum of
texts.  Both ways lead to the same value.

## Main definitions

* `lowerUnfolded` — an expression lowered operator by operator, down to the parts that are picked.
* `Expr.steps` — the operations that a constant is folded from, one inside the other.
* `Expr.FoldsExactly` — none of them goes to floating point.

## Main results

* `lowerUnfolded_eq_lowerValue` — with all constants picked, this is how expressions are lowered.
* `Constant.eval_negate`, `Constant.computes_operate` — an operator computes what is folded.
* `eval_lowerUnfolded` — **a constant has the value of what it is folded from.**
-/

namespace DocQuery

/-! ### Lowering without folding -/

/-- The value is text. -/
def Value.isText : Value → Bool
  | .string _ => true
  | _ => false

/-- A sum is a concatenation if one of its terms is known to be text. -/
def joinsText (context : Context) (op : BinaryOperator) (left right : Expr) :
    Except LoweringError Bool :=
  if op = .add then do
    if ← isText context left then return true else isText context right
  else pure false

/-- The expression that computes a value operator by operator.  The parts that `whole` picks are
lowered as they are, and so is everything that is no arithmetic. -/
def lowerUnfolded (context : Context) (whole : Expr → Bool) (bound : Bool) :
    Expr → Except LoweringError Expression
  | .unary .negate operand =>
    if whole (.unary .negate operand) then lowerValue context bound (.unary .negate operand)
    else do
      let operand ← lowerUnfolded context whole bound operand
      return .binary .subtract (.constant (.int 0)) operand
  | .binary op left right =>
    if whole (.binary op left right) then lowerValue context bound (.binary op left right)
    else do
      let text ← joinsText context op left right
      let left ← lowerUnfolded context whole bound left
      liftArgument (binaryExpression op text left (← lowerUnfolded context whole bound right))
  | e => lowerValue context bound e

/-- The operations that a constant is folded from, the last one first. -/
def Expr.steps : Expr → List Expr
  | .unary .negate operand => .unary .negate operand :: operand.steps
  | .binary op left right => .binary op left right :: (left.steps ++ right.steps)
  | e => [e]

/-- The value is a floating-point number. -/
def Value.isReal : Value → Bool
  | .number (.real _) => true
  | _ => false

/-- No step has a floating-point number for its value. -/
def Expr.FoldsExactly (context : Context) (e : Expr) : Prop :=
  ∀ step ∈ e.steps, ∀ u, fold context step = .ok (some u) → u.isReal = false

variable {context : Context} {e : Expr} {a b v : Value}

theorem Expr.foldsExactly_iff : e.FoldsExactly context ↔ (e.steps.all fun step =>
    match fold context step with
    | .ok (some u) => !u.isReal
    | _ => true) = true := by
  rw [List.all_eq_true]
  refine forall₂_congr fun step _ => ?_
  split
  · next u hu => simp [hu]
  · next hother => exact iff_of_true (fun u hu => absurd hu (hother u)) rfl

instance (context : Context) (e : Expr) : Decidable (e.FoldsExactly context) :=
  decidable_of_iff _ Expr.foldsExactly_iff.symm

theorem Expr.mem_steps_self (e : Expr) : e ∈ e.steps := by
  unfold Expr.steps
  split <;> exact List.mem_cons_self

theorem isText_of_fold (h : fold context e = .ok (some v)) : isText context e = .ok v.isText := by
  unfold isText
  split <;> rw [textOr, h] <;> cases v <;> rfl

/-- The expression does not look at the document: it has a value at compile time, or fails to have
one. -/
def Expr.isFolded (context : Context) (e : Expr) : Bool :=
  match fold context e with
  | .ok none => false
  | _ => true

theorem Expr.isFolded_eq_false_iff : e.isFolded context = false ↔ fold context e = .ok none := by
  unfold Expr.isFolded
  split <;> simp_all

theorem isText_add {left right : Expr} (h : fold context (.binary .add left right) = .ok none) :
    isText context (.binary .add left right) = joinsText context .add left right := by
  rw [isText, textOr, h]
  rfl

/-- With all constants picked, this is how expressions are lowered. -/
theorem lowerUnfolded_eq_lowerValue (context : Context) (bound : Bool) (e : Expr) :
    lowerUnfolded context (·.isFolded context) bound e = lowerValue context bound e := by
  induction e using Expr.steps.induct with
  | case1 operand ih =>
    rw [lowerUnfolded]
    split
    · rfl
    · next hfold =>
      rw [Bool.not_eq_true, Expr.isFolded_eq_false_iff] at hfold
      rw [ih, lowerValue, constantOr_of_fold_none hfold]
  | case2 op left right ihl ihr =>
    rw [lowerUnfolded]
    split
    · rfl
    · next hfold =>
      rw [Bool.not_eq_true, Expr.isFolded_eq_false_iff] at hfold
      rw [ihl, ihr, lowerValue, constantOr_of_fold_none hfold]
      by_cases hadd : op = .add
      · subst hadd
        rw [← isText_add hfold]
        rfl
      · rw [joinsText, if_neg hadd, if_neg hadd]
  | case3 e hnegate hbinary =>
    rw [lowerUnfolded]
    · exact hnegate
    · exact hbinary

/-! ### One operation -/

/-- An expression that has the value wherever its operands have theirs. -/
def Computes (a b : Value) (left right x : Expression) (v : Value) : Prop :=
  ∀ env, left.eval env = .ok a → right.eval env = .ok b → x.eval env = .ok v

section Computes

variable {left right : Expression}

theorem computes_binary {function : BinaryFunction} (h : function.eval a b = .ok v) :
    Computes a b left right (.binary function left right) v := by
  intro env ha hb
  rw [Expression.eval_binary, ha, ok_bind, hb, ok_bind, h]

theorem computes_variadic {function : VariadicFunction} (h : function.eval [a, b] = .ok v) :
    Computes a b left right (.variadic function [left, right]) v := by
  intro env ha hb
  rw [Expression.eval_variadic, List.mapM_cons, List.mapM_cons, List.mapM_nil, ha, hb]
  exact h

theorem eval_concat_string (s t : String) :
    VariadicFunction.concat.eval [.string s, .string t] = .ok (.string (s ++ t)) := by
  simp [VariadicFunction.eval, concatenate]

namespace Constant

theorem checked_eq_ok_iff {n : Int} :
    checked n = .ok v ↔ ∃ k : Int64, k.toInt = n ∧ v = .int k := by
  unfold checked
  constructor
  · intro h
    split at h
    · next k hk =>
      cases h
      exact ⟨k, toInt_of_signed64? hk, rfl⟩
    · cases h
  · rintro ⟨k, rfl, rfl⟩
    rw [signed64?_toInt]

/-- What is computed in floating point is a floating-point number. -/
theorem isReal_of_finite {x : Option Binary64} (h : finite x = .ok v) : v.isReal = true := by
  cases x with
  | none => cases h
  | some x =>
    cases h
    rfl

theorem isReal_of_reals {op : BinaryOperator} {x y : Binary64} (h : reals op x y = .ok v) :
    v.isReal = true := by
  unfold reals at h
  split at h
  all_goals first | exact isReal_of_finite h | cases h

theorem eq_int_of_signed? {n : Number} {i : Int64} (h : n.signed? = some i) : n = .int i := by
  cases n with
  | int k =>
    cases h
    rfl
  | large k beyond => cases h
  | real x => cases h

/-- A number that is no floating-point number comes from integers of 64 bits. -/
theorem integers_of_numbers {op : BinaryOperator} {m n : Number} (h : numbers op m n = .ok v)
    (hv : v.isReal = false) :
    ∃ i j : Int64, m = .int i ∧ n = .int j ∧ integers op i j = .ok v := by
  unfold numbers at h
  split at h
  · next i j hi hj => exact ⟨i, j, eq_int_of_signed? hi, eq_int_of_signed? hj, h⟩
  · split at h
    · cases h
    · rw [isReal_of_reals h] at hv
      cases hv

/-- A folded negation is a difference from zero. -/
theorem eval_negate (h : negate a = .ok v) (hv : v.isReal = false) :
    BinaryFunction.subtract.eval (.int 0) a = .ok v := by
  unfold negate at h
  split at h
  · next n =>
    split at h
    · next i hi =>
      obtain ⟨k, hk, rfl⟩ := checked_eq_ok_iff.mp h
      rw [eq_int_of_signed? hi]
      exact BinaryFunction.eval_subtract_int (hk.trans (Int.zero_sub _).symm)
    · rw [isReal_of_finite h] at hv
      cases hv
  · cases h

/-- A quotient that is no floating-point number is exact. -/
theorem exact_of_integers {i j : Int64} (h : integers .divide i j = .ok v)
    (hv : v.isReal = false) :
    j ≠ 0 ∧ i.toInt.tmod j.toInt = 0
      ∧ ∃ k : Int64, k.toInt = i.toInt.tdiv j.toInt ∧ v = .int k := by
  simp only [integers] at h
  split at h
  · cases h
  · next hj =>
    split at h
    · next hexact => exact ⟨hj, hexact.1, checked_eq_ok_iff.mp h⟩
    · rw [isReal_of_finite h] at hv
      cases hv

theorem remainder_of_integers {i j : Int64} (h : integers .modulo i j = .ok v) :
    j ≠ 0 ∧ ∃ k : Int64, k.toInt = i.toInt.tmod j.toInt ∧ v = .int k := by
  simp only [integers] at h
  split at h
  · cases h
  · next hj =>
    split at h
    · cases h
    · exact ⟨hj, checked_eq_ok_iff.mp h⟩

/-- Of integers, the operator computes what is folded. -/
theorem computes_integers {op : BinaryOperator} {i j : Int64} (h : integers op i j = .ok v)
    (hv : v.isReal = false) (left right : Expression) :
    ∃ x, binaryExpression op false left right = .ok x
      ∧ Computes (.int i) (.int j) left right x v := by
  cases op with
  | add =>
    obtain ⟨k, hk, rfl⟩ := checked_eq_ok_iff.mp h
    exact ⟨_, rfl, computes_variadic (VariadicFunction.eval_add_int hk)⟩
  | subtract =>
    obtain ⟨k, hk, rfl⟩ := checked_eq_ok_iff.mp h
    exact ⟨_, rfl, computes_binary (BinaryFunction.eval_subtract_int hk)⟩
  | multiply =>
    obtain ⟨k, hk, rfl⟩ := checked_eq_ok_iff.mp h
    exact ⟨_, rfl, computes_variadic (VariadicFunction.eval_multiply_int hk)⟩
  | divide =>
    obtain ⟨hj, hexact, k, hk, rfl⟩ := exact_of_integers h hv
    exact ⟨_, rfl, computes_binary (BinaryFunction.eval_divide_int hj hexact hk)⟩
  | modulo =>
    obtain ⟨hj, k, hk, rfl⟩ := remainder_of_integers h
    exact ⟨_, rfl, computes_binary (BinaryFunction.eval_mod_int hj hk)⟩
  | bitAnd =>
    cases h
    exact ⟨_, rfl, computes_variadic (VariadicFunction.eval_bitAnd_int i j)⟩
  | bitOr =>
    cases h
    exact ⟨_, rfl, computes_variadic (VariadicFunction.eval_bitOr_int i j)⟩
  | _ => cases h

/-- The operator computes what is folded, if a sum is lowered to a concatenation where one of the
terms is text. -/
theorem computes_operate {op : BinaryOperator} (h : operate op a b = .ok v) (hv : v.isReal = false)
    (left right : Expression) :
    ∃ x, binaryExpression op (op = .add && (a.isText || b.isText)) left right = .ok x
      ∧ Computes a b left right x v := by
  unfold operate at h
  split at h
  · cases h
    exact ⟨_, rfl, computes_binary rfl⟩
  · next s t =>
    cases h
    exact ⟨.variadic .concat [left, right], rfl, computes_variadic (eval_concat_string s t)⟩
  · next m n _ =>
    -- neither of two numbers is text
    obtain ⟨i, j, rfl, rfl, hinteger⟩ := integers_of_numbers h hv
    have hnumbers : (op = .add && ((Value.int i).isText || (Value.int j).isText)) = false :=
      Bool.and_false _
    rw [← Value.int, ← Value.int, hnumbers]
    exact computes_integers hinteger hv left right
  · split at h <;> cases h

end Constant

end Computes

/-! ### A whole expression -/

theorem joinsText_of_fold {op : BinaryOperator} {left right : Expr}
    (hleft : fold context left = .ok (some a)) (hright : fold context right = .ok (some b)) :
    joinsText context op left right = .ok (op = .add && (a.isText || b.isText)) := by
  rw [joinsText, isText_of_fold hleft, isText_of_fold hright]
  by_cases hadd : op = .add
  · rw [if_pos hadd, decide_eq_true hadd]
    cases a.isText <;> rfl
  · rw [if_neg hadd, decide_eq_false hadd]
    rfl

/-- A part that is lowered as it is has its value. -/
theorem exists_lowerValue_of_fold (bound : Bool) (hfold : fold context e = .ok (some v)) :
    ∃ x, lowerValue context bound e = .ok x ∧ ∀ env, x.eval env = .ok v :=
  ⟨.constant v, lowerValue_of_fold bound hfold, Expression.eval_constant v⟩

/-- A constant has the value of what it is folded from: an expression that is folded, without a
floating-point number at any step, is lowered operator by operator as well, down to any parts, and
has the same value then. -/
theorem eval_lowerUnfolded (context : Context) (whole : Expr → Bool) (bound : Bool) {e : Expr}
    {v : Value} (hfold : fold context e = .ok (some v))
    (hexact : e.FoldsExactly context) :
    ∃ x, lowerUnfolded context whole bound e = .ok x ∧ ∀ env, x.eval env = .ok v := by
  have hv : v.isReal = false := hexact e e.mem_steps_self v hfold
  -- the steps of an operation are those of its operands and the operation itself
  induction e using Expr.steps.induct generalizing v with
  | case1 operand ih =>
    rw [lowerUnfolded]
    split
    · exact exists_lowerValue_of_fold bound hfold
    · obtain ⟨a, ha, hnegate⟩ := fold_operand hfold
      have hsteps := (List.forall_mem_cons.mp hexact).2
      obtain ⟨x, hx, heval⟩ := ih ha hsteps (hsteps operand operand.mem_steps_self a ha)
      rw [hx]
      refine ⟨_, rfl, fun env => ?_⟩
      rw [Expression.eval_binary, Expression.eval_constant, heval]
      exact Constant.eval_negate (hnegate rfl) hv
  | case2 op left right ihl ihr =>
    rw [lowerUnfolded]
    split
    · exact exists_lowerValue_of_fold bound hfold
    · obtain ⟨a, b, ha, hb, hoperate⟩ := fold_operands hfold
      obtain ⟨hleft, hright⟩ := List.forall_mem_append.mp (List.forall_mem_cons.mp hexact).2
      obtain ⟨l, hl, hevall⟩ := ihl ha hleft (hleft left left.mem_steps_self a ha)
      obtain ⟨r, hr, hevalr⟩ := ihr hb hright (hright right right.mem_steps_self b hb)
      obtain ⟨x, hx, hcomputes⟩ := Constant.computes_operate hoperate hv l r
      rw [joinsText_of_fold ha hb, ok_bind, hl, ok_bind, hr, ok_bind, hx]
      exact ⟨x, rfl, fun env => hcomputes env (hevall env) (hevalr env)⟩
  | case3 e hnegate hbinary =>
    rw [lowerUnfolded]
    · exact exists_lowerValue_of_fold bound hfold
    · exact hnegate
    · exact hbinary

example :
    lowerUnfolded .empty (fun _ => false) false
        (.unary .negate (.binary .multiply (.integer 2) (.integer 3)))
      = .ok (.binary .subtract (.constant (.int 0))
          (.variadic .multiply [.constant (.int 2), .constant (.int 3)])) := rfl

/-- A remainder of the least integer and an exact quotient, both negative, and a text that stands in
for null. -/
theorem eval_lowerUnfolded_negative :
    let context := (Context.empty.bind "low" (.int Int64.minValue)).bind "s" .null
    let number : Expr := .binary .add
      (.unary .negate (.binary .modulo (.param "low") (.integer 10)))
      (.binary .divide (.integer 12) (.integer (-4)))
    let text : Expr := .binary .add (.string "x") (.binary .coalesce (.param "s") (.string "y"))
    (fold context number = .ok (some (.int 5)) ∧ number.FoldsExactly context
      ∧ ∃ x, lowerUnfolded context (fun _ => false) false number = .ok x
        ∧ ∀ env, x.eval env = .ok (.int 5))
    ∧ fold context text = .ok (some (.string "xy")) ∧ text.FoldsExactly context
      ∧ ∃ x, lowerUnfolded context (fun _ => false) false text = .ok x
        ∧ ∀ env, x.eval env = .ok (.string "xy") := by
  intro context number text
  have hnumber : fold context number = .ok (some (.int 5)) := by rfl
  have htext : fold context text = .ok (some (.string "xy")) := by rfl
  have hnumberExact : number.FoldsExactly context := Expr.foldsExactly_iff.mpr rfl
  have htextExact : text.FoldsExactly context := Expr.foldsExactly_iff.mpr rfl
  exact ⟨⟨hnumber, hnumberExact, eval_lowerUnfolded context _ false hnumber hnumberExact⟩,
    htext, htextExact, eval_lowerUnfolded context _ false htext htextExact⟩

end DocQuery
