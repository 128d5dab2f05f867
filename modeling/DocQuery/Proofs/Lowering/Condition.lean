import DocQuery.Proofs.Evaluation.Integer
import DocQuery.Proofs.Lowering.Comparison

/-!
# Conditions lowered in two ways

A condition can select documents as a filter, or be computed as a value.  The two read a document
differently: a filter sees all values that a path reaches and looks into arrays, an expression sees
one.  For conditions built from comparisons with constants they say the same of every document on
which that difference does not show.

## Main definitions

* `Condition` — the conditions, and `Condition.toExpr` as they are written.
* `Condition.Folds` — all constants of a condition have a value.
* `Condition.Admits` — the documents on which both readings see the same values.

## Main results

* `Condition.agree` — the filter and the expression of a condition agree, element by element.
* `Condition.holds_eq_evalOn` — they agree on documents.
-/

namespace DocQuery

/-! ### Conditions -/

/-- A field masked by a constant, with the mask in front or behind. -/
def masked (maskFirst : Bool) (field mask : Expr) : Expr :=
  if maskFirst then .binary .bitAnd mask field else .binary .bitAnd field mask

/-- A condition on the fields of a document or an array element.  A comparison that is turned round
has its constant on the left; one that is negated is `!=` instead of `==`. -/
inductive Condition where
  /-- `field op constant`. -/
  | compare (turned : Bool) (comparison : Comparison) (keys : List FieldKey) (constant : Expr)
  /-- `(field & mask) == constant`. -/
  | bits (turned negated maskFirst : Bool) (keys : List FieldKey) (mask constant : Expr)
  /-- `(field % divisor) == constant`. -/
  | remainder (turned negated : Bool) (keys : List FieldKey) (divisor constant : Expr)
  /-- `field.count() == constant`. -/
  | count (turned negated : Bool) (keys : List FieldKey) (constant : Expr)
  /-- `field.in([constant, …])`. -/
  | isIn (keys : List FieldKey) (constants : List Expr)
  /-- `field.any()`. -/
  | occupied (keys : List FieldKey)
  /-- `field.any(condition)`, where the condition is about the elements. -/
  | anyItem (keys : List FieldKey) (condition : Condition)
  | and (left right : Condition)
  | or (left right : Condition)
  | not (operand : Condition)

namespace Condition

/-- The condition as it is written in a scope. -/
def toExpr (scope : Scope) : Condition → Expr
  | compare turned comparison keys constant =>
    compared turned comparison (scope.access keys) constant
  | bits turned negated maskFirst keys mask constant =>
    compared turned (equality negated) (masked maskFirst (scope.access keys) mask) constant
  | remainder turned negated keys divisor constant =>
    compared turned (equality negated) (.binary .modulo (scope.access keys) divisor) constant
  | count turned negated keys constant =>
    compared turned (equality negated) (.call (scope.access keys) "count" []) constant
  | isIn keys constants => .call (scope.access keys) "in" [.array constants]
  | occupied keys => .call (scope.access keys) "any" []
  | anyItem keys condition => .call (scope.access keys) "any" [condition.toExpr .element]
  | and left right => .binary .and (left.toExpr scope) (right.toExpr scope)
  | or left right => .binary .or (left.toExpr scope) (right.toExpr scope)
  | not operand => .unary .not (operand.toExpr scope)

end Condition

/-- The expression has a value at compile time. -/
def Expr.Folds (context : Context) (e : Expr) : Prop :=
  ∃ value, fold context e = .ok (some value)

namespace Condition

/-- All constants of the condition have a value. -/
def Folds (context : Context) : Condition → Prop
  | compare _ _ _ constant => constant.Folds context
  | bits _ _ _ _ mask constant => mask.Folds context ∧ constant.Folds context
  | remainder _ _ _ divisor constant => divisor.Folds context ∧ constant.Folds context
  | count _ _ _ constant => constant.Folds context
  | isIn _ constants => ∀ constant ∈ constants, constant.Folds context
  | occupied _ => True
  | anyItem _ condition => condition.Folds context
  | and left right => left.Folds context ∧ right.Folds context
  | or left right => left.Folds context ∧ right.Folds context
  | not operand => operand.Folds context

/-- What the condition asks of a document, or an element: no array is on the way to a field, and the
field holds what suits its test.  An array has fewer items than a signed count can reach, as has any
array in memory. -/
def Admits (context : Context) : Condition → Value → Prop
  | compare _ comparison keys constant, v =>
    v.IsStraight (fieldNames keys)
      ∧ ∀ value, fold context constant = .ok (some value) →
        comparison.Suits (v.follow (fieldNames keys)) value
  | bits _ _ _ keys _ _, v =>
    v.IsStraight (fieldNames keys) ∧ ∃ n, v.follow (fieldNames keys) = some (.int n)
  | remainder _ _ keys _ _, v =>
    v.IsStraight (fieldNames keys) ∧ ∃ n, v.follow (fieldNames keys) = some (.int n)
  | count _ _ keys _, v =>
    v.IsStraight (fieldNames keys)
      ∧ ∃ items, v.follow (fieldNames keys) = some (.array items) ∧ items.length < pow2 63
  | isIn keys _, v =>
    v.IsStraight (fieldNames keys)
      ∧ ∀ items, v.follow (fieldNames keys) ≠ some (.array items)
  | occupied keys, v =>
    v.IsStraight (fieldNames keys)
      ∧ ∃ items, v.follow (fieldNames keys) = some (.array items) ∧ items.length < pow2 63
  | anyItem keys condition, v =>
    v.IsStraight (fieldNames keys)
      ∧ ∃ items, v.follow (fieldNames keys) = some (.array items)
        ∧ ∀ item ∈ items, condition.Admits context item
  | and left right, v => left.Admits context v ∧ right.Admits context v
  | or left right, v => left.Admits context v ∧ right.Admits context v
  | not operand, v => operand.Admits context v

end Condition

/-- The filter and the expression have the same outcome for a value. -/
def Agree (f : Filter) (x : Expression) (env : Environment) (v : Value) : Prop :=
  ∃ b, f.holds v = .ok b ∧ x.eval env = .ok (.bool b)

/-! ### Cases of lowering -/

section Cases

variable (context : Context) (scope : Scope)

theorem lowerCondition_and (left right : Expr) :
    lowerCondition context scope (.binary .and left right)
      = (do
        let f ← lowerCondition context scope left
        let g ← lowerCondition context scope right
        liftArgument (Filter.and? (conjuncts left f ++ conjuncts right g))) := rfl

theorem lowerCondition_or (left right : Expr) :
    lowerCondition context scope (.binary .or left right)
      = (do
        let f ← lowerCondition context scope left
        let g ← lowerCondition context scope right
        liftArgument (Filter.or? (disjuncts left f ++ disjuncts right g))) := rfl

theorem lowerCondition_not (operand : Expr) :
    lowerCondition context scope (.unary .not operand)
      = (do return .not (← lowerCondition context scope operand)) := rfl

theorem lowerCondition_anyItem (object condition : Expr) :
    lowerCondition context scope (.call object "any" [condition])
      = (do
        let target ← requireField scope object (.call object "any" [condition])
        return .field target (.elemMatch (← lowerCondition context .element condition))) := rfl

theorem lowerCondition_occupied (object : Expr) :
    lowerCondition context scope (.call object "any" [])
      = (do
        let target ← requireField scope object (.call object "any" [])
        methodTest context (.call object "any" []) target "any" []) := rfl

theorem lowerCondition_isIn (object : Expr) (args : List Expr) :
    lowerCondition context scope (.call object "in" args)
      = (do
        let target ← requireField scope object (.call object "in" args)
        methodTest context (.call object "in" args) target "in" args) := rfl

end Cases

section Leaves

variable {context : Context} {scope : Scope} {env : Environment} {v : Value} {keys : List FieldKey}
  {f : Filter} {x : Expression}

/-! ### What a comparison needs to agree -/

theorem holds_of_computedTest {whole : Expr} {b : Bool}
    (h : computedTest context scope whole = .ok f)
    (hx : lowerValue context scope.isBound whole = .ok x) (henv : scope.Reads env v)
    (hb : x.eval env = .ok (.bool b)) : f.holds v = .ok b := by
  cases scope with
  | element => cases h
  | document =>
    cases henv
    change lowerValue context false whole = .ok x at hx
    rw [computedTest, hx, map_ok] at h
    cases h
    rw [Filter.holds, Expression.evalOn, hb]
    rfl

/-- A comparison agrees if its subject has a value on which its test decides the same way. -/
theorem agree_compared {turned : Bool} {comparison : Comparison} {subject constant : Expr}
    {value u : Value} (hconstant : fold context constant = .ok (some value))
    (hf : lowerCondition context scope (compared turned comparison subject constant) = .ok f)
    (hx : lowerValue context scope.isBound (compared turned comparison subject constant) = .ok x)
    (henv : scope.Reads env v)
    (hu : ∀ {s}, lowerValue context scope.isBound subject = .ok s → s.eval env = .ok u)
    (hshape : ∀ {whole f},
      shapeTest? context scope whole comparison.operator subject constant = .ok (some f) →
        f.holds v = .ok (comparison.accepts (u.order value)))
    (hfield : ∀ {target}, resolveField scope subject = some target →
      comparison.test (target.values v) value = comparison.accepts (u.order value)) :
    Agree f x env v := by
  obtain ⟨s, hs, hcompared⟩ := lowerValue_compared hconstant hx
  have hvalue := hcompared (hu hs)
  refine ⟨_, ?_, hvalue⟩
  -- the filter is a form of its own, a plain test, or the expression itself
  rcases lowerCondition_compared rfl hconstant hf with h | ⟨-, ⟨target, htarget, rfl⟩ | ⟨-, h⟩⟩
  · exact hshape h
  · rw [Filter.holds_field, Operation.holds, hfield htarget]
  · exact holds_of_computedTest h hx henv hvalue

/-- A subject that always has a form of its own is tested in that form. -/
theorem lowerCondition_of_shape {turned : Bool} {comparison : Comparison}
    {subject constant : Expr} {value : Value} {form : Expr → Except LoweringError Filter}
    (hconstant : fold context constant = .ok (some value))
    (hform : ∀ whole,
      shapeTest? context scope whole comparison.operator subject constant = some <$> form whole)
    (hf : lowerCondition context scope (compared turned comparison subject constant) = .ok f) :
    ∃ whole, form whole = .ok f := by
  rcases lowerCondition_compared rfl hconstant hf with h | ⟨h, -⟩
  · rw [hform, map_eq_ok_iff] at h
    obtain ⟨_, h, heq⟩ := h
    cases heq
    exact ⟨_, h⟩
  · rw [hform, map_eq_ok_iff] at h
    obtain ⟨_, -, heq⟩ := h
    cases heq

/-! ### Fields -/

theorem shapeTest?_access {whole other : Expr} {op : BinaryOperator} (keys : List FieldKey) :
    shapeTest? context scope whole op (scope.access keys) other = .ok none := by
  induction keys using List.reverseRecOn with
  | nil => cases scope <;> rfl
  | append_singleton keys key _ =>
    rw [Scope.access_concat]
    rfl

theorem fold_scopeAccess (keys : List FieldKey) : fold context (scope.access keys) = .ok none := by
  induction keys using List.reverseRecOn with
  | nil =>
    cases scope with
    | document => exact fold_root context
    | element => exact fold_element context
  | append_singleton keys key _ =>
    rw [Scope.access_concat]
    exact fold_access context _ _

theorem eval_access {s : Expression} (henv : scope.Reads env v)
    (hv : v.IsStraight (fieldNames keys))
    (hs : lowerValue context scope.isBound (scope.access keys) = .ok s) :
    s.eval env = .ok ((v.follow (fieldNames keys)).getD .null) :=
  (readsPath_of_lowerValue hs).eval henv hv

theorem agree_compare {turned : Bool} {comparison : Comparison} {constant : Expr}
    (hf : lowerCondition context scope
      ((Condition.compare turned comparison keys constant).toExpr scope) = .ok f)
    (hx : lowerValue context scope.isBound
      ((Condition.compare turned comparison keys constant).toExpr scope) = .ok x)
    (henv : scope.Reads env v) (hc : constant.Folds context)
    (hv : (Condition.compare turned comparison keys constant).Admits context v) :
    Agree f x env v := by
  obtain ⟨value, hconstant⟩ := hc
  obtain ⟨hstraight, hsuits⟩ := hv
  refine agree_compared hconstant hf hx henv (eval_access henv hstraight) ?_ ?_
  · intro whole f h
    rw [shapeTest?_access] at h
    cases h
  · intro target htarget
    rw [values_of_resolveField htarget hstraight]
    exact Comparison.test_of_suits (hsuits value hconstant)

/-! ### Masked fields and remainders -/

theorem accepts_equality_int (negated : Bool) (m n : Int64) :
    (equality negated).accepts ((Value.int m).order (.int n))
      = ((m.toInt == n.toInt) != negated) := by
  rw [accepts_equality, Value.order_int, Std.LawfulBEqOrd.isEq_compare_eq_beq]

/-- A test of bits that counts as a comparison of the masked bits. -/
theorem test_of_bitTestOf? {negated : Bool} {mask r : Int64} {test : BitTest}
    (h : bitTestOf? (equality negated).operator mask r = some test) (n : Int64) :
    test.test mask n = (((n &&& mask).toInt == r.toInt) != negated) := by
  have heq (k : Int64) : ((n &&& mask).toInt == k.toInt) = (n &&& mask == k) := by
    rw [Bool.eq_iff_iff, beq_iff_eq, beq_iff_eq, Int64.toInt_inj]
  unfold bitTestOf? at h
  rw [heq]
  split at h
  · next hr =>
    cases negated <;> cases h <;> simp [BitTest.test, equality, Comparison.operator, bne, hr]
  · split at h
    · next hr =>
      cases negated <;> cases h <;> simp [BitTest.test, equality, Comparison.operator, bne, hr]
    · cases h

theorem holds_orNegated (negated : Bool) {operation : Operation} {values : List Value} {b : Bool}
    (h : operation.holds values = .ok b) :
    (orNegated (equality negated).operator operation).holds values = .ok (b != negated) := by
  cases negated with
  | false => simpa [orNegated, equality, Comparison.operator] using h
  | true => simp [orNegated, equality, Comparison.operator, h]

theorem eval_masked {maskFirst : Bool} {mask : Expr} {m n : Int64} {s : Expression}
    (henv : scope.Reads env v) (hv : v.IsStraight (fieldNames keys))
    (hn : v.follow (fieldNames keys) = some (.int n)) (hm : fold context mask = .ok (some (.int m)))
    (hs : lowerValue context scope.isBound (masked maskFirst (scope.access keys) mask) = .ok s) :
    s.eval env = .ok (.int (n &&& m)) := by
  cases maskFirst with
  | false =>
    have hfold : fold context (.binary .bitAnd (scope.access keys) mask) = .ok none :=
      fold_binary_of_left (fold_scopeAccess keys) mask
    rw [masked, if_neg Bool.false_ne_true, lowerValue_binary hfold (by decide),
      bind_eq_ok_iff] at hs
    obtain ⟨field, hfield, hs⟩ := hs
    rw [lowerValue_of_fold _ hm, ok_bind, binaryExpression, Expression.variadic?] at hs
    cases hs
    have heval := eval_access henv hv hfield
    rw [hn] at heval
    rw [Expression.eval_variadic, List.mapM_cons, List.mapM_cons, List.mapM_nil, heval,
      Expression.eval_constant]
    exact VariadicFunction.eval_bitAnd_int n m
  | true =>
    have hfold : fold context (.binary .bitAnd mask (scope.access keys)) = .ok none :=
      fold_binary_of_right hm (fold_scopeAccess keys)
    rw [masked, if_pos rfl, lowerValue_binary hfold (by decide), lowerValue_of_fold _ hm, ok_bind,
      bind_eq_ok_iff] at hs
    obtain ⟨field, hfield, hs⟩ := hs
    rw [binaryExpression, Expression.variadic?] at hs
    cases hs
    have heval := eval_access henv hv hfield
    rw [hn] at heval
    rw [Expression.eval_variadic, List.mapM_cons, List.mapM_cons, List.mapM_nil, heval,
      Expression.eval_constant, Int64.and_comm]
    exact VariadicFunction.eval_bitAnd_int m n

theorem eval_modulo {divisor : Expr} {d n k : Int64} {s : Expression}
    (henv : scope.Reads env v) (hv : v.IsStraight (fieldNames keys))
    (hn : v.follow (fieldNames keys) = some (.int n))
    (hd : fold context divisor = .ok (some (.int d))) (hd0 : d ≠ 0)
    (hk : k.toInt = n.toInt.tmod d.toInt)
    (hs : lowerValue context scope.isBound (.binary .modulo (scope.access keys) divisor) = .ok s) :
    s.eval env = .ok (.int k) := by
  have hfold : fold context (.binary .modulo (scope.access keys) divisor) = .ok none :=
    fold_binary_of_left (fold_scopeAccess keys) divisor
  rw [lowerValue_binary hfold (by decide), bind_eq_ok_iff] at hs
  obtain ⟨field, hfield, hs⟩ := hs
  rw [lowerValue_of_fold _ hd, ok_bind, binaryExpression] at hs
  cases hs
  have heval := eval_access henv hv hfield
  rw [hn] at heval
  rw [Expression.eval_binary, heval, Expression.eval_constant]
  exact BinaryFunction.eval_mod_int hd0 hk

/-- What a test of bits is made of. -/
theorem bits_of_lowerCondition {turned negated maskFirst : Bool} {mask constant : Expr}
    {value : Value} (hm : mask.Folds context) (hconstant : fold context constant = .ok (some value))
    (hf : lowerCondition context scope
      ((Condition.bits turned negated maskFirst keys mask constant).toExpr scope) = .ok f) :
    ∃ target m r test, resolveField scope (scope.access keys) = some target
      ∧ fold context mask = .ok (some (.int m)) ∧ value = .int r
      ∧ bitTestOf? (equality negated).operator m r = some test
      ∧ f = .field target (.bits test m) := by
  obtain ⟨_, hm⟩ := hm
  have hnone := resolveField_of_fold scope hm
  cases maskFirst with
  | false =>
    obtain ⟨whole, h⟩ := lowerCondition_of_shape hconstant (fun _ => rfl) hf
    obtain ⟨target, m, r, test, hfield | hfield, hr, htest, rfl⟩ := bitTest_eq_ok h
    · cases hconstant.symm.trans hr
      exact ⟨target, m, r, test, hfield.1, hfield.2, rfl, htest, rfl⟩
    · cases hnone.symm.trans hfield.1
  | true =>
    obtain ⟨whole, h⟩ := lowerCondition_of_shape hconstant (fun _ => rfl) hf
    obtain ⟨target, m, r, test, hfield | hfield, hr, htest, rfl⟩ := bitTest_eq_ok h
    · cases hnone.symm.trans hfield.1
    · cases hconstant.symm.trans hr
      exact ⟨target, m, r, test, hfield.1, hfield.2, rfl, htest, rfl⟩

theorem agree_bits {turned negated maskFirst : Bool} {mask constant : Expr}
    (hf : lowerCondition context scope
      ((Condition.bits turned negated maskFirst keys mask constant).toExpr scope) = .ok f)
    (hx : lowerValue context scope.isBound
      ((Condition.bits turned negated maskFirst keys mask constant).toExpr scope) = .ok x)
    (henv : scope.Reads env v)
    (hc : (Condition.bits turned negated maskFirst keys mask constant).Folds context)
    (hv : (Condition.bits turned negated maskFirst keys mask constant).Admits context v) :
    Agree f x env v := by
  obtain ⟨hmask, value, hconstant⟩ := hc
  obtain ⟨hstraight, n, hn⟩ := hv
  obtain ⟨target, m, r, test, htarget, hm, rfl, htest, rfl⟩ :=
    bits_of_lowerCondition hmask hconstant hf
  obtain ⟨s, hs, hcompared⟩ := lowerValue_compared hconstant hx
  have hvalue := hcompared (eval_masked henv hstraight hn hm hs)
  refine ⟨_, ?_, hvalue⟩
  rw [Filter.holds_field, values_of_resolveField htarget hstraight, hn, Option.toList_some,
    Operation.holds_bits_int, test_of_bitTestOf? htest, accepts_equality_int]

theorem agree_remainder {turned negated : Bool} {divisor constant : Expr}
    (hf : lowerCondition context scope
      ((Condition.remainder turned negated keys divisor constant).toExpr scope) = .ok f)
    (hx : lowerValue context scope.isBound
      ((Condition.remainder turned negated keys divisor constant).toExpr scope) = .ok x)
    (henv : scope.Reads env v)
    (hc : (Condition.remainder turned negated keys divisor constant).Folds context)
    (hv : (Condition.remainder turned negated keys divisor constant).Admits context v) :
    Agree f x env v := by
  obtain ⟨-, value, hconstant⟩ := hc
  obtain ⟨hstraight, n, hn⟩ := hv
  obtain ⟨whole, h⟩ := lowerCondition_of_shape hconstant (fun _ => rfl) hf
  obtain ⟨target, d, r, htarget, hd, hr, hd0, rfl⟩ := remainderTest_eq_ok h
  cases hconstant.symm.trans hr
  obtain ⟨k, hk⟩ := exists_toInt_eq_tmod n hd0
  obtain ⟨s, hs, hcompared⟩ := lowerValue_compared hconstant hx
  have hvalue := hcompared (eval_modulo henv hstraight hn hd hd0 hk hs)
  refine ⟨_, ?_, hvalue⟩
  rw [Filter.holds_field, values_of_resolveField htarget hstraight, hn, Option.toList_some,
    holds_orNegated negated (Operation.holds_mod_int d r n), accepts_equality_int, hk]

/-! ### Lengths -/

theorem ofNat_eq_int {n : Nat} (h : n < pow2 63) :
    ∃ k : Int64, k.toInt = n ∧ Value.ofNat n = .int k := by
  obtain ⟨k, hk⟩ := signed64?_isSome (n := n) (by omega) (by omega)
  refine ⟨k, toInt_of_signed64? hk, ?_⟩
  rw [Value.ofNat, Number.ofInt, hk, Value.int]

theorem lowerValue_callPlain {method : String} {object : Expr} (bound : Bool) :
    lowerValue context bound (.call object method [])
      = (lowerValue context bound object >>= callPlain (.call object method []) method) := by
  rw [lowerValue, constantOr_of_fold_none (fold_call context _ _ _)]

theorem agree_count {turned negated : Bool} {constant : Expr}
    (hf : lowerCondition context scope
      ((Condition.count turned negated keys constant).toExpr scope) = .ok f)
    (hx : lowerValue context scope.isBound
      ((Condition.count turned negated keys constant).toExpr scope) = .ok x)
    (henv : scope.Reads env v)
    (hc : (Condition.count turned negated keys constant).Folds context)
    (hv : (Condition.count turned negated keys constant).Admits context v) :
    Agree f x env v := by
  obtain ⟨value, hconstant⟩ := hc
  obtain ⟨hstraight, items, hitems, hlength⟩ := hv
  obtain ⟨k, hk, hsize⟩ := ofNat_eq_int hlength
  refine agree_compared (u := .int k) hconstant hf hx henv ?_ ?_ ?_
  · intro s hs
    obtain ⟨field, hfield, hs⟩ := bind_eq_ok_iff.mp ((lowerValue_callPlain _).symm.trans hs)
    cases hs
    rw [Expression.eval_unary, eval_access henv hstraight hfield, hitems]
    exact congrArg Except.ok hsize
  · intro whole f h
    obtain ⟨-, hnone⟩ | ⟨target, n, htarget, rfl, hsome⟩ :=
      measureTest?_count_eq_ok (by cases negated <;> rfl) hconstant h
    · cases hnone
    · cases hsome
      rw [Filter.holds_field, values_of_resolveField htarget hstraight, hitems, Option.toList_some,
        holds_orNegated negated (Operation.holds_size_array n items), accepts_equality_int, hk]
  · intro target htarget
    cases scope <;> cases htarget

/-! ### Methods -/

/-- The path of the first item leads somewhere if there are items. -/
theorem isEmpty_firstItem {names : List String} (hne : names ≠ [])
    (hall : ∀ name ∈ names, isPathSegment name = true) (hv : v.IsStraight names)
    {items : List Value} (hitems : v.follow names = some (.array items)) :
    ((Target.path s!"{dottedPath names}.0").values v).isEmpty = items.isEmpty := by
  have hpath : s!"{dottedPath names}.0" = dottedPath (names ++ ["0"]) := by
    rw [dottedPath_concat hne, String.append_assoc]
    rfl
  have hsegments : pathSegments (dottedPath (names ++ ["0"])) = names ++ ["0"] := by
    refine pathSegments_dottedPath (List.append_ne_nil_of_left_ne_nil hne _) ?_
    refine List.forall_mem_append.mpr ⟨fun name hname => ?_, ?_⟩
    · exact dot_notMem_of_isPathSegment (hall name hname)
    · exact List.forall_mem_singleton.mpr (by decide)
  rw [Target.values, hpath, hsegments, Value.reached_append, Value.reached_of_isStraight hv, hitems,
    Option.toList_some, List.flatMap_singleton, Value.reached_singleton, Value.step_zero_isEmpty]

theorem agree_occupied
    (hf : lowerCondition context scope ((Condition.occupied keys).toExpr scope) = .ok f)
    (hx : lowerValue context scope.isBound ((Condition.occupied keys).toExpr scope) = .ok x)
    (henv : scope.Reads env v) (hv : (Condition.occupied keys).Admits context v) :
    Agree f x env v := by
  obtain ⟨hstraight, items, hitems, hlength⟩ := hv
  obtain ⟨k, hk, hsize⟩ := ofNat_eq_int hlength
  obtain ⟨field, hfield, hx⟩ := bind_eq_ok_iff.mp ((lowerValue_callPlain _).symm.trans hx)
  cases hx
  refine ⟨!items.isEmpty, ?_, ?_⟩
  · rw [Condition.toExpr, lowerCondition_occupied, bind_eq_ok_iff] at hf
    obtain ⟨target, htarget, hf⟩ := hf
    -- the element itself has no path whose first item could be asked for
    obtain ⟨-, rfl⟩ | ⟨hne, hall, rfl⟩ := resolveField_access (requireField_eq_ok htarget)
    · cases hf
    · cases hf
      rw [Filter.holds_field, Operation.holds, isEmpty_firstItem hne hall hstraight hitems,
        Bool.bne_true]
  · rw [Expression.eval_binary, Expression.eval_unary, eval_access henv hstraight hfield, hitems,
      Expression.eval_constant, Option.getD_some, ok_bind, UnaryFunction.eval, onArray, hsize,
      ok_bind, ok_bind, BinaryFunction.eval, Value.order_int, hk]
    cases items <;> rfl

theorem agree_isIn {constants : List Expr}
    (hf : lowerCondition context scope ((Condition.isIn keys constants).toExpr scope) = .ok f)
    (hx : lowerValue context scope.isBound ((Condition.isIn keys constants).toExpr scope) = .ok x)
    (henv : scope.Reads env v) (hc : (Condition.isIn keys constants).Folds context)
    (hv : (Condition.isIn keys constants).Admits context v) :
    Agree f x env v := by
  obtain ⟨hstraight, hfound⟩ := hv
  obtain ⟨values, hvalues⟩ := fold_array_of_folds hc
  refine ⟨values.any (·.equal ((v.follow (fieldNames keys)).getD .null)), ?_, ?_⟩
  · rw [Condition.toExpr, lowerCondition_isIn, bind_eq_ok_iff] at hf
    obtain ⟨target, htarget, hf⟩ := hf
    obtain ⟨operation, hoperation, rfl⟩ := map_eq_ok_iff.mp hf
    rw [membershipTest, hvalues] at hoperation
    cases hoperation
    rw [Filter.holds_field, Operation.holds,
      values_of_resolveField (requireField_eq_ok htarget) hstraight, any_equalsAny_toList hfound]
  · rw [Condition.toExpr, lowerValue, constantOr_of_fold_none (fold_call context _ _ _),
      bind_eq_ok_iff] at hx
    obtain ⟨field, hfield, hx⟩ := hx
    obtain ⟨arg, harg, hx⟩ := bind_eq_ok_iff.mp hx
    cases (lowerValue_of_fold _ hvalues).symm.trans harg
    cases hx
    rw [Expression.eval_binary, eval_access henv hstraight hfield, Expression.eval_constant]
    rfl

end Leaves

/-! ### Conditions on elements and combined conditions -/

section Combined

variable {context : Context} {scope : Scope} {env : Environment} {v : Value}
  {f g : Filter} {x y : Expression}

/-- Some item satisfies a condition if the condition agrees for each of them. -/
theorem agree_anyItem {keys : List FieldKey} {condition : Condition}
    (hf : lowerCondition context scope ((Condition.anyItem keys condition).toExpr scope) = .ok f)
    (hx : lowerValue context scope.isBound
      ((Condition.anyItem keys condition).toExpr scope) = .ok x)
    (henv : scope.Reads env v) (hv : (Condition.anyItem keys condition).Admits context v)
    (hitem : ∀ {env item g body},
      lowerCondition context .element (condition.toExpr .element) = .ok g →
      lowerValue context true (condition.toExpr .element) = .ok body →
      Scope.Reads .element env item → condition.Admits context item → Agree g body env item) :
    Agree f x env v := by
  obtain ⟨hstraight, items, hitems, hadmits⟩ := hv
  rw [Condition.toExpr, lowerCondition_anyItem, bind_eq_ok_iff] at hf
  obtain ⟨target, htarget, hf⟩ := hf
  obtain ⟨g, hg, hf⟩ := bind_eq_ok_iff.mp hf
  cases hf
  rw [Condition.toExpr, lowerValue, constantOr_of_fold_none (fold_call context _ _ _),
    bind_eq_ok_iff] at hx
  obtain ⟨field, hfield, hx⟩ := hx
  obtain ⟨body, hbody, hx⟩ := bind_eq_ok_iff.mp hx
  rw [liftArgument_eq_ok_iff, callBinding, Expression.map?] at hx
  simp only [bind_eq_ok_iff, pure_eq_ok, Except.ok.injEq] at hx
  obtain ⟨_, ⟨-, -, rfl⟩, rfl⟩ := hx
  have houtcome : ∀ item ∈ items, ∃ b, g.holds item = .ok b
      ∧ g.holds item = .ok b ∧ body.eval (env.bind elementName item) = .ok (.bool b) := by
    intro item hmem
    have hreads : Scope.element.Reads (env.bind elementName item) item := by
      rw [Scope.Reads, Environment.get, Environment.bind, List.lookup_cons_self]
    obtain ⟨b, hb, hvalue⟩ := hitem hg hbody hreads (hadmits item hmem)
    exact ⟨b, hb, hb, hvalue⟩
  -- both evaluations go through the items in order, so their outcomes are found once for both
  obtain ⟨outcomes, -, houtcomes⟩ := exists_mapM_eq_ok houtcome
  refine ⟨outcomes.any id, ?_, ?_⟩
  · rw [Filter.holds_field, values_of_resolveField (requireField_eq_ok htarget) hstraight, hitems,
      Operation.holds_elemMatch]
    have hall : itemsOfAll (some (Value.array items)).toList = items := List.append_nil items
    rw [hall]
    exact anyHolds_eq_any (houtcomes.imp fun _ _ h => h.1)
  · have hmap : items.mapM (fun item => body.eval (env.bind elementName item))
        = .ok (outcomes.map .bool) := by
      rw [mapM_eq_ok_iff, List.forall₂_map_right_iff]
      exact houtcomes.imp fun _ _ h => h.2
    rw [Expression.eval_unary, Expression.eval_map, eval_access henv hstraight hfield, hitems,
      Option.getD_some, ok_bind, overItems, hmap, map_ok, ok_bind, UnaryFunction.eval, onArray,
      List.any_map]
    rfl

theorem fold_toExpr (condition : Condition) : fold context (condition.toExpr scope) = .ok none := by
  induction condition with
  | and left right => exact fold_binary_of_not_isArithmetic rfl _ _
  | or left right => exact fold_binary_of_not_isArithmetic rfl _ _
  | not operand ih => exact fold_unary ih
  | isIn keys constants => exact fold_call context _ _ _
  | occupied keys => exact fold_call context _ _ _
  | anyItem keys condition => exact fold_call context _ _ _
  | _ => exact fold_compared

theorem holds_conjuncts (e : Expr) (f : Filter) (d : Value) :
    Filter.decided false (conjuncts e f) d = f.holds d := by
  unfold conjuncts
  split
  · exact (Filter.holds_and _ d).symm
  · exact Filter.decided_singleton false f d

theorem holds_disjuncts (e : Expr) (f : Filter) (d : Value) :
    Filter.decided true (disjuncts e f) d = f.holds d := by
  unfold disjuncts
  split
  · exact (Filter.holds_or _ d).symm
  · exact Filter.decided_singleton true f d

/-- A conjunction or disjunction has the value that its function has on those of its operands. -/
private theorem lowerValue_connective {op : BinaryOperator} (function : VariadicFunction)
    (combine : Bool → Bool → Bool) {left right : Expr} (hop : op ≠ .add)
    (harithmetic : Constant.isArithmetic op = false)
    (hlowered : ∀ a b, binaryExpression op false a b = .ok (.variadic function [a, b]))
    (hcombine : ∀ a b, function.eval [.bool a, .bool b] = .ok (.bool (combine a b)))
    (hx : lowerValue context scope.isBound (.binary op left right) = .ok x) :
    ∃ y z, lowerValue context scope.isBound left = .ok y ∧
      lowerValue context scope.isBound right = .ok z ∧
      ∀ a b, y.eval env = .ok (.bool a) → z.eval env = .ok (.bool b) →
        x.eval env = .ok (.bool (combine a b)) := by
  have hfold : fold context (.binary op left right) = .ok none :=
    fold_binary_of_not_isArithmetic harithmetic left right
  rw [lowerValue_binary hfold hop, bind_eq_ok_iff] at hx
  obtain ⟨y, hy, hx⟩ := hx
  obtain ⟨z, hz, hx⟩ := bind_eq_ok_iff.mp hx
  rw [hlowered] at hx
  cases hx
  refine ⟨y, z, hy, hz, fun a b ha hb => ?_⟩
  rw [Expression.eval_variadic, List.mapM_cons, List.mapM_cons, List.mapM_nil, ha, hb]
  exact hcombine a b

theorem agree_and {left right : Expr}
    (hf : lowerCondition context scope (.binary .and left right) = .ok f)
    (hx : lowerValue context scope.isBound (.binary .and left right) = .ok x)
    (hleft : ∀ {g y}, lowerCondition context scope left = .ok g →
      lowerValue context scope.isBound left = .ok y → Agree g y env v)
    (hright : ∀ {g y}, lowerCondition context scope right = .ok g →
      lowerValue context scope.isBound right = .ok y → Agree g y env v) :
    Agree f x env v := by
  rw [lowerCondition_and, bind_eq_ok_iff] at hf
  obtain ⟨g, hg, hf⟩ := hf
  obtain ⟨g', hg', hf⟩ := bind_eq_ok_iff.mp hf
  simp only [liftArgument_eq_ok_iff, Filter.and?, bind_eq_ok_iff, pure_eq_ok, Except.ok.injEq] at hf
  obtain ⟨-, -, rfl⟩ := hf
  obtain ⟨y, z, hy, hz, hvalue⟩ := lowerValue_connective .and and (by decide) rfl
    (fun _ _ => rfl) (fun a b => by cases a <;> cases b <;> rfl) hx
  obtain ⟨a, ha, hxa⟩ := hleft hg hy
  obtain ⟨b, hb, hxb⟩ := hright hg' hz
  refine ⟨a && b, ?_, hvalue a b hxa hxb⟩
  rw [Filter.holds_and, Filter.decided_append, holds_conjuncts, holds_conjuncts, ha, hb]
  cases a <;> rfl

theorem agree_or {left right : Expr}
    (hf : lowerCondition context scope (.binary .or left right) = .ok f)
    (hx : lowerValue context scope.isBound (.binary .or left right) = .ok x)
    (hleft : ∀ {g y}, lowerCondition context scope left = .ok g →
      lowerValue context scope.isBound left = .ok y → Agree g y env v)
    (hright : ∀ {g y}, lowerCondition context scope right = .ok g →
      lowerValue context scope.isBound right = .ok y → Agree g y env v) :
    Agree f x env v := by
  rw [lowerCondition_or, bind_eq_ok_iff] at hf
  obtain ⟨g, hg, hf⟩ := hf
  obtain ⟨g', hg', hf⟩ := bind_eq_ok_iff.mp hf
  simp only [liftArgument_eq_ok_iff, Filter.or?, bind_eq_ok_iff, pure_eq_ok, Except.ok.injEq] at hf
  obtain ⟨-, -, rfl⟩ := hf
  obtain ⟨y, z, hy, hz, hvalue⟩ := lowerValue_connective .or or (by decide) rfl
    (fun _ _ => rfl) (fun a b => by cases a <;> cases b <;> rfl) hx
  obtain ⟨a, ha, hxa⟩ := hleft hg hy
  obtain ⟨b, hb, hxb⟩ := hright hg' hz
  refine ⟨a || b, ?_, hvalue a b hxa hxb⟩
  rw [Filter.holds_or, Filter.decided_append, holds_disjuncts, holds_disjuncts, ha, hb]
  cases a <;> rfl

theorem agree_not {operand : Expr} (hfold : fold context operand = .ok none)
    (hf : lowerCondition context scope (.unary .not operand) = .ok f)
    (hx : lowerValue context scope.isBound (.unary .not operand) = .ok x)
    (hoperand : ∀ {g y}, lowerCondition context scope operand = .ok g →
      lowerValue context scope.isBound operand = .ok y → Agree g y env v) :
    Agree f x env v := by
  rw [lowerCondition_not, bind_eq_ok_iff] at hf
  obtain ⟨g, hg, hf⟩ := hf
  cases hf
  rw [lowerValue, constantOr_of_fold_none (fold_unary hfold), bind_eq_ok_iff] at hx
  obtain ⟨y, hy, hx⟩ := hx
  cases hx
  obtain ⟨b, hb, hxb⟩ := hoperand hg hy
  refine ⟨!b, ?_, ?_⟩
  · rw [Filter.holds_not, hb, negated_ok]
  · rw [Expression.eval_unary, hxb]
    rfl

/-- The filter and the expression of a condition agree for a value that the condition admits. -/
theorem Condition.agree {condition : Condition}
    (hf : lowerCondition context scope (condition.toExpr scope) = .ok f)
    (hx : lowerValue context scope.isBound (condition.toExpr scope) = .ok x)
    (henv : scope.Reads env v) (hc : condition.Folds context) (hv : condition.Admits context v) :
    Agree f x env v := by
  induction condition generalizing scope env v f x with
  | compare => exact agree_compare hf hx henv hc hv
  | bits => exact agree_bits hf hx henv hc hv
  | remainder => exact agree_remainder hf hx henv hc hv
  | count => exact agree_count hf hx henv hc hv
  | isIn => exact agree_isIn hf hx henv hc hv
  | occupied => exact agree_occupied hf hx henv hv
  | anyItem keys condition ih =>
    exact agree_anyItem hf hx henv hv fun hg hbody henv hitem => ih hg hbody henv hc hitem
  | and left right ihl ihr =>
    exact agree_and hf hx (fun hg hy => ihl hg hy henv hc.1 hv.1)
      fun hg hy => ihr hg hy henv hc.2 hv.2
  | or left right ihl ihr =>
    exact agree_or hf hx (fun hg hy => ihl hg hy henv hc.1 hv.1)
      fun hg hy => ihr hg hy henv hc.2 hv.2
  | not operand ih =>
    exact agree_not (fold_toExpr operand) hf hx fun hg hy => ih hg hy henv hc hv

end Combined

/-- A condition that can be lowered both ways selects a document as a filter if its value is true,
and is decided by either on every document that it admits. -/
theorem Condition.holds_eq_evalOn {context : Context} {condition : Condition} {f : Filter}
    {x : Expression} (hf : lowerCondition context .document (condition.toExpr .document) = .ok f)
    (hx : lowerValue context false (condition.toExpr .document) = .ok x)
    (hc : condition.Folds context) {d : Value} (hd : condition.Admits context d) :
    ∃ b, f.holds d = .ok b ∧ x.evalOn d = .ok (.bool b) :=
  condition.agree hf hx rfl hc hd

/-- A condition on the elements of an array, and one on a field that is missing. -/
theorem Condition.holds_eq_evalOn_items :
    let condition : Condition :=
      .and (.anyItem [.bare "items"]
          (.and (.remainder false false [.bare "n"] (.integer 3) (.integer 1))
            (.compare true .lt [.bare "n"] (.integer 9))))
        (.not (.isIn [.bare "state"] [.string "x"]))
    let d : Value := .object [("items", .array [.object [("n", .int 4)]])]
    ∃ f x, lowerCondition .empty .document (condition.toExpr .document) = .ok f
      ∧ lowerValue .empty false (condition.toExpr .document) = .ok x
      ∧ ∃ b, f.holds d = .ok b ∧ x.evalOn d = .ok (.bool b) := by
  intro condition d
  have hstraight (fields : List (String × Value)) (name : String) :
      (Value.object fields).IsStraight [name] :=
    Value.isStraight_cons_iff.mpr ⟨nofun, fun u _ => u.isStraight_nil⟩
  have hfolds : condition.Folds .empty :=
    ⟨⟨⟨⟨_, rfl⟩, _, rfl⟩, _, rfl⟩, List.forall_mem_singleton.mpr ⟨_, rfl⟩⟩
  have hsuits : Comparison.lt.Suits (some (.int 4)) (.int 9) := ⟨_, rfl, Value.int_ne_array 4, rfl⟩
  have hitem : Condition.Admits .empty
      (.and (.remainder false false [.bare "n"] (.integer 3) (.integer 1))
        (.compare true .lt [.bare "n"] (.integer 9))) (.object [("n", .int 4)]) := by
    refine ⟨⟨hstraight _ _, 4, rfl⟩, hstraight _ _, fun value hvalue => ?_⟩
    cases hvalue
    exact hsuits
  have hadmits : condition.Admits .empty d :=
    ⟨⟨hstraight _ _, _, rfl, List.forall_mem_singleton.mpr hitem⟩, hstraight _ _, nofun⟩
  exact ⟨_, _, rfl, rfl, Condition.holds_eq_evalOn rfl rfl hfolds hadmits⟩

end DocQuery
