import DocQuery.Proofs.Lowering.Comparison
import DocQuery.Proofs.Lowering.Target
import DocQuery.Proofs.Names.Resolved
import DocQuery.Proofs.Pipeline.Construction
import DocQuery.Proofs.Variables.Scoped

/-!
# Lowered tests

A condition that has no conditions inside is lowered to a test of a field or, on a document, to the
value that is computed for it.  Whatever form a test has, its target and its operation have passed
their checks, nothing in it is computed, and the condition refers to nothing but a field and
constants.

## Main definitions

* `Operation.IsPlain`, `Filter.IsPlain` — well-formed tests in which nothing is computed.
* `LowersTest` — what a condition without conditions inside is lowered to.

## Main results

* `lowersTest_comparisonTest`, `lowersTest_methodTest` — comparisons and method calls.
-/

namespace DocQuery

/-! ### Checked nodes -/

theorem gives_liftArgument {α : Type} {result : Except ArgumentError α} {p : α → Prop}
    (h : Gives result p) : Gives (liftArgument result) p :=
  h.mapError

theorem gives_refuse {α : Type} (e : Expr) (reason : Reason) {p : α → Prop} :
    Gives (refuse e reason) p :=
  Gives.error _

theorem gives_refuse_bind {α β : Type} (e : Expr) (reason : Reason)
    {f : α → Except LoweringError β} {p : β → Prop} : Gives (refuse e reason >>= f) p :=
  Gives.error _

/-! ### Plain tests -/

/-- The operation is well formed and computes nothing. -/
structure Operation.IsPlain (operation : Operation) : Prop where
  wellFormed : operation.wellFormed = true
  expressions : operation.expressions = []

/-- The filter is well formed and computes nothing. -/
structure Filter.IsPlain (f : Filter) : Prop where
  wellFormed : f.wellFormed = true
  expressions : f.expressions = []

theorem Operation.IsPlain.orNegated {operation : Operation} (h : operation.IsPlain)
    (op : BinaryOperator) : (orNegated op operation).IsPlain := by
  unfold DocQuery.orNegated
  split
  · exact h
  · exact ⟨h.wellFormed, h.expressions⟩

theorem Filter.isPlain_field {target : Target} {operation : Operation} (ht : target.IsDotted)
    (ho : operation.IsPlain) : (Filter.field target operation).IsPlain :=
  ⟨(wellFormed_field _ _).mpr ⟨ht.wellFormed, ho.wellFormed⟩, ho.expressions⟩

namespace Operation

theorem isPlain_bits? (test : BitTest) (mask : Int64) : Gives (bits? test mask) IsPlain := by
  have hnode : Gives (bits? test mask) (·.expressions = []) :=
    Gives.bind_any fun _ => Gives.bind_any fun _ => .ok rfl
  exact fun o ho => ⟨wellFormed_bits? test mask o ho, hnode o ho⟩

theorem isPlain_regex? (pattern options : String) : Gives (regex? pattern options) IsPlain := by
  have hnode : Gives (regex? pattern options) (·.expressions = []) :=
    Gives.bind_any fun _ => .ok rfl
  exact fun o ho => ⟨wellFormed_regex? pattern options o ho, hnode o ho⟩

theorem isPlain_size? (size : Int64) : Gives (size? size) IsPlain := by
  have hnode : Gives (size? size) (·.expressions = []) := Gives.bind_any fun _ => .ok rfl
  exact fun o ho => ⟨wellFormed_size? size o ho, hnode o ho⟩

theorem isPlain_type? (name : String) : Gives (type? name) IsPlain := by
  have hnode : Gives (type? name) (·.expressions = []) := Gives.bind_any fun _ => .ok rfl
  exact fun o ho => ⟨wellFormed_type? name o ho, hnode o ho⟩

theorem isPlain_mod? (divisor remainder : Int64) : Gives (mod? divisor remainder) IsPlain := by
  have hnode : Gives (mod? divisor remainder) (·.expressions = []) :=
    Gives.bind_any fun _ => .ok rfl
  exact fun o ho => ⟨wellFormed_mod? divisor remainder o ho, hnode o ho⟩

end Operation

/-! ### Comparisons -/

section Comparisons

variable {context : Context} {scope : Scope} {whole left right : Expr} {op : BinaryOperator}

/-- The filter is a plain test that compares two expressions in which every name is known. -/
structure ComparesPlainly (context : Context) (scope : Scope) (left right : Expr) (f : Filter) :
    Prop where
  left : left.isResolved context scope.isBound = true
  right : right.isResolved context scope.isBound = true
  isPlain : f.IsPlain

theorem ComparesPlainly.swap {f : Filter} (h : ComparesPlainly context scope left right f) :
    ComparesPlainly context scope right left f :=
  ⟨h.right, h.left, h.isPlain⟩

private theorem gives_fieldBitTest {target : Target} (htarget : target.IsDotted) (m r : Expr) :
    Gives (fieldBitTest context whole op target m r) (ComparesPlainly context scope m r) := by
  intro f h
  obtain ⟨mask, compared, htest, rfl⟩ := fieldBitTest_eq_ok_iff.mp h
  have hplain := Operation.isPlain_bits? _ mask _ (htest.bits?_eq_ok (maskedBits op compared))
  exact ⟨Expr.isResolved_of_fold htest.mask_eq, Expr.isResolved_of_fold htest.compared_eq,
    Filter.isPlain_field htarget hplain⟩

theorem gives_bitTest (a b compared : Expr) :
    Gives (bitTest context scope whole op a b compared)
      (ComparesPlainly context scope (.binary .bitAnd a b) compared) := by
  unfold bitTest
  dsimp only
  split
  · exact gives_refuse_bind _ _
  · -- the field may be on either side of the mask
    split
    · next target ha =>
      refine Gives.imp (gives_fieldBitTest (isDotted_of_resolveField ha) b compared)
        fun f hf => ⟨?_, hf.right, hf.isPlain⟩
      rw [Expr.isResolved, Expr.isResolved_of_resolveField ha, hf.left, Bool.and_self]
    · next target _ hb =>
      refine Gives.imp (gives_fieldBitTest (isDotted_of_resolveField hb) a compared)
        fun f hf => ⟨?_, hf.right, hf.isPlain⟩
      rw [Expr.isResolved, Expr.isResolved_of_resolveField hb, hf.left, Bool.and_self]
    · exact gives_refuse_bind _ _

theorem gives_remainderTest (a b compared : Expr) :
    Gives (remainderTest context scope whole op a b compared)
      (ComparesPlainly context scope (.binary .modulo a b) compared) := by
  unfold remainderTest
  dsimp only
  split
  · exact gives_refuse_bind _ _
  · intro f h
    obtain ⟨target, htarget, h⟩ := bind_eq_ok_iff.mp h
    obtain ⟨divisor, hdivisor, h⟩ := bind_eq_ok_iff.mp h
    obtain ⟨remainder, hremainder, h⟩ := bind_eq_ok_iff.mp h
    have hfield := requireField_eq_ok htarget
    refine ⟨?_, Expr.isResolved_of_fold (requireInteger_eq_ok hremainder), ?_⟩
    · rw [Expr.isResolved, Expr.isResolved_of_resolveField hfield,
        Expr.isResolved_of_fold (requireInteger_eq_ok hdivisor), Bool.and_self]
    · exact (gives_liftArgument (Operation.isPlain_mod? _ _)).map
        (fun _ ho => Filter.isPlain_field (isDotted_of_resolveField hfield) (ho.orNegated op)) f h

/-- If there is a test, it has the property. -/
def IfTest (p : Filter → Prop) (test : Option Filter) : Prop :=
  ∀ f, test = some f → p f

theorem ifTest_none {p : Filter → Prop} : IfTest p none :=
  nofun

theorem ifTest_some {p : Filter → Prop} {f : Filter} (h : p f) : IfTest p (some f) := by
  rintro g ⟨⟩
  exact h

theorem gives_measureTest? (object : Expr) (method : String) (compared : Expr) :
    Gives (measureTest? context scope whole op object method compared)
      (IfTest (ComparesPlainly context scope (.call object method []) compared)) := by
  unfold measureTest?
  split
  · exact .ok ifTest_none
  · split
    · next target htarget =>
      have hobject : (Expr.call object method []).isResolved context scope.isBound = true := by
        rw [Expr.isResolved, Expr.isResolved_of_resolveField htarget, Expr.allResolved,
          Bool.and_self]
      have htest {operation : Operation} (ho : operation.IsPlain) {value : Value}
          (hvalue : fold context compared = .ok (some value)) :
          ComparesPlainly context scope (.call object method []) compared
            (.field target (orNegated op operation)) :=
        ⟨hobject, Expr.isResolved_of_fold hvalue,
          Filter.isPlain_field (isDotted_of_resolveField htarget) (ho.orNegated op)⟩
      split
      · intro test h
        obtain ⟨found, hfound, h⟩ := bind_eq_ok_iff.mp h
        split at h
        · exact (gives_liftArgument (Operation.isPlain_size? _)).bind (fun _ ho => .ok
            (ifTest_some (htest ho (foldInteger_eq_some_iff.mp hfound)))) test h
        · cases h
          exact ifTest_none
      · split
        · intro test h
          obtain ⟨found, hfound, h⟩ := bind_eq_ok_iff.mp h
          split at h
          · exact (gives_liftArgument (Operation.isPlain_type? _)).bind (fun _ ho => .ok
              (ifTest_some (htest ho hfound))) test h
          · cases h
          · cases h
            exact ifTest_none
        · exact .ok ifTest_none
    · exact .ok ifTest_none

theorem gives_shapeTest? (shape other : Expr) :
    Gives (shapeTest? context scope whole op shape other)
      (IfTest (ComparesPlainly context scope shape other)) := by
  unfold shapeTest?
  split
  · exact (gives_bitTest _ _ _).map fun f hf => ifTest_some hf
  · exact (gives_remainderTest _ _ _).map fun f hf => ifTest_some hf
  · exact gives_measureTest? _ _ _
  · exact .ok ifTest_none

theorem gives_plainTest? (field value : Expr) :
    Gives (plainTest? context scope op field value)
      (IfTest (ComparesPlainly context scope field value)) := by
  unfold plainTest?
  split
  · next target htarget =>
    intro test h
    obtain ⟨found, hfound, h⟩ := bind_eq_ok_iff.mp h
    split at h
    · cases h
      exact ifTest_some ⟨Expr.isResolved_of_resolveField htarget, Expr.isResolved_of_fold hfound,
        Filter.isPlain_field (isDotted_of_resolveField htarget) ⟨rfl, rfl⟩⟩
    · cases h
      exact ifTest_none
  · exact .ok ifTest_none

end Comparisons

/-! ### What tests are lowered to -/

section Tests

variable {context : Context} {scope : Scope}

/-- What a condition without conditions inside is lowered to: a plain test if every name in the
condition is known, or, on a document, the computed value. -/
inductive LowersTest (context : Context) : Scope → Expr → Filter → Prop
  | plain {scope : Scope} {e : Expr} {f : Filter} (he : e.isResolved context scope.isBound = true)
    (hf : f.IsPlain) : LowersTest context scope e f
  | computed {e : Expr} {x : Expression} (h : lowerValue context false e = .ok x) :
    LowersTest context .document e (.expr x)

theorem lowersTest_computedTest (e : Expr) :
    Gives (computedTest context scope e) (LowersTest context scope e) := by
  unfold computedTest
  split
  · exact gives_refuse _ _
  · intro f h
    obtain ⟨x, hx, rfl⟩ := map_eq_ok_iff.mp h
    exact .computed hx

/-- A test that is looked for before another one. -/
private theorem gives_orElse {p : Filter → Prop} {test : Except LoweringError (Option Filter)}
    {rest : Except LoweringError Filter} (h : Gives test (IfTest p)) (hrest : Gives rest p) :
    Gives (do
      match ← test with
      | some f => return f
      | _ => rest) p := by
  refine h.bind fun found hfound => ?_
  cases found with
  | some f => exact .ok (hfound f rfl)
  | none => exact hrest

theorem lowersTest_comparisonTest (op : BinaryOperator) (left right : Expr) :
    Gives (comparisonTest context scope op left right)
      (LowersTest context scope (.binary op left right)) := by
  have hleft {f : Filter} (hf : ComparesPlainly context scope left right f) :
      LowersTest context scope (.binary op left right) f := by
    refine .plain ?_ hf.isPlain
    rw [Expr.isResolved, hf.left, hf.right, Bool.and_self]
  have himp {test : Option Filter} (h : IfTest (ComparesPlainly context scope left right) test) :
      IfTest (LowersTest context scope (.binary op left right)) test :=
    fun f hf => hleft (h f hf)
  have himp' {test : Option Filter} (h : IfTest (ComparesPlainly context scope right left) test) :
      IfTest (LowersTest context scope (.binary op left right)) test :=
    fun f hf => hleft (h f hf).swap
  -- the forms are tried in this order, each with the operands as they stand and then swapped
  exact gives_orElse ((gives_shapeTest? left right).imp fun _ => himp) <|
    gives_orElse ((gives_shapeTest? right left).imp fun _ => himp') <|
    gives_orElse ((gives_plainTest? left right).imp fun _ => himp) <|
    gives_orElse ((gives_plainTest? right left).imp fun _ => himp') <| lowersTest_computedTest _

/-! ### Methods -/

variable {whole : Expr}

theorem gives_constantArgument (bound : Bool) (arg : Expr) :
    Gives (constantArgument context whole arg) fun _ => arg.isResolved context bound = true := by
  intro value h
  obtain ⟨found, hfound, h⟩ := bind_eq_ok_iff.mp h
  cases found with
  | none => cases h
  | some value => exact Expr.isResolved_of_fold hfound

theorem gives_textArgument (bound : Bool) (arg : Expr) (reason : Reason) :
    Gives (textArgument context whole arg reason) fun _ => arg.isResolved context bound = true := by
  refine (gives_constantArgument bound arg).bind fun value hvalue => ?_
  split
  · exact .ok hvalue
  · exact gives_refuse _ _

/-- The operation is plain, and every name in the arguments that it is made from is known. -/
structure TestsPlainly (context : Context) (bound : Bool) (args : List Expr)
    (operation : Operation) : Prop where
  args : Expr.allResolved context bound args = true
  isPlain : operation.IsPlain

theorem gives_membershipTest (bound : Bool) (values : Expr) :
    Gives (membershipTest context whole values) (TestsPlainly context bound [values]) := by
  intro operation h
  obtain ⟨found, hfound, h⟩ := bind_eq_ok_iff.mp h
  split at h
  · cases h
    exact ⟨Expr.allResolved_iff.mpr (List.forall_mem_singleton.mpr (Expr.isResolved_of_fold hfound)),
      ⟨rfl, rfl⟩⟩
  · cases h

theorem gives_textTest (bound : Bool) (method : String) (arg : Expr) :
    Gives (textTest context whole method arg) (TestsPlainly context bound [arg]) := by
  refine (gives_constantArgument bound arg).bind fun value harg => ?_
  have hargs := Expr.allResolved_iff.mpr (List.forall_mem_singleton.mpr harg)
  split
  · exact gives_liftArgument ((Operation.isPlain_regex? _ _).imp fun _ ho => ⟨hargs, ho⟩)
  · split
    · exact .ok ⟨hargs, ⟨rfl, rfl⟩⟩
    · exact gives_refuse _ _

theorem gives_patternTest (bound : Bool) (pattern : Expr) (options : Option Expr) :
    Gives (patternTest context whole pattern options)
      (TestsPlainly context bound (pattern :: options.toList)) := by
  refine (gives_textArgument bound pattern _).bind fun text hpattern => ?_
  have hregex (letters : String)
      (h : ∀ arg ∈ options.toList, arg.isResolved context bound = true) :
      Gives (liftArgument (Operation.regex? text letters))
        (TestsPlainly context bound (pattern :: options.toList)) := by
    have hargs := Expr.allResolved_iff.mpr (List.forall_mem_cons.mpr ⟨hpattern, h⟩)
    exact gives_liftArgument ((Operation.isPlain_regex? _ _).imp fun _ ho => ⟨hargs, ho⟩)
  cases options with
  | none => exact hregex "" (List.forall_mem_nil _)
  | some options =>
    exact (gives_textArgument bound options _).bind fun letters hoptions =>
      hregex letters (List.forall_mem_singleton.mpr hoptions)

theorem gives_occupancyTest {target : Target} (htarget : target.IsDotted) :
    Gives (occupancyTest whole target) Filter.IsPlain := by
  cases target with
  | path path =>
    refine .ok (Filter.isPlain_field ?_ ⟨rfl, rfl⟩)
    rintro _ ⟨⟩
    -- the suffix is put behind the path without a check, but it is a segment as well
    have hpath : path ++ "." ++ "0" = path ++ ".0" := by
      rw [String.append_assoc]
      rfl
    exact hpath ▸ (htarget path rfl).concat (isPathSegment_toString 0)
  | element => exact gives_refuse _ _

theorem lowersTest_methodTest {object : Expr} {target : Target}
    (htarget : resolveField scope object = some target) (method : String) (args : List Expr) :
    Gives (methodTest context whole target method args)
      (LowersTest context scope (.call object method args)) := by
  have hdotted := isDotted_of_resolveField htarget
  have hcall {args : List Expr} {f : Filter}
      (hargs : Expr.allResolved context (scope.isBound || bindsElement method) args = true)
      (hf : f.IsPlain) : LowersTest context scope (.call object method args) f := by
    refine .plain ?_ hf
    rw [Expr.isResolved, Expr.isResolved_of_resolveField htarget, hargs, Bool.and_self]
  have hfield {args : List Expr} {test : Except LoweringError Operation}
      (h : Gives test
        (TestsPlainly context (scope.isBound || bindsElement method) args)) :
      Gives (.field target <$> test) (LowersTest context scope (.call object method args)) :=
    h.map fun o ho => hcall ho.args (Filter.isPlain_field hdotted ho.isPlain)
  unfold methodTest
  dsimp only
  split
  · split
    · exact .ok (hcall rfl (Filter.isPlain_field hdotted ⟨rfl, rfl⟩))
    · split
      · exact (gives_occupancyTest hdotted).imp fun f hf => hcall rfl hf
      · exact gives_refuse _ _
  · split
    · exact hfield (gives_membershipTest _ _)
    · split
      · exact hfield (gives_textTest _ _ _)
      · split
        · exact hfield (gives_patternTest _ _ none)
        · exact gives_refuse _ _
  · split
    · exact hfield (gives_patternTest _ _ (some _))
    · exact gives_refuse _ _
  · exact gives_refuse _ _

end Tests

end DocQuery
