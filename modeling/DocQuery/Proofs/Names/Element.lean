import DocQuery.Proofs.Lowering.Target
import DocQuery.Proofs.Names.Lowered

/-!
# Values that refer to the array element at hand

A value that is assigned to a field and refers to the array element at hand is computed for each
element of the array in the field.  Two functions say what such a reference is.  The lowering of
values gives the element its name in the argument of four methods, and of no others.
`Expr.usesElement`, which decides how the value is assigned, passes over the arguments of every
method.  So a value that refers to the element only in an argument of another method, such as
`$.allowed.contains(@)`, is lowered without an element and is refused.

## Main definitions

* `Expr.refersToElement` — the element is referred to where it must be known from outside.
* `WithoutElement` — what becomes of a computation if the element is not known.

## Main results

* `Expr.isResolved_false` — what is resolved without the element does not refer to it.
* `withoutElement_lowerValue` — **a value that is lowered with the element is lowered alike without
  it, or is refused for the reference to it.**
* `lowerStatement_transform_of_refersToElement` — a value that refers to the element is computed for
  each of them if the reference is found, and is refused otherwise.
-/

namespace DocQuery

mutual

/-- The expression refers to the array element at hand where it must be known from outside: anywhere
but in the argument of a method that is evaluated for each element of another array. -/
def Expr.refersToElement : Expr → Bool
  | .element => true
  | .access base index => base.refersToElement || index.refersToElement
  | .filter condition => condition.refersToElement
  | .unary _ operand => operand.refersToElement
  | .binary _ left right => left.refersToElement || right.refersToElement
  | .call base method args =>
    base.refersToElement || (!bindsElement method && anyRefersToElement args)
  | .object fields => anyFieldRefersToElement fields
  | .array elements => anyRefersToElement elements
  | _ => false

/-- One of the expressions refers to the element. -/
def Expr.anyRefersToElement : List Expr → Bool
  | [] => false
  | e :: es => e.refersToElement || anyRefersToElement es

/-- One of the entries refers to the element. -/
def Expr.anyFieldRefersToElement : List (String × Expr) → Bool
  | [] => false
  | (_, e) :: fields => e.refersToElement || anyFieldRefersToElement fields

end

/-! ### References and known names -/

namespace Expr

variable {context : Context} {e : Expr}

/-- Of two parts each is resolved and refers to nothing if both are resolved and neither refers. -/
private theorem and_not_and_and_not (a b p q : Bool) :
    ((a && !p) && (b && !q)) = ((a && b) && !(p || q)) := by
  cases a <;> cases b <;> cases p <;> cases q <;> rfl

mutual

/-- Every name is known without the element at hand if every name is known with it and the element
is not referred to. -/
theorem isResolved_false :
    ∀ e : Expr, e.isResolved context false = (e.isResolved context true && !e.refersToElement)
  | .float _ | .integer _ | .string _ | .boolean _ | .null | .root | .key _ | .element => rfl
  | .param _ | .constant _ _ => (Bool.and_true _).symm
  | .access base index => by
    rw [isResolved, isResolved, refersToElement, isResolved_false base, isResolved_false index,
      and_not_and_and_not]
  | .filter condition => by
    rw [isResolved, isResolved, refersToElement, isResolved_false condition]
  | .unary op operand => by
    rw [isResolved, isResolved, refersToElement, isResolved_false operand]
  | .binary op left right => by
    rw [isResolved, isResolved, refersToElement, isResolved_false left, isResolved_false right,
      and_not_and_and_not]
  | .call base method args => by
    -- arguments that are evaluated for each element know it in any case
    have hargs : allResolved context (false || bindsElement method) args
        = (allResolved context (true || bindsElement method) args
          && !(!bindsElement method && anyRefersToElement args)) := by
      cases bindsElement method with
      | true => exact (Bool.and_true _).symm
      | false => exact allResolved_false args
    rw [isResolved, isResolved, refersToElement, isResolved_false base, hargs, and_not_and_and_not]
  | .object fields => by
    rw [isResolved, isResolved, refersToElement, fieldsResolved_false fields]
  | .array elements => by
    rw [isResolved, isResolved, refersToElement, allResolved_false elements]

theorem allResolved_false :
    ∀ es : List Expr,
      allResolved context false es = (allResolved context true es && !anyRefersToElement es)
  | [] => rfl
  | e :: es => by
    rw [allResolved, allResolved, anyRefersToElement, isResolved_false e, allResolved_false es,
      and_not_and_and_not]

theorem fieldsResolved_false :
    ∀ fields : List (String × Expr), fieldsResolved context false fields
      = (fieldsResolved context true fields && !anyFieldRefersToElement fields)
  | [] => rfl
  | (_, e) :: fields => by
    rw [fieldsResolved, fieldsResolved, anyFieldRefersToElement, isResolved_false e,
      fieldsResolved_false fields, and_not_and_and_not]

end

/-- What is resolved without the element does not refer to it. -/
theorem refersToElement_of_isResolved (h : e.isResolved context false = true) :
    e.refersToElement = false := by
  rw [isResolved_false, Bool.and_eq_true, Bool.not_eq_true'] at h
  exact h.2

end Expr

/-! ### Computations without the element -/

/-- The second computation is the first one without the element at hand: where the first succeeds,
it has the same result, or, if the element is referred to, is refused for that. -/
def WithoutElement {α : Type} (refers : Bool) (x y : Except LoweringError α) : Prop :=
  ∀ a, x = .ok a → y = if refers then refuse .element .elementUnbound else .ok a

namespace WithoutElement

variable {α β : Type} {p q : Bool} {x y : Except LoweringError α} {f g : α → Except LoweringError β}

theorem refl (x : Except LoweringError α) : WithoutElement false x x :=
  fun _ h => h

/-- What is refused with the element need not be looked at. -/
theorem refused {e : Expr} {reason : Reason} : WithoutElement p (refuse e reason) y :=
  nofun

/-- The first part that refers to the element is where the computation ends. -/
theorem bind_of_eq_ok (h : WithoutElement p x y)
    (hf : ∀ a, x = .ok a → WithoutElement q (f a) (g a)) :
    WithoutElement (p || q) (x >>= f) (y >>= g) := by
  intro b hb
  obtain ⟨a, ha, hfa⟩ := bind_eq_ok_iff.mp hb
  rw [h a ha]
  cases p with
  | true => rfl
  | false => exact hf a ha b hfa

theorem bind (h : WithoutElement p x y) (hf : ∀ a, WithoutElement q (f a) (g a)) :
    WithoutElement (p || q) (x >>= f) (y >>= g) :=
  h.bind_of_eq_ok fun a _ => hf a

/-- What is done with the result refers to nothing. -/
theorem bind_same (h : WithoutElement p x y) (f : α → Except LoweringError β) :
    WithoutElement p (x >>= f) (y >>= f) := by
  rw [← Bool.or_false p]
  exact h.bind fun a => refl (f a)

/-- What is computed first refers to nothing. -/
theorem same_bind (x : Except LoweringError α) (hf : ∀ a, x = .ok a → WithoutElement q (f a) (g a)) :
    WithoutElement q (x >>= f) (x >>= g) :=
  (refl x).bind_of_eq_ok hf

end WithoutElement

/-! ### Values -/

section Values

variable {context : Context}

open DocQuery.Expr

/-- A constant is the same with the element and without. -/
private theorem withoutElement_constantOr {e : Expr}
    {f g : Unit → Except LoweringError Expression}
    (h : WithoutElement e.refersToElement (f ()) (g ())) :
    WithoutElement e.refersToElement (constantOr context e f) (constantOr context e g) := by
  refine .same_bind _ fun found hfound => ?_
  cases found with
  | some value =>
    rw [refersToElement_of_isResolved (isResolved_of_fold hfound)]
    exact .refl _
  | none => exact h

/-- A value that is lowered with the element at hand is lowered to the same expression without it if
it does not refer to it, and is refused otherwise. -/
theorem withoutElement_lowerValue (context : Context) (e : Expr) :
    WithoutElement e.refersToElement (lowerValue context true e) (lowerValue context false e) := by
  -- the induction is on the expression; the flag it carries along plays no part
  refine lowerValue.induct
    (fun _ e => WithoutElement e.refersToElement
      (lowerValue context true e) (lowerValue context false e))
    (fun _ es => WithoutElement (anyRefersToElement es)
      (lowerValues context true es) (lowerValues context false es))
    (fun _ fields => WithoutElement (anyFieldRefersToElement fields)
      (lowerFields context true fields) (lowerFields context false fields))
    ?root ?element ?access ?not ?negate ?binary ?plainCall ?call ?otherCall ?object ?array ?filter
    ?key ?other ?nil ?cons ?noFields ?fields true e
  case root =>
    intro _
    rw [lowerValue, lowerValue]
    exact .refl _
  case element =>
    intro _
    rw [lowerValue, lowerValue]
    refine withoutElement_constantOr ?_
    rintro x ⟨⟩
    rfl
  case access =>
    intro _ object key ih
    rw [lowerValue, lowerValue]
    refine withoutElement_constantOr ?_
    rw [refersToElement]
    refine ih.bind fun input x hx => ?_
    -- the key is a constant
    obtain ⟨value, hvalue, -⟩ := bind_eq_ok_iff.mp hx
    rw [refersToElement_of_isResolved (isResolved_of_accessKeyValue hvalue)]
    exact hx
  case not =>
    intro _ operand ih
    rw [lowerValue, lowerValue]
    exact withoutElement_constantOr (ih.bind_same _)
  case negate =>
    intro _ operand ih
    rw [lowerValue, lowerValue]
    exact withoutElement_constantOr (ih.bind_same _)
  case binary =>
    intro _ op left right ihleft ihright
    rw [lowerValue, lowerValue]
    refine withoutElement_constantOr ?_
    rw [refersToElement]
    have hoperands (text : Bool) := ihleft.bind fun a => ihright.bind_same fun b =>
      liftArgument (binaryExpression op text a b)
    -- whether a sum joins texts is found out without the element
    dsimp only
    split
    · exact .same_bind _ fun text _ => hoperands text
    · exact hoperands false
  case plainCall =>
    intro _ object method ih
    rw [lowerValue, lowerValue]
    refine withoutElement_constantOr ?_
    rw [refersToElement, anyRefersToElement, Bool.and_false, Bool.or_false]
    exact ih.bind_same _
  case call =>
    intro _ object method arg ihobject _ iharg
    rw [lowerValue, lowerValue]
    refine withoutElement_constantOr ?_
    rw [refersToElement, anyRefersToElement, anyRefersToElement, Bool.or_false]
    refine ihobject.bind fun input => ?_
    cases hbinds : bindsElement method with
    | true => exact .refl _
    | false =>
      rw [if_neg Bool.false_ne_true, if_neg Bool.false_ne_true]
      split
      · exact iharg.bind_same _
      · exact .refused
  case otherCall =>
    intro _ object method args hnil hsingle ih
    rw [lowerValue, lowerValue]
    · refine withoutElement_constantOr fun x hx => ?_
      obtain ⟨_, _, hx⟩ := bind_eq_ok_iff.mp hx
      cases hx
    all_goals assumption
  case object =>
    intro _ fields ih
    rw [lowerValue, lowerValue]
    exact withoutElement_constantOr (ih.bind_same _)
  case array =>
    intro _ elements ih
    rw [lowerValue, lowerValue]
    exact withoutElement_constantOr (ih.bind_same _)
  case filter =>
    intro _ condition
    rw [lowerValue, lowerValue]
    exact withoutElement_constantOr .refused
  case key =>
    intro _ name
    rw [lowerValue, lowerValue]
    exact withoutElement_constantOr .refused
  case other =>
    intros
    rw [lowerValue, lowerValue]
    · exact withoutElement_constantOr .refused
    all_goals assumption
  case nil => exact fun _ => .refl _
  case cons =>
    intro _ e es ihe ihes
    rw [lowerValues, lowerValues, anyRefersToElement]
    exact ihe.bind fun x => ihes.bind_same _
  case noFields => exact fun _ => .refl _
  case fields =>
    intro _ name e fields ihe ihfields
    rw [lowerFields, lowerFields, anyFieldRefersToElement]
    exact ihe.bind fun x => ihfields.bind_same _

end Values

/-! ### Assignments -/

section Assignments

variable {context : Context} {target value : Expr} {path : String} {body : Expression}

/-- A value for an element is computed for each element at the path if the reference to the element
is found, and is refused otherwise. -/
theorem assignment_of_refersToElement (htarget : targetPath target = .ok path)
    (hvalue : ∀ condition, value ≠ .filter condition) (hrefers : value.refersToElement = true)
    (hbody : lowerValue context true value = .ok body) :
    assignment context target value
      = if value.usesElement then .ok (path, .map (.field none path) elementName body)
        else refuse .element .elementUnbound := by
  have hassigned : assignedValue context path value
      = if value.usesElement then .ok (.map (.field none path) elementName body)
        else refuse .element .elementUnbound := by
    unfold assignedValue
    split
    · next condition => exact absurd rfl (hvalue condition)
    · split
      · rw [hbody, Expression.field?, checkPath_of_targetPath htarget]
        rfl
      · rw [withoutElement_lowerValue context value body hbody, if_pos hrefers]
  rw [assignment, htarget, ok_bind, hassigned]
  split
  · rw [ok_bind, Stage.computedField?, checkPath_of_targetPath htarget]
    rfl
  · rfl

/-- The assignments of a statement are lowered in their order. -/
theorem lowerStatement_transform_append (before after : List (Expr × Expr)) (target value : Expr) :
    lowerStatement context (.transform (before ++ (target, value) :: after)) = (do
      let fields ← before.mapM fun (t, v) => assignment context t v
      let field ← assignment context target value
      let others ← after.mapM fun (t, v) => assignment context t v
      liftArgument (Stage.addFields? (fields ++ field :: others))) := by
  rw [lowerStatement, List.mapM_append, List.mapM_cons]
  simp only [bind_assoc, pure_bind]

/-- A value for an element is computed for each element at the path if the reference to the element
is found, also among other assignments.  Otherwise the statement is refused, unless it is refused for
an assignment that stands before. -/
theorem lowerStatement_transform_of_refersToElement (htarget : targetPath target = .ok path)
    (hvalue : ∀ condition, value ≠ .filter condition) (hrefers : value.refersToElement = true)
    (hbody : lowerValue context true value = .ok body) :
    lowerStatement context (.transform [(target, value)])
        = (if value.usesElement then
            .ok (.addFields [(path, .map (.field none path) elementName body)])
          else refuse .element .elementUnbound) ∧
      ∀ before after, lowerStatement context (.transform (before ++ (target, value) :: after)) = (do
        let fields ← before.mapM fun (t, v) => assignment context t v
        if value.usesElement then
          let others ← after.mapM fun (t, v) => assignment context t v
          liftArgument (Stage.addFields?
            (fields ++ (path, .map (.field none path) elementName body) :: others))
        else refuse .element .elementUnbound) := by
  have hassignment := assignment_of_refersToElement htarget hvalue hrefers hbody
  constructor
  · refine (lowerStatement_transform_append [] [] target value).trans ?_
    rw [hassignment]
    split <;> rfl
  · intro before after
    rw [lowerStatement_transform_append, hassignment]
    split <;> rfl

/-- A reference in the argument of `map` is not one to the element outside. -/
theorem lowerStatement_transform_of_refersToElement_in :
    lowerStatement .empty (.transform
        [(.access .root (.key "tags"),
          .call (.access .element (.key "id")) "in"
            [.call (.access .root (.key "rows")) "map" [.access .element (.key "id")]])])
      = .ok (.addFields [("tags", .map (.field none "tags") elementName
          (.binary .isIn (.field (some elementName) "id")
            (.map (.field none "rows") elementName (.field (some elementName) "id"))))]) :=
  (lowerStatement_transform_of_refersToElement rfl (by nofun) rfl rfl).1

/-- The argument of `contains` is a value for an element, which is refused all the same. -/
theorem lowerStatement_transform_contains :
    let value : Expr := .call (.access .root (.key "allowed")) "contains" [.element]
    targetPath (.access .root (.key "tags")) = .ok "tags" ∧ value.refersToElement = true ∧
      lowerValue .empty true value = .ok (.binary .isIn .this (.field none "allowed")) ∧
      lowerStatement .empty (.transform [(.access .root (.key "tags"), value)])
        = refuse .element .elementUnbound :=
  ⟨rfl, rfl, rfl, rfl⟩

end Assignments

end DocQuery
