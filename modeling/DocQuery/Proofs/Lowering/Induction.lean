import DocQuery.Lowering.Statement
import DocQuery.Proofs.Lowering.Test

/-!
# Induction along the lowering

An expression of a query is lowered by lowering what is inside it and putting the results together.
The principles here say, form by form, what is put together; a property of what comes out then needs
no look at how it was computed.  If the property is one of expressions alone, which nodes hand on
from their parts, there is no need to look at the forms either.

## Main definitions

* `HandedOn`, `HandedOnByFilters` — the nodes that lowering builds have a property if their parts do.

## Main results

* `gives_lowerValue` — a property of lowered values that each form hands on from the parts to the
  whole.
* `gives_lowerCondition` — the same for lowered conditions.
* `HandedOn.lowerValue`, `HandedOnByFilters.lowerCondition` — lowered values and conditions have what
  is handed on.
-/

namespace DocQuery

variable {context : Context}

/-! ### Values -/

private theorem gives_constantOr {e : Expr} {p : Expression → Prop}
    {otherwise : Unit → Except LoweringError Expression}
    (hconstant : ∀ value, fold context e = .ok (some value) → p (.constant value))
    (h : Gives (otherwise ()) p) : Gives (constantOr context e otherwise) p := by
  intro x hx
  obtain ⟨found, hfound, hx⟩ := bind_eq_ok_iff.mp hx
  cases found with
  | some value =>
    cases hx
    exact hconstant value hfound
  | none => exact h x hx

/-- A property of expressions and what they are lowered to holds if constants have it and each form
hands it on from its parts.  The flag says whether the array element at hand is known. -/
theorem gives_lowerValue {motive : Bool → Expr → Expression → Prop}
    (constant : ∀ {bound e value}, fold context e = .ok (some value) →
      motive bound e (.constant value))
    (root : ∀ {bound}, motive bound .root .root)
    (element : motive true .element .this)
    (access : ∀ {bound object key input value x}, motive bound object input →
      accessKeyValue context (.access object key) key = .ok value →
      accessBy (.access object key) input value = .ok x → motive bound (.access object key) x)
    (not : ∀ {bound operand x}, motive bound operand x →
      motive bound (.unary .not operand) (.unary .not x))
    (negate : ∀ {bound operand x}, motive bound operand x →
      motive bound (.unary .negate operand) (.binary .subtract (.constant (.int 0)) x))
    (binary : ∀ {bound op text left right a b x}, motive bound left a → motive bound right b →
      binaryExpression op text a b = .ok x → motive bound (.binary op left right) x)
    (plainCall : ∀ {bound object method input x}, motive bound object input →
      callPlain (.call object method []) method input = .ok x →
      motive bound (.call object method []) x)
    (bindingCall : ∀ {bound object method arg input body x}, bindsElement method = true →
      motive bound object input → motive true arg body → callBinding method input body = .ok x →
      motive bound (.call object method [arg]) x)
    (application : ∀ {bound object method arg input x apply}, bindsElement method = false →
      methodApplication? method = some apply → motive bound object input → motive bound arg x →
      motive bound (.call object method [arg]) (apply input x))
    (document : ∀ {bound fields values x},
      List.Forall₂ (fun field value => motive bound field.2 value.2) fields values →
      Expression.document? values = .ok x → motive bound (.object fields) x)
    (array : ∀ {bound elements items}, List.Forall₂ (motive bound) elements items →
      motive bound (.array elements) (.array items))
    (bound : Bool) (e : Expr) : Gives (lowerValue context bound e) (motive bound e) := by
  refine lowerValue.induct
    (fun bound e => Gives (lowerValue context bound e) (motive bound e))
    (fun bound es => Gives (lowerValues context bound es) (List.Forall₂ (motive bound) es))
    (fun bound fields => Gives (lowerFields context bound fields)
      (List.Forall₂ (fun field value => motive bound field.2 value.2) fields))
    ?root ?element ?access ?not ?negate ?binary ?plainCall ?call ?otherCall ?object ?array ?filter
    ?key ?other ?nil ?cons ?noFields ?fields bound e
  case root =>
    intro bound
    rw [lowerValue]
    exact gives_constantOr (fun _ => constant) (.ok root)
  case element =>
    intro bound
    rw [lowerValue]
    refine gives_constantOr (fun _ => constant) ?_
    cases bound with
    | true => exact .ok element
    | false => exact gives_refuse _ _
  case access =>
    intro bound object key ih
    rw [lowerValue]
    refine gives_constantOr (fun _ => constant) (ih.bind fun input hinput x hx => ?_)
    obtain ⟨value, hvalue, hx⟩ := bind_eq_ok_iff.mp hx
    exact access hinput hvalue hx
  case not =>
    intro bound operand ih
    rw [lowerValue]
    exact gives_constantOr (fun _ => constant) (ih.bind fun x hx => .ok (not hx))
  case negate =>
    intro bound operand ih
    rw [lowerValue]
    exact gives_constantOr (fun _ => constant) (ih.bind fun x hx => .ok (negate hx))
  case binary =>
    intro bound op left right ihleft ihright
    -- whether a sum joins texts is found out first, and changes nothing for the operands
    have hoperands (text : Bool) :
        Gives (lowerValue context bound left >>= fun a => lowerValue context bound right >>= fun b =>
          liftArgument (binaryExpression op text a b)) (motive bound (.binary op left right)) :=
      ihleft.bind fun a ha => ihright.bind fun b hb => gives_liftArgument fun x => binary ha hb
    rw [lowerValue]
    refine gives_constantOr (fun _ => constant) ?_
    dsimp only
    split
    · exact Gives.bind_any hoperands
    · exact hoperands false
  case plainCall =>
    intro bound object method ih
    rw [lowerValue]
    exact gives_constantOr (fun _ => constant) (ih.bind fun input hinput x => plainCall hinput)
  case call =>
    intro bound object method arg ihobject ihbound ih
    rw [lowerValue]
    refine gives_constantOr (fun _ => constant) (ihobject.bind fun input hinput => ?_)
    split
    · -- the argument is lowered with the element known, whether or not the call knows it
      next hbinds =>
      exact ihbound.bind fun body hbody => gives_liftArgument fun x =>
        bindingCall hbinds hinput hbody
    · next hbinds =>
      split
      · next happly =>
        exact ih.bind fun x hx => .ok (application (Bool.eq_false_iff.mpr hbinds) happly hinput hx)
      · exact gives_refuse _ _
  case otherCall =>
    intro bound object method args hnil hsingle ih
    rw [lowerValue]
    · exact gives_constantOr (fun _ => constant) (Gives.bind_any fun _ => gives_refuse _ _)
    · exact hnil
    · exact hsingle
  case object =>
    intro bound fields ih
    rw [lowerValue]
    exact gives_constantOr (fun _ => constant)
      (ih.bind fun values hvalues => gives_liftArgument fun x => document hvalues)
  case array =>
    intro bound elements ih
    rw [lowerValue]
    exact gives_constantOr (fun _ => constant) (ih.bind fun items hitems => .ok (array hitems))
  case filter =>
    intro bound condition
    rw [lowerValue]
    exact gives_constantOr (fun _ => constant) (gives_refuse _ _)
  case key =>
    intro bound name
    rw [lowerValue]
    exact gives_constantOr (fun _ => constant) (gives_refuse _ _)
  case other =>
    intros
    rw [lowerValue]
    · exact gives_constantOr (fun _ => constant) (gives_refuse _ _)
    all_goals assumption
  case nil =>
    intro bound
    exact .ok .nil
  case cons =>
    intro bound e es ihe ihes
    exact ihe.bind fun x hx => ihes.bind fun xs hxs => .ok (.cons hx hxs)
  case noFields =>
    intro bound
    exact .ok .nil
  case fields =>
    intro bound name e fields ihe ihfields
    exact ihe.bind fun x hx => ihfields.bind fun xs hxs => .ok (.cons hx hxs)

/-! ### Properties that expressions hand on -/

/-- The expressions that lowering builds have the property if their parts do.  The flag says whether
the array element at hand is known, as it is in what is computed for each element. -/
structure HandedOn (p : Bool → Expression → Prop) : Prop where
  constant (bound : Bool) (value : Value) : p bound (.constant value)
  root (bound : Bool) : p bound .root
  element : p true .this
  field? (bound : Bool) (path : String) : Gives (Expression.field? path) (p bound)
  variableField? {bound : Bool} {name : String} (path : String) (h : p bound (.var name)) :
    Gives (Expression.variableField? name path) (p bound)
  /-- A field of a path in a variable is a path in the same variable. -/
  longerField? {bound : Bool} {name path : String} (longer : String)
    (h : p bound (.field (some name) path)) :
    Gives (Expression.variableField? name longer) (p bound)
  getField? {bound : Bool} {input : Expression} (name : String) (h : p bound input) :
    Gives (Expression.getField? name input) (p bound)
  unary {bound : Bool} {arg : Expression} (function : UnaryFunction) (h : p bound arg) :
    p bound (.unary function arg)
  binary {bound : Bool} {left right : Expression} (function : BinaryFunction)
    (hleft : p bound left) (hright : p bound right) : p bound (.binary function left right)
  variadic? {bound : Bool} {args : List Expression} (function : VariadicFunction)
    (h : ∀ e ∈ args, p bound e) : Gives (Expression.variadic? function args) (p bound)
  document? {bound : Bool} {fields : List (String × Expression)}
    (h : ∀ field ∈ fields, p bound field.2) : Gives (Expression.document? fields) (p bound)
  array {bound : Bool} {items : List Expression} (h : ∀ e ∈ items, p bound e) :
    p bound (.array items)
  filter? {bound : Bool} {input condition : Expression} (hinput : p bound input)
    (hcondition : p true condition) :
    Gives (Expression.filter? input elementName condition) (p bound)
  map? {bound : Bool} {input body : Expression} (hinput : p bound input) (hbody : p true body) :
    Gives (Expression.map? input elementName body) (p bound)

namespace HandedOn

variable {p : Bool → Expression → Prop} {bound : Bool} {input left right : Expression}

theorem fieldOf (hp : HandedOn p) (h : p bound input) (name : String) :
    Gives (fieldOf input name) (p bound) := by
  unfold DocQuery.fieldOf
  split
  · split
    · exact hp.field? bound name
    · exact hp.variableField? name h
    · exact hp.field? bound _
    · exact hp.longerField? _ h
    · exact hp.getField? name h
  · exact hp.getField? name h

theorem accessBy (hp : HandedOn p) (whole : Expr) (h : p bound input) (key : Value) :
    Gives (accessBy whole input key) (p bound) := by
  unfold DocQuery.accessBy
  split
  · exact gives_liftArgument (hp.fieldOf h _)
  · exact .ok (hp.binary _ h (hp.constant bound _))
  · exact gives_refuse _ _
  · exact gives_refuse _ _

theorem binaryExpression (hp : HandedOn p) (op : BinaryOperator) (text : Bool)
    (hleft : p bound left) (hright : p bound right) :
    Gives (binaryExpression op text left right) (p bound) := by
  have hargs : ∀ e ∈ [left, right], p bound e :=
    List.forall_mem_cons.mpr ⟨hleft, List.forall_mem_singleton.mpr hright⟩
  cases op with
  | add => exact hp.variadic? _ hargs
  | multiply => exact hp.variadic? _ hargs
  | bitAnd => exact hp.variadic? _ hargs
  | bitOr => exact hp.variadic? _ hargs
  | and => exact hp.variadic? _ hargs
  | or => exact hp.variadic? _ hargs
  | _ => exact .ok (hp.binary _ hleft hright)

theorem callPlain (hp : HandedOn p) (whole : Expr) (method : String) (h : p bound input) :
    Gives (callPlain whole method input) (p bound) := by
  unfold DocQuery.callPlain
  split
  · exact .ok (hp.unary _ h)
  · split
    · exact .ok (hp.binary _ (hp.unary _ h) (hp.constant bound _))
    · exact gives_refuse _ _

theorem callBinding (hp : HandedOn p) (method : String) {body : Expression}
    (hinput : p bound input) (hbody : p true body) :
    Gives (callBinding method input body) (p bound) := by
  unfold DocQuery.callBinding
  split
  · exact hp.filter? hinput hbody
  · exact (hp.map? hinput hbody).bind fun e he => .ok (hp.unary _ he)
  · exact (hp.map? hinput hbody).bind fun e he => .ok (hp.unary _ he)
  · exact hp.map? hinput hbody

theorem methodApplication? (hp : HandedOn p) {method : String}
    {apply : Expression → Expression → Expression} (h : methodApplication? method = some apply)
    (hleft : p bound left) (hright : p bound right) : p bound (apply left right) := by
  unfold DocQuery.methodApplication? at h
  split at h
  · cases h
    exact hp.binary _ hright hleft
  · cases h
    exact hp.binary _ hleft hright
  · cases h
    exact hp.binary _ hleft hright
  · cases h

/-- The expression of a value has what is handed on. -/
theorem lowerValue (hp : HandedOn p) (context : Context) (bound : Bool) (e : Expr) :
    Gives (lowerValue context bound e) (p bound) := by
  refine gives_lowerValue (motive := fun bound _ x => p bound x)
    ?constant ?root ?element ?access ?not ?negate ?binary ?plainCall ?bindingCall ?application
    ?document ?array bound e
  case constant => exact fun _ => hp.constant _ _
  case root => exact hp.root _
  case element => exact hp.element
  case access => exact fun hobject _ => hp.accessBy _ hobject _ _
  case not => exact fun h => hp.unary _ h
  case negate => exact fun h => hp.binary _ (hp.constant _ _) h
  case binary => exact fun hleft hright => hp.binaryExpression _ _ hleft hright _
  case plainCall => exact fun hobject => hp.callPlain _ _ hobject _
  case bindingCall => exact fun _ hobject harg => hp.callBinding _ hobject harg _
  case application => exact fun _ happly => hp.methodApplication? happly
  case document =>
    exact fun hfields => hp.document? (forall_mem_of_forall₂ hfields fun _ _ h => h) _
  case array => exact fun hitems => hp.array (forall_mem_of_forall₂ hitems fun _ _ h => h)

/-! The values in statements are lowered where no element is known. -/

theorem assignedValue (hp : HandedOn p) (path : String) (value : Expr) :
    Gives (assignedValue context path value) (p false) := by
  unfold DocQuery.assignedValue
  split
  · refine (hp.lowerValue context true _).bind fun condition hcondition => ?_
    exact (gives_liftArgument (hp.field? false path)).bind fun input hinput =>
      gives_liftArgument (hp.filter? hinput hcondition)
  · split
    · refine (hp.lowerValue context true _).bind fun body hbody => ?_
      exact (gives_liftArgument (hp.field? false path)).bind fun input hinput =>
        gives_liftArgument (hp.map? hinput hbody)
    · exact hp.lowerValue context false _

/-- The path of an assignment has passed its check. -/
theorem assignment (hp : HandedOn p) (target value : Expr) :
    Gives (assignment context target value) fun field =>
      (Stage.computedField? field.1 field.2).isOk = true ∧ p false field.2 := by
  refine Gives.bind_any fun path => (hp.assignedValue path value).bind fun x hx => ?_
  refine gives_liftArgument fun field hfield => ?_
  obtain ⟨_, hcheck, h⟩ := bind_eq_ok_iff.mp hfield
  cases h
  exact ⟨by rw [hfield, isOk_ok], hx⟩

theorem projectionEntry (hp : HandedOn p) (key : String) (value : Expr) :
    Gives (projectionEntry context key value) fun entry => ∀ e ∈ entry.expressions, p false e := by
  unfold DocQuery.projectionEntry
  split
  · exact .ok (List.forall_mem_nil _)
  · exact (hp.lowerValue context false value).bind fun x hx => .ok (List.forall_mem_singleton.mpr hx)

theorem projectionEntries (hp : HandedOn p) (fields : List (String × Expr)) :
    Gives (projectionEntries context fields) fun entries =>
      ∀ entry ∈ entries, ∀ e ∈ entry.expressions, p false e := by
  refine (Gives.mapM fun field _ => hp.projectionEntry field.1 field.2).bind
    fun entries hentries => ?_
  split
  · exact .ok hentries
  · exact .ok (List.forall_mem_cons.mpr ⟨List.forall_mem_nil _, hentries⟩)

theorem accumulator (hp : HandedOn p) (e : Expr) :
    Gives (accumulator context e) (p false ·.arg) := by
  unfold DocQuery.accumulator
  split
  · split
    · exact .ok (hp.constant false _)
    · split
      · exact (hp.lowerValue context false _).bind fun x hx => .ok hx
      · exact gives_refuse _ _
  · exact gives_refuse _ _
  · exact gives_refuse _ _

/-- What is collected keeps its name. -/
theorem namedAccumulator (hp : HandedOn p) (a : String × Expr) :
    Gives (do return (a.1, ← DocQuery.accumulator context a.2)) (p false ·.2.arg) :=
  (hp.accumulator a.2).bind fun _ hx => .ok hx

end HandedOn

/-! ### Conditions -/

/-- A property of conditions and what they are lowered to holds if tests and computed conditions have
it and each form hands it on from its parts. -/
theorem gives_lowerCondition {motive : Scope → Expr → Filter → Prop}
    (plain : ∀ {scope e f}, e.isResolved context scope.isBound = true → f.IsPlain →
      motive scope e f)
    (computed : ∀ {e x}, lowerValue context false e = .ok x → motive .document e (.expr x))
    (and : ∀ {scope left right f g result}, motive scope left f → motive scope right g →
      Filter.and? (conjuncts left f ++ conjuncts right g) = .ok result →
      motive scope (.binary .and left right) result)
    (or : ∀ {scope left right f g result}, motive scope left f → motive scope right g →
      Filter.or? (disjuncts left f ++ disjuncts right g) = .ok result →
      motive scope (.binary .or left right) result)
    (not : ∀ {scope operand f}, motive scope operand f →
      motive scope (.unary .not operand) (.not f))
    (elemMatch : ∀ {scope object condition target f}, resolveField scope object = some target →
      motive .element condition f →
      motive scope (.call object "any" [condition]) (.field target (.elemMatch f)))
    (scope : Scope) (e : Expr) : Gives (lowerCondition context scope e) (motive scope e) := by
  have htest {scope : Scope} {e : Expr} {f : Filter} (h : LowersTest context scope e f) :
      motive scope e f := by
    cases h with
    | plain he hf => exact plain he hf
    | computed hx => exact computed hx
  fun_induction lowerCondition context scope e with
  | case1 scope left right ihleft ihright =>
    exact ihleft.bind fun f hf => ihright.bind fun g hg => gives_liftArgument fun x => and hf hg
  | case2 scope left right ihleft ihright =>
    exact ihleft.bind fun f hf => ihright.bind fun g hg => gives_liftArgument fun x => or hf hg
  | case3 scope operand ih => exact ih.bind fun f hf => .ok (not hf)
  | case4 scope object args => exact (lowersTest_computedTest _).imp fun _ => htest
  | case5 scope object condition ih =>
    intro f h
    obtain ⟨target, htarget, h⟩ := bind_eq_ok_iff.mp h
    exact (ih.bind fun g hg => .ok (elemMatch (requireField_eq_ok htarget) hg)) f h
  | case6 scope object method args =>
    intro f h
    obtain ⟨target, htarget, h⟩ := bind_eq_ok_iff.mp h
    exact htest (lowersTest_methodTest (requireField_eq_ok htarget) method args f h)
  | case7 scope op left right =>
    exact (lowersTest_comparisonTest op left right).imp fun _ => htest
  | case8 scope op left right => exact gives_refuse _ _
  | case9 scope e _ _ _ _ _ _ _ target htarget =>
    exact .ok (plain (Expr.isResolved_of_resolveField htarget)
      (Filter.isPlain_field (isDotted_of_resolveField htarget) ⟨rfl, rfl⟩))
  | case10 scope e => exact gives_refuse _ _

/-! ### Properties that filters hand on -/

/-- The filters that lowering builds have the property if their parts do, and if what they compute
has another one. -/
structure HandedOnByFilters (computed : Expression → Prop) (p : Filter → Prop) : Prop where
  plain {f : Filter} (h : f.IsPlain) : p f
  expr {e : Expression} (h : computed e) : p (.expr e)
  and? {args : List Filter} (h : ∀ f ∈ args, p f) : Gives (Filter.and? args) p
  or? {args : List Filter} (h : ∀ f ∈ args, p f) : Gives (Filter.or? args) p
  /-- The operands of a conjunction are taken over by another one. -/
  of_and {args : List Filter} (h : p (.and args)) : ∀ f ∈ args, p f
  of_or {args : List Filter} (h : p (.or args)) : ∀ f ∈ args, p f
  not {f : Filter} (h : p f) : p (.not f)
  elemMatch {target : Target} {f : Filter} (htarget : target.IsDotted) (h : p f) :
    p (.field target (.elemMatch f))

namespace HandedOnByFilters

variable {computed : Expression → Prop} {p : Filter → Prop} {f : Filter}

theorem conjuncts (hp : HandedOnByFilters computed p) (h : p f) (e : Expr) :
    ∀ g ∈ conjuncts e f, p g := by
  unfold DocQuery.conjuncts
  split
  · exact hp.of_and h
  · exact List.forall_mem_singleton.mpr h

theorem disjuncts (hp : HandedOnByFilters computed p) (h : p f) (e : Expr) :
    ∀ g ∈ disjuncts e f, p g := by
  unfold DocQuery.disjuncts
  split
  · exact hp.of_or h
  · exact List.forall_mem_singleton.mpr h

/-- The filter of a condition has what is handed on. -/
theorem lowerCondition (hp : HandedOnByFilters computed p)
    (hcomputed : ∀ e, Gives (lowerValue context false e) computed) (scope : Scope) (e : Expr) :
    Gives (lowerCondition context scope e) p := by
  refine gives_lowerCondition (motive := fun _ _ f => p f)
    ?plain ?computed ?and ?or ?not ?elemMatch scope e
  case plain => exact fun _ hf => hp.plain hf
  case computed => exact fun hx => hp.expr (hcomputed _ _ hx)
  case and =>
    intro _ left right _ _ f hleft hright
    exact hp.and? (List.forall_mem_append.mpr
      ⟨hp.conjuncts hleft left, hp.conjuncts hright right⟩) f
  case or =>
    intro _ left right _ _ f hleft hright
    exact hp.or? (List.forall_mem_append.mpr
      ⟨hp.disjuncts hleft left, hp.disjuncts hright right⟩) f
  case not => exact fun h => hp.not h
  case elemMatch =>
    exact fun htarget hf => hp.elemMatch (isDotted_of_resolveField htarget) hf

end HandedOnByFilters

end DocQuery
