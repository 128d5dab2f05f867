import DocQuery.Lowering.Statement
import DocQuery.Proofs.Lowering.Induction

/-!
# Lowering binds what it refers to

An element at hand is lowered to a variable only where the array elements are known by its name: in
the argument of a method that is evaluated for each element, and in a value that is assigned element
by element.  A condition on an array element is never computed as a value, so what a filter computes
is about a document.

## Main definitions

* `scopeNames` — the names that have values where the element at hand is known, or is not.

## Main results

* `scoped_lowerValue` — the expression of a value is scoped.
* `scoped_lowerCondition` — so is the filter of a condition, on a document or on an element.
* `scoped_lowerStatement`, `scoped_lowerQuery` — so are the stages and the pipeline of a query.
-/

namespace DocQuery

/-- The names that have values, depending on whether the array element at hand is known. -/
def scopeNames (bound : Bool) : List String :=
  if bound then elementName :: documentNames else documentNames

theorem documentNames_subset_scopeNames (bound : Bool) : documentNames ⊆ scopeNames bound := by
  cases bound with
  | false => exact List.Subset.refl _
  | true => exact List.subset_cons_self _ _

/-- Where each element is given its name, no more than that name and the document are known. -/
theorem scopeNames_true_subset (bound : Bool) :
    scopeNames true ⊆ elementName :: scopeNames bound :=
  List.cons_subset_cons _ (documentNames_subset_scopeNames bound)

/-! ### Checked nodes -/

namespace Expression

variable {names : List String} {input : Expression}

theorem scoped_field? (path : String) : Gives (field? path) (Scoped names) :=
  Gives.bind_any fun _ => .ok (.documentField path)

theorem scoped_variableField? {name : String} (hname : name ∈ names) (path : String) :
    Gives (variableField? name path) (Scoped names) :=
  Gives.bind_any fun _ => Gives.bind_any fun _ => .ok (.variableField path hname)

theorem scoped_getField? (name : String) (h : input.Scoped names) :
    Gives (getField? name input) (Scoped names) :=
  Gives.bind_any fun _ => Gives.bind_any fun _ => .ok (.getField name h)

theorem scoped_variadic? (function : VariadicFunction) {args : List Expression}
    (h : ∀ e ∈ args, e.Scoped names) : Gives (variadic? function args) (Scoped names) :=
  Gives.bind_any fun _ => .ok (.variadic function h)

theorem scoped_document? {fields : List (String × Expression)}
    (h : ∀ field ∈ fields, field.2.Scoped names) : Gives (document? fields) (Scoped names) :=
  Gives.bind_any fun _ => .ok (.document h)

theorem scoped_filter? {name : String} {condition : Expression} (hinput : input.Scoped names)
    (hcondition : condition.Scoped (name :: names)) :
    Gives (filter? input name condition) (Scoped names) :=
  Gives.bind_any fun _ => .ok (.filter hinput hcondition)

theorem scoped_map? {name : String} {body : Expression} (hinput : input.Scoped names)
    (hbody : body.Scoped (name :: names)) : Gives (map? input name body) (Scoped names) :=
  Gives.bind_any fun _ => .ok (.map hinput hbody)

end Expression

theorem scoped_and? {fs : List Filter} (h : ∀ f ∈ fs, f.Scoped) :
    Gives (Filter.and? fs) Filter.Scoped :=
  Gives.bind_any fun _ => .ok ((Filter.scoped_and fs).mpr h)

theorem scoped_or? {fs : List Filter} (h : ∀ f ∈ fs, f.Scoped) :
    Gives (Filter.or? fs) Filter.Scoped :=
  Gives.bind_any fun _ => .ok ((Filter.scoped_or fs).mpr h)

/-! ### Values and conditions -/

/-- Nodes refer to the document, and to the element at hand where that is known. -/
theorem handedOn_scoped : HandedOn fun bound e => e.Scoped (scopeNames bound) where
  constant _ _ := .constant _
  root bound := .var (documentNames_subset_scopeNames bound List.mem_cons_self)
  element := .var List.mem_cons_self
  field? _ := Expression.scoped_field?
  variableField? path h := by
    cases h with
    | var hmem => exact Expression.scoped_variableField? hmem path
  longerField? path h := by
    cases h with
    | variableField _ hmem => exact Expression.scoped_variableField? hmem path
  getField? := Expression.scoped_getField?
  unary := .unary
  binary := .binary
  variadic? function := Expression.scoped_variadic? function
  document? := Expression.scoped_document?
  array := .array
  -- what is computed for each element knows it even if the input does not
  filter? hinput hcondition :=
    Expression.scoped_filter? hinput (hcondition.mono (scopeNames_true_subset _))
  map? hinput hbody := Expression.scoped_map? hinput (hbody.mono (scopeNames_true_subset _))

theorem handedOnByFilters_scoped :
    HandedOnByFilters (·.Scoped documentNames) Filter.Scoped where
  plain hf x hx := by
    rw [hf.expressions] at hx
    cases hx
  expr h := (Filter.scoped_expr _).mpr h
  and? := scoped_and?
  or? := scoped_or?
  of_and h := (Filter.scoped_and _).mp h
  of_or h := (Filter.scoped_or _).mp h
  not h := h
  elemMatch _ h := h

/-- The expression of a value refers to the document, and to the element at hand where that is
known. -/
theorem scoped_lowerValue (context : Context) (bound : Bool) (e : Expr) :
    Gives (lowerValue context bound e) (·.Scoped (scopeNames bound)) :=
  handedOn_scoped.lowerValue context bound e

/-- The filter of a condition computes only what is about the document. -/
theorem scoped_lowerCondition (context : Context) (scope : Scope) (e : Expr) :
    Gives (lowerCondition context scope e) Filter.Scoped :=
  handedOnByFilters_scoped.lowerCondition (scoped_lowerValue context false) scope e

/-! ### Statements -/

theorem scoped_skip? (n : Int64) : Gives (Stage.skip? n) Stage.Scoped :=
  Gives.bind_any fun _ => .ok (Stage.scoped_of_expressions_eq_nil rfl)

theorem scoped_limit? (n : Int64) : Gives (Stage.limit? n) Stage.Scoped :=
  Gives.bind_any fun _ => .ok (Stage.scoped_of_expressions_eq_nil rfl)

/-- The stage of a statement computes nothing but what is about the documents. -/
theorem scoped_lowerStatement (context : Context) (statement : Statement) :
    Gives (lowerStatement context statement) Stage.Scoped := by
  have hvalue (e : Expr) : Gives (lowerValue context false e) (·.Scoped documentNames) :=
    scoped_lowerValue context false e
  unfold lowerStatement
  split
  · exact (scoped_lowerCondition context .document _).bind fun f hf => .ok hf
  · refine (Gives.mapM fun a _ => handedOn_scoped.assignment a.1 a.2).bind fun fields hfields => ?_
    exact gives_liftArgument (Gives.bind_any fun _ => Gives.bind_any fun _ =>
      .ok ((Stage.scoped_addFields fields).mpr fun field hfield => (hfields field hfield).2))
  · refine (handedOn_scoped.projectionEntries _).bind fun entries hentries => ?_
    exact gives_liftArgument (Gives.bind_any fun _ =>
      .ok ((Stage.scoped_project entries).mpr hentries))
  · exact (hvalue _).bind fun x hx => .ok ((Stage.scoped_replaceRoot x).mpr hx)
  · exact Gives.bind_any fun keys => gives_liftArgument
      (Gives.bind_any fun _ => Gives.bind_any fun _ => .ok (Stage.scoped_of_expressions_eq_nil rfl))
  · exact gives_liftArgument (scoped_skip? _)
  · exact gives_liftArgument (scoped_limit? _)
  · exact Gives.bind_any fun path =>
      gives_liftArgument (Gives.bind_any fun _ => .ok (Stage.scoped_of_expressions_eq_nil rfl))
  · exact gives_liftArgument (Gives.bind_any fun _ => Gives.bind_any fun _ =>
      Gives.bind_any fun _ => .ok (Stage.scoped_of_expressions_eq_nil rfl))
  · refine (hvalue _).bind fun key hkey => ?_
    refine (Gives.mapM fun a _ => handedOn_scoped.namedAccumulator a).bind
      fun accumulators haccumulators => ?_
    exact gives_liftArgument (Gives.bind_any fun _ =>
      .ok ((Stage.scoped_group key accumulators).mpr ⟨hkey, haccumulators⟩))

theorem scoped_lowerQuery (context : Context) (query : Query) :
    Gives (lowerQuery context query) Pipeline.Scoped :=
  (Gives.mapM fun statement _ => scoped_lowerStatement context statement).bind
    fun stages hstages => .ok ((Pipeline.scoped_iff ⟨stages⟩).mpr hstages)

end DocQuery
