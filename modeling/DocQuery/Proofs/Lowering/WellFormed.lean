import DocQuery.Lowering.Statement
import DocQuery.Proofs.Lowering.Induction

/-!
# Lowering yields well-formed trees

Most nodes of a lowered query are built by the functions that check them.  The others are paths of
chains, which are made of segments, the two variables for the document and for the element, and
nodes that need no check.

## Main results

* `wellFormed_lowerValue`, `wellFormed_lowerCondition` — the expression of a value and the filter of
  a condition.
* `wellFormed_lowerStatement`, `wellFormed_lowerQuery` — the stages and the pipeline of a query.
-/

namespace DocQuery

/-! ### Values and conditions -/

theorem Expression.wellFormed_binary (function : BinaryFunction) {left right : Expression}
    (hleft : left.wellFormed = true) (hright : right.wellFormed = true) :
    (binary function left right).wellFormed = true := by
  rw [wellFormed, hleft, hright, Bool.and_self]

/-- Nodes are well formed if their parts are, whether or not the element is known. -/
theorem handedOn_wellFormed : HandedOn fun _ e => e.wellFormed = true where
  constant _ _ := rfl
  -- the two variables are names, which is all that is asked of them
  root := by decide
  element := by decide
  field? _ := Expression.wellFormed_field?
  variableField? path _ := Expression.wellFormed_variableField? _ path
  longerField? path _ := Expression.wellFormed_variableField? _ path
  getField? := Expression.wellFormed_getField?
  unary _ h := h
  binary function := Expression.wellFormed_binary function
  variadic? function := Expression.wellFormed_variadic? function
  document? := Expression.wellFormed_document?
  array := (Expression.wellFormed_array _).mpr
  filter? := Expression.wellFormed_filter? _
  map? := Expression.wellFormed_map? _

theorem handedOnByFilters_wellFormed :
    HandedOnByFilters (·.wellFormed = true) (·.wellFormed = true) where
  plain h := h.wellFormed
  expr h := h
  and? := Filter.wellFormed_and?
  or? := Filter.wellFormed_or?
  of_and h := ((Filter.wellFormed_and _).mp h).2
  of_or h := ((Filter.wellFormed_or _).mp h).2
  not h := h
  elemMatch htarget h := (Filter.wellFormed_field _ _).mpr ⟨htarget.wellFormed, h⟩

/-- The expression of a value is well formed. -/
theorem wellFormed_lowerValue (context : Context) (bound : Bool) (e : Expr) :
    Gives (lowerValue context bound e) (·.wellFormed = true) :=
  handedOn_wellFormed.lowerValue context bound e

/-- The filter of a condition is well formed. -/
theorem wellFormed_lowerCondition (context : Context) (scope : Scope) (e : Expr) :
    Gives (lowerCondition context scope e) (·.wellFormed = true) :=
  handedOnByFilters_wellFormed.lowerCondition (wellFormed_lowerValue context false) scope e

/-! ### Statements -/

theorem Projection.wellFormed_of_expressions {entry : Projection}
    (h : ∀ e ∈ entry.expressions, e.wellFormed = true) : entry.wellFormed = true := by
  cases entry with
  | compute path value => exact h value (List.mem_singleton_self value)
  | _ => rfl

theorem wellFormed_projectionEntries (context : Context) (fields : List (String × Expr)) :
    Gives (projectionEntries context fields) fun entries =>
      ∀ entry ∈ entries, entry.wellFormed = true :=
  (handedOn_wellFormed.projectionEntries fields).imp fun _ hentries entry hentry =>
    Projection.wellFormed_of_expressions (hentries entry hentry)

theorem wellFormed_sortKey (key : Expr) (direction : Direction) :
    Gives (sortKey key direction) fun k => (SortKey.ofPath? k.path k.direction).isOk = true := by
  refine Gives.bind_any fun path => gives_liftArgument fun k hk => ?_
  obtain ⟨_, hcheck, h⟩ := bind_eq_ok_iff.mp hk
  cases h
  rw [hk, isOk_ok]

/-- The stage of a statement is well formed. -/
theorem wellFormed_lowerStatement (context : Context) (statement : Statement) :
    Gives (lowerStatement context statement) (·.wellFormed = true) := by
  have hvalue (e : Expr) : Gives (lowerValue context false e) (·.wellFormed = true) :=
    wellFormed_lowerValue context false e
  unfold lowerStatement
  split
  · exact (wellFormed_lowerCondition context .document _).bind fun f hf => .ok hf
  · refine (Gives.mapM fun a _ => handedOn_wellFormed.assignment a.1 a.2).bind
      fun fields hfields => ?_
    exact gives_liftArgument (Stage.wellFormed_addFields? hfields)
  · refine (wellFormed_projectionEntries context _).bind fun entries hentries => ?_
    exact gives_liftArgument (Stage.wellFormed_project? hentries)
  · exact (hvalue _).bind fun x hx => .ok hx
  · refine (Gives.mapM fun key _ => wellFormed_sortKey key.1 key.2).bind fun keys hkeys => ?_
    exact gives_liftArgument (Stage.wellFormed_sort? hkeys)
  · exact gives_liftArgument (Stage.wellFormed_skip? _)
  · exact gives_liftArgument (Stage.wellFormed_limit? _)
  · exact Gives.bind_any fun path => gives_liftArgument (Stage.wellFormed_unwind? _ _)
  · exact gives_liftArgument (Stage.wellFormed_count? _)
  · refine (hvalue _).bind fun key hkey => ?_
    refine (Gives.mapM fun a _ => handedOn_wellFormed.namedAccumulator a).bind
      fun accumulators haccumulators => ?_
    exact gives_liftArgument (Stage.wellFormed_group? hkey haccumulators)

/-- The pipeline of a query is well formed. -/
theorem wellFormed_lowerQuery (context : Context) (query : Query) :
    Gives (lowerQuery context query) (·.wellFormed = true) :=
  (Gives.mapM fun statement _ => wellFormed_lowerStatement context statement).bind
    fun _ hstages => .ok (List.all_eq_true.mpr hstages)

end DocQuery
