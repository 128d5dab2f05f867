import DocQuery.Lowering.Statement
import DocQuery.Proofs.Lowering.Induction

/-!
# Lowering leaves no name unknown

What is lowered as a whole is lowered in all its parts: each parameter and each named constant of a
query has a value, and the array element at hand is referred to only where it is known.  One place is
passed over.  An accumulator that counts documents is recognised by its method alone, and whatever
it is called on is dropped unseen.

## Main definitions

* `Statement.Resolved`, `Query.Resolved` — every name in a statement or a query is known.
* `Expr.isTally` — an accumulator that counts documents.

## Main results

* `isResolved_lowerValue`, `isResolved_lowerCondition` — values and conditions that are lowered.
* `Query.resolved_of_lowerQuery` — **every name in a query that is lowered is known, except in what
  documents are counted of.**
-/

namespace DocQuery

/-! ### Queries in which every name is known -/

/-- The expression has a value for each element of the array at a path. -/
def Expression.mapsOver (path : String) : Expression → Bool
  | .map (.field none p) name _ => p = path && name = elementName
  | _ => false

/-- Every name in a value that is assigned to a path is known.  The array element at hand is known in
a condition on elements, and in a value that has become one for each element at the path. -/
def Expr.isResolvedAt (context : Context) (path : String) (assigned : Expression) : Expr → Bool
  | .filter condition => condition.isResolved context true
  | value => value.isResolved context (assigned.mapsOver path)

/-- Every name in a statement, and in what the stage made of it is assigned from, is known.  Of the
accumulators those that are exempt are not looked at. -/
def Statement.Resolved (context : Context) (exempt : Expr → Bool) : Statement → Stage → Prop
  | .filter condition, _ => condition.isResolved context false = true
  | .transform assignments, stage =>
    ∃ fields, stage = .addFields fields ∧
      List.Forall₂ (fun assignment field => assignment.1.isResolved context false = true ∧
        assignment.2.isResolvedAt context field.1 field.2 = true) assignments fields
  | .output value, _ => value.isResolved context false = true
  | .sort keys, _ => ∀ key ∈ keys, key.1.isResolved context false = true
  | .skip _, _ => True
  | .limit _, _ => True
  | .unwind path _, _ => path.isResolved context false = true
  | .count _, _ => True
  | .group key accumulators, _ =>
    key.isResolved context false = true ∧
      ∀ a ∈ accumulators, exempt a.2 = true ∨ a.2.isResolved context false = true

/-- Every name in a query that has become a pipeline is known, except in accumulators that are
exempt. -/
def Query.Resolved (context : Context) (exempt : Expr → Bool) (query : Query) (p : Pipeline) :
    Prop :=
  List.Forall₂ (·.Resolved context exempt ·) query.statements p.stages

/-- The accumulator is the number of documents, whatever it is called on. -/
def Expr.isTally : Expr → Bool
  | .call _ method [] => method = "count"
  | _ => false

/-! ### Values -/

section Values

variable {context : Context} {bound : Bool}

theorem isResolved_of_accessKeyValue {whole key : Expr} {value : Value}
    (h : accessKeyValue context whole key = .ok value) : key.isResolved context bound = true := by
  unfold accessKeyValue at h
  split at h
  · rfl
  · obtain ⟨found, hfound, h⟩ := bind_eq_ok_iff.mp h
    cases found with
    | none => cases h
    | some value => exact Expr.isResolved_of_fold hfound

/-- Every name in a value that is lowered is known. -/
theorem isResolved_lowerValue (context : Context) (bound : Bool) (e : Expr) :
    Gives (lowerValue context bound e) fun _ => e.isResolved context bound = true := by
  refine gives_lowerValue (motive := fun bound e _ => e.isResolved context bound = true)
    ?constant ?root ?element ?access ?not ?negate ?binary ?plainCall ?bindingCall ?application
    ?document ?array bound e
  case constant => exact Expr.isResolved_of_fold
  case root => exact rfl
  case element => exact rfl
  case access =>
    intro bound object key _ _ _ hobject hkey _
    rw [Expr.isResolved, hobject, isResolved_of_accessKeyValue hkey, Bool.and_self]
  case not =>
    intro _ _ _ h
    rwa [Expr.isResolved]
  case negate =>
    intro _ _ _ h
    rwa [Expr.isResolved]
  case binary =>
    intro _ _ _ _ _ _ _ _ hleft hright _
    rw [Expr.isResolved, hleft, hright, Bool.and_self]
  case plainCall =>
    intro _ _ _ _ _ hobject _
    rw [Expr.isResolved, hobject, Expr.allResolved, Bool.and_self]
  case bindingCall =>
    intro _ _ _ _ _ _ _ hbinds hobject harg _
    rw [Expr.isResolved, hobject, hbinds, Bool.or_true,
      Expr.allResolved_iff.mpr (List.forall_mem_singleton.mpr harg), Bool.and_self]
  case application =>
    intro _ _ _ _ _ _ _ hbinds _ hobject harg
    rw [Expr.isResolved, hobject, hbinds, Bool.or_false,
      Expr.allResolved_iff.mpr (List.forall_mem_singleton.mpr harg), Bool.and_self]
  case document =>
    intro _ _ _ _ hfields _
    rw [Expr.isResolved]
    exact Expr.fieldsResolved_iff.mpr (forall_mem_of_forall₂ hfields.flip fun _ _ h => h)
  case array =>
    intro _ _ _ helements
    rw [Expr.isResolved]
    exact Expr.allResolved_iff.mpr (forall_mem_of_forall₂ helements.flip fun _ _ h => h)

end Values

/-! ### Conditions -/

/-- Every name in a condition that is lowered is known. -/
theorem isResolved_lowerCondition (context : Context) (scope : Scope) (e : Expr) :
    Gives (lowerCondition context scope e) fun _ =>
      e.isResolved context scope.isBound = true := by
  refine gives_lowerCondition
    (motive := fun scope e _ => e.isResolved context scope.isBound = true)
    ?plain ?computed ?and ?or ?not ?elemMatch scope e
  case plain => exact fun he _ => he
  case computed => exact fun hx => isResolved_lowerValue context false _ _ hx
  case and =>
    intro _ _ _ _ _ _ hleft hright _
    rw [Expr.isResolved, hleft, hright, Bool.and_self]
  case or =>
    intro _ _ _ _ _ _ hleft hright _
    rw [Expr.isResolved, hleft, hright, Bool.and_self]
  case not =>
    intro _ _ _ h
    rwa [Expr.isResolved]
  case elemMatch =>
    -- the condition knows the element, whatever scope the call is in
    intro scope _ condition _ _ htarget (hcondition : condition.isResolved context true = true)
    have hargs : Expr.allResolved context (scope.isBound || bindsElement "any") [condition]
        = true := by
      rw [show bindsElement "any" = true from rfl, Bool.or_true]
      exact Expr.allResolved_iff.mpr (List.forall_mem_singleton.mpr hcondition)
    rw [Expr.isResolved, Expr.isResolved_of_resolveField htarget, hargs, Bool.and_self]

/-! ### Statements -/

section Statements

variable {context : Context}

/-- A value that refers to the element is lowered to one that is computed for each of them. -/
theorem isResolvedAt_assignedValue (path : String) (value : Expr) :
    Gives (assignedValue context path value) fun assigned =>
      value.isResolvedAt context path assigned = true := by
  intro assigned h
  unfold assignedValue at h
  split at h
  · next condition =>
    obtain ⟨x, hx, -⟩ := bind_eq_ok_iff.mp h
    exact isResolved_lowerValue context true condition x hx
  · next hfilter =>
    have hat {bound : Bool} (hvalue : value.isResolved context bound = true)
        (hbound : bound = true → assigned.mapsOver path = true) :
        value.isResolvedAt context path assigned = true := by
      rw [Expr.isResolvedAt]
      · exact Expr.isResolved_mono hbound hvalue
      · exact hfilter
    split at h
    · -- a value that mentions the element is lowered as the body of a map over its own target
      obtain ⟨body, hbody, h⟩ := bind_eq_ok_iff.mp h
      refine hat (isResolved_lowerValue context true value body hbody) fun _ => ?_
      simp only [Expression.field?, Expression.map?, bind_eq_ok_iff, liftArgument_eq_ok_iff,
        pure_eq_ok, Except.ok.injEq] at h
      obtain ⟨_, ⟨-, -, rfl⟩, -, -, rfl⟩ := h
      simp [Expression.mapsOver]
    · exact hat (isResolved_lowerValue context false value assigned h)
        fun hbound => absurd hbound Bool.false_ne_true

theorem isResolved_assignment (target value : Expr) :
    Gives (assignment context target value) fun field =>
      target.isResolved context false = true ∧
        value.isResolvedAt context field.1 field.2 = true := by
  intro field h
  obtain ⟨path, hpath, h⟩ := bind_eq_ok_iff.mp h
  obtain ⟨assigned, hassigned, h⟩ := bind_eq_ok_iff.mp h
  obtain ⟨-, -, h⟩ := bind_eq_ok_iff.mp (liftArgument_eq_ok_iff.mp h)
  cases h
  exact ⟨Expr.isResolved_of_targetPath hpath, isResolvedAt_assignedValue path value _ hassigned⟩

theorem isResolved_projectionEntry (key : String) (value : Expr) :
    Gives (projectionEntry context key value) fun _ => value.isResolved context false = true := by
  unfold projectionEntry
  split
  · next hsame =>
    exact .ok (Expr.isResolved_of_chain? (of_decide_eq_true hsame) nofun)
  · exact (isResolved_lowerValue context false value).bind fun _ hvalue => .ok hvalue

/-- An accumulator is a tally, or what it collects is lowered. -/
theorem isResolved_accumulator (e : Expr) :
    Gives (accumulator context e) fun _ =>
      e.isTally = true ∨ e.isResolved context false = true := by
  unfold accumulator
  split
  · next object method =>
    split
    · -- the object of a count is the one expression that is never lowered
      next hcount => exact .ok (.inl (decide_eq_true hcount))
    · split
      · refine (isResolved_lowerValue context false object).bind fun _ hobject => .ok (.inr ?_)
        rw [Expr.isResolved, hobject, Expr.allResolved, Bool.and_self]
      · exact gives_refuse _ _
  · exact gives_refuse _ _
  · exact gives_refuse _ _

theorem Statement.resolved_of_lowerStatement (statement : Statement) :
    Gives (lowerStatement context statement) (statement.Resolved context Expr.isTally) := by
  intro stage h
  unfold lowerStatement at h
  split at h
  case h_1 condition =>
    obtain ⟨f, hf, -⟩ := bind_eq_ok_iff.mp h
    exact isResolved_lowerCondition context .document condition f hf
  case h_2 assignments =>
    obtain ⟨fields, hfields, h⟩ := bind_eq_ok_iff.mp h
    simp only [Stage.addFields?, bind_eq_ok_iff, liftArgument_eq_ok_iff, pure_eq_ok,
      Except.ok.injEq] at h
    obtain ⟨-, -, -, -, rfl⟩ := h
    exact ⟨fields, rfl, Gives.mapM_forall₂ (fun a _ => isResolved_assignment a.1 a.2) _ hfields⟩
  case h_3 fields =>
    obtain ⟨entries, hentries, -⟩ := bind_eq_ok_iff.mp h
    obtain ⟨entries, hentries, -⟩ := bind_eq_ok_iff.mp hentries
    -- the entry for `_id` that may be put in front has no counterpart among the fields
    have hall := Gives.mapM_forall₂ (fun field _ => isResolved_projectionEntry field.1 field.2)
      _ hentries
    show Expr.isResolved context false (.object fields) = true
    rw [Expr.isResolved]
    exact Expr.fieldsResolved_iff.mpr (forall_mem_of_forall₂ hall.flip fun _ _ h => h)
  case h_4 value _ =>
    obtain ⟨x, hx, -⟩ := bind_eq_ok_iff.mp h
    exact isResolved_lowerValue context false value x hx
  case h_5 keys =>
    obtain ⟨sorted, hkeys, -⟩ := bind_eq_ok_iff.mp h
    have hkey (key : Expr × Direction) :
        Gives (sortKey key.1 key.2) fun _ => key.1.isResolved context false = true := by
      intro _ hkey
      obtain ⟨path, hpath, -⟩ := bind_eq_ok_iff.mp hkey
      exact Expr.isResolved_of_targetPath hpath
    have hall := Gives.mapM_forall₂ (fun key _ => hkey key) _ hkeys
    exact forall_mem_of_forall₂ hall.flip fun _ _ h => h
  case h_6 => trivial
  case h_7 => trivial
  case h_8 path keepEmpty =>
    obtain ⟨_, hpath, -⟩ := bind_eq_ok_iff.mp h
    exact Expr.isResolved_of_targetPath hpath
  case h_9 => trivial
  case h_10 key accumulators =>
    obtain ⟨x, hx, h⟩ := bind_eq_ok_iff.mp h
    obtain ⟨collected, hcollected, -⟩ := bind_eq_ok_iff.mp h
    have haccumulator (a : String × Expr) : Gives (do return (a.1, ← accumulator context a.2))
        fun _ => a.2.isTally = true ∨ a.2.isResolved context false = true :=
      (isResolved_accumulator a.2).bind fun _ ha => .ok ha
    have hall := Gives.mapM_forall₂ (fun a _ => haccumulator a) _ hcollected
    exact ⟨isResolved_lowerValue context false key x hx,
      forall_mem_of_forall₂ hall.flip fun _ _ h => h⟩

end Statements

/-- In a query that is lowered every parameter and every named constant has a value, and the array
element at hand is referred to only in the arguments of `any`, `all`, `filter` and `map`, in an
assigned condition on elements and in an assigned value that is computed for each element at its
target.  Only what an accumulator counts documents of need not be such. -/
theorem Query.resolved_of_lowerQuery {context : Context} {query : Query} {p : Pipeline}
    (h : lowerQuery context query = .ok p) : query.Resolved context Expr.isTally p := by
  obtain ⟨stages, hstages, h⟩ := bind_eq_ok_iff.mp h
  cases h
  exact Gives.mapM_forall₂ (fun statement _ => statement.resolved_of_lowerStatement) _ hstages

/-- A parameter is looked for in the elements of an array, a named constant is added to each of
them, and documents are counted. -/
theorem Query.resolved_of_lowerQuery_elements :
    let context : Context :=
      { (Context.empty.bind "p" (.array [.int 2])) with
        constants := .insert .empty ⟨"Color", "Red"⟩ 1 }
    let tags : Expr := .access .root (.key "tags")
    let query : Query := ⟨[
      .filter (.call tags "any" [.call .element "in" [.param "p"]]),
      .transform [(tags, .binary .add .element (.constant "Color" "Red"))],
      .group (.access .root (.key "kind")) [("n", .call .root "count" [])]]⟩
    ∃ p, lowerQuery context query = .ok p ∧ query.Resolved context Expr.isTally p :=
  ⟨_, rfl, resolved_of_lowerQuery rfl⟩

/-- A query that counts documents of a parameter without a value is lowered. -/
theorem Query.not_resolved_tally :
    let query : Query := ⟨[.group (.access .root (.key "c")) [("n", .call (.param "p") "count" [])]]⟩
    ∃ p, lowerQuery .empty query = .ok p ∧ ¬query.Resolved .empty (fun _ => false) p := by
  refine ⟨_, rfl, fun h => ?_⟩
  cases h with
  | cons hgroup _ =>
    have hcount := List.forall_mem_singleton.mp hgroup.2
    exact absurd hcount (by decide)

end DocQuery
