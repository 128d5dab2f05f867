import DocQuery.Pipeline.Stage
import DocQuery.Proofs.Outcome

/-!
# Well-formed pipelines

The constructors of the types of nodes do not check their arguments; the functions that build nodes
do.  A tree is well formed if each of its nodes could have been built by its function.

## Main definitions

* `Expression.wellFormed`, `Filter.wellFormed`, `Operation.wellFormed`, `Stage.wellFormed`,
  `Pipeline.wellFormed` — the trees that checked construction can yield.
-/

namespace DocQuery

/-! ### Expressions -/

mutual

/-- Checked construction could have built the expression. -/
def Expression.wellFormed : Expression → Bool
  | .constant _ => true
  | .field none path => (Expression.field? path).isOk
  | .field (some name) path => (Expression.variableField? name path).isOk
  | .var name => (Expression.ofVariable? name).isOk
  | .unary _ arg => arg.wellFormed
  | .binary _ left right => left.wellFormed && right.wellFormed
  | .variadic function args => (Expression.variadic? function args).isOk && allWellFormed args
  | .document fields => (Expression.document? fields).isOk && fieldsWellFormed fields
  | .array items => allWellFormed items
  | .getField name input => (Expression.getField? name input).isOk && input.wellFormed
  | .filter input name condition =>
    (Expression.filter? input name condition).isOk && input.wellFormed && condition.wellFormed
  | .map input name body =>
    (Expression.map? input name body).isOk && input.wellFormed && body.wellFormed

/-- All of the expressions are well formed. -/
def Expression.allWellFormed : List Expression → Bool
  | [] => true
  | e :: es => e.wellFormed && allWellFormed es

/-- All of the named expressions are well formed. -/
def Expression.fieldsWellFormed : List (String × Expression) → Bool
  | [] => true
  | (_, e) :: fields => e.wellFormed && fieldsWellFormed fields

end

/-! ### Filters -/

/-- Checked construction could have built the target. -/
def Target.wellFormed : Target → Bool
  | .path p => (Target.path? p).isOk
  | .element => true

mutual

/-- Checked construction could have built the filter. -/
def Filter.wellFormed : Filter → Bool
  | .field target operation => target.wellFormed && operation.wellFormed
  | .and args => (Filter.and? args).isOk && Filter.allWellFormed args
  | .or args => (Filter.or? args).isOk && Filter.allWellFormed args
  | .nor args => (Filter.nor? args).isOk && Filter.allWellFormed args
  | .not filter => filter.wellFormed
  | .expr e => e.wellFormed

/-- All of the filters are well formed. -/
def Filter.allWellFormed : List Filter → Bool
  | [] => true
  | f :: fs => f.wellFormed && Filter.allWellFormed fs

/-- Checked construction could have built the operation. -/
def Operation.wellFormed : Operation → Bool
  | .compare _ _ => true
  | .bits test mask => (Operation.bits? test mask).isOk
  | .isIn _ => true
  | .notIn _ => true
  | .exists _ => true
  | .regex pattern options => (Operation.regex? pattern options).isOk
  | .size size => (Operation.size? size).isOk
  | .type name => (Operation.type? name).isOk
  | .mod divisor remainder => (Operation.mod? divisor remainder).isOk
  | .elemMatch filter => filter.wellFormed
  | .not operation => operation.wellFormed

end

/-! ### Stages -/

/-- What an entry of a projection computes is well formed. -/
def Projection.wellFormed : Projection → Bool
  | .keep _ => true
  | .drop _ => true
  | .compute _ value => value.wellFormed

/-- Checked construction could have built the stage. -/
def Stage.wellFormed : Stage → Bool
  | .select filter => filter.wellFormed
  | .project entries => (Stage.project? entries).isOk && entries.all (·.wellFormed)
  | .replaceRoot e => e.wellFormed
  | .addFields fields =>
    (Stage.addFields? fields).isOk
      && fields.all fun (path, e) => (Stage.computedField? path e).isOk && e.wellFormed
  | .group key accumulators =>
    (Stage.group? key accumulators).isOk && key.wellFormed
      && accumulators.all fun (_, a) => a.arg.wellFormed
  | .sort keys =>
    (Stage.sort? keys).isOk && keys.all fun k => (SortKey.ofPath? k.path k.direction).isOk
  | .skip n => (Stage.skip? n).isOk
  | .limit n => (Stage.limit? n).isOk
  | .unwind path keepEmpty => (Stage.unwind? path keepEmpty).isOk
  | .count name => (Stage.count? name).isOk

/-- Checked construction could have built all stages. -/
def Pipeline.wellFormed (p : Pipeline) : Bool :=
  p.stages.all (·.wellFormed)

/-! ### What the checks say -/

@[simp] theorem isOk_ok {α : Type} (a : α) : (Except.ok a : Except ArgumentError α).isOk = true :=
  rfl

@[simp] theorem isOk_check_bind {α : Type} (check : Except ArgumentError Unit)
    (rest : Unit → Except ArgumentError α) :
    (check >>= rest).isOk = (check.isOk && (rest ()).isOk) := by
  cases check <;> rfl

@[simp] theorem isOk_ensure (condition : Bool) (argument : String) (fault : ArgumentFault) :
    (ensure condition argument fault).isOk = condition := by
  cases condition <;> rfl

/-- What is made of the result of a check does not matter. -/
@[simp] theorem isOk_map {α β : Type} (f : α → β) (check : Except ArgumentError α) :
    (f <$> check).isOk = check.isOk := by
  cases check <;> rfl

theorem isOk_checkPath_iff {argument path : String} :
    (checkPath argument path).isOk = true
      ↔ path ≠ "" ∧ startsWithDollar path = false
        ∧ ∀ segment ∈ pathSegments path, segment ≠ "" := by
  simp [checkPath]

theorem isOk_checkVariable (argument name : String) :
    (checkVariable argument name).isOk = Text.isName name :=
  isOk_ensure _ _ _

/-- A check of each element that refuses those that have come before admits no repetition. -/
theorem isOk_checkEach_iff {α : Type} {check : List α → α → Except ArgumentError Unit}
    {p : α → Prop} (h : ∀ before x, (check before x).isOk = true ↔ x ∉ before ∧ p x)
    {before xs : List α} :
    (checkEach check before xs).isOk = true
      ↔ (∀ x ∈ xs, x ∉ before ∧ p x) ∧ xs.Nodup := by
  induction xs generalizing before with
  | nil => simp [checkEach, Except.isOk, Except.toBool]
  | cons x xs ih =>
    rw [checkEach, isOk_check_bind, Bool.and_eq_true, h, ih, List.nodup_cons,
      List.forall_mem_cons]
    constructor
    · rintro ⟨hx, hxs, hnodup⟩
      refine ⟨⟨hx, fun y hy => ?_⟩, fun hmem => ?_, hnodup⟩
      · obtain ⟨hbefore, hp⟩ := hxs y hy
        exact ⟨fun hmem => hbefore (List.mem_append_left _ hmem), hp⟩
      · exact (hxs x hmem).1 (List.mem_append_right _ List.mem_cons_self)
    · rintro ⟨⟨hx, hxs⟩, hmem, hnodup⟩
      refine ⟨hx, fun y hy => ⟨fun hbefore => ?_, (hxs y hy).2⟩, hnodup⟩
      rcases List.mem_append.mp hbefore with hold | hnew
      · exact (hxs y hy).1 hold
      · exact hmem (List.mem_singleton.mp hnew ▸ hy)

theorem isOk_checkDistinct_iff {argument : String} {fault : String → ArgumentFault}
    {names : List String} :
    (checkDistinct argument fault names).isOk = true ↔ names.Nodup := by
  rw [checkDistinct, isOk_checkEach_iff (p := fun _ => True)]
  · simp
  · simp

theorem Expression.isOk_checkFieldNames_iff {names : List String} :
    (checkFieldNames names).isOk = true
      ↔ names.Nodup ∧ ∀ name ∈ names, name ≠ "" ∧ startsWithDollar name = false := by
  rw [checkFieldNames,
    isOk_checkEach_iff (p := fun name => name ≠ "" ∧ startsWithDollar name = false)]
  · simp [and_comm]
  · intro before name
    simp [and_comm, and_assoc]

/-- A projection has one entry or more; their paths are well formed and do not repeat.  If it drops
a path other than `_id`, it keeps or computes nothing but `_id`. -/
theorem Stage.isOk_project?_iff {entries : List Projection} :
    (project? entries).isOk = true
      ↔ entries ≠ [] ∧ (∀ e ∈ entries, (checkPath "specifications" e.path).isOk = true)
        ∧ (entries.map (·.path)).Nodup
        ∧ ((∃ e ∈ entries, e.path ≠ "_id" ∧ e.isDrop = true) →
          ∀ e ∈ entries, e.isDrop = false → e.path = "_id") := by
  have hpaths (paths : List String) :
      (checkEach (fun before path => do
        checkPath "specifications" path
        ensure (!before.contains path) "specifications" (.projectedTwice path)) []
        paths).isOk = true
      ↔ (∀ path ∈ paths, (checkPath "specifications" path).isOk = true) ∧ paths.Nodup := by
    rw [isOk_checkEach_iff (p := fun path => (checkPath "specifications" path).isOk = true)]
    · simp
    · intro before path
      simp [and_comm]
  have hmixed : (!((entries.filter (·.path != "_id")).any (·.isDrop)
        && (entries.filter (·.path != "_id")).any (!·.isDrop))) = true
      ↔ ((∃ e ∈ entries, e.path ≠ "_id" ∧ e.isDrop = true) →
        ∀ e ∈ entries, e.isDrop = false → e.path = "_id") := by
    have hany (test : Projection → Bool) : (entries.filter (·.path != "_id")).any test = true
        ↔ ∃ e ∈ entries, e.path ≠ "_id" ∧ test e = true := by
      simp
    rw [Bool.not_eq_true', ← Bool.not_eq_true, Bool.and_eq_true, hany, hany, not_and]
    refine imp_congr_right fun _ => ⟨fun h e he hdrop => ?_, ?_⟩
    · by_contra hpath
      exact h ⟨e, he, hpath, by rw [hdrop]; rfl⟩
    · rintro h ⟨e, he, hpath, hnamed⟩
      exact hpath (h e he (by simpa using hnamed))
  rw [project?, isOk_check_bind, pure_eq_ok, isOk_ok, Bool.and_true, checkProjections,
    isOk_check_bind, isOk_check_bind, isOk_ensure, isOk_ensure, Bool.and_eq_true, Bool.and_eq_true,
    hpaths, hmixed]
  simp [and_assoc]

/-- The names of accumulators do not repeat, and none is `_id`. -/
theorem Stage.nodup_of_group {key : Expression}
    {accumulators : List (String × AccumulatorExpression)}
    (h : (group? key accumulators).isOk = true) :
    ("_id" :: accumulators.map (·.1)).Nodup := by
  rw [group?, isOk_check_bind, Bool.and_eq_true, checkAccumulatorNames] at h
  have hnames := (isOk_checkEach_iff (p := fun name => name ≠ "" ∧
    (startsWithDollar name = false ∧ containsDot name = false) ∧ name ≠ "_id")
      fun before name => by simp [and_comm, and_left_comm, and_assoc]).mp h.1
  exact List.nodup_cons.mpr ⟨fun hid => (hnames.1 _ hid).2.2.2 rfl, hnames.2⟩

/-! ### Nodes -/

attribute [local simp] Expression.wellFormed Expression.allWellFormed Expression.fieldsWellFormed
  Target.wellFormed Filter.wellFormed Filter.allWellFormed Stage.wellFormed

theorem Expression.allWellFormed_iff (es : List Expression) :
    allWellFormed es = true ↔ ∀ e ∈ es, e.wellFormed = true := by
  induction es with
  | nil => simp
  | cons e es ih => simp [ih]

theorem Expression.fieldsWellFormed_iff (fields : List (String × Expression)) :
    fieldsWellFormed fields = true ↔ ∀ field ∈ fields, field.2.wellFormed = true := by
  induction fields with
  | nil => simp
  | cons field fields ih => simp [ih]

theorem Filter.allWellFormed_iff (fs : List Filter) :
    Filter.allWellFormed fs = true ↔ ∀ f ∈ fs, f.wellFormed = true := by
  induction fs with
  | nil => simp
  | cons f fs ih => simp [ih]

theorem Expression.wellFormed_field (path : String) :
    (Expression.field none path).wellFormed = (checkPath "path" path).isOk := by
  rw [wellFormed, field?]
  exact isOk_map _ _

theorem Expression.wellFormed_variableField (name path : String) :
    (Expression.field (some name) path).wellFormed
      = (Text.isName name && (checkPath "path" path).isOk) := by
  rw [wellFormed, variableField?, isOk_check_bind, isOk_checkVariable]
  exact congrArg _ (isOk_map _ _)

theorem Expression.wellFormed_var (name : String) :
    (Expression.var name).wellFormed = Text.isName name := by
  rw [wellFormed, ofVariable?, isOk_check_bind, isOk_checkVariable]
  exact Bool.and_true _

theorem Expression.wellFormed_variadic (function : VariadicFunction) (args : List Expression) :
    (Expression.variadic function args).wellFormed = true
      ↔ args ≠ [] ∧ ∀ e ∈ args, e.wellFormed = true := by
  simp [variadic?, allWellFormed_iff]

theorem Expression.wellFormed_array (items : List Expression) :
    (Expression.array items).wellFormed = true ↔ ∀ e ∈ items, e.wellFormed = true := by
  simp [allWellFormed_iff]

theorem Expression.wellFormed_document (fields : List (String × Expression)) :
    (Expression.document fields).wellFormed = true
      ↔ (checkFieldNames (fields.map (·.1))).isOk = true
        ∧ ∀ field ∈ fields, field.2.wellFormed = true := by
  simp [document?, fieldsWellFormed_iff]

theorem Expression.wellFormed_getField (name : String) (input : Expression) :
    (Expression.getField name input).wellFormed = true
      ↔ (name ≠ "" ∧ startsWithDollar name = false) ∧ input.wellFormed = true := by
  simp [getField?]

theorem Expression.wellFormed_filter (input : Expression) (name : String)
    (condition : Expression) :
    (Expression.filter input name condition).wellFormed = true
      ↔ Text.isName name = true ∧ input.wellFormed = true ∧ condition.wellFormed = true := by
  simp [filter?, checkVariable, and_assoc]

theorem Expression.wellFormed_map (input : Expression) (name : String) (body : Expression) :
    (Expression.map input name body).wellFormed = true
      ↔ Text.isName name = true ∧ input.wellFormed = true ∧ body.wellFormed = true := by
  simp [map?, checkVariable, and_assoc]

theorem Target.wellFormed_path (path : String) :
    (Target.path path).wellFormed = (checkPath "path" path).isOk := by
  rw [wellFormed, path?]
  exact isOk_map _ _

theorem Filter.wellFormed_field (target : Target) (operation : Operation) :
    (Filter.field target operation).wellFormed = true
      ↔ target.wellFormed = true ∧ operation.wellFormed = true := by
  simp

theorem Filter.wellFormed_and (args : List Filter) :
    (Filter.and args).wellFormed = true ↔ args ≠ [] ∧ ∀ f ∈ args, f.wellFormed = true := by
  simp [and?, allWellFormed_iff]

theorem Filter.wellFormed_or (args : List Filter) :
    (Filter.or args).wellFormed = true ↔ args ≠ [] ∧ ∀ f ∈ args, f.wellFormed = true := by
  simp [or?, allWellFormed_iff]

theorem Filter.wellFormed_nor (args : List Filter) :
    (Filter.nor args).wellFormed = true ↔ args ≠ [] ∧ ∀ f ∈ args, f.wellFormed = true := by
  simp [nor?, allWellFormed_iff]

theorem Stage.wellFormed_project (entries : List Projection) :
    (Stage.project entries).wellFormed = true
      ↔ (Stage.project? entries).isOk = true ∧ ∀ e ∈ entries, e.wellFormed = true := by
  simp

theorem Stage.wellFormed_addFields (fields : List (String × Expression)) :
    (Stage.addFields fields).wellFormed = true
      ↔ (Stage.addFields? fields).isOk = true ∧
        ∀ field ∈ fields, (Stage.computedField? field.1 field.2).isOk = true ∧
          field.2.wellFormed = true := by
  simp

theorem Stage.wellFormed_group (key : Expression)
    (accumulators : List (String × AccumulatorExpression)) :
    (Stage.group key accumulators).wellFormed = true
      ↔ (Stage.group? key accumulators).isOk = true ∧ key.wellFormed = true ∧
        ∀ a ∈ accumulators, a.2.arg.wellFormed = true := by
  simp [and_assoc]

end DocQuery
