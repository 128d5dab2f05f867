import DocQuery.Proofs.Evaluation.Filter
import DocQuery.Proofs.Evaluation.Expression
import DocQuery.Proofs.Lowering.Constant
import DocQuery.Proofs.Value.Path

/-!
# Lowered chains of fields

A chain of fields becomes a path where its names can stand between dots; the expression that
computes it takes the fields one by one from there on.  Both read the value that the names lead to,
as long as no array is on the way.

## Main definitions

* `FieldKey`, `Scope.access` — chains of fields, by names that are bare or quoted.
* `Scope.Reads` — an environment in which the fields of a value are read.
* `ReadsPath` — the expressions that a chain is lowered to.

## Main results

* `ReadsPath.eval` — the value of a lowered chain.
* `values_of_resolveField` — the values that the target of a chain has.
-/

namespace DocQuery

/-! ### Chains -/

/-- The name of a field as an access has it. -/
inductive FieldKey where
  /-- A field `.name`. -/
  | bare (name : String)
  /-- A field `["name"]`. -/
  | quoted (name : String)

namespace FieldKey

/-- The name that is written. -/
def name : FieldKey → String
  | .bare name => name
  | .quoted name => name

/-- The key as it stands in an access. -/
def toExpr : FieldKey → Expr
  | .bare name => .key name
  | .quoted name => .string name

end FieldKey

/-- The names of keys. -/
abbrev fieldNames (keys : List FieldKey) : List String :=
  keys.map (·.name)

namespace Scope

/-- What fields are read through. -/
def subject : Scope → Expr
  | .document => .root
  | .element => .element

/-- Where a chain of fields starts. -/
def chainBase : Scope → ChainBase
  | .document => .root
  | .element => .element

/-- The variable whose fields are read; for the document there is none. -/
def name? : Scope → Option String
  | .document => none
  | .element => some elementName

/-- The expression for what fields are read through. -/
def base : Scope → Expression
  | .document => .root
  | .element => .this

/-- The element at hand is known. -/
def isBound : Scope → Bool
  | .document => false
  | .element => true

/-- A chain of fields. -/
def access (scope : Scope) (keys : List FieldKey) : Expr :=
  keys.foldl (fun object key => .access object key.toExpr) scope.subject

/-- Fields are read from `v` in the environment: it is the document, or the element at hand. -/
def Reads : Scope → Environment → Value → Prop
  | .document, env, v => env = .ofDocument v
  | .element, env, v => env.get elementName = .ok v

@[simp] theorem access_nil (scope : Scope) : scope.access [] = scope.subject := rfl

@[simp] theorem access_concat (scope : Scope) (keys : List FieldKey) (key : FieldKey) :
    scope.access (keys ++ [key]) = .access (scope.access keys) key.toExpr := by
  rw [access, List.foldl_append]
  rfl

variable {scope : Scope} {env : Environment} {v : Value}

theorem Reads.base_name? (h : scope.Reads env v) : env.base scope.name? = .ok v := by
  cases scope with
  | document =>
    cases h
    rfl
  | element => exact h

theorem Reads.eval_base (h : scope.Reads env v) : scope.base.eval env = .ok v := by
  cases scope with
  | document =>
    cases h
    exact Expression.eval_var "ROOT" (.ofDocument v)
  | element => exact (Expression.eval_var elementName env).trans h

end Scope

/-! ### The expression of a chain -/

theorem liftArgument_eq_ok_iff {α : Type} {result : Except ArgumentError α} {a : α} :
    liftArgument result = .ok a ↔ result = .ok a := by
  cases result <;> simp [liftArgument, Except.mapError]

/-- The expressions that a chain of fields with the given names is lowered to. -/
inductive ReadsPath (scope : Scope) : List String → Expression → Prop
  | base : ReadsPath scope [] scope.base
  | field {names : List String} : names ≠ [] → (∀ name ∈ names, isPathSegment name = true) →
    ReadsPath scope names (.field scope.name? (dottedPath names))
  | getField {names : List String} {input : Expression} (name : String) :
    ReadsPath scope names input → ReadsPath scope (names ++ [name]) (.getField name input)

theorem dot_notMem_of_isPathSegment {name : String} (h : isPathSegment name = true) :
    '.' ∉ name.toList := by
  simp only [isPathSegment, containsDot, Bool.and_eq_true, Bool.not_eq_true'] at h
  simpa using h.1.2

section FieldOf

variable {scope : Scope} {names : List String} {input x : Expression} {path name : String}

theorem eq_field_of_base (hname : isPathSegment name = true)
    (h : fieldOf scope.base name = .ok x) : x = .field scope.name? name := by
  cases scope with
  | document =>
    simp only [fieldOf, hname, Scope.base, Expression.root, Expression.field?, bind_eq_ok_iff,
      if_true, pure_eq_ok, Except.ok.injEq] at h
    exact h.choose_spec.2.symm
  | element =>
    simp [fieldOf, hname, Scope.base, Expression.this, Expression.variableField?,
      bind_eq_ok_iff] at h
    exact h.2.2.symm

theorem eq_field_of_field (hname : isPathSegment name = true)
    (h : fieldOf (.field scope.name? path) name = .ok x) :
    x = .field scope.name? (path ++ "." ++ name) := by
  cases scope with
  | document =>
    simp [fieldOf, hname, Scope.name?, Expression.field?, bind_eq_ok_iff, toString] at h
    exact h.2.symm
  | element =>
    simp [fieldOf, hname, Scope.name?, Expression.variableField?, bind_eq_ok_iff, toString] at h
    exact h.2.2.symm

theorem eq_getField_of_getField? (h : Expression.getField? name input = .ok x) :
    x = .getField name input := by
  simp only [Expression.getField?, bind_eq_ok_iff, pure_eq_ok, Except.ok.injEq] at h
  obtain ⟨-, -, -, -, rfl⟩ := h
  rfl

/-- A segment continues the path that is there; any other name is read from what is computed. -/
theorem ReadsPath.concat (h : ReadsPath scope names input) (hx : fieldOf input name = .ok x) :
    ReadsPath scope (names ++ [name]) x := by
  -- a path goes on up to the first name that is no segment; behind it every name is an access
  by_cases hname : isPathSegment name = true
  · cases h with
    | base =>
      have hfield : ReadsPath scope [name] (.field scope.name? (dottedPath [name])) :=
        .field (List.cons_ne_nil _ _) (List.forall_mem_singleton.mpr hname)
      rw [eq_field_of_base hname hx]
      simpa [dottedPath] using hfield
    | field hne hall =>
      rw [eq_field_of_field hname hx, ← dottedPath_concat hne]
      refine .field (List.append_ne_nil_of_left_ne_nil hne _) ?_
      exact List.forall_mem_append.mpr ⟨hall, List.forall_mem_singleton.mpr hname⟩
    | getField name' hinput =>
      unfold fieldOf at hx
      rw [if_pos hname] at hx
      exact eq_getField_of_getField? hx ▸ .getField name (.getField name' hinput)
  · unfold fieldOf at hx
    rw [if_neg hname] at hx
    exact eq_getField_of_getField? hx ▸ .getField name h

end FieldOf

theorem lowerValue_subject (context : Context) (scope : Scope) :
    lowerValue context scope.isBound scope.subject = .ok scope.base := by
  cases scope with
  | document =>
    rw [Scope.subject, lowerValue, constantOr_of_fold_none (fold_root context), Scope.base]
  | element =>
    rw [Scope.subject, lowerValue, constantOr_of_fold_none (fold_element context), Scope.isBound,
      if_pos rfl, Scope.base]

theorem lowerValue_access (context : Context) (bound : Bool) (object : Expr) (key : FieldKey) :
    lowerValue context bound (.access object key.toExpr)
      = (lowerValue context bound object >>= fun input =>
          liftArgument (fieldOf input key.name)) := by
  rw [lowerValue, constantOr_of_fold_none (fold_access context object key.toExpr)]
  cases key <;> rfl

theorem readsPath_of_lowerValue {context : Context} {scope : Scope} {keys : List FieldKey}
    {x : Expression} (h : lowerValue context scope.isBound (scope.access keys) = .ok x) :
    ReadsPath scope (fieldNames keys) x := by
  induction keys using List.reverseRecOn generalizing x with
  | nil =>
    rw [Scope.access_nil, lowerValue_subject] at h
    cases h
    exact .base
  | append_singleton keys key ih =>
    rw [Scope.access_concat, lowerValue_access, bind_eq_ok_iff] at h
    obtain ⟨input, hinput, hx⟩ := h
    rw [fieldNames, List.map_append]
    exact (ih hinput).concat (liftArgument_eq_ok_iff.mp hx)

theorem pathSegments_of_segments {names : List String} (h : names ≠ [])
    (hs : ∀ name ∈ names, isPathSegment name = true) : pathSegments (dottedPath names) = names :=
  pathSegments_dottedPath h fun name hname => dot_notMem_of_isPathSegment (hs name hname)

/-- A lowered chain has the value that its names lead to, or null. -/
theorem ReadsPath.eval {scope : Scope} {names : List String} {x : Expression}
    (h : ReadsPath scope names x) {env : Environment} {v : Value} (henv : scope.Reads env v)
    (hv : v.IsStraight names) : x.eval env = .ok ((v.follow names).getD .null) := by
  induction h with
  | base => exact henv.eval_base
  | field hne hall =>
    rw [Expression.eval, henv.base_name?, ok_bind, Value.atPath,
      pathSegments_of_segments hne hall, Value.at?_of_isStraight hv]
    rfl
  | @getField names input name _ ih =>
    rw [Expression.eval_getField, ih hv.of_append, Value.follow_append]
    cases v.follow names with
    | none => rfl
    | some u => cases hu : u.fields.lookup name <;> simp [Value.follow_cons, hu]

/-! ### The target of a chain -/

theorem chain?_access (scope : Scope) (keys : List FieldKey) :
    (scope.access keys).chain?
      = some ⟨scope.chainBase, (fieldNames keys).map .field⟩ := by
  induction keys using List.reverseRecOn with
  | nil => cases scope <;> rfl
  | append_singleton keys key ih =>
    rw [Scope.access_concat, Expr.chain?, ih]
    cases key <;> simp [FieldKey.toExpr, FieldKey.name, Expr.chainKey?]

theorem mapM_segment? {names segments : List String}
    (h : (names.map ChainKey.field).mapM (·.segment?) = some segments) :
    segments = names ∧ ∀ name ∈ names, isPathSegment name = true := by
  induction names generalizing segments with
  | nil =>
    cases h
    exact ⟨rfl, List.forall_mem_nil _⟩
  | cons name names ih =>
    simp only [List.map_cons, List.mapM_cons, Option.bind_eq_bind, Option.bind_eq_some_iff,
      Option.pure_def, Option.some.injEq] at h
    obtain ⟨segment, hsegment, rest, hrest, rfl⟩ := h
    obtain ⟨hname, hsame⟩ := Option.ite_none_right_eq_some.mp hsegment
    cases hsame
    obtain ⟨rfl, hnames⟩ := ih hrest
    exact ⟨rfl, List.forall_mem_cons.mpr ⟨hname, hnames⟩⟩

theorem dotted?_fields {names : List String} {path : String}
    (h : dotted? (names.map .field) = some path) :
    names ≠ [] ∧ (∀ name ∈ names, isPathSegment name = true) ∧ path = dottedPath names := by
  simp only [dotted?, Option.bind_eq_bind, Option.bind_eq_some_iff] at h
  obtain ⟨segments, hsegments, hpath⟩ := h
  obtain ⟨rfl, hall⟩ := mapM_segment? hsegments
  cases segments with
  | nil => cases hpath
  | cons name names =>
    cases hpath
    exact ⟨List.cons_ne_nil _ _, hall, rfl⟩

theorem resolveField_access {scope : Scope} {keys : List FieldKey} {target : Target}
    (h : resolveField scope (scope.access keys) = some target) :
    (fieldNames keys = [] ∧ target = .element)
      ∨ (fieldNames keys ≠ [] ∧ (∀ name ∈ fieldNames keys, isPathSegment name = true)
        ∧ target = .path (dottedPath (fieldNames keys))) := by
  -- both scopes have a target at a path; only the element has one without
  have hpath (h : (dotted? ((fieldNames keys).map .field)).map Target.path = some target) :
      fieldNames keys ≠ [] ∧ (∀ name ∈ fieldNames keys, isPathSegment name = true)
        ∧ target = .path (dottedPath (fieldNames keys)) := by
    obtain ⟨path, hpath, rfl⟩ := Option.map_eq_some_iff.mp h
    obtain ⟨hne, hall, rfl⟩ := dotted?_fields hpath
    exact ⟨hne, hall, rfl⟩
  unfold resolveField at h
  rw [chain?_access] at h
  cases scope with
  | document => exact .inr (hpath h)
  | element =>
    cases keys with
    | nil =>
      cases h
      exact .inl ⟨rfl, rfl⟩
    | cons key keys => exact .inr (hpath h)

/-- The target of a chain has the value that its names lead to, if there is one. -/
theorem values_of_resolveField {scope : Scope} {keys : List FieldKey} {target : Target}
    (h : resolveField scope (scope.access keys) = some target) {v : Value}
    (hv : v.IsStraight (fieldNames keys)) :
    target.values v = (v.follow (fieldNames keys)).toList := by
  rcases resolveField_access h with ⟨hnames, rfl⟩ | ⟨hne, hall, rfl⟩
  · rw [hnames]
    rfl
  · rw [Target.values, pathSegments_of_segments hne hall, Value.reached_of_isStraight hv]

end DocQuery
