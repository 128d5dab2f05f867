import DocQuery.Proofs.Lowering.Path
import DocQuery.Query.Statement

/-!
# Names that are known

A query refers to parameters and named constants, which a context has values for, and to the array
element at hand, which is known only in some places.  An expression that has a value at compile time
refers to nothing unknown, and neither does a chain of fields.

## Main definitions

* `Expr.isResolved` — every name in an expression is known.

## Main results

* `Expr.isResolved_mono` — what is resolved stays so where more is known.
* `Expr.isResolved_of_fold` — the names in a constant expression are known.
* `Expr.isResolved_of_resolveField` — so are those in an expression that names a field.
-/

namespace DocQuery

mutual

/-- Every parameter and every named constant in the expression has a value, and the array element at
hand is referred to only where it is known: anywhere if it is known around the expression, and
else in the arguments of methods that are evaluated for each element. -/
def Expr.isResolved (context : Context) : Bool → Expr → Bool
  | _, .float _ => true
  | _, .integer _ => true
  | _, .string _ => true
  | _, .boolean _ => true
  | _, .null => true
  | _, .root => true
  | bound, .element => bound
  | _, .param name => (context.parameter? name).isSome
  | _, .constant type member => (context.constant? type member).isSome
  | _, .key _ => true
  | bound, .access base index => base.isResolved context bound && index.isResolved context bound
  | bound, .filter condition => condition.isResolved context bound
  | bound, .unary _ operand => operand.isResolved context bound
  | bound, .binary _ left right => left.isResolved context bound && right.isResolved context bound
  | bound, .call base method args =>
    base.isResolved context bound && allResolved context (bound || bindsElement method) args
  | bound, .object fields => fieldsResolved context bound fields
  | bound, .array elements => allResolved context bound elements

/-- Every name in the expressions is known. -/
def Expr.allResolved (context : Context) : Bool → List Expr → Bool
  | _, [] => true
  | bound, e :: es => e.isResolved context bound && allResolved context bound es

/-- Every name in the entries is known. -/
def Expr.fieldsResolved (context : Context) : Bool → List (String × Expr) → Bool
  | _, [] => true
  | bound, (_, e) :: fields => e.isResolved context bound && fieldsResolved context bound fields

end

namespace Expr

variable {context : Context} {bound : Bool} {e : Expr}

/-! ### Lists -/

theorem allResolved_iff {es : List Expr} :
    allResolved context bound es = true ↔ ∀ e ∈ es, e.isResolved context bound = true := by
  induction es with
  | nil => simp [allResolved]
  | cons e es ih => rw [allResolved, Bool.and_eq_true, ih, List.forall_mem_cons]

theorem fieldsResolved_iff {fields : List (String × Expr)} :
    fieldsResolved context bound fields = true
      ↔ ∀ field ∈ fields, field.2.isResolved context bound = true := by
  induction fields with
  | nil => simp [fieldsResolved]
  | cons field fields ih => rw [fieldsResolved, Bool.and_eq_true, ih, List.forall_mem_cons]

/-! ### Where more is known -/

mutual

/-- An expression in which every name is known where less is known, is one where more is. -/
theorem isResolved_mono {bound more : Bool} (hle : bound = true → more = true) :
    ∀ {e : Expr}, e.isResolved context bound = true → e.isResolved context more = true
  | .float _, _ | .integer _, _ | .string _, _ | .boolean _, _ | .null, _ | .root, _ | .key _, _ =>
    rfl
  | .element, h => hle h
  | .param _, h => h
  | .constant _ _, h => h
  | .access base index, h => by
    rw [isResolved, Bool.and_eq_true] at h ⊢
    exact ⟨isResolved_mono hle h.1, isResolved_mono hle h.2⟩
  | .filter condition, h => by
    rw [isResolved] at h ⊢
    exact isResolved_mono hle h
  | .unary op operand, h => by
    rw [isResolved] at h ⊢
    exact isResolved_mono hle h
  | .binary op left right, h => by
    rw [isResolved, Bool.and_eq_true] at h ⊢
    exact ⟨isResolved_mono hle h.1, isResolved_mono hle h.2⟩
  | .call base method args, h => by
    rw [isResolved, Bool.and_eq_true] at h ⊢
    -- the arguments of some methods know the element anyway, those of others if the call does
    have hargs : (bound || bindsElement method) = true → (more || bindsElement method) = true := by
      rw [Bool.or_eq_true, Bool.or_eq_true]
      exact Or.imp_left hle
    exact ⟨isResolved_mono hle h.1, allResolved_mono hargs h.2⟩
  | .object fields, h => by
    rw [isResolved] at h ⊢
    exact fieldsResolved_mono hle h
  | .array elements, h => by
    rw [isResolved] at h ⊢
    exact allResolved_mono hle h

theorem allResolved_mono {bound more : Bool} (hle : bound = true → more = true) :
    ∀ {es : List Expr}, allResolved context bound es = true → allResolved context more es = true
  | [], _ => rfl
  | e :: es, h => by
    rw [allResolved, Bool.and_eq_true] at h ⊢
    exact ⟨isResolved_mono hle h.1, allResolved_mono hle h.2⟩

theorem fieldsResolved_mono {bound more : Bool} (hle : bound = true → more = true) :
    ∀ {fields : List (String × Expr)}, fieldsResolved context bound fields = true →
      fieldsResolved context more fields = true
  | [], _ => rfl
  | (name, e) :: fields, h => by
    rw [fieldsResolved, Bool.and_eq_true] at h ⊢
    exact ⟨isResolved_mono hle h.1, fieldsResolved_mono hle h.2⟩

end

/-! ### Constants -/

mutual

/-- What has been folded is made of literals, parameters and constants, all of which have values. -/
theorem isResolved_of_fold {value : Value} :
    ∀ {e : Expr}, fold context e = .ok (some value) → e.isResolved context bound = true
  | .float _, _ | .integer _, _ | .string _, _ | .boolean _, _ | .null, _ => rfl
  | .param name, h => by
    rw [fold] at h
    split at h
    · next hvalue => rw [isResolved, hvalue, Option.isSome_some]
    · cases h
  | .constant type member, h => by
    rw [fold] at h
    split at h
    · next hvalue => rw [isResolved, hvalue, Option.isSome_some]
    · cases h
  | .unary op operand, h => by
    obtain ⟨v, hv, -⟩ := fold_operand h
    rw [isResolved, isResolved_of_fold hv]
  | .binary op left right, h => by
    obtain ⟨a, b, ha, hb, -⟩ := fold_operands h
    rw [isResolved, isResolved_of_fold ha, isResolved_of_fold hb, Bool.and_self]
  | .array elements, h => by
    rw [fold] at h
    obtain ⟨folded, hfolded, h⟩ := bind_eq_ok_iff.mp h
    cases folded with
    | none => cases h
    | some values => exact allResolved_of_foldAll hfolded
  | .object fields, h => by
    rw [fold] at h
    obtain ⟨folded, hfolded, h⟩ := bind_eq_ok_iff.mp h
    cases folded with
    | none => cases h
    | some entries => exact fieldsResolved_of_foldFields hfolded

theorem allResolved_of_foldAll {values : List Value} :
    ∀ {es : List Expr}, foldAll context es = .ok (some values) → allResolved context bound es = true
  | [], _ => rfl
  | e :: es, h => by
    rw [foldAll] at h
    obtain ⟨folded, hfolded, h⟩ := bind_eq_ok_iff.mp h
    cases folded with
    | none => cases h
    | some value =>
      obtain ⟨rest, hrest, h⟩ := bind_eq_ok_iff.mp h
      cases rest with
      | none => cases h
      | some values =>
        rw [allResolved, isResolved_of_fold hfolded, allResolved_of_foldAll hrest, Bool.and_self]

theorem fieldsResolved_of_foldFields {entries : List (String × Value)} :
    ∀ {fields : List (String × Expr)}, foldFields context fields = .ok (some entries) →
      fieldsResolved context bound fields = true
  | [], _ => rfl
  | (name, e) :: fields, h => by
    rw [foldFields] at h
    obtain ⟨folded, hfolded, h⟩ := bind_eq_ok_iff.mp h
    cases folded with
    | none => cases h
    | some value =>
      obtain ⟨rest, hrest, h⟩ := bind_eq_ok_iff.mp h
      cases rest with
      | none => cases h
      | some entries =>
        rw [fieldsResolved, isResolved_of_fold hfolded, fieldsResolved_of_foldFields hrest,
          Bool.and_self]

end

/-! ### Chains of fields -/

/-- A chain refers to nothing but what it starts from. -/
theorem isResolved_of_chain? {chain : Chain} (h : e.chain? = some chain)
    (hbase : chain.base = .element → bound = true) : e.isResolved context bound = true := by
  induction e using chain?.induct generalizing chain with
  | case1 => rfl
  | case2 =>
    cases h
    exact hbase rfl
  | case3 base index ih =>
    rw [chain?] at h
    obtain ⟨inner, hinner, h⟩ := Option.bind_eq_some_iff.mp h
    obtain ⟨key, hkey, h⟩ := Option.bind_eq_some_iff.mp h
    cases h
    -- a key of a chain is a name or a number that is written there
    have hindex : index.isResolved context bound = true := by
      cases index <;> first | rfl | cases hkey
    rw [isResolved, ih hinner hbase, hindex, Bool.and_self]
  | case4 e hroot helement haccess =>
    rw [chain?] at h
    · cases h
    all_goals assumption

theorem isResolved_of_resolveField {scope : Scope} {target : Target}
    (h : resolveField scope e = some target) : e.isResolved context scope.isBound = true := by
  unfold resolveField at h
  split at h
  · next hchain => exact isResolved_of_chain? hchain nofun
  · next hchain => exact isResolved_of_chain? hchain fun _ => rfl
  · next hchain => exact isResolved_of_chain? hchain fun _ => rfl
  · cases h

theorem isResolved_of_targetPath {path : String} (h : targetPath e = .ok path) :
    e.isResolved context bound = true := by
  unfold targetPath at h
  split at h
  · next hchain => exact isResolved_of_chain? hchain nofun
  · cases h

end Expr

end DocQuery
