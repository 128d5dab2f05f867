import DocQuery.Pipeline.Stage

/-!
# Revised nodes

A revision of a node either keeps it as it is or makes a new one.  The two are told apart even if
the new node is equal to the old one, so that what was not touched can be shared.

Every node with children can be rebuilt from revisions of its children, one for each place.  It is
kept if all of them are kept, and otherwise made anew from the children that result, with the
checks of its construction where these may fail.

## Main definitions

* `Revised` — the outcome of a revision.
* `Expression.update`, `Filter.update`, `Pipeline.update`, … — nodes from revisions of their
  children.

## Main results

* `Revised.keepAll_iff` — all nodes are kept by as many revisions that keep a node.
* `Revised.resolveAll_eq_zipWith`, `Revised.resolveNamed_eq_zipWith` — nodes are resolved place by
  place.
-/

namespace DocQuery

/-- The outcome of the revision of a node. -/
inductive Revised (α : Type) where
  /-- The node itself. -/
  | kept
  /-- A new node. -/
  | changed (node : α)

namespace Revised

variable {α β : Type}

/-- The node was kept. -/
def isKept : Revised α → Bool
  | .kept => true
  | .changed _ => false

/-- The node that results when `old` is revised. -/
def resolve (old : α) : Revised α → α
  | .kept => old
  | .changed new => new

/-- The revision of a node around the one that is revised. -/
def map (f : α → β) : Revised α → Revised β
  | .kept => .kept
  | .changed new => .changed (f new)

/-- The revision of a node around two others. -/
def both {γ : Type} (f : α → β → γ) (a : α) (b : β) :
    Revised α → Revised β → Revised γ
  | .kept, .kept => .kept
  | r, s => .changed (f (r.resolve a) (s.resolve b))

/-- The nodes that result when nodes are revised one by one. -/
def resolveAll : List α → List (Revised α) → List α
  | _, [] => []
  | [], .kept :: rs => resolveAll [] rs
  | [], .changed new :: rs => new :: resolveAll [] rs
  | old :: olds, r :: rs => r.resolve old :: resolveAll olds rs

/-- The revisions keep all of so many nodes. -/
def keepAll (count : Nat) (rs : List (Revised α)) : Bool :=
  rs.length == count && rs.all (·.isKept)

/-- The named nodes that result when nodes are revised one by one and keep their names. -/
def resolveNamed : List (String × α) → List (Revised α) → List (String × α)
  | (name, old) :: olds, r :: rs => (name, r.resolve old) :: resolveNamed olds rs
  | _, _ => []

/-! ### Revisions and the nodes that result -/

@[simp] theorem resolve_kept (old : α) : (kept : Revised α).resolve old = old := rfl

@[simp] theorem resolve_changed (old new : α) : (changed new).resolve old = new := rfl

@[simp] theorem resolve_map (f : α → β) (old : α) (r : Revised α) :
    (r.map f).resolve (f old) = f (r.resolve old) := by
  cases r <;> rfl

@[simp] theorem resolve_both {γ : Type} (f : α → β → γ) (a : α) (b : β) (r : Revised α)
    (s : Revised β) : (both f a b r s).resolve (f a b) = f (r.resolve a) (s.resolve b) := by
  cases r <;> cases s <;> rfl

@[simp] theorem map_kept_iff {f : α → β} {r : Revised α} : r.map f = .kept ↔ r = .kept := by
  cases r <;> simp [map]

theorem map_map {γ : Type} (f : α → β) (g : β → γ) (r : Revised α) :
    (r.map f).map g = r.map (g ∘ f) := by
  cases r <;> rfl

theorem isKept_iff {r : Revised α} : r.isKept = true ↔ r = .kept := by
  cases r <;> simp [isKept]

/-- So many nodes are kept by as many revisions that keep a node. -/
theorem keepAll_iff {count : Nat} {rs : List (Revised α)} :
    keepAll count rs = true ↔ rs = List.replicate count .kept := by
  rw [keepAll, Bool.and_eq_true, beq_iff_eq, List.all_eq_true, List.eq_replicate_iff]
  simp only [isKept_iff]

theorem keepAll_iff_forall {count : Nat} {rs : List (Revised α)} (h : rs.length = count) :
    keepAll count rs = true ↔ ∀ r ∈ rs, r = .kept := by
  rw [keepAll_iff, List.eq_replicate_iff, and_iff_right h]

section Lists

variable {olds : List α} {rs : List (Revised α)}

/-- Nodes that have one revision each are resolved place by place. -/
theorem resolveAll_eq_zipWith (h : rs.length = olds.length) :
    resolveAll olds rs = List.zipWith (fun old r => r.resolve old) olds rs := by
  induction olds generalizing rs with
  | nil =>
    rw [List.length_eq_zero_iff.mp h]
    rfl
  | cons old olds ih =>
    cases rs with
    | nil => cases h
    | cons r rs => rw [resolveAll, ih (Nat.succ.inj h), List.zipWith_cons_cons]

theorem length_resolveAll (h : rs.length = olds.length) :
    (resolveAll olds rs).length = olds.length := by
  rw [resolveAll_eq_zipWith h, List.length_zipWith, h, Nat.min_self]

theorem resolveAll_ne_nil (h : rs.length = olds.length) (hne : olds ≠ []) :
    resolveAll olds rs ≠ [] := by
  rw [← List.length_pos_iff] at hne ⊢
  rwa [length_resolveAll h]

theorem resolveAll_map (f : α → β) (h : rs.length = olds.length) :
    resolveAll (olds.map f) (rs.map (·.map f)) = (resolveAll olds rs).map f := by
  have hmap : (rs.map (·.map f)).length = (olds.map f).length := by
    rw [List.length_map, List.length_map, h]
  rw [resolveAll_eq_zipWith hmap, resolveAll_eq_zipWith h, List.zipWith_map, List.map_zipWith]
  simp only [resolve_map]

/-- Revisions that keep every node resolve to the old nodes. -/
theorem resolveAll_of_keepAll (h : keepAll olds.length rs = true) : resolveAll olds rs = olds := by
  rw [keepAll_iff.mp h, resolveAll_eq_zipWith List.length_replicate]
  clear h
  induction olds with
  | nil => rfl
  | cons old olds ih => exact congrArg (old :: ·) ih

/-- A node that is kept if all nodes in it are resolves to the node around those that result. -/
theorem resolve_ite_keepAll (make : List α → β) :
    (if keepAll olds.length rs then kept else changed (make (resolveAll olds rs))).resolve
        (make olds) = make (resolveAll olds rs) := by
  split
  · next hkept => rw [resolve_kept, resolveAll_of_keepAll hkept]
  · rfl

end Lists

section Named

variable {olds : List (String × α)} {rs : List (Revised α)}

theorem resolveNamed_eq_zipWith :
    resolveNamed olds rs = List.zipWith (fun old r => (old.1, r.resolve old.2)) olds rs := by
  induction olds generalizing rs with
  | nil => rfl
  | cons old olds ih =>
    cases rs with
    | nil => rfl
    | cons r rs => exact congrArg ((old.1, r.resolve old.2) :: ·) ih

/-- The names are left for which there are revisions. -/
theorem map_fst_resolveNamed :
    (resolveNamed olds rs).map (·.1) = (olds.map (·.1)).take rs.length := by
  induction olds generalizing rs with
  | nil => exact List.take_nil.symm
  | cons old olds ih =>
    cases rs with
    | nil => rfl
    | cons r rs => exact congrArg (old.1 :: ·) ih

/-- With one revision for each, all names are left. -/
theorem map_fst_resolveNamed_of_length_le (h : olds.length ≤ rs.length) :
    (resolveNamed olds rs).map (·.1) = olds.map (·.1) := by
  rw [map_fst_resolveNamed, List.take_of_length_le (by rwa [List.length_map])]

/-- Each name carries what is given for its place. -/
theorem map_snd_resolveNamed :
    (resolveNamed olds rs).map (·.2) = List.zipWith (fun old r => r.resolve old.2) olds rs := by
  rw [resolveNamed_eq_zipWith, List.map_zipWith]

/-- Named nodes are resolved as the nodes are. -/
theorem map_snd_resolveNamed_eq_resolveAll (h : rs.length = olds.length) :
    (resolveNamed olds rs).map (·.2) = resolveAll (olds.map (·.2)) rs := by
  rw [map_snd_resolveNamed, resolveAll_eq_zipWith (by rw [h, List.length_map]),
    List.zipWith_map_left]

theorem resolveNamed_of_keepAll (h : keepAll olds.length rs = true) :
    resolveNamed olds rs = olds := by
  rw [keepAll_iff.mp h]
  clear h
  induction olds with
  | nil => rfl
  | cons old olds ih => exact congrArg (old :: ·) ih

theorem resolve_ite_keepAll_named (make : List (String × α) → β) :
    (if keepAll olds.length rs then kept else changed (make (resolveNamed olds rs))).resolve
        (make olds) = make (resolveNamed olds rs) := by
  split
  · next hkept => rw [resolve_kept, resolveNamed_of_keepAll hkept]
  · rfl

end Named

end Revised

open Revised

/-- A new node, with the checks of its construction. -/
def renew {α : Type} (result : Except ArgumentError α) : Except ArgumentError (Revised α) :=
  return .changed (← result)

/-! ### Expressions -/

/-- A function of revised arguments. -/
def Expression.updateArgs (function : VariadicFunction) (args : List Expression)
    (rs : List (Revised Expression)) : Except ArgumentError (Revised Expression) :=
  if keepAll args.length rs then .ok .kept else renew (variadic? function (resolveAll args rs))

/-- A computed document with revised values. -/
def Expression.updateFields (fields : List (String × Expression))
    (rs : List (Revised Expression)) : Revised Expression :=
  if keepAll fields.length rs then .kept else .changed (.document (resolveNamed fields rs))

/-- A computed array with revised items. -/
def Expression.updateItems (items : List Expression) (rs : List (Revised Expression)) :
    Revised Expression :=
  if keepAll items.length rs then .kept else .changed (.array (resolveAll items rs))

/-- An expression with any number of children, from revisions of them. -/
def Expression.update (rs : List (Revised Expression)) :
    Expression → Except ArgumentError (Revised Expression)
  | .variadic function args => updateArgs function args rs
  | .document fields => .ok (updateFields fields rs)
  | .array items => .ok (updateItems items rs)
  | _ => .ok .kept

/-- An accumulator with its argument revised. -/
def AccumulatorExpression.update (a : AccumulatorExpression) (r : Revised Expression) :
    Revised AccumulatorExpression :=
  r.map fun arg => { a with arg := arg }

/-! ### Filters -/

/-- A combination of revised filters. -/
def Filter.updateArgs (combine : List Filter → Except ArgumentError Filter) (args : List Filter)
    (rs : List (Revised Filter)) : Except ArgumentError (Revised Filter) :=
  if keepAll args.length rs then .ok .kept else renew (combine (resolveAll args rs))

/-- A filter with any number of children, from revisions of them. -/
def Filter.update (rs : List (Revised Filter)) :
    Filter → Except ArgumentError (Revised Filter)
  | .and args => Filter.updateArgs Filter.and? args rs
  | .or args => Filter.updateArgs Filter.or? args rs
  | .nor args => Filter.updateArgs Filter.nor? args rs
  | _ => .ok .kept

/-! ### Stages -/

/-- The revision leaves an entry of a projection as it is.  Entries that only name a path are
compared by it. -/
def Projection.isUnchanged : Projection → Revised Projection → Bool
  | _, .kept => true
  | .keep p, .changed (.keep q) => p == q
  | .drop p, .changed (.drop q) => p == q
  | _, .changed _ => false

/-- The revisions leave all entries of a projection as they are. -/
def Projection.allUnchanged : List Projection → List (Revised Projection) → Bool
  | [], [] => true
  | e :: es, r :: rs => e.isUnchanged r && allUnchanged es rs
  | _, _ => false

/-- A projection with revised entries. -/
def Stage.updateProjections (entries : List Projection) (rs : List (Revised Projection)) :
    Except ArgumentError (Revised Stage) :=
  if Projection.allUnchanged entries rs then .ok .kept else renew (project? (resolveAll entries rs))

/-- Fields set to revised values, one for each. -/
def Stage.updateFields (fields : List (String × Expression)) (rs : List (Revised Expression)) :
    Except ArgumentError (Revised Stage) := do
  ensure (rs.length == fields.length) "values" (.wrongValueCount fields.length rs.length)
  return if keepAll fields.length rs then .kept else .changed (.addFields (resolveNamed fields rs))

/-- A group with a revised key and revised accumulators, one for each. -/
def Stage.updateGroup (key : Expression) (accumulators : List (String × AccumulatorExpression))
    (r : Revised Expression) (rs : List (Revised AccumulatorExpression)) :
    Except ArgumentError (Revised Stage) := do
  ensure (rs.length == accumulators.length) "accumulators"
    (.wrongAccumulatorCount accumulators.length rs.length)
  return if r.isKept && keepAll accumulators.length rs then .kept
    else .changed (.group (r.resolve key) (resolveNamed accumulators rs))

/-- A pipeline with revised stages. -/
def Pipeline.update (p : Pipeline) (rs : List (Revised Stage)) : Revised Pipeline :=
  if keepAll p.stages.length rs then .kept else .changed ⟨resolveAll p.stages rs⟩

end DocQuery
