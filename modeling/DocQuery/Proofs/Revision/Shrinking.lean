import Mathlib
import DocQuery.Proofs.Pipeline.Equality
import DocQuery.Proofs.Revision.NormalForm

/-!
# Simplification keeps or shrinks

A step of simplification makes a node with fewer nodes of the one that it is taken on, or none at
all.  So the simplified tree is the tree itself or has fewer nodes, and since a tree that is
simplified to itself has normal nodes only, it is then kept and not just replaced by an equal one.
Each pass that changes a pipeline takes a node away, which bounds the number of passes.

## Main definitions

* `Shrinks` — the new tree is the old one or is smaller.
* `Revised.KeepsOrShrinks` — the node is kept, or the new one is smaller and not the same.
* `Pipeline.simplifiedTimes` — the pipeline after a number of passes.

## Main results

* `Expression.Steps.shrinks`, `Operation.Steps.shrinks`, `Filter.Steps.shrinks` — a step shrinks.
* `Expression.exists_shrinks`, `Filter.exists_shrinks`, `Pipeline.exists_shrinks` — so does
  simplification.
* `Pipeline.simplify_keepsOrShrinks` — **simplification keeps a tree or makes a smaller one, and
  there are not more passes that change a pipeline than it has nodes.**
-/

namespace DocQuery

open Revised
open Node (AllNormal AllNormalBut)

/-! ### Sizes -/

/-- The number of nodes. -/
def Expression.nodeCount (e : Expression) : Nat := e.nodes.length

/-- The number of nodes. -/
def Filter.nodeCount (f : Filter) : Nat := f.nodes.length

/-- The number of nodes. -/
def Operation.nodeCount (operation : Operation) : Nat := operation.nodes.length

/-- The number of nodes. -/
def Stage.nodeCount (stage : Stage) : Nat := stage.nodes.length

/-- The number of nodes. -/
def Pipeline.nodeCount (p : Pipeline) : Nat := p.nodes.length

/-- The sum of the sizes of trees. -/
def sizeOfAll {α : Type} (size : α → Nat) (trees : List α) : Nat :=
  (trees.map size).sum

section Sizes

variable {α : Type} {size : α → Nat}

@[simp] theorem sizeOfAll_nil : sizeOfAll size [] = 0 := rfl

@[simp] theorem sizeOfAll_cons (tree : α) (trees : List α) :
    sizeOfAll size (tree :: trees) = size tree + sizeOfAll size trees := rfl

@[simp] theorem sizeOfAll_append (front trees : List α) :
    sizeOfAll size (front ++ trees) = sizeOfAll size front + sizeOfAll size trees := by
  rw [sizeOfAll, List.map_append, List.sum_append]
  rfl

theorem length_flatMap_eq_sizeOfAll {nodes : α → List Node} (trees : List α) :
    (trees.flatMap nodes).length = sizeOfAll (fun tree => (nodes tree).length) trees := by
  rw [List.length_flatMap]
  rfl

end Sizes

namespace Expression

theorem length_nodesOfAll (es : List Expression) :
    (nodesOfAll es).length = sizeOfAll nodeCount es := by
  induction es with
  | nil => rfl
  | cons e es ih => rw [nodesOfAll, List.length_append, ih, sizeOfAll_cons, nodeCount]

theorem length_nodesOfFields (fields : List (String × Expression)) :
    (nodesOfFields fields).length = sizeOfAll (·.2.nodeCount) fields := by
  induction fields with
  | nil => rfl
  | cons field fields ih => rw [nodesOfFields, List.length_append, ih, sizeOfAll_cons, nodeCount]

@[simp] theorem nodeCount_constant (value : Value) : (constant value).nodeCount = 1 := rfl

@[simp] theorem nodeCount_unary (function : UnaryFunction) (arg : Expression) :
    (unary function arg).nodeCount = arg.nodeCount + 1 := rfl

@[simp] theorem nodeCount_binary (function : BinaryFunction) (left right : Expression) :
    (binary function left right).nodeCount = left.nodeCount + right.nodeCount + 1 :=
  congrArg (· + 1) List.length_append

@[simp] theorem nodeCount_variadic (function : VariadicFunction) (args : List Expression) :
    (variadic function args).nodeCount = sizeOfAll nodeCount args + 1 :=
  congrArg (· + 1) (length_nodesOfAll args)

@[simp] theorem nodeCount_document (fields : List (String × Expression)) :
    (document fields).nodeCount = sizeOfAll (·.2.nodeCount) fields + 1 :=
  congrArg (· + 1) (length_nodesOfFields fields)

@[simp] theorem nodeCount_array (items : List Expression) :
    (array items).nodeCount = sizeOfAll nodeCount items + 1 :=
  congrArg (· + 1) (length_nodesOfAll items)

@[simp] theorem nodeCount_getField (name : String) (input : Expression) :
    (getField name input).nodeCount = input.nodeCount + 1 := rfl

@[simp] theorem nodeCount_filter (input : Expression) (name : String) (condition : Expression) :
    (filter input name condition).nodeCount = input.nodeCount + condition.nodeCount + 1 :=
  congrArg (· + 1) List.length_append

@[simp] theorem nodeCount_map (input : Expression) (name : String) (body : Expression) :
    (map input name body).nodeCount = input.nodeCount + body.nodeCount + 1 :=
  congrArg (· + 1) List.length_append

theorem nodeCount_pos (e : Expression) : 0 < e.nodeCount := by
  cases e <;> exact Nat.succ_pos _

end Expression

theorem Filter.length_nodesOfAll (fs : List Filter) :
    (Filter.nodesOfAll fs).length = sizeOfAll nodeCount fs := by
  induction fs with
  | nil => rfl
  | cons f fs ih => rw [Filter.nodesOfAll, List.length_append, ih, sizeOfAll_cons, nodeCount]

@[simp] theorem Filter.nodeCount_field (target : Target) (operation : Operation) :
    (field target operation).nodeCount = operation.nodeCount + 1 := rfl

@[simp] theorem Filter.nodeCount_and (args : List Filter) :
    (and args).nodeCount = sizeOfAll nodeCount args + 1 :=
  congrArg (· + 1) (length_nodesOfAll args)

@[simp] theorem Filter.nodeCount_or (args : List Filter) :
    (or args).nodeCount = sizeOfAll nodeCount args + 1 :=
  congrArg (· + 1) (length_nodesOfAll args)

@[simp] theorem Filter.nodeCount_nor (args : List Filter) :
    (nor args).nodeCount = sizeOfAll nodeCount args + 1 :=
  congrArg (· + 1) (length_nodesOfAll args)

@[simp] theorem Filter.nodeCount_not (f : Filter) : (not f).nodeCount = f.nodeCount + 1 := rfl

@[simp] theorem Filter.nodeCount_expr (e : Expression) : (expr e).nodeCount = e.nodeCount + 1 := rfl

@[simp] theorem Operation.nodeCount_elemMatch (f : Filter) :
    (elemMatch f).nodeCount = f.nodeCount + 1 := rfl

@[simp] theorem Operation.nodeCount_not (operation : Operation) :
    (Operation.not operation).nodeCount = operation.nodeCount + 1 := rfl

theorem Operation.nodeCount_pos (operation : Operation) : 0 < operation.nodeCount := by
  cases operation <;> exact Nat.succ_pos _

/-! ### Trees that shrink -/

/-- The new tree is the old one, or it is smaller. -/
def Shrinks {α : Type} (size : α → Nat) (new old : α) : Prop :=
  new = old ∨ size new < size old

namespace Shrinks

variable {α β : Type} {size : α → Nat} {measure : β → Nat}

theorem refl (tree : α) : Shrinks size tree tree := .inl rfl

theorem of_lt {new old : α} (h : size new < size old) : Shrinks size new old := .inr h

theorem trans {a b c : α} (hab : Shrinks size a b) (hbc : Shrinks size b c) :
    Shrinks size a c := by
  rcases hab with rfl | hab
  · exact hbc
  · rcases hbc with rfl | hbc
    · exact .inr hab
    · exact .inr (hab.trans hbc)

/-- A node around a tree shrinks with it. -/
theorem congr {new old : α} (h : Shrinks size new old) {f : α → β} {k : Nat}
    (hmake : ∀ tree, measure (f tree) = size tree + k) :
    Shrinks measure (f new) (f old) := by
  rcases h with rfl | h
  · exact refl _
  · refine .inr ?_
    rw [hmake, hmake]
    exact Nat.add_lt_add_right h k

/-- A node around two trees shrinks with either of them. -/
theorem congr_two {γ : Type} {other : γ → Nat} {newLeft oldLeft : α} {newRight oldRight : γ}
    (hleft : Shrinks size newLeft oldLeft) (hright : Shrinks other newRight oldRight)
    {f : α → γ → β} {k : Nat}
    (hmake : ∀ left right, measure (f left right) = size left + other right + k) :
    Shrinks measure (f newLeft newRight) (f oldLeft oldRight) :=
  (hleft.congr (f := (f · newRight)) (k := other newRight + k) fun left => by
    rw [hmake, Nat.add_assoc]).trans
    (hright.congr (f := f oldLeft) (k := size oldLeft + k) fun right => by
      rw [hmake]
      omega)

/-- A named tree shrinks if it keeps its name. -/
theorem named {new old : String × α} (hname : new.1 = old.1) (h : Shrinks size new.2 old.2) :
    Shrinks (fun tree => size tree.2) new old := by
  obtain ⟨name, tree⟩ := new
  cases hname
  exact h.congr (k := 0) fun _ => rfl

/-- Trees shrink together if each of them does. -/
theorem all {olds news : List α}
    (h : List.Forall₂ (fun old new => Shrinks size new old) olds news) :
    Shrinks (sizeOfAll size) news olds := by
  induction h with
  | nil => exact refl []
  | cons hfirst _ ih =>
    exact hfirst.congr_two (f := List.cons) (k := 0) ih fun _ _ => rfl

end Shrinks

/-! ### Steps -/

/-- Operands shrink when they are spread, if each that has operands is larger than these. -/
theorem shrinks_spread {α : Type} {size : α → Nat} {operands? : α → Option (List α)}
    (h : ∀ arg args, operands? arg = some args → sizeOfAll size args < size arg) (args : List α) :
    Shrinks (sizeOfAll size) (spread operands? args) args := by
  induction args with
  | nil => exact .refl []
  | cons arg args ih =>
    rw [spread] at ih ⊢
    rw [List.flatMap_cons]
    cases hoperands : operands? arg with
    | none => exact ih.congr (f := (arg :: ·)) (k := size arg) fun _ => Nat.add_comm _ _
    | some operands =>
      have hfirst := h arg operands hoperands
      rw [Option.getD_some]
      -- however the other operands come out, the first one has lost a node
      refine .of_lt ?_
      rw [sizeOfAll_append, sizeOfAll_cons]
      rcases ih with hrest | hrest
      · rw [hrest]
        omega
      · omega

namespace Expression

theorem sizeOfAll_argsOf?_lt {function : VariadicFunction} (e : Expression)
    (args : List Expression) (h : argsOf? function e = some args) :
    sizeOfAll nodeCount args < e.nodeCount := by
  rw [argsOf?_eq_some_iff.mp h, nodeCount_variadic]
  exact Nat.lt_succ_self _

theorem Steps.shrinks {old new : Expression} (h : Steps old new) (hw : old.wellFormed = true) :
    Shrinks nodeCount new old := by
  cases h with
  | same => exact .refl _
  | @computed function args =>
    -- there are arguments, which the constant takes the place of
    obtain ⟨arg, rest, rfl⟩ := List.exists_cons_of_ne_nil
      ((wellFormed_variadic function args).mp hw).1
    have harg := arg.nodeCount_pos
    refine .of_lt ?_
    rw [nodeCount_constant, nodeCount_variadic, sizeOfAll_cons]
    omega
  | flattened args =>
    exact (shrinks_spread sizeOfAll_argsOf?_lt args).congr (f := variadic _) (k := 1)
      fun _ => nodeCount_variadic _ _
  | @subtracted left right =>
    have hleft := left.nodeCount_pos
    refine .of_lt ?_
    rw [nodeCount_constant, nodeCount_binary]
    omega

end Expression

theorem Operation.nodeCount_opposite {operation opposite : Operation}
    (h : operation.opposite? = some opposite) : opposite.nodeCount = 1 := by
  obtain ⟨_, _, rfl⟩ | ⟨_, rfl⟩ | ⟨_, rfl⟩ := opposite?_cases h
  all_goals rfl

theorem Operation.Steps.shrinks {old new : Operation} (h : Steps old new) :
    Shrinks nodeCount new old := by
  cases h with
  | same => exact .refl _
  | twiceNegated =>
    refine .of_lt ?_
    rw [nodeCount_not, nodeCount_not]
    omega
  | @opposite operation _ hopposite =>
    have hoperation := operation.nodeCount_pos
    refine .of_lt ?_
    rw [nodeCount_opposite hopposite, nodeCount_not]
    omega

namespace Filter

theorem sizeOfAll_conjuncts?_lt (f : Filter) (args : List Filter) (h : f.conjuncts? = some args) :
    sizeOfAll nodeCount args < f.nodeCount := by
  rw [conjuncts?_eq_some_iff.mp h, nodeCount_and]
  exact Nat.lt_succ_self _

theorem sizeOfAll_disjuncts?_lt (f : Filter) (args : List Filter) (h : f.disjuncts? = some args) :
    sizeOfAll nodeCount args < f.nodeCount := by
  rw [disjuncts?_eq_some_iff.mp h, nodeCount_or]
  exact Nat.lt_succ_self _

theorem Steps.shrinks {old new : Filter} (h : Steps old new) : Shrinks nodeCount new old := by
  cases h with
  | same => exact .refl _
  | conjuncts args =>
    exact (shrinks_spread sizeOfAll_conjuncts?_lt args).congr (f := Filter.and) (k := 1)
      nodeCount_and
  | disjuncts args =>
    exact (shrinks_spread sizeOfAll_disjuncts?_lt args).congr (f := Filter.or) (k := 1) nodeCount_or
  | @opposite target operation _ hopposite =>
    have hoperation := operation.nodeCount_pos
    refine .of_lt ?_
    rw [nodeCount_field, nodeCount_not, nodeCount_field, Operation.nodeCount_opposite hopposite]
    omega
  -- everywhere else nodes are left out, and what stands below them stays
  | _ =>
    refine .of_lt ?_
    simp only [nodeCount_and, nodeCount_or, nodeCount_nor, nodeCount_not, nodeCount_field,
      Operation.nodeCount_not, sizeOfAll_cons, sizeOfAll_nil]
    omega

end Filter

/-! ### Simplification -/

namespace Expression

/-- What a part is simplified to. -/
private theorem gives_part {e : Expression} (hw : e.wellFormed = true)
    (ih : e.wellFormed = true → Gives e.simplified fun new => Shrinks nodeCount new e) :
    Gives e.simplified fun new => new.wellFormed = true ∧ Shrinks nodeCount new e := by
  intro new hnew
  obtain ⟨new', hnew', hwf, -⟩ := congruent_true.simplified e hw
  obtain rfl : new = new' := Except.ok.inj (hnew.symm.trans hnew')
  exact ⟨hwf, ih hw new hnew⟩

/-- A node that shrinks with its parts does so with the step that it takes. -/
private theorem gives_stepped_shrinks {rebuilt old : Expression} (hw : rebuilt.wellFormed = true)
    (h : Shrinks nodeCount rebuilt old) :
    Gives rebuilt.stepped fun new => Shrinks nodeCount new old := by
  obtain ⟨new, hnew, hsteps⟩ := stepped_eq_ok hw
  rw [hnew]
  exact .ok ((hsteps.shrinks hw).trans h)

private theorem gives_simplified_shrinks (e : Expression) (hw : e.wellFormed = true) :
    Gives e.simplified fun new => Shrinks nodeCount new e := by
  induction e using Expression.induction with
  | constant value => exact .ok (.refl _)
  | field scope path => exact .ok (.refl _)
  | var name => exact .ok (.refl _)
  | unary function arg ih =>
    rw [simplified_unary]
    exact (ih hw).bind fun new hnew => .ok (hnew.congr (nodeCount_unary function))
  | binary function left right ihl ihr =>
    rw [wellFormed, Bool.and_eq_true] at hw
    rw [simplified_binary]
    refine (gives_part hw.1 ihl).bind fun a ha => (gives_part hw.2 ihr).bind fun b hb => ?_
    refine gives_stepped_shrinks ?_ (ha.2.congr_two hb.2 (nodeCount_binary function))
    rw [wellFormed, ha.1, hb.1, Bool.and_self]
  | variadic function args ih =>
    obtain ⟨hne, hargs⟩ := (wellFormed_variadic function args).mp hw
    rw [simplified_variadic]
    refine (Gives.mapM_forall₂ fun e he => gives_part (hargs e he) (ih e he)).bind
      fun news hnews => gives_stepped_shrinks ?_
        ((Shrinks.all (hnews.imp fun _ _ hnew => hnew.2)).congr (nodeCount_variadic function))
    refine (wellFormed_variadic function news).mpr
      ⟨?_, forall_mem_of_forall₂ hnews fun _ _ hnew => hnew.1⟩
    rintro rfl
    cases hnews
    exact hne rfl
  | document fields ih =>
    have hfields := ((wellFormed_document fields).mp hw).2
    rw [simplified_document]
    refine (Gives.mapM_forall₂ (r := fun old new => Shrinks (·.2.nodeCount) new old)
      fun field hfield => (ih field hfield (hfields field hfield)).map fun new hnew => ?_).bind
        fun news hnews => .ok ((Shrinks.all hnews).congr nodeCount_document)
    exact hnew.congr (k := 0) fun _ => rfl
  | array items ih =>
    have hitems := (wellFormed_array items).mp hw
    rw [simplified_array]
    exact (Gives.mapM_forall₂ fun e he => ih e he (hitems e he)).bind
      fun news hnews => .ok ((Shrinks.all hnews).congr nodeCount_array)
  | getField name input ih =>
    rw [simplified_getField]
    exact (ih ((wellFormed_getField name input).mp hw).2).bind
      fun new hnew => .ok (hnew.congr (nodeCount_getField name))
  | filter input name condition ihi ihc =>
    obtain ⟨-, hinput, hcondition⟩ := (wellFormed_filter input name condition).mp hw
    rw [simplified_filter]
    exact (ihi hinput).bind fun a ha => (ihc hcondition).bind fun b hb =>
      .ok (ha.congr_two hb (nodeCount_filter · name ·))
  | map input name body ihi ihb =>
    obtain ⟨-, hinput, hbody⟩ := (wellFormed_map input name body).mp hw
    rw [simplified_map]
    exact (ihi hinput).bind fun a ha => (ihb hbody).bind fun b hb =>
      .ok (ha.congr_two hb (nodeCount_map · name ·))

/-- A well-formed expression is simplified to itself or to a smaller one. -/
theorem exists_shrinks : SimplifiesTo (Shrinks nodeCount) := by
  intro e hw
  obtain ⟨new, hnew, hwf, -⟩ := congruent_true.simplified e hw
  exact ⟨new, hnew, hwf, gives_simplified_shrinks e hw new hnew⟩

end Expression

private theorem Operation.gives_stepped_shrinks {rebuilt old : Operation}
    (h : Shrinks nodeCount rebuilt old) :
    Gives rebuilt.stepped fun new => Shrinks nodeCount new old := by
  obtain ⟨new, hnew, hsteps⟩ := stepped_eq_ok rebuilt
  rw [hnew]
  exact .ok (hsteps.shrinks.trans h)

namespace Filter

private theorem gives_part {f : Filter} (hw : f.wellFormed = true)
    (ih : f.wellFormed = true → Gives f.simplified fun new => Shrinks nodeCount new f) :
    Gives f.simplified fun new => new.wellFormed = true ∧ Shrinks nodeCount new f :=
  fun new hnew => ⟨gives_wellFormed_simplified hw new hnew, ih hw new hnew⟩

private theorem gives_stepped_shrinks {rebuilt old : Filter} (hw : rebuilt.wellFormed = true)
    (h : Shrinks nodeCount rebuilt old) :
    Gives rebuilt.stepped fun new => Shrinks nodeCount new old := by
  obtain ⟨new, hnew, hsteps⟩ := stepped_eq_ok hw
  rw [hnew]
  exact .ok (hsteps.shrinks.trans h)

/-- A combination shrinks with its operands. -/
private theorem gives_simplified_combination_shrinks {make : List Filter → Filter}
    (hsimplified : ∀ args,
      (make args).simplified = (do Filter.stepped (make (← args.mapM Filter.simplified))))
    (hwf : ∀ args, (make args).wellFormed = true ↔ args ≠ [] ∧ ∀ f ∈ args, f.wellFormed = true)
    (hcount : ∀ args, (make args).nodeCount = sizeOfAll nodeCount args + 1) (args : List Filter)
    (ih : ∀ f ∈ args, f.wellFormed = true → Gives f.simplified fun new => Shrinks nodeCount new f)
    (hw : (make args).wellFormed = true) :
    Gives (make args).simplified fun new => Shrinks nodeCount new (make args) := by
  obtain ⟨hne, hargs⟩ := (hwf args).mp hw
  rw [hsimplified]
  refine (Gives.mapM_forall₂ fun f hf => gives_part (hargs f hf) (ih f hf)).bind
    fun news hnews => gives_stepped_shrinks ?_
      ((Shrinks.all (hnews.imp fun _ _ hnew => hnew.2)).congr hcount)
  refine (hwf news).mpr ⟨?_, forall_mem_of_forall₂ hnews fun _ _ hnew => hnew.1⟩
  rintro rfl
  cases hnews
  exact hne rfl

private theorem gives_simplified_shrinks_and :
    (∀ f : Filter, f.wellFormed = true →
      Gives f.simplified fun new => Shrinks nodeCount new f) ∧
    ∀ operation : Operation, operation.wellFormed = true →
      Gives operation.simplified fun new => Shrinks Operation.nodeCount new operation := by
  apply Filter.induction
  case field =>
    intro target operation ih hw
    rw [simplified_field]
    exact (ih ((wellFormed_field _ _).mp hw).2).bind fun new hnew =>
      .ok (hnew.congr (nodeCount_field target))
  case and => exact gives_simplified_combination_shrinks simplified_and wellFormed_and nodeCount_and
  case or => exact gives_simplified_combination_shrinks simplified_or wellFormed_or nodeCount_or
  case nor => exact gives_simplified_combination_shrinks simplified_nor wellFormed_nor nodeCount_nor
  case not =>
    intro f ih hw
    rw [simplified_not]
    refine (gives_part (f := f) hw ih).bind fun new hnew => ?_
    have hwnew : (not new).wellFormed = true := hnew.1
    exact gives_stepped_shrinks hwnew (hnew.2.congr nodeCount_not)
  case expr =>
    intro e hw
    obtain ⟨new, hnew, -, hshrinks⟩ := Expression.exists_shrinks e hw
    rw [simplified_expr, hnew]
    exact .ok (hshrinks.congr nodeCount_expr)
  case elemMatch =>
    intro f ih hw
    rw [Operation.simplified_elemMatch]
    exact (ih hw).bind fun new hnew => .ok (hnew.congr Operation.nodeCount_elemMatch)
  case negation =>
    intro operation ih hw
    rw [Operation.simplified_not]
    exact (ih hw).bind fun new hnew =>
      Operation.gives_stepped_shrinks (hnew.congr Operation.nodeCount_not)
  case plain =>
    intro operation hmatch hnot _
    rw [Operation.simplified_plain hmatch hnot]
    exact .ok (.refl _)

/-- A well-formed filter is simplified to itself or to a smaller one. -/
theorem exists_shrinks : SimplifiesTo (Shrinks nodeCount) := by
  intro f hw
  obtain ⟨new, hnew, hwf, -⟩ := congruent_true.simplified f hw
  exact ⟨new, hnew, hwf, gives_simplified_shrinks_and.1 f hw new hnew⟩

end Filter

/-! ### Stages and pipelines -/

namespace Stage

/-- A stage shrinks with its parts. -/
theorem Related.shrinks {new old : Stage}
    (h : Related (Shrinks Filter.nodeCount) (Shrinks Expression.nodeCount) new old) :
    Shrinks nodeCount new old := by
  cases h with
  | plain _ => exact .refl _
  | select hf => exact hf.congr (k := 1) fun _ => rfl
  | @project news olds hentries =>
    let size (entry : Projection) : Nat := entry.nodes.length
    have hall : List.Forall₂ (fun old new => Shrinks size new old) olds news := by
      refine hentries.imp fun _ _ hentry => ?_
      cases hentry with
      | compute hvalue => exact hvalue.congr (k := 0) fun _ => rfl
      | _ => exact .refl _
    exact (Shrinks.all hall).congr (k := 1) fun entries =>
      congrArg (· + 1) (length_flatMap_eq_sizeOfAll entries)
  | replaceRoot he => exact he.congr (k := 1) fun _ => rfl
  | addFields hfields =>
    exact (Shrinks.all (hfields.imp fun _ _ hfield => .named hfield.1 hfield.2)).congr (k := 1)
      fun fields => congrArg (· + 1) (Expression.length_nodesOfFields fields)
  | @group newKey oldKey news olds hkey haccumulators =>
    have haccumulator {new old : AccumulatorExpression} (hoperator : new.operator = old.operator)
        (harg : Shrinks Expression.nodeCount new.arg old.arg) :
        Shrinks (fun a => a.nodes.length) new old := by
      obtain ⟨operator, arg⟩ := new
      cases hoperator
      exact harg.congr (f := AccumulatorExpression.mk _) (k := 1) fun _ => rfl
    refine hkey.congr_two (f := Stage.group) (k := 1) (Shrinks.all (haccumulators.imp
      fun _ _ ha => .named ha.1 (haccumulator ha.2.1 ha.2.2))) fun key accumulators => ?_
    rw [nodeCount, Stage.nodes, List.length_cons, List.length_append, length_flatMap_eq_sizeOfAll]
    rfl

end Stage

/-! ### What a revision keeps -/

/-- The revision keeps the node exactly if what it resolves to is the same, and it is smaller
otherwise. -/
structure Revised.KeepsOrShrinks {α : Type} (same : α → α → Bool) (size : α → Nat) (old : α)
    (r : Revised α) : Prop where
  kept_iff : r = .kept ↔ same (r.resolve old) old = true
  smaller : r ≠ .kept → size (r.resolve old) < size old

/-- A revision that keeps what it leaves unchanged keeps or shrinks. -/
theorem Revised.keepsOrShrinks {α : Type} {same : α → α → Bool} {size : α → Nat} {old : α}
    {r : Revised α} (hself : same old old = true)
    (hsize : ∀ new, same new old = true → size new = size old)
    (hshrinks : Shrinks size (r.resolve old) old) (hkept : r.resolve old = old → r = .kept) :
    r.KeepsOrShrinks same size old where
  kept_iff := by
    constructor
    · rintro rfl
      exact hself
    · intro hsame
      rcases hshrinks with hunchanged | hless
      · exact hkept hunchanged
      · exact absurd (hsize _ hsame) hless.ne
  smaller hchanged := hshrinks.resolve_left fun hunchanged => hchanged (hkept hunchanged)

/-! ### Trees that are simplified to themselves -/

/-- All nodes are normal if they are so and their disjunctions are flat. -/
theorem Node.allNormal_of_areFlat {nodes : List Node}
    (h : AllNormalBut (fun args => Filter.areFlat .orFilter args = true) nodes) :
    AllNormal nodes :=
  fun node hnode => isNormalBut_areFlat_iff.mp (h node hnode)

open Node (allNormal_of_areFlat)

theorem Expression.exists_keepsOrShrinks (e : Expression) (hw : e.wellFormed = true) :
    ∃ r, simplifier.reviseExpression e = .ok r ∧ r.KeepsOrShrinks Expression.same nodeCount e := by
  obtain ⟨r, hr, -, hshrinks⟩ := exists_revised (exists_shrinks e hw)
  refine ⟨r, hr, Revised.keepsOrShrinks e.same_self (fun _ => length_nodes_of_same) hshrinks
    fun hunchanged => ?_⟩
  have hsimplified : e.simplified = .ok e := by rw [simplified, hr, resolved_ok, hunchanged]
  have hnormal := allNormal_of_areFlat (e.gives_simplified e hsimplified)
  exact Except.ok.inj (hr.symm.trans (e.revise_eq_kept_iff.mpr hnormal))

theorem Filter.exists_keepsOrShrinks (f : Filter) (hw : f.wellFormed = true) :
    ∃ r, simplifier.reviseFilter f = .ok r ∧ r.KeepsOrShrinks Filter.same nodeCount f := by
  obtain ⟨r, hr, -, hshrinks⟩ := exists_revised (exists_shrinks f hw)
  refine ⟨r, hr, Revised.keepsOrShrinks f.same_self (fun _ => length_nodes_of_same) hshrinks
    fun hunchanged => ?_⟩
  have hsimplified : f.simplified = .ok f := by rw [simplified, hr, resolved_ok, hunchanged]
  -- what one pass leaves of disjunctions, another one would not, and here both leave the same
  have honce := (hereditary_nodes fun _ => True).gives_simplified spreadsOut_true
    (fun _ _ _ _ _ _ => trivial) hw f hsimplified
  have htwice := (hereditary_normal _ _).gives_simplified spreadsOut_areFlat honce hw f hsimplified
  exact Except.ok.inj (hr.symm.trans (f.revise_eq_kept_iff.mpr (allNormal_of_areFlat htwice)))

namespace Pipeline

theorem length_stages_le_nodeCount (p : Pipeline) : p.stages.length ≤ p.nodeCount := by
  rw [nodeCount, nodes, List.length_flatMap]
  have hle := List.length_le_sum_of_one_le (p.stages.map fun stage => stage.nodes.length)
    (List.forall_mem_map.mpr fun _ _ => Nat.succ_pos _)
  rwa [List.length_map] at hle

/-- What simplification leads to holds of a pipeline that it leaves unchanged. -/
private theorem normal_of_unchanged {p : Pipeline} {disjuncts : List Filter → Prop}
    {c : Filter → Prop} {tested : Operation → Prop} {r : Revised Pipeline}
    (hr : simplify p = .ok r) (hunchanged : r.resolve p = p)
    (h : Filter.Hereditary disjuncts c tested) (hdisjuncts : Filter.SpreadsOut disjuncts)
    (hw : p.wellFormed = true) (hc : ∀ f, .select f ∈ p.stages → c f) :
    AllNormalBut disjuncts p.nodes := by
  obtain ⟨r', hr', -, hnormal⟩ := simplify_normal h hdisjuncts hw hc
  obtain rfl : r = r' := Except.ok.inj (hr.symm.trans hr')
  rwa [hunchanged] at hnormal

theorem exists_keepsOrShrinks {p : Pipeline} (hw : p.wellFormed = true) :
    ∃ r, simplify p = .ok r ∧ (r.resolve p).wellFormed = true ∧
      (r.resolve p).stages.length = p.stages.length ∧
      r.KeepsOrShrinks Pipeline.same nodeCount p := by
  obtain ⟨r, hr, hwf, hstages⟩ :=
    simplify_eq_ok_of_simplifiesTo Filter.exists_shrinks Expression.exists_shrinks hw
  have hshrinks : Shrinks nodeCount (r.resolve p) p :=
    (Shrinks.all (hstages.imp fun _ _ hstage => hstage.shrinks)).congr (f := Pipeline.mk) (k := 0)
      fun stages => length_flatMap_eq_sizeOfAll stages
  refine ⟨r, hr, hwf, hstages.length_eq.symm, Revised.keepsOrShrinks p.same_self
    (fun _ => length_nodes_of_same) hshrinks fun hunchanged => ?_⟩
  have honce := normal_of_unchanged hr hunchanged (Filter.hereditary_nodes fun _ => True)
    Filter.spreadsOut_true hw fun _ _ _ _ _ _ _ _ => trivial
  have htwice := normal_of_unchanged hr hunchanged (Filter.hereditary_normal _ _)
    Filter.spreadsOut_areFlat hw fun f hf =>
      (Node.allNormalBut_cons.mp (List.forall_mem_flatMap.mp honce _ hf)).2
  exact Except.ok.inj (hr.symm.trans (p.simplify_eq_kept_iff.mpr (allNormal_of_areFlat htwice)))

/-- The pipeline after a number of passes of simplification. -/
def simplifiedTimes : Nat → Pipeline → Except ArgumentError Pipeline
  | 0, p => .ok p
  | n + 1, p => do simplifiedTimes n ((← simplify p).resolve p)

/-- The passes that change a pipeline are at most as many as it has nodes besides its stages. -/
theorem exists_simplifiedTimes {p : Pipeline} (hw : p.wellFormed = true) :
    ∃ n q, n + p.stages.length ≤ p.nodeCount ∧ simplifiedTimes n p = .ok q ∧
      simplify q = .ok .kept := by
  induction hsize : p.nodeCount using Nat.strong_induction_on generalizing p with
  | _ size ih =>
    subst hsize
    obtain ⟨r, hr, hwf, hstages, hchange⟩ := exists_keepsOrShrinks hw
    cases r with
    | kept => exact ⟨0, p, by simpa using p.length_stages_le_nodeCount, rfl, hr⟩
    | changed new =>
      have hless := hchange.smaller nofun
      obtain ⟨n, q, hn, hq, hkept⟩ := ih _ hless hwf rfl
      rw [hstages] at hn
      refine ⟨n + 1, q, by omega, ?_, hkept⟩
      rw [simplifiedTimes, hr]
      exact hq

/-- **Simplification keeps a tree or makes a smaller one.**  It does not fail on well-formed
expressions, filters and pipelines, keeps them exactly if the outcome is the same as before, and
leaves fewer nodes of them otherwise.  So after at most as many passes as a pipeline has nodes
besides its stages, the next one keeps it. -/
theorem simplify_keepsOrShrinks :
    (∀ e : Expression, e.wellFormed = true →
      ∃ r, simplifier.reviseExpression e = .ok r ∧
        r.KeepsOrShrinks Expression.same Expression.nodeCount e) ∧
    (∀ f : Filter, f.wellFormed = true →
      ∃ r, simplifier.reviseFilter f = .ok r ∧ r.KeepsOrShrinks Filter.same Filter.nodeCount f) ∧
    ∀ p : Pipeline, p.wellFormed = true →
      (∃ r, simplify p = .ok r ∧ r.KeepsOrShrinks Pipeline.same nodeCount p) ∧
      ∃ n q, n + p.stages.length ≤ p.nodeCount ∧ simplifiedTimes n p = .ok q ∧
        simplify q = .ok .kept := by
  refine ⟨Expression.exists_keepsOrShrinks, Filter.exists_keepsOrShrinks, fun p hw =>
    ⟨?_, exists_simplifiedTimes hw⟩⟩
  obtain ⟨r, hr, -, -, hchange⟩ := exists_keepsOrShrinks hw
  exact ⟨r, hr, hchange⟩

/-- A nested sum shrinks, a test is kept, and the passes on a negated `nor` of ten nodes end after
nine at most. -/
theorem simplify_keepsOrShrinks_nested :
    let sum : Expression := .variadic .add [.constant (.int 1),
      .variadic .add [.constant (.int 2), .field none "x"]]
    let flat : Expression :=
      .variadic .add [.constant (.int 1), .constant (.int 2), .field none "x"]
    let a : Filter := .field (.path "a") (.compare .gt (.int 1))
    let b : Filter := .field (.path "b") (.exists true)
    let p : Pipeline := ⟨[.select (.not (.nor [.or [a, b], a]))]⟩
    (sum.wellFormed = true ∧ simplifier.reviseExpression sum = .ok (.changed flat) ∧
      flat.same sum = false ∧ flat.nodeCount < sum.nodeCount) ∧
    (a.wellFormed = true ∧ simplifier.reviseFilter a = .ok .kept ∧ a.same a = true) ∧
    p.wellFormed = true ∧ ∃ n q, n ≤ 9 ∧ simplifiedTimes n p = .ok q ∧ simplify q = .ok .kept := by
  intro sum flat a b p
  obtain ⟨hexpressions, hfilters, hpipelines⟩ := simplify_keepsOrShrinks
  refine ⟨⟨rfl, rfl, ?_⟩, ⟨rfl, rfl, ?_⟩, rfl, ?_⟩
  · obtain ⟨r, hr, hchange⟩ := hexpressions sum rfl
    obtain rfl : .changed flat = r := Except.ok.inj hr
    refine ⟨?_, hchange.smaller nofun⟩
    exact Bool.eq_false_iff.mpr fun hsame => nomatch hchange.kept_iff.mpr hsame
  · obtain ⟨r, hr, hchange⟩ := hfilters a rfl
    obtain rfl : .kept = r := Except.ok.inj hr
    exact hchange.kept_iff.mp rfl
  · obtain ⟨n, q, hn, hq, hkept⟩ := (hpipelines p rfl).2
    have hcount : p.nodeCount = 10 := rfl
    rw [hcount] at hn
    exact ⟨n, q, Nat.le_of_add_le_add_right hn, hq, hkept⟩

end Pipeline

end DocQuery
