import DocQuery.Proofs.Revision.Kept
import DocQuery.Proofs.Revision.WellFormed

/-!
# Normal forms

Simplification takes one step at the top of each node, after what is inside of it.  Such a step makes
normal nodes of normal parts, with one exception: the negation of a `nor` becomes a disjunction of
its operands, which may be a single one or disjunctions themselves, and no further step is taken
there.  So one pass may leave disjunctions that are not normal.  It leaves no other nodes that are
not, in particular no more negations of this sort, so that a second pass makes all nodes normal.

## Main definitions

* `Node.IsNormalBut` — the node is normal, where of the operands of a disjunction something else is
  known.
* `Filter.Hereditary` — what is known of filters and operations carries over to their parts, and says
  what negations of a `nor` lead to.

## Main results

* `Expression.gives_simplified` — expressions are simplified to normal nodes.
* `Filter.Hereditary.gives_simplified` — so are filters, where disjunctions are as good as those that
  the negation of a `nor` leads to.
* `Pipeline.simplify_simplify` — **two passes always lead to normal nodes, and one does unless some
  negation of a `nor` stands in its way.**
-/

namespace DocQuery

open Revised

/-! ### Nodes that are normal but for disjunctions -/

namespace Node

/-- The node is normal; if it is a disjunction, its operands have the property instead. -/
def IsNormalBut (p : List Filter → Prop) : Node → Prop
  | .filter (.or args) => p args
  | node => node.isNormal = true

/-- All of the nodes are normal; the operands of disjunctions have the property instead. -/
def AllNormalBut (p : List Filter → Prop) (nodes : List Node) : Prop :=
  ∀ node ∈ nodes, node.IsNormalBut p

variable {p : List Filter → Prop} {node : Node} {nodes : List Node}

theorem allNormalBut_cons :
    AllNormalBut p (node :: nodes) ↔ node.IsNormalBut p ∧ AllNormalBut p nodes :=
  List.forall_mem_cons

theorem allNormalBut_append {front : List Node} :
    AllNormalBut p (front ++ nodes) ↔ AllNormalBut p front ∧ AllNormalBut p nodes :=
  List.forall_mem_append

theorem allNormalBut_singleton : AllNormalBut p [node] ↔ node.IsNormalBut p :=
  List.forall_mem_singleton

/-- Nothing is left out if disjunctions are normal as well. -/
theorem isNormalBut_areFlat_iff :
    node.IsNormalBut (fun args => Filter.areFlat .orFilter args = true)
      ↔ node.isNormal = true := by
  cases node with
  | filter f => cases f <;> exact Iff.rfl
  | _ => exact Iff.rfl

theorem IsNormalBut.isNormal_or (h : node.IsNormalBut p) :
    node.isNormal = true ∨ ∃ args, node = .filter (.or args) := by
  cases node with
  | filter f =>
    cases f with
    | or args => exact .inr ⟨args, rfl⟩
    | _ => exact .inl h
  | _ => exact .inl h

end Node

open Node (AllNormal AllNormalBut allNormalBut_cons allNormalBut_append allNormalBut_singleton)

/-! ### Steps that make a node anew -/

theorem renew_eq_changed_iff {α : Type} {result : Except ArgumentError α} {new : α} :
    renew result = .ok (.changed new) ↔ result = .ok new := by
  cases result <;> simp [renew]

/-- A step keeps the node or makes it anew. -/
theorem resolved_eq_ok_iff {α : Type} {old new : α} {r : Except ArgumentError (Revised α)} :
    resolved old r = .ok new ↔ (r = .ok .kept ∧ new = old) ∨ r = .ok (.changed new) := by
  cases r with
  | error e => simp
  | ok r => cases r <;> simp [eq_comm]

/-- The operands that a combination is made anew of are as many at least. -/
theorem length_le_length_spread {α : Type} {operands? : α → Option (List α)} {args : List α}
    (h : ∀ a ∈ args, ∀ as, operands? a = some as → as ≠ []) :
    args.length ≤ (spread operands? args).length := by
  induction args with
  | nil => exact Nat.zero_le _
  | cons a args ih =>
    obtain ⟨ha, hargs⟩ := List.forall_mem_cons.mp h
    have hfirst : 1 ≤ ((operands? a).getD [a]).length := by
      cases hoperands : operands? a with
      | none => exact Nat.le_refl 1
      | some as => exact List.length_pos_iff.mpr (ha as hoperands)
    have hrest := ih hargs
    rw [spread] at hrest ⊢
    rw [List.flatMap_cons, List.length_append, List.length_cons]
    omega

namespace Expression

variable {p : List Filter → Prop}

private theorem gives_stepped {e : Expression} {parts : List Node}
    (hnodes : e.nodes = .expression e :: parts) (hparts : AllNormalBut p parts)
    (hchanged : ∀ new, simplerExpression e = .ok (.changed new) → AllNormalBut p new.nodes) :
    Gives e.stepped fun new => AllNormalBut p new.nodes := by
  intro new hnew
  rcases resolved_eq_ok_iff.mp hnew with ⟨hkept, rfl⟩ | hnew
  · rw [hnodes, allNormalBut_cons]
    exact ⟨simplerExpression_eq_kept_iff.mp hkept, hparts⟩
  · exact hchanged new hnew

/-- Arguments are not taken out of arguments that apply the function once more. -/
private theorem all_not_applies_spread {function : VariadicFunction} {args : List Expression}
    (hassociative : function.isAssociative = true) (hargs : ∀ e ∈ args, AllNormalBut p e.nodes) :
    (spread (argsOf? function) args).all (!·.applies function) = true := by
  refine List.all_eq_true.mpr (List.forall_mem_flatMap.mpr fun e he => ?_)
  cases hes : argsOf? function e with
  | none =>
    refine List.forall_mem_singleton.mpr ?_
    have hnested : isNested (argsOf? function) [e] = false := by simp [isNested, hes]
    simpa using isNested_argsOf?_eq_false_iff.mp hnested
  | some es =>
    have hnormal := hargs e he
    obtain rfl := argsOf?_eq_some_iff.mp hes
    have htop : (variadic function es).isNormal = true := (allNormalBut_cons.mp hnormal).1
    rw [isNormal, hassociative, Bool.not_true, Bool.false_or, Bool.and_eq_true] at htop
    exact List.all_eq_true.mp htop.1

/-- What is made anew of a function of normal arguments is normal. -/
private theorem normal_of_changed_variadic {function : VariadicFunction} {args : List Expression}
    (hargs : ∀ e ∈ args, AllNormalBut p e.nodes) {new : Expression}
    (h : simplerExpression (variadic function args) = .ok (.changed new)) :
    AllNormalBut p new.nodes := by
  rw [simplerExpression] at h
  split at h
  case isFalse => cases h
  case isTrue hassociative =>
    dsimp only at h
    cases hconstant : function.constant? (spread (argsOf? function) args) with
    | some n =>
      rw [hconstant] at h
      cases h
      exact allNormalBut_singleton.mpr rfl
    | none =>
      rw [hconstant] at h
      dsimp only at h
      split at h
      case isFalse => cases h
      case isTrue =>
        have hspread : ∀ e ∈ spread (argsOf? function) args, AllNormalBut p e.nodes := by
          refine forall_mem_spread_of_forall_mem (fun e es he hes => ?_) hargs
          obtain rfl := argsOf?_eq_some_iff.mp hes
          exact forall_mem_nodesOfAll.mp (allNormalBut_cons.mp he).2
        have htop : (variadic function (spread (argsOf? function) args)).isNormal = true := by
          rw [isNormal, all_not_applies_spread hassociative hargs, hconstant]
          exact Bool.or_true _
        have hne : spread (argsOf? function) args ≠ [] := by
          intro hnil
          rw [hnil] at h
          cases h
        rw [variadic?_of_ne_nil function _ hne] at h
        cases h
        exact allNormalBut_cons.mpr ⟨htop, forall_mem_nodesOfAll.mpr hspread⟩

/-- Only a difference of two arguments is made anew. -/
private theorem normal_of_changed_binary {function : BinaryFunction} {left right new : Expression}
    (h : simplerExpression (binary function left right) = .ok (.changed new)) :
    AllNormalBut p new.nodes := by
  cases function with
  | subtract =>
    rw [simplerExpression] at h
    split at h
    · cases h
      exact allNormalBut_singleton.mpr rfl
    · cases h
  | _ => cases h

/-- The nodes of a simplified expression are normal. -/
theorem gives_simplified (e : Expression) :
    Gives e.simplified fun new => AllNormalBut p new.nodes := by
  induction e using Expression.induction with
  | constant value => exact .ok (allNormalBut_singleton.mpr rfl)
  | field scope path => exact .ok (allNormalBut_singleton.mpr rfl)
  | var name => exact .ok (allNormalBut_singleton.mpr rfl)
  | unary function arg ih =>
    rw [simplified_unary]
    exact ih.bind fun _ harg => gives_stepped rfl harg nofun
  | binary function left right ihl ihr =>
    rw [simplified_binary]
    exact ihl.bind fun _ hleft => ihr.bind fun _ hright =>
      gives_stepped rfl (allNormalBut_append.mpr ⟨hleft, hright⟩) fun _ =>
        normal_of_changed_binary
  | variadic function args ih =>
    rw [simplified_variadic]
    exact (Gives.mapM ih).bind fun _ hargs =>
      gives_stepped rfl (forall_mem_nodesOfAll.mpr hargs) fun _ => normal_of_changed_variadic hargs
  | document fields ih =>
    rw [simplified_document]
    have hfields : Gives (fields.mapM fun field => (field.1, ·) <$> field.2.simplified) fun news =>
        ∀ field ∈ news, AllNormalBut p field.2.nodes :=
      Gives.mapM fun field hfield => (ih field hfield).map fun _ hvalue => hvalue
    exact hfields.bind fun _ hnews =>
      gives_stepped rfl (forall_mem_nodesOfFields.mpr hnews) nofun
  | array items ih =>
    rw [simplified_array]
    exact (Gives.mapM ih).bind fun _ hitems =>
      gives_stepped rfl (forall_mem_nodesOfAll.mpr hitems) nofun
  | getField name input ih =>
    rw [simplified_getField]
    exact ih.bind fun _ hinput => gives_stepped rfl hinput nofun
  | filter input name condition ihi ihc =>
    rw [simplified_filter]
    exact ihi.bind fun _ hinput => ihc.bind fun _ hcondition =>
      gives_stepped rfl (allNormalBut_append.mpr ⟨hinput, hcondition⟩) nofun
  | map input name body ihi ihb =>
    rw [simplified_map]
    exact ihi.bind fun _ hinput => ihb.bind fun _ hbody =>
      gives_stepped rfl (allNormalBut_append.mpr ⟨hinput, hbody⟩) nofun

end Expression

/-! ### Filters and operations -/

/-- What is made anew of operands that are not a single one is not a single one, and flat if that is
so for the operands that some of them have. -/
theorem areFlat_spread {operands? : Filter → Option (List Filter)} {kind : NodeKind}
    (h : ∀ f, (operands? f).isSome = (f.kind == kind)) {args : List Filter}
    (hlength : args.length ≠ 1)
    (hargs : ∀ f ∈ args, ∀ fs, operands? f = some fs → fs ≠ [] ∧ Filter.areFlat kind fs = true) :
    Filter.areFlat kind (spread operands? args) = true := by
  have hle := length_le_length_spread fun f hf fs hfs => (hargs f hf fs hfs).1
  have hmany : (spread operands? args).length ≠ 1 := by
    rcases args with _ | ⟨f, args⟩
    · exact Nat.zero_ne_one
    · rw [List.length_cons] at hlength hle
      omega
  have hkinds : (spread operands? args).all (·.kind != kind) = true := by
    refine List.all_eq_true.mpr (List.forall_mem_flatMap.mpr fun f hf => ?_)
    cases hfs : operands? f with
    | none =>
      refine List.forall_mem_singleton.mpr ?_
      have hkind := h f
      rw [hfs] at hkind
      simpa using hkind.symm
    | some fs =>
      have hflat := (hargs f hf fs hfs).2
      rw [Filter.areFlat, Bool.and_eq_true] at hflat
      exact List.all_eq_true.mp hflat.2
  rw [Filter.areFlat, hkinds, Bool.and_true]
  exact bne_iff_ne.mpr hmany

namespace Filter

/-- The property carries over from the operands of disjunctions to those that they are spread to. -/
def SpreadsOut (p : List Filter → Prop) : Prop :=
  ∀ args : List Filter, args.length ≠ 1 → (∀ f ∈ args, f.wellFormed = true) →
    (∀ f ∈ args, ∀ fs, f = .or fs → p fs) → p (spread disjuncts? args)

theorem spreadsOut_true : SpreadsOut fun _ => True :=
  fun _ _ _ _ => trivial

theorem spreadsOut_areFlat : SpreadsOut fun args => areFlat .orFilter args = true := by
  intro args hlength hw hargs
  refine areFlat_spread (fun f => by cases f <;> rfl) hlength fun f hf fs hfs => ?_
  obtain rfl := disjuncts?_eq_some_iff.mp hfs
  exact ⟨((wellFormed_or fs).mp (hw _ hf)).1, hargs _ hf fs rfl⟩

variable {p : List Filter → Prop}

private theorem gives_stepped {f : Filter} {parts : List Node} (hnodes : f.nodes = .filter f :: parts)
    (hparts : AllNormalBut p parts)
    (hkept : simplerFilter f = .ok .kept → (Node.filter f).IsNormalBut p)
    (hchanged : ∀ new, simplerFilter f = .ok (.changed new) → AllNormalBut p new.nodes) :
    Gives f.stepped fun new => AllNormalBut p new.nodes := by
  intro new hnew
  rcases resolved_eq_ok_iff.mp hnew with ⟨h, rfl⟩ | hnew
  · rw [hnodes, allNormalBut_cons]
    exact ⟨hkept h, hparts⟩
  · exact hchanged new hnew

/-- A combination is made anew by leaving it out or by spreading its operands. -/
private theorem simplerCombination_eq_changed {make : List Filter → Filter}
    {make? : List Filter → Except ArgumentError Filter}
    (hmake : ∀ args, args ≠ [] → make? args = .ok (make args))
    {operands? : Filter → Option (List Filter)} {args : List Filter} {new : Filter}
    (h : simplerCombination make? operands? args = .ok (.changed new))
    (hne : spread operands? args ≠ []) :
    args = [new] ∨ args.length ≠ 1 ∧ new = make (spread operands? args) := by
  rw [simplerCombination.eq_def] at h
  split at h
  · cases h
    exact .inl rfl
  · next hsingle =>
    split at h
    · rw [renew_eq_changed_iff, hmake _ hne] at h
      cases h
      exact .inr ⟨fun hone => (List.length_eq_one_iff.mp hone).elim hsingle, rfl⟩
    · cases h

/-- The nodes of spread operands are among those of the operands. -/
private theorem normal_spread (make : List Filter → Filter)
    (hnodes : ∀ args, (make args).nodes = .filter (make args) :: nodesOfAll args)
    {operands? : Filter → Option (List Filter)}
    (hoperands : ∀ f fs, operands? f = some fs → f = make fs) {args : List Filter}
    (hargs : ∀ f ∈ args, AllNormalBut p f.nodes) :
    AllNormalBut p (nodesOfAll (spread operands? args)) := by
  refine forall_mem_nodesOfAll.mpr (forall_mem_spread_of_forall_mem (fun f fs hf hfs => ?_) hargs)
  rw [hoperands f fs hfs, hnodes] at hf
  exact forall_mem_nodesOfAll.mp (allNormalBut_cons.mp hf).2

private theorem gives_stepped_and {args : List Filter} (hw : (and args).wellFormed = true)
    (hargs : ∀ f ∈ args, AllNormalBut p f.nodes) :
    Gives (and args).stepped fun new => AllNormalBut p new.nodes := by
  refine gives_stepped rfl (forall_mem_nodesOfAll.mpr hargs) simplerFilter_eq_kept_iff.mp
    fun new h => ?_
  rcases simplerCombination_eq_changed and?_of_ne_nil h (wellFormed_spread_conjuncts hw).1 with
    rfl | ⟨hlength, rfl⟩
  · exact hargs _ List.mem_cons_self
  · have hflat : areFlat .andFilter (spread conjuncts? args) = true := by
      refine areFlat_spread (fun f => by cases f <;> rfl) hlength fun f hf fs hfs => ?_
      obtain rfl := conjuncts?_eq_some_iff.mp hfs
      exact ⟨((wellFormed_and fs).mp (((wellFormed_and args).mp hw).2 _ hf)).1,
        (allNormalBut_cons.mp (hargs _ hf)).1⟩
    exact allNormalBut_cons.mpr ⟨hflat,
      normal_spread .and (fun _ => rfl) (fun _ _ => conjuncts?_eq_some_iff.mp) hargs⟩

private theorem gives_stepped_or (hp : SpreadsOut p) {args : List Filter}
    (hw : (or args).wellFormed = true) (hargs : ∀ f ∈ args, AllNormalBut p f.nodes) :
    Gives (or args).stepped fun new => AllNormalBut p new.nodes := by
  have hspread (hlength : args.length ≠ 1) : p (spread disjuncts? args) := by
    refine hp args hlength ((wellFormed_or args).mp hw).2 fun f hf fs hfs => ?_
    subst hfs
    exact (allNormalBut_cons.mp (hargs _ hf)).1
  refine gives_stepped rfl (forall_mem_nodesOfAll.mpr hargs) (fun h => ?_) fun new h => ?_
  · have hflat : areFlat .orFilter args = true := simplerFilter_eq_kept_iff.mp h
    rw [areFlat, Bool.and_eq_true, bne_iff_ne] at hflat
    have hnested : isNested disjuncts? args = false :=
      (isNested_eq_false_iff fun f => by cases f <;> rfl).mpr hflat.2
    have hp := hspread hflat.1
    rwa [spread_of_not_isNested hnested] at hp
  · rcases simplerCombination_eq_changed or?_of_ne_nil h (wellFormed_spread_disjuncts hw).1 with
      rfl | ⟨hlength, rfl⟩
    · exact hargs _ List.mem_cons_self
    · exact allNormalBut_cons.mpr ⟨hspread hlength,
        normal_spread .or (fun _ => rfl) (fun _ _ => disjuncts?_eq_some_iff.mp) hargs⟩

/-- The opposite of an operation is normal. -/
private theorem normal_opposite {operation opposite : Operation}
    (h : operation.opposite? = some opposite) : AllNormalBut p opposite.nodes := by
  obtain ⟨_, _, rfl⟩ | ⟨_, rfl⟩ | ⟨_, rfl⟩ := Operation.opposite?_cases h
  all_goals exact allNormalBut_singleton.mpr rfl

/-- The negation of a normal filter is made anew of normal nodes, if the operands of a `nor` are as
those of a disjunction should be. -/
private theorem gives_stepped_not {f : Filter} (hw : f.wellFormed = true)
    (hf : AllNormalBut p f.nodes) (hnor : ∀ args, f = .nor args → p args) :
    Gives (not f).stepped fun new => AllNormalBut p new.nodes := by
  refine gives_stepped rfl hf simplerFilter_eq_kept_iff.mp fun new h => ?_
  rw [simplerFilter, simplerNot.eq_def] at h
  split at h
  · cases h
    exact (allNormalBut_cons.mp hf).2
  · next args =>
    rw [renew_eq_changed_iff, nor?_of_ne_nil args ((wellFormed_or args).mp hw).1] at h
    cases h
    exact allNormalBut_cons.mpr ⟨rfl, (allNormalBut_cons.mp hf).2⟩
  · next args =>
    rw [renew_eq_changed_iff, or?_of_ne_nil args ((wellFormed_nor args).mp hw).1] at h
    cases h
    exact allNormalBut_cons.mpr ⟨hnor args rfl, (allNormalBut_cons.mp hf).2⟩
  · cases h
    exact allNormalBut_cons.mpr
      ⟨rfl, (allNormalBut_cons.mp (allNormalBut_cons.mp hf).2).2⟩
  · split at h
    · next hopposite =>
      cases h
      exact allNormalBut_cons.mpr ⟨rfl, normal_opposite hopposite⟩
    · cases h
  · cases h

private theorem gives_stepped_negation {operation : Operation}
    (h : AllNormalBut p operation.nodes) :
    Gives (Operation.not operation).stepped fun new => AllNormalBut p new.nodes := by
  intro new hnew
  rcases resolved_eq_ok_iff.mp hnew with ⟨hkept, rfl⟩ | hnew
  · exact allNormalBut_cons.mpr ⟨simplerOperation_eq_kept_iff.mp hkept, h⟩
  · rw [simplerOperation.eq_def] at hnew
    split at hnew
    · next hnot =>
      cases hnot
      cases hnew
      exact (allNormalBut_cons.mp h).2
    · next hnot =>
      cases hnot
      split at hnew
      · next hopposite =>
        cases hnew
        exact normal_opposite hopposite
      · cases hnew
    · cases hnew

/-! ### Simplified filters -/

/-- What is known of filters and operations carries over to their parts.  Of the negation of a filter
that is simplified to a `nor`, it says that the operands have the property. -/
structure Hereditary (p : List Filter → Prop) (c : Filter → Prop) (tested : Operation → Prop) :
    Prop where
  field : ∀ {target operation}, c (.field target operation) → tested operation
  and : ∀ {args}, c (.and args) → ∀ f ∈ args, c f
  or : ∀ {args}, c (.or args) → ∀ f ∈ args, c f
  nor : ∀ {args}, c (.nor args) → ∀ f ∈ args, c f
  not : ∀ {f}, c (.not f) → c f
  elemMatch : ∀ {f}, tested (.elemMatch f) → c f
  negation : ∀ {operation}, tested (.not operation) → tested operation
  negatedNor : ∀ {f args}, c (.not f) → f.simplified = .ok (.nor args) → p args

theorem gives_wellFormed_simplified {f : Filter} (hw : f.wellFormed = true) :
    Gives f.simplified (·.wellFormed = true) := by
  obtain ⟨new, hnew, hwf, -⟩ := congruent_true.simplified f hw
  rw [hnew]
  exact .ok hwf

/-- A combination is simplified to normal nodes if the combination of normal operands steps to
them. -/
private theorem gives_simplified_combination {make : List Filter → Filter}
    (hsimplified : ∀ args,
      (make args).simplified = (do Filter.stepped (make (← args.mapM Filter.simplified))))
    (hwf : ∀ args, (make args).wellFormed = true ↔ args ≠ [] ∧ ∀ f ∈ args, f.wellFormed = true)
    (hstepped : ∀ {args}, (make args).wellFormed = true → (∀ f ∈ args, AllNormalBut p f.nodes) →
      Gives (make args).stepped fun new => AllNormalBut p new.nodes) {args : List Filter}
    (ih : ∀ f ∈ args, f.wellFormed = true → Gives f.simplified fun new => AllNormalBut p new.nodes)
    (hw : (make args).wellFormed = true) :
    Gives (make args).simplified fun new => AllNormalBut p new.nodes := by
  obtain ⟨hne, hargs⟩ := (hwf args).mp hw
  have hnews : Gives (args.mapM simplified) fun news =>
      List.Forall₂ (fun _ new => new.wellFormed = true ∧ AllNormalBut p new.nodes) args news :=
    Gives.mapM_forall₂ fun f hf new hnew =>
      ⟨gives_wellFormed_simplified (hargs f hf) new hnew, ih f hf (hargs f hf) new hnew⟩
  rw [hsimplified]
  refine hnews.bind fun news hall => hstepped ((hwf news).mpr ⟨?_, ?_⟩) ?_
  · rintro rfl
    cases hall
    exact hne rfl
  · exact forall_mem_of_forall₂ hall fun _ _ hf => hf.1
  · exact forall_mem_of_forall₂ hall fun _ _ hf => hf.2

variable {c : Filter → Prop} {tested : Operation → Prop}

/-- The nodes of simplified filters and operations are normal, where the operands of disjunctions
have the property. -/
private theorem Hereditary.gives_simplified_and (h : Hereditary p c tested) (hp : SpreadsOut p) :
    (∀ f : Filter, c f → f.wellFormed = true →
      Gives f.simplified fun new => AllNormalBut p new.nodes) ∧
    ∀ operation : Operation, tested operation → operation.wellFormed = true →
      Gives operation.simplified fun new => AllNormalBut p new.nodes := by
  apply Filter.induction
  case field =>
    intro target operation ih hc hw
    rw [simplified_field]
    exact (ih (h.field hc) ((wellFormed_field _ _).mp hw).2).bind fun _ hnew =>
      gives_stepped rfl hnew (fun _ => rfl) nofun
  case and =>
    exact fun args ih hc => gives_simplified_combination simplified_and wellFormed_and
      gives_stepped_and fun f hf => ih f hf (h.and hc f hf)
  case or =>
    exact fun args ih hc => gives_simplified_combination simplified_or wellFormed_or
      (gives_stepped_or hp) fun f hf => ih f hf (h.or hc f hf)
  case nor =>
    exact fun args ih hc => gives_simplified_combination simplified_nor wellFormed_nor
      (fun _ hargs => gives_stepped rfl (forall_mem_nodesOfAll.mpr hargs) (fun _ => rfl) nofun)
      fun f hf => ih f hf (h.nor hc f hf)
  case not =>
    intro f ih hc hw new hnew
    rw [simplified_not] at hnew
    obtain ⟨inner, hinner, hstepped⟩ := bind_eq_ok_iff.mp hnew
    have hwf : inner.wellFormed = true := gives_wellFormed_simplified (f := f) hw inner hinner
    refine gives_stepped_not hwf (ih (h.not hc) hw inner hinner) (fun args hargs => ?_) new hstepped
    subst hargs
    exact h.negatedNor hc hinner
  case expr =>
    intro e _ _
    rw [simplified_expr]
    exact e.gives_simplified.bind fun _ hnew => gives_stepped rfl hnew (fun _ => rfl) nofun
  case elemMatch =>
    intro f ih hc hw
    rw [Operation.simplified_elemMatch]
    exact (ih (h.elemMatch hc) hw).bind fun _ hnew =>
      .ok (allNormalBut_cons.mpr ⟨rfl, hnew⟩)
  case negation =>
    intro operation ih hc hw
    rw [Operation.simplified_not]
    exact (ih (h.negation hc) hw).bind fun _ => gives_stepped_negation
  case plain =>
    intro operation hmatch hnot _ _
    rw [Operation.simplified_plain hmatch hnot]
    refine .ok ?_
    rw [Operation.nodes_plain hmatch hnot]
    refine allNormalBut_singleton.mpr ?_
    cases operation with
    | not negated => exact absurd rfl (hnot negated)
    | _ => rfl

theorem Hereditary.gives_simplified (h : Hereditary p c tested) (hp : SpreadsOut p) {f : Filter}
    (hc : c f) (hw : f.wellFormed = true) :
    Gives f.simplified fun new => AllNormalBut p new.nodes :=
  (h.gives_simplified_and hp).1 f hc hw

/-- It is known of all nodes what negations of a `nor` lead to. -/
theorem hereditary_nodes (p : List Filter → Prop) :
    Hereditary p
      (fun f => ∀ node ∈ f.nodes, ∀ g args, node = .filter (.not g) →
        g.simplified = .ok (.nor args) → p args)
      (fun operation => ∀ node ∈ operation.nodes, ∀ g args, node = .filter (.not g) →
        g.simplified = .ok (.nor args) → p args) where
  field h := (List.forall_mem_cons.mp h).2
  and h := forall_mem_nodesOfAll.mp (List.forall_mem_cons.mp h).2
  or h := forall_mem_nodesOfAll.mp (List.forall_mem_cons.mp h).2
  nor h := forall_mem_nodesOfAll.mp (List.forall_mem_cons.mp h).2
  not h := (List.forall_mem_cons.mp h).2
  elemMatch h := (List.forall_mem_cons.mp h).2
  negation h := (List.forall_mem_cons.mp h).2
  negatedNor h := (List.forall_mem_cons.mp h).1 _ _ rfl

/-- A conjunction that is not of a single filter is not simplified to a `nor`. -/
private theorem simplified_and_ne_nor {args fs : List Filter} (hlength : args.length ≠ 1) :
    (and args).simplified ≠ .ok (.nor fs) := by
  intro h
  rw [simplified_and] at h
  obtain ⟨news, hnews, hstepped⟩ := bind_eq_ok_iff.mp h
  have hlength : news.length ≠ 1 := (mapM_eq_ok_iff.mp hnews).length_eq ▸ hlength
  rcases resolved_eq_ok_iff.mp hstepped with ⟨-, hand⟩ | hchanged
  · cases hand
  · rw [simplerFilter, simplerCombination.eq_def] at hchanged
    split at hchanged
    · exact hlength rfl
    · split at hchanged
      · obtain ⟨-, -, hand⟩ := bind_eq_ok_iff.mp (renew_eq_changed_iff.mp hchanged)
        cases hand
      · cases hchanged

/-- Normal nodes have no negations that lead to a `nor`. -/
theorem hereditary_normal (p q : List Filter → Prop) :
    Hereditary p (fun f => AllNormalBut q f.nodes)
      (fun operation => AllNormalBut q operation.nodes) where
  field h := (allNormalBut_cons.mp h).2
  and h := forall_mem_nodesOfAll.mp (allNormalBut_cons.mp h).2
  or h := forall_mem_nodesOfAll.mp (allNormalBut_cons.mp h).2
  nor h := forall_mem_nodesOfAll.mp (allNormalBut_cons.mp h).2
  not h := (allNormalBut_cons.mp h).2
  elemMatch h := (allNormalBut_cons.mp h).2
  negation h := (allNormalBut_cons.mp h).2
  negatedNor {f args} h hnor := by
    obtain ⟨htop, hf⟩ := allNormalBut_cons.mp h
    have htakes : f.takesNegation = false := by simpa using (show !f.takesNegation from htop)
    cases f with
    | and fs =>
      have hflat : areFlat .andFilter fs = true := (allNormalBut_cons.mp hf).1
      rw [areFlat, Bool.and_eq_true, bne_iff_ne] at hflat
      exact absurd hnor (simplified_and_ne_nor hflat.1)
    | field target operation =>
      rw [simplified_field] at hnor
      obtain ⟨new, -, hfield⟩ := bind_eq_ok_iff.mp hnor
      cases hfield
    | expr e =>
      rw [simplified_expr] at hnor
      obtain ⟨new, -, hexpr⟩ := bind_eq_ok_iff.mp hnor
      cases hexpr
    | _ => cases htakes

end Filter

/-! ### Stages and pipelines -/

/-- The nodes of a stage with normal parts are normal. -/
theorem Stage.Related.normal {p : List Filter → Prop} {c : Filter → Prop} {new old : Stage}
    (h : Related (fun new old => c old → AllNormalBut p new.nodes)
      (fun new _ => AllNormalBut p new.nodes) new old)
    (hc : ∀ f, old = .select f → c f) : AllNormalBut p new.nodes := by
  cases h with
  | plain hnodes =>
    rw [hnodes]
    exact allNormalBut_singleton.mpr rfl
  | select hf => exact allNormalBut_cons.mpr ⟨rfl, hf (hc _ rfl)⟩
  | project hentries =>
    refine allNormalBut_cons.mpr ⟨rfl, List.forall_mem_flatMap.mpr ?_⟩
    refine forall_mem_of_forall₂ hentries fun old new hentry => ?_
    cases hentry with
    | compute hvalue => exact hvalue
    | _ => exact List.forall_mem_nil _
  | replaceRoot he => exact allNormalBut_cons.mpr ⟨rfl, he⟩
  | addFields hfields =>
    exact allNormalBut_cons.mpr ⟨rfl, Expression.forall_mem_nodesOfFields.mpr
      (forall_mem_of_forall₂ hfields fun _ _ hfield => hfield.2)⟩
  | group hkey haccumulators =>
    refine allNormalBut_cons.mpr ⟨rfl, allNormalBut_append.mpr ⟨hkey, ?_⟩⟩
    exact List.forall_mem_flatMap.mpr (forall_mem_of_forall₂ haccumulators fun _ _ ha =>
      allNormalBut_cons.mpr ⟨rfl, ha.2.2⟩)

namespace Pipeline

variable {p : Pipeline}

/-- A well-formed pipeline is simplified to normal nodes, where the operands of disjunctions have a
property that the negations of a `nor` lead to. -/
theorem simplify_normal {disjuncts : List Filter → Prop} {c : Filter → Prop}
    {tested : Operation → Prop} (h : Filter.Hereditary disjuncts c tested)
    (hdisjuncts : Filter.SpreadsOut disjuncts) (hw : p.wellFormed = true)
    (hc : ∀ f, .select f ∈ p.stages → c f) :
    ∃ r, simplify p = .ok r ∧ (r.resolve p).wellFormed = true ∧
      AllNormalBut disjuncts (r.resolve p).nodes := by
  have hfilters : Filter.SimplifiesTo fun new old =>
      c old → AllNormalBut disjuncts new.nodes := by
    intro f hf
    obtain ⟨new, hnew, hwf, -⟩ := Filter.congruent_true.simplified f hf
    exact ⟨new, hnew, hwf, fun hc => h.gives_simplified hdisjuncts hc hf new hnew⟩
  have hexpressions : Expression.SimplifiesTo fun new _ =>
      AllNormalBut disjuncts new.nodes := by
    intro e he
    obtain ⟨new, hnew, hwf, -⟩ := Expression.congruent_true.simplified e he
    exact ⟨new, hnew, hwf, e.gives_simplified new hnew⟩
  obtain ⟨r, hr, hwf, hstages⟩ := simplify_eq_ok_of_simplifiesTo hfilters hexpressions hw
  refine ⟨r, hr, hwf, List.forall_mem_flatMap.mpr ?_⟩
  exact forall_mem_of_forall₂_of_forall_mem hstages
    (p := fun stage => ∀ f, stage = .select f → c f)
    (fun stage hstage f hf => hc f (hf ▸ hstage)) fun _ _ hstage hold => hstage.normal hold

/-- **Two passes of simplification lead to normal nodes**, and so does one, if the operands of each
`nor` to which a filter below a negation is simplified are neither a single one nor disjunctions.
One pass leaves nothing that is not normal but disjunctions.  The second pass keeps the pipeline,
instead of making an equal one, exactly if it finds all of them normal, and a third pass always
does. -/
theorem simplify_simplify (hw : p.wellFormed = true) :
    ∃ r, simplify p = .ok r ∧ ∃ s, simplify (r.resolve p) = .ok s ∧
      (∀ node ∈ (r.resolve p).nodes, node.isNormal = true ∨ ∃ args, node = .filter (.or args)) ∧
      ((∀ f args, .filter (.not f) ∈ p.nodes → f.simplified = .ok (.nor args) →
          (Filter.or args).isNormal = true) →
        AllNormal (r.resolve p).nodes) ∧
      (s = .kept ↔ AllNormal (r.resolve p).nodes) ∧
      (s.resolve (r.resolve p) = r.resolve p ↔ AllNormal (r.resolve p).nodes) ∧
      AllNormal (s.resolve (r.resolve p)).nodes ∧
      simplify (s.resolve (r.resolve p)) = .ok .kept := by
  have hnodes {q : Pipeline}
      (h : AllNormalBut (fun args => Filter.areFlat .orFilter args = true) q.nodes) :
      AllNormal q.nodes :=
    fun node hnode => Node.isNormalBut_areFlat_iff.mp (h node hnode)
  -- of the first pass nothing is known of disjunctions, ...
  obtain ⟨r, hr, hwr, hfirst⟩ := simplify_normal (Filter.hereditary_nodes fun _ => True)
    Filter.spreadsOut_true hw fun f hf _ _ _ _ _ _ => trivial
  -- ... but it leaves no negations by which the second one could make some that are not normal
  obtain ⟨s, hs, -, hsecond⟩ := simplify_normal (Filter.hereditary_normal _ fun _ => True)
    Filter.spreadsOut_areFlat hwr fun f hf =>
      (allNormalBut_cons.mp (List.forall_mem_flatMap.mp hfirst _ hf)).2
  have hkept : s = .kept ↔ AllNormal (r.resolve p).nodes := by
    rw [← simplify_eq_kept_iff, hs]
    exact (Except.ok.injEq _ _).to_iff.symm
  refine ⟨r, hr, s, hs, fun node hnode => (hfirst node hnode).isNormal_or, fun hnors => ?_, hkept,
    ⟨fun hsame => ?_, fun hnormal => ?_⟩, hnodes hsecond,
    (simplify_eq_kept_iff _).mpr (hnodes hsecond)⟩
  · obtain ⟨r', hr', -, hnormal⟩ := simplify_normal
      (Filter.hereditary_nodes fun args => Filter.areFlat .orFilter args = true)
      Filter.spreadsOut_areFlat hw fun f hf node hnode g args hg =>
        hnors g args (hg ▸ List.mem_flatMap.mpr ⟨_, hf, List.mem_cons_of_mem _ hnode⟩)
    obtain rfl : r = r' := Except.ok.inj (hr.symm.trans hr')
    exact hnodes hnormal
  · rw [← hsame]
    exact hnodes hsecond
  · rw [hkept.mpr hnormal]
    rfl

/-- A negated `nor` of two tests takes one pass, and one with a disjunction among its operands takes
two. -/
theorem simplify_simplify_nested :
    let a : Filter := .field (.path "a") (.compare .gt (.int 1))
    let b : Filter := .field (.path "b") (.exists true)
    let sum : Expression := .variadic .add [.constant (.int 1),
      .variadic .add [.constant (.int 2), .field none "x"]]
    let p : Pipeline := ⟨[.select (.not (.nor [a, .not (.not b)])), .addFields [("n", sum)]]⟩
    let q : Pipeline := ⟨[.select (.not (.nor [.or [a, b], a])), .addFields [("n", sum)]]⟩
    (p.wellFormed = true ∧ ∃ r, simplify p = .ok r ∧ AllNormal (r.resolve p).nodes ∧
      simplify (r.resolve p) = .ok .kept) ∧
    q.wellFormed = true ∧ ∃ r s, simplify q = .ok r ∧ simplify (r.resolve q) = .ok s ∧
      s.resolve (r.resolve q) ≠ r.resolve q ∧ AllNormal (s.resolve (r.resolve q)).nodes ∧
      simplify (s.resolve (r.resolve q)) = .ok .kept := by
  intro a b sum p q
  have hp : p.wellFormed = true := rfl
  have hq : q.wellFormed = true := rfl
  obtain ⟨r, hr, s, hs, -, hnors, hkept, -⟩ := simplify_simplify hp
  obtain ⟨r', hr', s', hs', -, -, -, hsame, hnormal', hkept'⟩ := simplify_simplify hq
  have hnormal : AllNormal (r.resolve p).nodes := by
    refine hnors fun f args hf hargs => ?_
    have hcases : f = .nor [a, .not (.not b)] ∨ f = .not b ∨ f = b := by
      simpa [p, nodes, Stage.nodes, Filter.nodes, Filter.nodesOfAll, a, b, sum, Operation.nodes,
        Expression.nodesOfFields, Expression.nodes, Expression.nodesOfAll] using hf
    rcases hcases with rfl | rfl | rfl
    · cases hargs
      rfl
    · cases hargs
    · cases hargs
  refine ⟨⟨hp, r, hr, hnormal, ?_⟩, hq, r', s', hr', hs', fun h => ?_, hnormal', hkept'⟩
  · rw [hs, hkept.mpr hnormal]
  · -- the disjunction of the first pass stands over another one
    obtain rfl : .changed ⟨[.select (.or [.or [a, b], a]), .addFields [("n", .variadic .add
      [.constant (.int 1), .constant (.int 2), .field none "x"])]]⟩ = r' := Except.ok.inj hr'
    have hor := hsame.mp h (.filter (.or [.or [a, b], a])) (List.mem_cons_of_mem _ List.mem_cons_self)
    cases hor

/-- One pass makes a disjunction of a single filter of the negation of a `nor`, and another pass
leaves the disjunction out. -/
theorem simplify_negatedNor_ne :
    let test : Filter := .field (.path "a") (.compare .gt (.int 1))
    let p : Pipeline := ⟨[.select (.not (.nor [test]))]⟩
    let once : Pipeline := ⟨[.select (.or [test])]⟩
    let twice : Pipeline := ⟨[.select test]⟩
    p.wellFormed = true ∧ simplify p = .ok (.changed once) ∧
      simplify once = .ok (.changed twice) ∧ twice ≠ once ∧ ¬ AllNormal once.nodes := by
  intro test p once twice
  refine ⟨rfl, rfl, rfl, by simp [twice, once, test], fun hnormal => ?_⟩
  have hor := hnormal (.filter (.or [test])) (List.mem_cons_of_mem _ List.mem_cons_self)
  cases hor

end Pipeline

end DocQuery
