import DocQuery.Proofs.Evaluation.Regrouping
import DocQuery.Proofs.Pipeline.Children
import DocQuery.Proofs.Revision.Congruence

/-!
# Simplified expressions compute the same values

Integers are added, subtracted and multiplied in 64 bits where evaluation uses decimals, and a
decimal holds every integer of 64 bits.  Flattening a sum of sums changes the order of the
operations, so the value stays as it is only where the terms can be regrouped; a simplified sum has
totals of such terms as its own terms, and so can be regrouped in its turn.

## Main definitions

* `Expression.KeepsIn` — an expression has the value of another one in an environment.
* `Expression.Replaces` — it has so wherever the other one can be regrouped.
* `Node.nests` — a node that applies a function to an application of it.

## Main results

* `Expression.congruent_replaces` — simplification keeps to this relation.
* `Expression.eval_simplifier`, `Expression.eval_simplifier_of_regroupable` — the simplified
  expression has the value of the expression.
* `Expression.eval_simplifier_ne` — but not where a sum is rounded.
-/

namespace DocQuery

/-- The node applies the function to an argument that applies it as well. -/
def Node.nests (function : VariadicFunction) : Node → Bool
  | .expression (.variadic f args) => f = function && isNested (Expression.argsOf? function) args
  | _ => false

namespace Expression

/-! ### Integers -/

/-- Integers whose partial results fit 64 bits are combined as their decimals are. -/
theorem eval_foldIntegers? {name : String} {f : Int → Int → Int}
    {g : Decimal → Decimal → Option Decimal}
    (hfg : ∀ a b k : Int64, k.toInt = f a.toInt b.toInt →
      arithmetic name g (.int a) (.int b) = .ok (.int k))
    {args : List Expression} {start n : Int64} (h : foldIntegers? f start args = some n)
    (env : Environment) :
    (args.mapM (·.eval env) >>= accumulate name g (.int start)) = .ok (.int n) := by
  induction args generalizing start with
  | nil =>
    cases h
    rfl
  | cons e es ih =>
    rw [foldIntegers?, List.foldlM_cons] at h
    obtain ⟨total, htotal, hrest⟩ := Option.bind_eq_some_iff.mp h
    obtain ⟨b, hb, hsum⟩ := Option.bind_eq_some_iff.mp htotal
    -- the partial result fits 64 bits, so it is also the partial result in decimals
    have harith := hfg start b total (toInt_of_signed64? hsum)
    have hes := ih hrest
    rw [bind_eq_ok_iff] at hes
    obtain ⟨vs, hvs, hfold⟩ := hes
    rw [List.mapM_cons, integer?_eq_some_iff.mp hb, eval_constant, hvs]
    simp only [ok_bind, pure_eq_ok, accumulate, harith]
    exact hfold

theorem eval_constant? {function : VariadicFunction} {args : List Expression} {n : Int64}
    (h : function.constant? args = some n) (env : Environment) :
    (variadic function args).eval env = .ok (.int n) := by
  rw [eval_variadic]
  cases function with
  | add => exact eval_foldIntegers? (fun _ _ _ => arithmetic_add) h env
  | multiply => exact eval_foldIntegers? (fun _ _ _ => arithmetic_mul) h env
  | _ => cases h

theorem isAssociative_of_constant? {function : VariadicFunction} {args : List Expression}
    {n : Int64} (h : function.constant? args = some n) : function.isAssociative = true := by
  cases function with
  | add => rfl
  | multiply => rfl
  | _ => cases h

theorem eval_subtract_of_integer? {left right : Expression} {a b n : Int64}
    (hleft : left.integer? = some a) (hright : right.integer? = some b)
    (h : signed64? (a.toInt - b.toInt) = some n) (env : Environment) :
    (binary .subtract left right).eval env = .ok (.int n) := by
  rw [integer?_eq_some_iff.mp hleft, integer?_eq_some_iff.mp hright, eval_binary]
  exact arithmetic_sub (toInt_of_signed64? h)

/-! ### Expressions that stand for others -/

/-- In the environment, the new expression has the value of the old one and can be regrouped if that
has a value.  Its terms are totals of terms of the old one. -/
structure KeepsIn (env : Environment) (new old : Expression) : Prop where
  eval : ExtendedBy (old.eval env) (new.eval env)
  regroupable : ∀ v, old.eval env = .ok v → Regroupable env new
  terms : ∀ function : VariadicFunction, function.isArithmetic = true →
    ∀ os, HaveTerms env (old.terms function) os → function.Regroups os →
      ∃ os', HaveTerms env (new.terms function) os' ∧ function.Coarser os os'

/-- The new expression can stand where the old one does, if that can be regrouped.  It is an
application of a function only where the old one is. -/
structure Replaces (new old : Expression) : Prop where
  keeps : ∀ env, Regroupable env old → KeepsIn env new old
  applies : ∀ function, (argsOf? function new).isSome = true → (argsOf? function old).isSome = true

variable {env : Environment}

theorem KeepsIn.refl {e : Expression} (h : Regroupable env e) : KeepsIn env e e :=
  ⟨.refl _, fun _ _ => h, fun _ _ os hos _ => ⟨os, hos, .refl os⟩⟩

/-- An expression that applies no function itself is the only term that it has. -/
theorem exists_coarser_of_argsOf?_eq_none {function : VariadicFunction} {new old : Expression}
    (hf : function.isArithmetic = true) (hnone : argsOf? function new = none)
    (heval : ExtendedBy (old.eval env) (new.eval env)) {os : List (Option Int64)}
    (hos : HaveTerms env (old.terms function) os) (h : function.Regroups os) :
    ∃ os', HaveTerms env (new.terms function) os' ∧ function.Coarser os os' := by
  obtain ⟨t, htotal, hvalue⟩ := eval_of_terms hf old os hos h
  rw [terms_of_argsOf?_eq_none hnone]
  exact ⟨[t], .cons (heval _ hvalue) .nil, .of_total htotal⟩

theorem argsOf?_variadic_of_ne {function f : VariadicFunction} (h : f ≠ function)
    (args : List Expression) : argsOf? function (variadic f args) = none :=
  if_neg h

theorem KeepsIn.of_argsOf?_eq_none {new old : Expression}
    (hnone : ∀ function, argsOf? function new = none)
    (heval : ExtendedBy (old.eval env) (new.eval env))
    (hregroupable : ∀ v, old.eval env = .ok v → Regroupable env new) : KeepsIn env new old :=
  ⟨heval, hregroupable, fun function hf _ hos h =>
    exists_coarser_of_argsOf?_eq_none hf (hnone function) heval hos h⟩

theorem Replaces.trans {a b c : Expression} (ha : a.Replaces b) (hb : b.Replaces c) :
    a.Replaces c := by
  refine ⟨fun env hc => ?_, fun function h => hb.applies function (ha.applies function h)⟩
  have hbc := hb.keeps env hc
  refine ⟨fun v hv => ?_, fun v hv => ?_, fun function hf os hos h => ?_⟩
  · exact (ha.keeps env (hbc.regroupable v hv)).eval v (hbc.eval v hv)
  · exact (ha.keeps env (hbc.regroupable v hv)).regroupable v (hbc.eval v hv)
  · -- the terms have a total, so there is a value and the middle one can be regrouped
    obtain ⟨t, -, hvalue⟩ := eval_of_terms hf c os hos h
    have hab := ha.keeps env (hbc.regroupable _ hvalue)
    obtain ⟨os', hos', hcoarser⟩ := hbc.terms function hf os hos h
    obtain ⟨os'', hos'', hcoarser'⟩ := hab.terms function hf os' hos' (hcoarser.regroups h)
    exact ⟨os'', hos'', hcoarser.trans hcoarser'⟩

/-! ### Steps -/

/-- A value that can be regrouped stays the same when its arguments are spread. -/
theorem eval_spread_of_regroupable {function : VariadicFunction} {args : List Expression}
    (hassociative : function.isAssociative = true) (h : Regroupable env (variadic function args)) :
    ExtendedBy ((variadic function args).eval env)
      ((variadic function (spread (argsOf? function) args)).eval env) := by
  have hsum (hf : function.isArithmetic = true) :
      ExtendedBy ((variadic function args).eval env)
        ((variadic function (spread (argsOf? function) args)).eval env) := by
    cases hnested : isNested (argsOf? function) args with
    | false =>
      rw [spread_of_not_isNested hnested]
      exact .refl _
    | true =>
      cases h with
      | variadic _ hterms =>
        -- both have the total of the same terms as their value
        obtain ⟨os, hos, hregroups⟩ := hterms hf hnested
        obtain ⟨t, htotal, hvalue⟩ := eval_of_terms hf _ os hos hregroups
        rw [← terms_variadic_spread] at hos
        obtain ⟨t', htotal', hvalue'⟩ := eval_of_terms hf _ os hos hregroups
        rw [hvalue, hvalue', Option.map_injective (fun _ _ => Int64.toInt_inj.mp)
          (htotal.symm.trans htotal')]
        exact .refl _
  cases function with
  | add => exact hsum rfl
  | multiply => exact hsum rfl
  | and => exact eval_spread (.inl rfl) args env
  | or => exact eval_spread (.inr (.inl rfl)) args env
  | concat => exact eval_spread (.inr (.inr rfl)) args env
  | _ => cases hassociative

theorem regroupable_spread {function : VariadicFunction} {args : List Expression}
    (h : Regroupable env (variadic function args)) :
    Regroupable env (variadic function (spread (argsOf? function) args)) := by
  cases h with
  | variadic hargs hterms =>
    refine .variadic (forall_mem_spread_of_forall_mem (fun e es he hes => ?_) hargs) ?_
    · rw [argsOf?_eq_some_iff.mp hes] at he
      cases he with
      | variadic hes _ => exact hes
    · intro hf hnested
      rw [terms_variadic_spread]
      -- where nothing is spread, the arguments are nested as they were
      cases hold : isNested (argsOf? function) args with
      | false => rw [spread_of_not_isNested hold, hold] at hnested; cases hnested
      | true => exact hterms hf hold

theorem Steps.replaces {old new : Expression} (h : Steps old new) : new.Replaces old := by
  cases h with
  | same => exact ⟨fun _ => .refl, fun _ h => h⟩
  | @computed function args n hconstant =>
    refine ⟨fun env h => .of_argsOf?_eq_none (fun _ => rfl) (fun v hv => ?_)
      fun _ _ => .constant _, nofun⟩
    rw [eval_constant, ← eval_constant? hconstant env]
    exact eval_spread_of_regroupable (isAssociative_of_constant? hconstant) h v hv
  | @flattened function args hassociative =>
    refine ⟨fun env h => ?_, fun f hf => ?_⟩
    · refine ⟨eval_spread_of_regroupable hassociative h, fun _ _ => regroupable_spread h,
        fun f hf os hos hregroups => ?_⟩
      -- to another function the whole is one term, flattened or not
      by_cases hsame : function = f
      · subst hsame
        rw [terms_variadic_spread]
        exact ⟨os, hos, .refl os⟩
      · exact exists_coarser_of_argsOf?_eq_none hf (argsOf?_variadic_of_ne hsame _)
          (eval_spread_of_regroupable hassociative h) hos hregroups
    · rw [Option.isSome_iff_exists] at hf ⊢
      obtain ⟨as, has⟩ := hf
      cases argsOf?_eq_some_iff.mp has
      exact ⟨args, argsOf?_variadic function args⟩
  | subtracted hleft hright hdifference =>
    refine ⟨fun env _ => .of_argsOf?_eq_none (fun _ => rfl) (fun v hv => ?_)
      fun _ _ => .constant _, nofun⟩
    rw [eval_constant, ← eval_subtract_of_integer? hleft hright hdifference env]
    exact hv

/-! ### Replacing parts -/

theorem Replaces.unary {function : UnaryFunction} {new old : Expression} (h : new.Replaces old) :
    (unary function new).Replaces (unary function old) := by
  refine ⟨fun env hr => ?_, nofun⟩
  cases hr with
  | unary harg =>
    have hkeeps := h.keeps env harg
    refine .of_argsOf?_eq_none (fun _ => rfl) (eval_unary_extendedBy function hkeeps.eval) ?_
    intro v hv
    obtain ⟨a, ha, -⟩ := bind_eq_ok_iff.mp hv
    exact .unary (hkeeps.regroupable a ha)

theorem Replaces.binary {function : BinaryFunction} {a b left right : Expression}
    (ha : a.Replaces left) (hb : b.Replaces right) :
    (binary function a b).Replaces (binary function left right) := by
  refine ⟨fun env hr => ?_, nofun⟩
  cases hr with
  | binary hleft hright =>
    have hka := ha.keeps env hleft
    have hkb := hb.keeps env hright
    refine .of_argsOf?_eq_none (fun _ => rfl) (eval_binary_extendedBy function hka.eval hkb.eval) ?_
    intro v hv
    obtain ⟨x, hx, hrest⟩ := bind_eq_ok_iff.mp hv
    obtain ⟨y, hy, -⟩ := bind_eq_ok_iff.mp hrest
    exact .binary (hka.regroupable x hx) (hkb.regroupable y hy)

/-- The parts that stand for parts that can be regrouped. -/
private theorem forall₂_keepsIn {news olds : List Expression}
    (h : List.Forall₂ (fun old new => new.Replaces old) olds news)
    (hr : ∀ e ∈ olds, Regroupable env e) :
    List.Forall₂ (fun old new => KeepsIn env new old) olds news :=
  ((List.forall₂_and_left _ _).mpr ⟨hr, h⟩).imp fun _ _ hold => hold.2.keeps env hold.1

private theorem regroupable_of_mapM {news olds : List Expression} {vs : List Value}
    (h : List.Forall₂ (fun old new => KeepsIn env new old) olds news)
    (hvs : olds.mapM (·.eval env) = .ok vs) : ∀ e ∈ news, Regroupable env e :=
  forall_mem_of_forall₂_of_forall_mem h (exists_of_mapM_eq_ok hvs)
    fun _ _ hk ⟨v, hv⟩ => hk.regroupable v hv

/-- Arguments that stand for others do not apply a function if those do not. -/
theorem isNested_of_forall₂ {function : VariadicFunction} {news olds : List Expression}
    (h : List.Forall₂ (fun old new => new.Replaces old) olds news)
    (hn : isNested (argsOf? function) news = true) : isNested (argsOf? function) olds = true := by
  induction h with
  | nil => exact hn
  | cons hnew _ ih =>
    rw [isNested, List.any_cons, Bool.or_eq_true] at hn ⊢
    exact hn.imp (hnew.applies function) ih

theorem Replaces.variadic {function : VariadicFunction} {news olds : List Expression}
    (h : List.Forall₂ (fun old new => new.Replaces old) olds news) :
    (variadic function news).Replaces (variadic function olds) := by
  refine ⟨fun env hr => ?_, fun f hf => ?_⟩
  · cases hr with
    | variadic hargs hterms =>
      have hkeeps := forall₂_keepsIn h hargs
      have heval := eval_variadic_extendedBy function (hkeeps.imp fun _ _ hk => hk.eval)
      have hgroups {f : VariadicFunction} (hf : f.isArithmetic = true) {os : List (Option Int64)}
          (hos : HaveTerms env (olds.flatMap (Expression.terms f)) os) (hos' : f.Regroups os) :
          ∃ os', HaveTerms env (news.flatMap (Expression.terms f)) os' ∧ f.Coarser os os' :=
        exists_coarser _ (hkeeps.imp fun _ _ hk => hk.terms f hf) hos hos'
      refine ⟨heval, fun v hv => ?_, fun f hf os hos hos' => ?_⟩
      · rw [eval_variadic] at hv
        obtain ⟨vs, hvs, -⟩ := bind_eq_ok_iff.mp hv
        refine .variadic (regroupable_of_mapM hkeeps hvs) fun hf hnested => ?_
        -- new arguments are nested only where the old ones are, and then those have terms
        obtain ⟨os, hos, hregroups⟩ := hterms hf (isNested_of_forall₂ h hnested)
        rw [terms_variadic] at hos ⊢
        obtain ⟨os', hos', hcoarser⟩ := hgroups hf hos hregroups
        exact ⟨os', hos', hcoarser.regroups hregroups⟩
      · by_cases hsame : function = f
        · subst hsame
          rw [terms_variadic] at hos ⊢
          exact hgroups hf hos hos'
        · exact exists_coarser_of_argsOf?_eq_none hf (argsOf?_variadic_of_ne hsame _) heval hos hos'
  · rw [Option.isSome_iff_exists] at hf ⊢
    obtain ⟨as, has⟩ := hf
    cases argsOf?_eq_some_iff.mp has
    exact ⟨olds, argsOf?_variadic function olds⟩

theorem Replaces.array {news olds : List Expression}
    (h : List.Forall₂ (fun old new => new.Replaces old) olds news) :
    (array news).Replaces (array olds) := by
  refine ⟨fun env hr => ?_, nofun⟩
  cases hr with
  | array hitems =>
    have hkeeps := forall₂_keepsIn h hitems
    refine .of_argsOf?_eq_none (fun _ => rfl)
      (eval_array_extendedBy (hkeeps.imp fun _ _ hk => hk.eval)) ?_
    intro v hv
    rw [eval_array] at hv
    obtain ⟨vs, hvs, -⟩ := map_eq_ok_iff.mp hv
    exact .array (regroupable_of_mapM hkeeps hvs)

theorem Replaces.document {news olds : List (String × Expression)}
    (h : List.Forall₂ (fun old new => new.1 = old.1 ∧ new.2.Replaces old.2) olds news) :
    (document news).Replaces (document olds) := by
  refine ⟨fun env hr => ?_, nofun⟩
  cases hr with
  | document hfields =>
    have hkeeps : List.Forall₂ (fun old new => new.1 = old.1 ∧ KeepsIn env new.2 old.2) olds news :=
      ((List.forall₂_and_left _ _).mpr ⟨hfields, h⟩).imp fun _ _ hold =>
        ⟨hold.2.1, hold.2.2.keeps env hold.1⟩
    refine .of_argsOf?_eq_none (fun _ => rfl)
      (eval_document_extendedBy (hkeeps.imp fun _ _ hk => ⟨hk.1, hk.2.eval⟩)) ?_
    intro v hv
    rw [eval_document] at hv
    obtain ⟨vs, hvs, -⟩ := map_eq_ok_iff.mp hv
    refine .document (forall_mem_of_forall₂_of_forall_mem hkeeps (exists_of_mapM_eq_ok hvs) ?_)
    rintro old new hk ⟨field, hfield⟩
    obtain ⟨w, hw, -⟩ := map_eq_ok_iff.mp hfield
    exact hk.2.regroupable w hw

theorem Replaces.getField {name : String} {new old : Expression} (h : new.Replaces old) :
    (getField name new).Replaces (getField name old) := by
  refine ⟨fun env hr => ?_, nofun⟩
  cases hr with
  | getField hinput =>
    have hkeeps := h.keeps env hinput
    refine .of_argsOf?_eq_none (fun _ => rfl) (eval_getField_extendedBy name hkeeps.eval) ?_
    intro v hv
    obtain ⟨a, ha, -⟩ := map_eq_ok_iff.mp hv
    exact .getField (hkeeps.regroupable a ha)

/-- What is computed of the items of an input, once the input has been replaced. -/
private theorem exists_of_overItems {name : String}
    {f : List Value → Except EvalError (List Value)} {new input : Expression} {v : Value}
    (hinput : KeepsIn env new input) (hv : (input.eval env >>= overItems name f) = .ok v) :
    Regroupable env new ∧ ∀ items, new.eval env = .ok (.array items) →
      input.eval env = .ok (.array items) ∧ ∃ out, f items = .ok out := by
  obtain ⟨u, hu, hrest⟩ := bind_eq_ok_iff.mp hv
  refine ⟨hinput.regroupable u hu, fun items hitems => ?_⟩
  rw [hinput.eval u hu] at hitems
  cases hitems
  obtain ⟨out, hout, -⟩ := map_eq_ok_iff.mp hrest
  exact ⟨hu, out, hout⟩

theorem Replaces.filter {name : String} {a b input condition : Expression}
    (ha : a.Replaces input) (hb : b.Replaces condition) :
    (filter a name b).Replaces (filter input name condition) := by
  refine ⟨fun env hr => ?_, nofun⟩
  cases hr with
  | filter hinput hcondition =>
    have hka := ha.keeps env hinput
    have hkb (items) (hitems : input.eval env = .ok (.array items)) (item) (hitem : item ∈ items) :=
      hb.keeps _ (hcondition items hitems item hitem)
    refine .of_argsOf?_eq_none (fun _ => rfl) (eval_filter_extendedBy hka.eval
      fun items hitems item hitem => (hkb items hitems item hitem).eval) ?_
    intro v hv
    obtain ⟨hregroupable, hover⟩ := exists_of_overItems hka hv
    refine .filter hregroupable fun items hitems item hitem => ?_
    -- every item is tested, so the condition has a value for this one
    obtain ⟨hold, kept, hkept⟩ := hover items hitems
    obtain ⟨c, hc⟩ := (keepItems_eq_ok_iff.mp hkept).1 item hitem
    obtain ⟨w, hw, -⟩ := map_eq_ok_iff.mp hc
    exact (hkb items hold item hitem).regroupable w hw

theorem Replaces.map {name : String} {a b input body : Expression}
    (ha : a.Replaces input) (hb : b.Replaces body) :
    (map a name b).Replaces (map input name body) := by
  refine ⟨fun env hr => ?_, nofun⟩
  cases hr with
  | map hinput hbody =>
    have hka := ha.keeps env hinput
    have hkb (items) (hitems : input.eval env = .ok (.array items)) (item) (hitem : item ∈ items) :=
      hb.keeps _ (hbody items hitems item hitem)
    refine .of_argsOf?_eq_none (fun _ => rfl) (eval_map_extendedBy hka.eval
      fun items hitems item hitem => (hkb items hitems item hitem).eval) ?_
    intro v hv
    rw [eval_map] at hv
    obtain ⟨hregroupable, hover⟩ := exists_of_overItems hka hv
    refine .map hregroupable fun items hitems item hitem => ?_
    obtain ⟨hold, out, hout⟩ := hover items hitems
    obtain ⟨w, hw⟩ := exists_of_mapM_eq_ok hout item hitem
    exact (hkb items hold item hitem).regroupable w hw

/-- Simplification keeps to this relation: it contains the steps, and it carries over from the parts
to the whole. -/
theorem congruent_replaces : Congruent Replaces where
  step := Steps.replaces
  trans := .trans
  unary := .unary
  binary := .binary
  variadic := .variadic
  document := .document
  array := .array
  getField := .getField
  filter := .filter
  map := .map

/-! ### Simplification -/

/-- No sum has a sum and no product has a product as an argument. -/
def Unnested (nodes : List Node) : Prop :=
  ∀ node ∈ nodes, node.nests .add = false ∧ node.nests .multiply = false

theorem Unnested.tail {node : Node} {nodes : List Node} (h : Unnested (node :: nodes)) :
    Unnested nodes :=
  fun other hother => h other (List.mem_cons_of_mem node hother)

theorem Unnested.left {nodes more : List Node} (h : Unnested (nodes ++ more)) : Unnested nodes :=
  fun node hnode => h node (List.mem_append_left more hnode)

theorem Unnested.right {nodes more : List Node} (h : Unnested (nodes ++ more)) : Unnested more :=
  fun node hnode => h node (List.mem_append_right nodes hnode)

theorem Unnested.of_mem {e : Expression} {es : List Expression} (h : Unnested (nodesOfAll es))
    (he : e ∈ es) : Unnested e.nodes :=
  forall_mem_nodesOfAll.mp h e he

theorem Unnested.of_mem_fields {field : String × Expression}
    {fields : List (String × Expression)} (h : Unnested (nodesOfFields fields))
    (hfield : field ∈ fields) : Unnested field.2.nodes :=
  forall_mem_nodesOfFields.mp h field hfield

theorem Unnested.isNested_eq_false {function : VariadicFunction} {args : List Expression}
    (h : Unnested (variadic function args).nodes) (hf : function.isArithmetic = true) :
    isNested (argsOf? function) args = false := by
  obtain ⟨hadd, hmultiply⟩ := h _ List.mem_cons_self
  cases function with
  | add => simpa [Node.nests] using hadd
  | multiply => simpa [Node.nests] using hmultiply
  | _ => cases hf

/-- Where there are no sums of sums, nothing has to be regrouped. -/
theorem regroupable_of_unnested (e : Expression) :
    Unnested e.nodes → ∀ env, Regroupable env e := by
  induction e using Expression.induction with
  | constant value => exact fun _ _ => .constant value
  | field scope path => exact fun _ _ => .field scope path
  | var name => exact fun _ _ => .var name
  | unary function arg ih => exact fun h env => .unary (ih h.tail env)
  | binary function left right ihl ihr =>
    exact fun h env => .binary (ihl h.tail.left env) (ihr h.tail.right env)
  | variadic function args ih =>
    intro h env
    refine .variadic (fun e he => ih e he (h.tail.of_mem he) env) fun hf hnested => ?_
    rw [h.isNested_eq_false hf] at hnested
    cases hnested
  | document fields ih =>
    exact fun h env => .document fun field hfield =>
      ih field hfield (h.tail.of_mem_fields hfield) env
  | array items ih => exact fun h env => .array fun e he => ih e he (h.tail.of_mem he) env
  | getField name input ih => exact fun h env => .getField (ih h.tail env)
  | filter input name condition ihi ihc =>
    exact fun h env => .filter (ihi h.tail.left env) fun _ _ _ _ => ihc h.tail.right _
  | map input name body ihi ihb =>
    exact fun h env => .map (ihi h.tail.left env) fun _ _ _ _ => ihb h.tail.right _

theorem exists_revised_replaces (e : Expression) (hw : e.wellFormed = true) :
    ∃ r, simplifier.reviseExpression e = .ok r ∧ (r.resolve e).Replaces e := by
  obtain ⟨r, hr, -, h⟩ := exists_revised (congruent_replaces.simplified e hw)
  exact ⟨r, hr, h⟩

/-- Where no sum has a sum and no product a product as an argument, the simplified expression has
the value of the expression in every environment in which that has one. -/
theorem eval_simplifier (e : Expression) (hw : e.wellFormed = true)
    (hn : ∀ node ∈ e.nodes, node.nests .add = false ∧ node.nests .multiply = false) :
    ∃ r, simplifier.reviseExpression e = .ok r ∧
      ∀ env v, e.eval env = .ok v → (r.resolve e).eval env = .ok v := by
  obtain ⟨r, hr, h⟩ := exists_revised_replaces e hw
  exact ⟨r, hr, fun env => (h.keeps env (regroupable_of_unnested e hn env)).eval⟩

/-- Below a binder a concatenation is flattened, and a sum in a product is computed. -/
theorem eval_simplifier_map :
    let e : Expression := .map (.field none "items") "this" (.variadic .concat [
      .variadic .concat [.field (some "this") "name", .constant (.string ":")],
      .unary .type (.variadic .multiply [
        .variadic .add [.constant (.int 2), .constant (.int 3)], .constant (.int 4)])])
    (e.wellFormed = true ∧
      ∀ node ∈ e.nodes, node.nests .add = false ∧ node.nests .multiply = false) ∧
    ∃ r, simplifier.reviseExpression e = .ok r ∧
      ∀ env v, e.eval env = .ok v → (r.resolve e).eval env = .ok v :=
  ⟨⟨by decide +kernel, by decide +kernel⟩,
    eval_simplifier _ (by decide +kernel) (by decide +kernel)⟩

/-- **The simplified expression has the value of the expression** in every environment in which that
has one and in which the terms of its sums of sums and products of products can be regrouped. -/
theorem eval_simplifier_of_regroupable (e : Expression) (hw : e.wellFormed = true) :
    ∃ r, simplifier.reviseExpression e = .ok r ∧
      ∀ env v, Regroupable env e → e.eval env = .ok v → (r.resolve e).eval env = .ok v := by
  obtain ⟨r, hr, h⟩ := exists_revised_replaces e hw
  exact ⟨r, hr, fun env v hregroupable => (h.keeps env hregroupable).eval v⟩

/-- A sum of sums for each of two items.  The terms of the second one have no sum, since one of them
is null. -/
theorem eval_simplifier_of_regroupable_map :
    let e : Expression := .map (.field none "items") "this" (.variadic .add [
      .field (some "this") "price",
      .variadic .add [.field (some "this") "tax", .constant (.int 2)]])
    let env := Environment.ofDocument (.object [("items", .array [
      .object [("price", .int 40), ("tax", .int (-5))], .object [("price", .int 30)]])])
    let value : Value := .array [.int 37, .null]
    (e.wellFormed = true ∧ Regroupable env e ∧ e.eval env = .ok value) ∧
    ∃ r, simplifier.reviseExpression e = .ok r ∧ (r.resolve e).eval env = .ok value := by
  intro e env value
  have hregroupable : Regroupable env e := by
    refine .map (.field none "items") fun items hitems item hitem => ?_
    cases hitems
    have hterms : ∃ os, HaveTerms (env.bind "this" item) [.field (some "this") "price",
        .field (some "this") "tax", .constant (.int 2)] os ∧ VariadicFunction.add.Regroups os := by
      rcases List.mem_pair.mp hitem with rfl | rfl
      · exact ⟨[some 40, some (-5), some 2], .cons rfl (.cons rfl (.cons rfl .nil)), by decide⟩
      · exact ⟨[some 30, none, some 2], .cons rfl (.cons rfl (.cons rfl .nil)), by decide⟩
    have hinner : Regroupable (env.bind "this" item)
        (.variadic .add [.field (some "this") "tax", .constant (.int 2)]) :=
      .variadic (List.forall_mem_cons.mpr
        ⟨.field _ _, List.forall_mem_singleton.mpr (.constant _)⟩) nofun
    exact .variadic (List.forall_mem_cons.mpr
      ⟨.field _ _, List.forall_mem_singleton.mpr hinner⟩) fun _ _ => hterms
  obtain ⟨r, hr, h⟩ := eval_simplifier_of_regroupable e (by decide +kernel)
  exact ⟨⟨by decide +kernel, hregroupable, rfl⟩, r, hr, h env value hregroupable rfl⟩

/-- A sum that is beyond 64 bits at some point is rounded there.  Where the terms stand in groups
that are added first, the point may not be reached. -/
theorem eval_simplifier_ne :
    let e : Expression := .variadic .add [.field none "a",
      .variadic .add [.field none "b", .field none "c"]]
    let env := Environment.ofDocument
      (.object [("a", .int 9223372036854775807), ("b", .int 2), ("c", .int (-2))])
    e.wellFormed = true ∧ ∃ r, simplifier.reviseExpression e = .ok r ∧
      e.eval env = .ok (.int 9223372036854775807) ∧
      (r.resolve e).eval env = .ok (.int 9223372036854775806) :=
  ⟨by decide +kernel, _, rfl, rfl, rfl⟩

end Expression

end DocQuery
