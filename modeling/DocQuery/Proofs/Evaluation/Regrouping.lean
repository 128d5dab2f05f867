import DocQuery.Proofs.Evaluation.Flattening
import DocQuery.Proofs.Number.Integer
import DocQuery.Proofs.Pipeline.Induction
import Mathlib.Data.List.Infix

/-!
# Sums and products in groups

A sum is turned into a number of the document after every term, so it matters in which groups terms
are added: a partial sum beyond 64 bits goes on in floating point.  Where the terms are integers or
null, and no run of neighbouring terms has a sum beyond 64 bits, all groups give the same sum.  The
same is true of products.

## Main definitions

* `VariadicFunction.total` — the exact sum or product of terms.
* `VariadicFunction.Accumulates` — the terms up to any place have a total within 64 bits.
* `VariadicFunction.Regroups` — every run of neighbouring terms has a total within 64 bits.
* `VariadicFunction.Coarser` — terms with some runs replaced by their totals.
* `Expression.terms` — the terms of a sum of sums, or of a product of products.
* `Expression.Regroupable` — the terms of each sum of sums that is evaluated can be regrouped.

## Main results

* `VariadicFunction.eval_of_accumulates` — the terms have their total as a value.
* `VariadicFunction.Coarser.regroups`, `VariadicFunction.Coarser.total_eq` — so do the totals of
  runs.
* `Expression.eval_of_terms` — **a sum of sums has the total of its terms as its value.**
* `Expression.terms_variadic_spread` — flattening leaves the terms as they are.
-/

namespace DocQuery

/-- A term of a sum or a product: an integer, or null. -/
def Value.ofTerm : Option Int64 → Value
  | none => .null
  | some n => .int n

namespace VariadicFunction

variable {function : VariadicFunction}

/-! ### Totals -/

/-- The function adds or multiplies numbers. -/
def isArithmetic : VariadicFunction → Bool
  | .add | .multiply => true
  | _ => false

/-- The sum of two integers, or their product. -/
def combine (function : VariadicFunction) (a b : Int) : Int :=
  match function with
  | .add => a + b
  | _ => a * b

/-- The sum of two decimals, or their product. -/
def decimal? (function : VariadicFunction) (a b : Decimal) : Option Decimal :=
  match function with
  | .add => Decimal.add? a b
  | _ => Decimal.mul? a b

/-- What a sum or a product begins with. -/
def unit : VariadicFunction → Int64
  | .add => 0
  | _ => 1

/-- The sum or the product of the terms, none if one of them is null. -/
def total (function : VariadicFunction) : List (Option Int64) → Option Int
  | [] => some function.unit.toInt
  | none :: _ => none
  | some n :: terms => (function.combine n.toInt ·) <$> total function terms

theorem unit_combine (n : Int) : function.combine function.unit.toInt n = n := by
  cases function with
  | add => exact Int.zero_add n
  | _ => exact Int.one_mul n

theorem combine_unit (n : Int) : function.combine n function.unit.toInt = n := by
  cases function with
  | add => exact Int.add_zero n
  | _ => exact Int.mul_one n

theorem combine_assoc (a b c : Int) :
    function.combine (function.combine a b) c = function.combine a (function.combine b c) := by
  cases function with
  | add => exact Int.add_assoc a b c
  | _ => exact Int.mul_assoc a b c

@[simp] theorem total_nil : function.total [] = some function.unit.toInt := rfl

@[simp] theorem total_cons_none (terms : List (Option Int64)) :
    function.total (none :: terms) = none := rfl

@[simp] theorem total_cons_some (n : Int64) (terms : List (Option Int64)) :
    function.total (some n :: terms) = (function.combine n.toInt ·) <$> function.total terms := rfl

theorem total_singleton (term : Option Int64) :
    function.total [term] = term.map Int64.toInt := by
  cases term with
  | none => rfl
  | some n => exact congrArg some (combine_unit n.toInt)

theorem total_append (first second : List (Option Int64)) :
    function.total (first ++ second)
      = (do return function.combine (← function.total first) (← function.total second)) := by
  induction first with
  | nil =>
    rw [List.nil_append, total_nil]
    cases function.total second with
    | none => rfl
    | some n => exact congrArg some (unit_combine n).symm
  | cons term first ih =>
    cases term with
    | none => rfl
    | some n =>
      rw [List.cons_append, total_cons_some, total_cons_some, ih]
      cases function.total first with
      | none => rfl
      | some a =>
        cases function.total second with
        | none => rfl
        | some b => exact congrArg some (combine_assoc n.toInt a b).symm

/-! ### Runs of terms -/

/-- The terms from the first one up to any place have a total that fits 64 bits, unless null is
among them. -/
def Accumulates (function : VariadicFunction) (terms : List (Option Int64)) : Prop :=
  ∀ front, front <+: terms → ∃ t : Option Int64, function.total front = t.map Int64.toInt

/-- The terms that stand next to one another always have a total that fits 64 bits, unless null is
among them. -/
def Regroups (function : VariadicFunction) (terms : List (Option Int64)) : Prop :=
  ∀ run, run <:+: terms → ∃ t : Option Int64, function.total run = t.map Int64.toInt

theorem Regroups.of_infix {terms run : List (Option Int64)} (h : function.Regroups terms)
    (hrun : run <:+: terms) : function.Regroups run :=
  fun run' hrun' => h run' (hrun'.trans hrun)

theorem Regroups.accumulates {terms : List (Option Int64)} (h : function.Regroups terms) :
    function.Accumulates terms :=
  fun front hfront => h front hfront.isInfix

/-- The total fits 64 bits, or there is none. -/
def Fits (total : Option Int) : Prop :=
  ∀ n ∈ total, (signed64? n).isSome = true

theorem fits_iff {total : Option Int} :
    Fits total ↔ ∃ t : Option Int64, total = t.map Int64.toInt := by
  cases total with
  | none => exact iff_of_true nofun ⟨none, rfl⟩
  | some n =>
    constructor
    · intro h
      obtain ⟨k, hk⟩ := Option.isSome_iff_exists.mp (h n rfl)
      exact ⟨some k, congrArg some (toInt_of_signed64? hk).symm⟩
    · rintro ⟨t, ht⟩ m hm
      cases hm
      obtain ⟨k, -, rfl⟩ := Option.map_eq_some_iff.mp ht.symm
      rw [signed64?_toInt]
      rfl

/-- There are finitely many runs to look at. -/
theorem regroups_iff {terms : List (Option Int64)} :
    function.Regroups terms
      ↔ ∀ behind ∈ terms.tails, ∀ run ∈ behind.inits, Fits (function.total run) := by
  simp only [Regroups, fits_iff, List.mem_tails, List.mem_inits]
  constructor
  · exact fun h behind hbehind run hrun => h run (hrun.isInfix.trans hbehind.isInfix)
  · rintro h run ⟨before, behind, rfl⟩
    rw [List.append_assoc] at h
    exact h (run ++ behind) (List.suffix_append _ _) run (List.prefix_append _ _)

instance (total : Option Int) : Decidable (Fits total) :=
  match total with
  | none => .isTrue nofun
  | some n => decidable_of_iff ((signed64? n).isSome = true) (by simp [Fits])

instance (function : VariadicFunction) (terms : List (Option Int64)) :
    Decidable (function.Regroups terms) :=
  decidable_of_iff _ regroups_iff.symm

/-! ### The value of terms -/

theorem eval_of_isArithmetic (h : function.isArithmetic = true) (values : List Value) :
    function.eval values
      = accumulate function.name function.decimal? (.int function.unit) values := by
  cases function with
  | add => rfl
  | multiply => rfl
  | _ => cases h

theorem arithmetic_combine {name : String} {a b k : Int64}
    (hk : k.toInt = function.combine a.toInt b.toInt) :
    arithmetic name function.decimal? (.int a) (.int b) = .ok (.int k) := by
  cases function with
  | add => exact arithmetic_add hk
  | _ => exact arithmetic_mul hk

/-- Terms are accumulated behind others of which the total is known. -/
theorem accumulate_of_accumulates {name : String} {before terms : List (Option Int64)} {s : Int64}
    (h : function.Accumulates (before ++ terms)) (hs : function.total before = some s.toInt) :
    ∃ t : Option Int64, function.total (before ++ terms) = t.map Int64.toInt
      ∧ accumulate name function.decimal? (.int s) (terms.map .ofTerm) = .ok (.ofTerm t) := by
  induction terms generalizing before s with
  | nil =>
    rw [List.append_nil]
    exact ⟨some s, hs, rfl⟩
  | cons term terms ih =>
    cases term with
    | none =>
      refine ⟨none, ?_, rfl⟩
      rw [total_append, hs]
      rfl
    | some n =>
      have hsplit : before ++ some n :: terms = before ++ [some n] ++ terms := by
        rw [List.append_assoc, List.singleton_append]
      have htotal : function.total (before ++ [some n])
          = some (function.combine s.toInt n.toInt) := by
        rw [total_append, hs, total_singleton]
        rfl
      -- the total with one term more fits as well, so nothing is rounded
      obtain ⟨t, ht⟩ := h (before ++ [some n]) (hsplit ▸ List.prefix_append _ _)
      rw [htotal] at ht
      obtain ⟨k, rfl, hk⟩ := Option.map_eq_some_iff.mp ht.symm
      rw [hsplit] at h ⊢
      obtain ⟨t, htotal', hvalue⟩ := ih h (htotal.trans (congrArg some hk.symm))
      refine ⟨t, htotal', ?_⟩
      rw [List.map_cons, Value.ofTerm, accumulate, arithmetic_combine hk, ok_bind]
      exact hvalue

/-- The terms have their total as a value. -/
theorem eval_of_accumulates (hf : function.isArithmetic = true) {terms : List (Option Int64)}
    (h : function.Accumulates terms) :
    ∃ t : Option Int64, function.total terms = t.map Int64.toInt
      ∧ function.eval (terms.map .ofTerm) = .ok (.ofTerm t) := by
  rw [eval_of_isArithmetic hf]
  have hnil : function.Accumulates ([] ++ terms) := h
  exact accumulate_of_accumulates hnil rfl

/-! ### Totals of runs -/

/-- The second terms are totals of runs into which the first ones are divided. -/
inductive Coarser (function : VariadicFunction) :
    List (Option Int64) → List (Option Int64) → Prop
  | nil : Coarser function [] []
  | cons {run terms totals : List (Option Int64)} {t : Option Int64}
    (h : function.total run = t.map Int64.toInt) (rest : Coarser function terms totals) :
    Coarser function (run ++ terms) (t :: totals)

namespace Coarser

variable {terms terms' totals totals' run : List (Option Int64)} {t : Option Int64}

theorem of_total (h : function.total run = t.map Int64.toInt) : function.Coarser run [t] := by
  have hcons : function.Coarser (run ++ []) [t] := .cons h .nil
  rwa [List.append_nil] at hcons

theorem append (h : function.Coarser terms totals) (h' : function.Coarser terms' totals') :
    function.Coarser (terms ++ terms') (totals ++ totals') := by
  induction h with
  | nil => exact h'
  | cons ht _ ih =>
    rw [List.append_assoc]
    exact .cons ht ih

theorem refl (terms : List (Option Int64)) : function.Coarser terms terms := by
  induction terms with
  | nil => exact .nil
  | cons term terms ih => exact (of_total (total_singleton term)).append ih

theorem total_eq (h : function.Coarser terms totals) :
    function.total totals = function.total terms := by
  induction h with
  | nil => rfl
  | @cons run terms totals t ht _ ih =>
    have hcons : function.total (t :: totals)
        = (do return function.combine (← function.total [t]) (← function.total totals)) :=
      total_append [t] totals
    rw [hcons, total_append, total_singleton, ← ht, ih]

/-- Totals of runs are divided where the runs are. -/
theorem split (h : function.Coarser terms (totals ++ totals')) :
    ∃ before behind, terms = before ++ behind ∧ function.Coarser before totals
      ∧ function.Coarser behind totals' := by
  induction totals generalizing terms with
  | nil => exact ⟨[], terms, rfl, .nil, h⟩
  | cons t totals ih =>
    cases h with
    | @cons run terms _ _ ht hrest =>
      obtain ⟨before, behind, rfl, hbefore, hbehind⟩ := ih hrest
      exact ⟨run ++ before, behind, (List.append_assoc _ _ _).symm, .cons ht hbefore, hbehind⟩

theorem trans {totals'' : List (Option Int64)} (h : function.Coarser terms totals)
    (h' : function.Coarser totals totals'') : function.Coarser terms totals'' := by
  -- a run of the second division is made of runs of the first one
  induction h' generalizing terms with
  | nil => exact h
  | cons ht _ ih =>
    obtain ⟨before, behind, rfl, hbefore, hbehind⟩ := h.split
    exact .cons (hbefore.total_eq ▸ ht) (ih hbehind)

/-- A run of totals has the total of a run of terms. -/
theorem regroups (h : function.Coarser terms totals) (hterms : function.Regroups terms) :
    function.Regroups totals := by
  rintro run ⟨before, behind, rfl⟩
  -- cut the terms where the run is cut out of their totals
  obtain ⟨first, last, rfl, hfirst, -⟩ := h.split
  obtain ⟨front, middle, rfl, -, hmiddle⟩ := hfirst.split
  rw [hmiddle.total_eq]
  exact hterms middle ⟨front, last, rfl⟩

end Coarser

end VariadicFunction

/-! ### Sums of sums -/

namespace Expression

variable {function : VariadicFunction} {env : Environment}

mutual

/-- The terms of a sum of sums, or of a product of products: the arguments that apply the function
are replaced by their own terms. -/
def terms (function : VariadicFunction) : Expression → List Expression
  | .variadic f args => if f = function then termsOfAll function args else [.variadic f args]
  | e => [e]

/-- The terms of all arguments. -/
def termsOfAll (function : VariadicFunction) : List Expression → List Expression
  | [] => []
  | e :: es => terms function e ++ termsOfAll function es

end

theorem termsOfAll_eq_flatMap (es : List Expression) :
    termsOfAll function es = es.flatMap (terms function) := by
  induction es with
  | nil => rfl
  | cons e es ih => rw [termsOfAll, ih, List.flatMap_cons]

theorem terms_variadic (args : List Expression) :
    terms function (variadic function args) = args.flatMap (terms function) := by
  rw [terms, if_pos rfl, termsOfAll_eq_flatMap]

theorem terms_of_argsOf?_eq_none {e : Expression} (h : argsOf? function e = none) :
    terms function e = [e] := by
  cases e with
  | variadic f args =>
    refine if_neg fun hf => ?_
    rw [argsOf?, if_pos hf] at h
    cases h
  | _ => rfl

/-- Flattening leaves the terms as they are. -/
theorem terms_variadic_spread (args : List Expression) :
    terms function (variadic function (spread (argsOf? function) args))
      = terms function (variadic function args) := by
  rw [terms_variadic, terms_variadic, spread, List.flatMap_assoc]
  refine List.flatMap_congr fun e _ => ?_
  cases h : argsOf? function e with
  | none => rw [Option.getD_none, List.flatMap_singleton]
  | some es => rw [Option.getD_some, argsOf?_eq_some_iff.mp h, terms_variadic]

/-- The expressions have these terms as values. -/
def HaveTerms (env : Environment) (es : List Expression) (os : List (Option Int64)) : Prop :=
  List.Forall₂ (fun e o => e.eval env = .ok (.ofTerm o)) es os

theorem HaveTerms.mapM_eval {es : List Expression} {os : List (Option Int64)}
    (h : HaveTerms env es os) : es.mapM (·.eval env) = .ok (os.map .ofTerm) := by
  rw [mapM_eq_ok_iff, List.forall₂_map_right_iff]
  exact h

theorem HaveTerms.split {es es' : List Expression} {os : List (Option Int64)}
    (h : HaveTerms env (es ++ es') os) :
    ∃ first second, os = first ++ second ∧ HaveTerms env es first ∧ HaveTerms env es' second := by
  induction es generalizing os with
  | nil => exact ⟨[], os, rfl, .nil, h⟩
  | cons e es ih =>
    cases h with
    | cons he hrest =>
      obtain ⟨first, second, rfl, hfirst, hsecond⟩ := ih hrest
      exact ⟨_ :: first, second, rfl, .cons he hfirst, hsecond⟩

theorem HaveTerms.singleton_inv {e : Expression} {os : List (Option Int64)}
    (h : HaveTerms env [e] os) : ∃ o, os = [o] ∧ e.eval env = .ok (.ofTerm o) := by
  cases h with
  | cons he hrest =>
    cases hrest
    exact ⟨_, rfl, he⟩

theorem eval_variadic_of_accumulates (hf : function.isArithmetic = true) {es : List Expression}
    {os : List (Option Int64)} (hos : HaveTerms env es os) (h : function.Accumulates os) :
    ∃ t : Option Int64, function.total os = t.map Int64.toInt
      ∧ (variadic function es).eval env = .ok (.ofTerm t) := by
  obtain ⟨t, htotal, hvalue⟩ := VariadicFunction.eval_of_accumulates hf h
  refine ⟨t, htotal, ?_⟩
  rw [eval_variadic, hos.mapM_eval, ok_bind]
  exact hvalue

/-- New parts come with totals of the terms of the old ones if each of them does. -/
theorem exists_coarser (parts : Expression → List Expression) {news olds : List Expression}
    {os : List (Option Int64)}
    (hall : List.Forall₂ (fun old new => ∀ os, HaveTerms env (terms function old) os →
      function.Regroups os → ∃ os', HaveTerms env (parts new) os' ∧ function.Coarser os os')
      olds news)
    (hos : HaveTerms env (olds.flatMap (terms function)) os) (h : function.Regroups os) :
    ∃ os', HaveTerms env (news.flatMap parts) os' ∧ function.Coarser os os' := by
  induction hall generalizing os with
  | nil =>
    cases hos
    exact ⟨[], .nil, .nil⟩
  | @cons old new olds news hnew _ ih =>
    rw [List.flatMap_cons] at hos ⊢
    obtain ⟨first, second, rfl, hfirst, hsecond⟩ := hos.split
    obtain ⟨os, hos, hcoarser⟩ :=
      hnew first hfirst (h.of_infix (List.prefix_append _ _).isInfix)
    obtain ⟨os', hos', hcoarser'⟩ := ih hsecond (h.of_infix (List.suffix_append _ _).isInfix)
    exact ⟨os ++ os', List.rel_append hos hos', hcoarser.append hcoarser'⟩

/-- **A sum of sums has the total of its terms as its value**, and so has a product of products, if
the terms can be regrouped. -/
theorem eval_of_terms (hf : function.isArithmetic = true) (e : Expression) :
    ∀ os, HaveTerms env (terms function e) os → function.Regroups os →
      ∃ t : Option Int64, function.total os = t.map Int64.toInt ∧ e.eval env = .ok (.ofTerm t) := by
  have hleaf {e : Expression} (hnone : argsOf? function e = none) :
      ∀ os, HaveTerms env (terms function e) os → function.Regroups os →
        ∃ t : Option Int64, function.total os = t.map Int64.toInt
          ∧ e.eval env = .ok (.ofTerm t) := by
    intro os hos _
    rw [terms_of_argsOf?_eq_none hnone] at hos
    obtain ⟨o, rfl, ho⟩ := hos.singleton_inv
    exact ⟨o, VariadicFunction.total_singleton o, ho⟩
  induction e using Expression.induction with
  | variadic f args ih =>
    by_cases hsame : f = function
    · subst hsame
      intro os hos h
      rw [terms_variadic] at hos
      -- each argument is a total of its own terms, and totals can be regrouped where terms can
      have hargs : List.Forall₂ (fun old new => ∀ os, HaveTerms env (terms f old) os →
          f.Regroups os → ∃ os', HaveTerms env [new] os' ∧ f.Coarser os os') args args := by
        refine List.forall₂_same.mpr fun e he os hos h => ?_
        obtain ⟨t, htotal, hvalue⟩ := ih e he os hos h
        exact ⟨[t], .cons hvalue .nil, .of_total htotal⟩
      obtain ⟨totals, hvalues, hcoarser⟩ := exists_coarser (fun e => [e]) hargs hos h
      rw [List.flatMap_singleton'] at hvalues
      rw [← hcoarser.total_eq]
      exact eval_variadic_of_accumulates hf hvalues (hcoarser.regroups h).accumulates
    · exact hleaf (if_neg hsame)
  | _ => exact hleaf rfl

/-! ### Expressions that can be regrouped -/

/-- The terms of each sum of sums and of each product of products that is evaluated are integers or
null and can be regrouped.  Other sums and products may have any terms. -/
inductive Regroupable : Environment → Expression → Prop
  | constant {env : Environment} (value : Value) : Regroupable env (.constant value)
  | field {env : Environment} (scope : Option String) (path : String) :
    Regroupable env (.field scope path)
  | var {env : Environment} (name : String) : Regroupable env (.var name)
  | unary {env : Environment} {function : UnaryFunction} {arg : Expression}
    (harg : Regroupable env arg) : Regroupable env (.unary function arg)
  | binary {env : Environment} {function : BinaryFunction} {left right : Expression}
    (hleft : Regroupable env left) (hright : Regroupable env right) :
    Regroupable env (.binary function left right)
  | variadic {env : Environment} {function : VariadicFunction} {args : List Expression}
    (hargs : ∀ e ∈ args, Regroupable env e)
    (hterms : function.isArithmetic = true → isNested (argsOf? function) args = true →
      ∃ os, HaveTerms env (terms function (.variadic function args)) os ∧ function.Regroups os) :
    Regroupable env (.variadic function args)
  | document {env : Environment} {fields : List (String × Expression)}
    (hfields : ∀ field ∈ fields, Regroupable env field.2) : Regroupable env (.document fields)
  | array {env : Environment} {items : List Expression}
    (hitems : ∀ e ∈ items, Regroupable env e) : Regroupable env (.array items)
  | getField {env : Environment} {name : String} {input : Expression}
    (hinput : Regroupable env input) : Regroupable env (.getField name input)
  | filter {env : Environment} {name : String} {input condition : Expression}
    (hinput : Regroupable env input)
    (hcondition : ∀ items, input.eval env = .ok (.array items) → ∀ item ∈ items,
      Regroupable (env.bind name item) condition) :
    Regroupable env (.filter input name condition)
  | map {env : Environment} {name : String} {input body : Expression}
    (hinput : Regroupable env input)
    (hbody : ∀ items, input.eval env = .ok (.array items) → ∀ item ∈ items,
      Regroupable (env.bind name item) body) :
    Regroupable env (.map input name body)

end Expression

end DocQuery
