import DocQuery.Proofs.Evaluation.Expression
import DocQuery.Proofs.Revision.Simplified

/-!
# Nested applications of one function

A conjunction, a disjunction or a concatenation can take the arguments of an argument that applies
it as well.  Conjunctions and disjunctions only look at what counts as true.  A concatenation is
null from the first null on, whether it stands inside or outside, and what comes behind it is no
longer looked at.

## Main definitions

* `VariadicFunction.Gives` — values that can be given to the function in place of one.

## Main results

* `VariadicFunction.eval_flatten` — the function of the values given.
* `Expression.eval_spread` — arguments that apply the function can give their own arguments.
-/

namespace DocQuery

/-! ### Concatenations -/

/-- A concatenation that yields something yields null, whatever follows, or a text that what follows
is joined to. -/
theorem concatenate_append {start : String} {values : List Value} {v : Value}
    (h : concatenate start values = .ok v) :
    (v = .null ∧ ∀ joined more, concatenate joined (values ++ more) = .ok .null) ∨
    ∃ s, v = .string (start ++ s) ∧
      ∀ joined more, concatenate joined (values ++ more) = concatenate (joined ++ s) more := by
  induction values generalizing start with
  | nil =>
    rw [concatenate, Except.ok.injEq] at h
    refine .inr ⟨"", ?_, fun joined more => ?_⟩
    · rw [← h, String.append_empty]
    · rw [String.append_empty, List.nil_append]
  | cons value values ih =>
    cases value with
    | null =>
      rw [concatenate, Except.ok.injEq] at h
      exact .inl ⟨h.symm, fun joined more => rfl⟩
    | string t =>
      rw [concatenate] at h
      rcases ih h with ⟨hv, hnull⟩ | ⟨s, hv, htext⟩
      · refine .inl ⟨hv, fun joined more => ?_⟩
        rw [List.cons_append, concatenate, hnull]
      · refine .inr ⟨t ++ s, ?_, fun joined more => ?_⟩
        · rw [hv, String.append_assoc]
        · rw [List.cons_append, concatenate, htext, String.append_assoc]
    | _ => cases h

namespace VariadicFunction

/-- Values to give to the function in place of one: that value, or values of which it is the
function. -/
def Gives (function : VariadicFunction) (v : Value) (values : List Value) : Prop :=
  values = [v] ∨ function.eval values = .ok v

variable {v : Value} {vs values : List Value} {lists : List (List Value)}

theorem all_isTruthy_of_gives (h : VariadicFunction.and.Gives v values) :
    values.all (·.isTruthy) = v.isTruthy := by
  rcases h with rfl | h
  · rw [List.all_cons, List.all_nil, Bool.and_true]
  · rw [eval, Except.ok.injEq] at h
    rw [← h]
    rfl

theorem any_isTruthy_of_gives (h : VariadicFunction.or.Gives v values) :
    values.any (·.isTruthy) = v.isTruthy := by
  rcases h with rfl | h
  · rw [List.any_cons, List.any_nil, Bool.or_false]
  · rw [eval, Except.ok.injEq] at h
    rw [← h]
    rfl

theorem all_isTruthy_flatten (h : List.Forall₂ VariadicFunction.and.Gives vs lists) :
    lists.flatten.all (·.isTruthy) = vs.all (·.isTruthy) := by
  induction h with
  | nil => rfl
  | cons hv _ ih => rw [List.flatten_cons, List.all_append, List.all_cons, ih,
      all_isTruthy_of_gives hv]

theorem any_isTruthy_flatten (h : List.Forall₂ VariadicFunction.or.Gives vs lists) :
    lists.flatten.any (·.isTruthy) = vs.any (·.isTruthy) := by
  induction h with
  | nil => rfl
  | cons hv _ ih => rw [List.flatten_cons, List.any_append, List.any_cons, ih,
      any_isTruthy_of_gives hv]

theorem concatenate_flatten (h : List.Forall₂ VariadicFunction.concat.Gives vs lists)
    (joined : String) :
    ExtendedBy (concatenate joined vs) (concatenate joined lists.flatten) := by
  induction h generalizing joined with
  | nil => exact .refl _
  | @cons v values vs lists hv _ ih =>
    intro result hresult
    rw [List.flatten_cons]
    rcases hv with rfl | hv
    · -- the value itself
      cases v with
      | null => exact hresult
      | string s => exact ih (joined ++ s) result hresult
      | _ => cases hresult
    · -- a concatenation inside
      rw [eval] at hv
      rcases concatenate_append hv with ⟨rfl, hnull⟩ | ⟨s, rfl, htext⟩
      · rw [hnull]
        exact hresult
      · rw [htext]
        rw [String.empty_append, concatenate] at hresult
        exact ih (joined ++ s) result hresult

/-- The function yields for the values given what it yields for those that they stand for. -/
theorem eval_flatten {function : VariadicFunction}
    (hf : function = .and ∨ function = .or ∨ function = .concat)
    (h : List.Forall₂ function.Gives vs lists) :
    ExtendedBy (function.eval vs) (function.eval lists.flatten) := by
  rcases hf with rfl | rfl | rfl
  · rw [eval, eval, all_isTruthy_flatten h]
    exact .refl _
  · rw [eval, eval, any_isTruthy_flatten h]
    exact .refl _
  · exact concatenate_flatten h ""

end VariadicFunction

/-! ### Arguments -/

namespace Expression

/-- The values of spread arguments can be given in place of the values of the arguments. -/
private theorem exists_values_spread {function : VariadicFunction} {args : List Expression}
    {vs : List Value} {env : Environment}
    (h : List.Forall₂ (fun e v => eval e env = .ok v) args vs) :
    ∃ lists, List.Forall₂ function.Gives vs lists ∧
      (spread (argsOf? function) args).mapM (·.eval env) = .ok lists.flatten := by
  induction h with
  | nil => exact ⟨[], .nil, rfl⟩
  | @cons e v es vs he _ ih =>
    obtain ⟨lists, hgives, hlists⟩ := ih
    have hhead : ∃ values, function.Gives v values ∧
        ((argsOf? function e).getD [e]).mapM (·.eval env) = .ok values := by
      -- the argument gives its own arguments if it applies the function, else itself
      cases hargs : argsOf? function e with
      | none => exact ⟨[v], .inl rfl, by simp [he]⟩
      | some args =>
        rw [argsOf?_eq_some_iff.mp hargs, eval_variadic, bind_eq_ok_iff] at he
        obtain ⟨values, hvalues, hv⟩ := he
        exact ⟨values, .inr hv, hvalues⟩
    obtain ⟨values, hv, hvalues⟩ := hhead
    refine ⟨values :: lists, .cons hv hgives, ?_⟩
    rw [spread] at hlists
    rw [spread, List.flatMap_cons, List.mapM_append, hvalues, hlists]
    rfl

theorem eval_spread {function : VariadicFunction}
    (hf : function = .and ∨ function = .or ∨ function = .concat) (args : List Expression)
    (env : Environment) :
    ExtendedBy ((variadic function args).eval env)
      ((variadic function (spread (argsOf? function) args)).eval env) := by
  intro result hresult
  rw [eval_variadic, bind_eq_ok_iff] at hresult
  obtain ⟨vs, hvs, hresult⟩ := hresult
  obtain ⟨lists, hgives, hlists⟩ := exists_values_spread (mapM_eq_ok_iff.mp hvs)
  rw [eval_variadic, hlists]
  exact VariadicFunction.eval_flatten hf hgives result hresult

end Expression

end DocQuery
