import DocQuery.Proofs.Evaluation.Filter
import DocQuery.Proofs.Pipeline.Children
import DocQuery.Proofs.Pipeline.Induction
import DocQuery.Proofs.Revision.Steps

/-!
# Simplified filters select the same documents

One step at the top of a filter keeps its outcome for every document, errors included.  So does the
simplification of a filter, which takes such steps from the inside out.

## Main definitions

* `Filter.Replaces`, `Operation.Replaces` — a well-formed node of the same outcome.

## Main results

* `Operation.stepped_replaces`, `Filter.stepped_replaces` — a step yields such a node.
* `Filter.holds_simplifier` — so does simplification, where no expression is involved.
-/

namespace DocQuery

/-- The new filter can stand where the old one does. -/
structure Filter.Replaces (new old : Filter) : Prop where
  wellFormed : new.wellFormed = true
  holds : ∀ d, new.holds d = old.holds d

/-- The new operation can stand where the old one does. -/
structure Operation.Replaces (new old : Operation) : Prop where
  wellFormed : new.wellFormed = true
  holds : ∀ values, new.holds values = old.holds values

theorem Filter.Replaces.trans {f g h : Filter} (hf : f.Replaces g) (hg : g.Replaces h) :
    f.Replaces h :=
  ⟨hf.wellFormed, fun d => (hf.holds d).trans (hg.holds d)⟩

theorem Operation.Replaces.trans {a b c : Operation} (ha : a.Replaces b) (hb : b.Replaces c) :
    a.Replaces c :=
  ⟨ha.wellFormed, fun values => (ha.holds values).trans (hb.holds values)⟩

/-! ### Steps -/

theorem Operation.Steps.replaces {old new : Operation} (h : Steps old new)
    (hw : old.wellFormed = true) : new.Replaces old := by
  refine ⟨h.wellFormed hw, fun values => ?_⟩
  cases h with
  | same => rfl
  | twiceNegated => rw [holds_not, holds_not, negated_negated]
  | opposite hopposite => rw [holds_of_opposite? hopposite, holds_not]

theorem Operation.stepped_replaces {operation : Operation} (hw : operation.wellFormed = true) :
    ∃ new, operation.stepped = .ok new ∧ new.Replaces operation := by
  obtain ⟨new, hnew, hsteps⟩ := stepped_eq_ok operation
  exact ⟨new, hnew, hsteps.replaces hw⟩

namespace Filter

theorem field_replaces {target : Target} {new old : Operation} (ht : target.wellFormed = true)
    (h : new.Replaces old) : (field target new).Replaces (field target old) := by
  constructor
  · rw [wellFormed, ht, h.wellFormed]
    rfl
  · intro d
    rw [holds_field, holds_field, h.holds]

theorem Steps.replaces {old new : Filter} (h : Steps old new) (hw : old.wellFormed = true) :
    new.Replaces old := by
  refine ⟨h.wellFormed hw, fun d => ?_⟩
  cases h with
  | same => rfl
  | singleConjunct => rw [holds_and, decided_singleton]
  | conjuncts => rw [holds_and, holds_and, decided_spread fun f => f.decided_conjuncts d]
  | singleDisjunct => rw [holds_or, decided_singleton]
  | disjuncts => rw [holds_or, holds_or, decided_spread fun f => f.decided_disjuncts d]
  | twiceNegated => rw [holds_not, holds_not, negated_negated]
  | notOr => rw [holds_nor, holds_not, holds_or]
  | notNor => rw [holds_not, holds_nor, negated_negated, holds_or]
  | negatedTest => rw [holds_not, holds_field_not, holds_not, negated_negated]
  | opposite target hopposite =>
    rw [← holds_field_not, holds_field, holds_field, Operation.holds_of_opposite? hopposite,
      Operation.holds_not]

theorem stepped_replaces {f : Filter} (hw : f.wellFormed = true) :
    ∃ new, f.stepped = .ok new ∧ new.Replaces f := by
  obtain ⟨new, hnew, hsteps⟩ := stepped_eq_ok hw
  exact ⟨new, hnew, hsteps.replaces hw⟩

end Filter

/-! ### Simplification -/

namespace Filter

/-- No filter inside is the value of an expression. -/
def Uncomputed (nodes : List Node) : Prop :=
  ∀ node ∈ nodes, node.kind ≠ .exprFilter

theorem Uncomputed.tail {node : Node} {nodes : List Node} (h : Uncomputed (node :: nodes)) :
    Uncomputed nodes :=
  fun other hother => h other (List.mem_cons_of_mem node hother)

theorem Uncomputed.of_mem {f : Filter} {fs : List Filter} (h : Uncomputed (nodesOfAll fs))
    (hf : f ∈ fs) : Uncomputed f.nodes :=
  forall_mem_nodesOfAll.mp h f hf

end Filter

/-- Where nothing inside is computed, a well-formed filter is simplified to one of its outcome. -/
def Filter.Simplifies (f : Filter) : Prop :=
  f.wellFormed = true → Filter.Uncomputed f.nodes →
    ∃ new, f.simplified = .ok new ∧ new.Replaces f

/-- Where nothing inside is computed, a well-formed operation is simplified to one of its
outcome. -/
def Operation.Simplifies (operation : Operation) : Prop :=
  operation.wellFormed = true → Filter.Uncomputed operation.nodes →
    ∃ new, operation.simplified = .ok new ∧ new.Replaces operation

namespace Filter

/-- A rebuilt node takes its step and can then stand where the old one does. -/
private theorem stepped_of_replaces {rebuilt f : Filter} (h : rebuilt.Replaces f) :
    ∃ new, rebuilt.stepped = .ok new ∧ new.Replaces f := by
  obtain ⟨new, hnew, hreplaces⟩ := stepped_replaces h.wellFormed
  exact ⟨new, hnew, hreplaces.trans h⟩

/-- A combination simplifies if its operands do and their outcomes decide its own. -/
private theorem simplifies_combination {make : List Filter → Filter}
    (hsimplified : ∀ args, (make args).simplified = (do stepped (make (← args.mapM simplified))))
    (hwf : ∀ args, (make args).wellFormed = true ↔ args ≠ [] ∧ ∀ f ∈ args, f.wellFormed = true)
    (hnodes : ∀ args, Uncomputed (make args).nodes → Uncomputed (nodesOfAll args))
    (hcongr : ∀ args news d, List.Forall₂ (fun f g => g.holds d = f.holds d) args news →
      (make news).holds d = (make args).holds d)
    {args : List Filter} (hargs : ∀ f ∈ args, f.Simplifies) : (make args).Simplifies := by
  intro hw hn
  obtain ⟨hne, hws⟩ := (hwf args).mp hw
  obtain ⟨news, hnews, hrel⟩ := exists_mapM_eq_ok (f := simplified)
    fun f hf => hargs f hf (hws f hf) ((hnodes args hn).of_mem hf)
  rw [hsimplified, hnews]
  refine stepped_of_replaces ⟨(hwf news).mpr ⟨?_, ?_⟩, fun d => ?_⟩
  · rintro rfl
    cases hrel
    exact hne rfl
  · exact forall_mem_of_forall₂ hrel fun _ _ h => h.wellFormed
  · exact hcongr args news d (hrel.imp fun _ _ h => h.holds d)

/-- Filters and operations simplify, by induction from the inside out. -/
theorem simplifies :
    (∀ f : Filter, f.Simplifies) ∧ ∀ operation : Operation, operation.Simplifies := by
  apply Filter.induction
  case field =>
    intro target operation ih hw hn
    rw [wellFormed, Bool.and_eq_true] at hw
    obtain ⟨new, hnew, hreplaces⟩ := ih hw.2 hn.tail
    rw [simplified_field, hnew]
    exact stepped_of_replaces (field_replaces hw.1 hreplaces)
  case and =>
    intro args hargs
    refine simplifies_combination simplified_and wellFormed_and (fun _ h => h.tail) ?_ hargs
    intro args news d h
    rw [holds_and, holds_and, decided_congr h]
  case or =>
    intro args hargs
    refine simplifies_combination simplified_or wellFormed_or (fun _ h => h.tail) ?_ hargs
    intro args news d h
    rw [holds_or, holds_or, decided_congr h]
  case nor =>
    intro args hargs
    refine simplifies_combination simplified_nor wellFormed_nor (fun _ h => h.tail) ?_ hargs
    intro args news d h
    rw [holds_nor, holds_nor, decided_congr h]
  case not =>
    intro f ih hw hn
    obtain ⟨new, hnew, hreplaces⟩ := ih hw hn.tail
    rw [simplified_not, hnew]
    refine stepped_of_replaces ⟨hreplaces.wellFormed, fun d => ?_⟩
    rw [holds_not, holds_not, hreplaces.holds]
  case expr =>
    -- the one kind of filter that is left out
    intro e _ hn
    exact absurd rfl (hn _ List.mem_cons_self)
  case elemMatch =>
    intro f ih hw hn
    obtain ⟨new, hnew, hreplaces⟩ := ih hw hn.tail
    rw [Operation.simplified_elemMatch, hnew]
    have hrebuilt : (Operation.elemMatch new).Replaces (.elemMatch f) := by
      refine ⟨hreplaces.wellFormed, fun values => ?_⟩
      rw [Operation.holds_elemMatch, Operation.holds_elemMatch]
      exact anyHolds_congr fun v _ => hreplaces.holds v
    obtain ⟨result, hresult, hstep⟩ := Operation.stepped_replaces hrebuilt.wellFormed
    exact ⟨result, hresult, hstep.trans hrebuilt⟩
  case negation =>
    intro operation ih hw hn
    obtain ⟨new, hnew, hreplaces⟩ := ih hw hn.tail
    rw [Operation.simplified_not, hnew]
    have hrebuilt : (Operation.not new).Replaces (.not operation) := by
      refine ⟨hreplaces.wellFormed, fun values => ?_⟩
      rw [Operation.holds_not, Operation.holds_not, hreplaces.holds]
    obtain ⟨result, hresult, hstep⟩ := Operation.stepped_replaces hrebuilt.wellFormed
    exact ⟨result, hresult, hstep.trans hrebuilt⟩
  case plain =>
    intro operation h h' hw _
    exact ⟨operation, Operation.simplified_plain h h', hw, fun _ => rfl⟩

/-- A filter that computes no expression selects the same documents when it is simplified, and
fails on the same ones with the same error. -/
theorem holds_simplifier (f : Filter) (hw : f.wellFormed = true)
    (hn : ∀ node ∈ f.nodes, node.kind ≠ .exprFilter) :
    ∃ r, simplifier.reviseFilter f = .ok r ∧ ∀ d, (r.resolve f).holds d = f.holds d := by
  obtain ⟨new, hnew, hreplaces⟩ := simplifies.1 f hw hn
  rw [simplified, resolved, map_eq_ok_iff] at hnew
  obtain ⟨r, hr, rfl⟩ := hnew
  exact ⟨r, hr, hreplaces.holds⟩

/-- Negations move inside and nested operands are spread, below an element too. -/
theorem holds_simplifier_nested :
    let f : Filter := .not (.or [
      .and [.field (.path "tags") (.elemMatch (.not (.field .element (.compare .eq (.int 1)))))],
      .field (.path "name") (.not (.regex "[" ""))])
    (f.wellFormed = true ∧ ∀ node ∈ f.nodes, node.kind ≠ .exprFilter) ∧
      ∃ r, simplifier.reviseFilter f = .ok r ∧ ∀ d, (r.resolve f).holds d = f.holds d :=
  ⟨⟨by decide +kernel, by decide +kernel⟩,
    holds_simplifier _ (by decide +kernel) (by decide +kernel)⟩

end Filter

end DocQuery
