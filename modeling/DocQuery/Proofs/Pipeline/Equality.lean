import DocQuery.Pipeline.Equality
import DocQuery.Proofs.Pipeline.Children
import DocQuery.Proofs.Pipeline.Induction

/-!
# Trees that are the same

Every tree is the same as itself, and trees that are the same have as many nodes as one another.

## Main results

* `Pipeline.same_self` — sameness is reflexive; so for the other trees.
* `Expression.length_nodes_of_same`, `Filter.length_nodes_of_same`, … — the same trees have equally
  many nodes.
-/

namespace DocQuery

/-! ### Sameness is reflexive -/

theorem Number.same_self (n : Number) : n.same n = true := by
  cases n with
  | real x => simp [same, Binary64.order]
  | _ => exact beq_self_eq_true _

private theorem Value.sameItems_self {items : List Value} (h : ∀ v ∈ items, v.same v = true) :
    sameItems items items = true := by
  induction items with
  | nil => rfl
  | cons v items ih =>
    obtain ⟨hv, hitems⟩ := List.forall_mem_cons.mp h
    rw [sameItems, hv, ih hitems, Bool.and_self]

private theorem Value.sameFields_of_subset {fields others : List (String × Value)}
    (h : ∀ field ∈ fields, field.2.same field.2 = true) (hsub : fields ⊆ others) :
    sameFields fields others = true := by
  induction fields with
  | nil => rfl
  | cons field fields ih =>
    obtain ⟨hfield, hfields⟩ := List.forall_mem_cons.mp h
    obtain ⟨hmem, hrest⟩ := List.cons_subset.mp hsub
    rw [sameFields, ih hfields hrest, Bool.and_true, List.any_eq_true]
    refine ⟨field, hmem, ?_⟩
    show (field.1 == field.1 && field.2.same field.2) = true
    rw [hfield, beq_self_eq_true, Bool.and_self]

theorem Value.same_self (v : Value) : v.same v = true := by
  induction v using Value.induction with
  | null => rfl
  | bool b => exact beq_self_eq_true b
  | number n => exact n.same_self
  | string s => exact beq_self_eq_true s
  | array items ih => exact sameItems_self ih
  | object fields ih =>
    rw [same, beq_self_eq_true, Bool.true_and]
    exact sameFields_of_subset ih (List.Subset.refl fields)

namespace Expression

private theorem sameAll_self {es : List Expression} (h : ∀ e ∈ es, e.same e = true) :
    sameAll es es = true := by
  induction es with
  | nil => rfl
  | cons e es ih =>
    obtain ⟨he, hes⟩ := List.forall_mem_cons.mp h
    rw [sameAll, he, ih hes, Bool.and_self]

private theorem sameFields_self {fields : List (String × Expression)}
    (h : ∀ field ∈ fields, field.2.same field.2 = true) : sameFields fields fields = true := by
  induction fields with
  | nil => rfl
  | cons field fields ih =>
    obtain ⟨hfield, hfields⟩ := List.forall_mem_cons.mp h
    rw [sameFields, hfield, ih hfields, beq_self_eq_true, Bool.and_self, Bool.and_self]

theorem same_self (e : Expression) : e.same e = true := by
  induction e using Expression.induction with
  | constant value => exact value.same_self
  | variadic function args ih => simp [same, sameAll_self ih]
  | document fields ih => exact sameFields_self ih
  | array items ih => exact sameAll_self ih
  | _ => simp [same, *]

end Expression

private theorem Filter.sameAll_self {fs : List Filter} (h : ∀ f ∈ fs, f.same f = true) :
    Filter.sameAll fs fs = true := by
  induction fs with
  | nil => rfl
  | cons f fs ih =>
    obtain ⟨hf, hfs⟩ := List.forall_mem_cons.mp h
    rw [Filter.sameAll, hf, ih hfs, Bool.and_self]

private theorem Filter.same_self_and :
    (∀ f : Filter, f.same f = true) ∧ ∀ operation : Operation, operation.same operation = true := by
  apply Filter.induction
  case field => exact fun target operation ih => by simp [Filter.same, ih]
  case and => exact fun args => sameAll_self
  case or => exact fun args => sameAll_self
  case nor => exact fun args => sameAll_self
  case not => exact fun f ih => ih
  case expr => exact fun e => e.same_self
  case elemMatch => exact fun f ih => ih
  case negation => exact fun operation ih => ih
  case plain =>
    intro operation hmatch hnot
    cases operation with
    | compare comparison value => simp [Operation.same, value.same_self]
    | isIn values => exact Value.sameItems_self fun v _ => v.same_self
    | notIn values => exact Value.sameItems_self fun v _ => v.same_self
    | elemMatch f => exact absurd rfl (hmatch f)
    | not negated => exact absurd rfl (hnot negated)
    | _ => simp [Operation.same]

theorem Filter.same_self (f : Filter) : f.same f = true :=
  same_self_and.1 f

theorem Projection.same_self (entry : Projection) : entry.same entry = true := by
  cases entry with
  | compute path value => simp [same, value.same_self]
  | _ => exact beq_self_eq_true _

theorem AccumulatorExpression.same_self (a : AccumulatorExpression) : a.same a = true := by
  simp [same, a.arg.same_self]

theorem allSame_self {α : Type} {same : α → α → Bool} (h : ∀ a, same a a = true) (l : List α) :
    allSame same l l = true := by
  induction l with
  | nil => rfl
  | cons a l ih => rw [allSame, h, ih, Bool.and_self]

theorem Stage.same_self (stage : Stage) : stage.same stage = true := by
  cases stage with
  | select f => exact f.same_self
  | project entries => exact allSame_self Projection.same_self entries
  | replaceRoot e => exact e.same_self
  | addFields fields => exact Expression.sameFields_self fun field _ => field.2.same_self
  | group key accumulators =>
    have hall : allSame (fun x y => x.1 == y.1 && x.2.same y.2) accumulators accumulators = true :=
      allSame_self (fun a => by simp [a.2.same_self]) accumulators
    rw [same, key.same_self, hall, Bool.and_self]
  | _ => simp [same]

/-- **Every pipeline is the same as itself.** -/
theorem Pipeline.same_self (p : Pipeline) : p.same p = true :=
  allSame_self Stage.same_self p.stages

/-! ### The same trees have equally many nodes -/

namespace Expression

private theorem length_nodesOfAll_of_sameAll {es : List Expression}
    (h : ∀ e ∈ es, ∀ other, e.same other = true → e.nodes.length = other.nodes.length)
    {others : List Expression} (hsame : sameAll es others = true) :
    (nodesOfAll es).length = (nodesOfAll others).length := by
  induction es generalizing others with
  | nil =>
    cases others with
    | nil => rfl
    | cons => cases hsame
  | cons e es ih =>
    cases others with
    | nil => cases hsame
    | cons other others =>
      obtain ⟨he, hes⟩ := List.forall_mem_cons.mp h
      rw [sameAll, Bool.and_eq_true] at hsame
      rw [nodesOfAll, nodesOfAll, List.length_append, List.length_append, he other hsame.1,
        ih hes hsame.2]

private theorem length_nodesOfFields_of_sameFields {fields : List (String × Expression)}
    (h : ∀ field ∈ fields, ∀ other, field.2.same other = true →
      field.2.nodes.length = other.nodes.length)
    {others : List (String × Expression)} (hsame : sameFields fields others = true) :
    (nodesOfFields fields).length = (nodesOfFields others).length := by
  induction fields generalizing others with
  | nil =>
    cases others with
    | nil => rfl
    | cons => cases hsame
  | cons field fields ih =>
    cases others with
    | nil => cases hsame
    | cons other others =>
      obtain ⟨hfield, hfields⟩ := List.forall_mem_cons.mp h
      rw [sameFields, Bool.and_eq_true, Bool.and_eq_true] at hsame
      rw [nodesOfFields, nodesOfFields, List.length_append, List.length_append,
        hfield other.2 hsame.1.2, ih hfields hsame.2]

theorem length_nodes_of_same {e other : Expression} (h : e.same other = true) :
    e.nodes.length = other.nodes.length := by
  -- trees of different kinds are not the same, so only one case is left for the other tree
  induction e using Expression.induction generalizing other with
  | constant value =>
    cases other with
    | constant => rfl
    | _ => cases h
  | field scope path =>
    cases other with
    | field => rfl
    | _ => cases h
  | var name =>
    cases other with
    | var => rfl
    | _ => cases h
  | unary function arg ih =>
    cases other with
    | unary =>
      rw [same, Bool.and_eq_true] at h
      rw [nodes, nodes, List.length_cons, List.length_cons, ih h.2]
    | _ => cases h
  | binary function left right ihl ihr =>
    cases other with
    | binary =>
      rw [same, Bool.and_eq_true, Bool.and_eq_true] at h
      simp only [nodes, List.length_cons, List.length_append, ihl h.1.2, ihr h.2]
    | _ => cases h
  | variadic function args ih =>
    cases other with
    | variadic =>
      rw [same, Bool.and_eq_true] at h
      rw [nodes, nodes, List.length_cons, List.length_cons,
        length_nodesOfAll_of_sameAll (fun e he _ => ih e he) h.2]
    | _ => cases h
  | document fields ih =>
    cases other with
    | document =>
      rw [nodes, nodes, List.length_cons, List.length_cons,
        length_nodesOfFields_of_sameFields (fun field hfield _ => ih field hfield) h]
    | _ => cases h
  | array items ih =>
    cases other with
    | array =>
      rw [nodes, nodes, List.length_cons, List.length_cons,
        length_nodesOfAll_of_sameAll (fun e he _ => ih e he) h]
    | _ => cases h
  | getField name input ih =>
    cases other with
    | getField =>
      rw [same, Bool.and_eq_true] at h
      rw [nodes, nodes, List.length_cons, List.length_cons, ih h.2]
    | _ => cases h
  | filter input name condition ihi ihc =>
    cases other with
    | filter =>
      rw [same, Bool.and_eq_true, Bool.and_eq_true] at h
      simp only [nodes, List.length_cons, List.length_append, ihi h.1.2, ihc h.2]
    | _ => cases h
  | map input name body ihi ihb =>
    cases other with
    | map =>
      rw [same, Bool.and_eq_true, Bool.and_eq_true] at h
      simp only [nodes, List.length_cons, List.length_append, ihi h.1.2, ihb h.2]
    | _ => cases h

end Expression

private theorem Filter.length_nodesOfAll_of_sameAll {fs : List Filter}
    (h : ∀ f ∈ fs, ∀ other, f.same other = true → f.nodes.length = other.nodes.length)
    {others : List Filter} (hsame : Filter.sameAll fs others = true) :
    (Filter.nodesOfAll fs).length = (Filter.nodesOfAll others).length := by
  induction fs generalizing others with
  | nil =>
    cases others with
    | nil => rfl
    | cons => cases hsame
  | cons f fs ih =>
    cases others with
    | nil => cases hsame
    | cons other others =>
      obtain ⟨hf, hfs⟩ := List.forall_mem_cons.mp h
      rw [Filter.sameAll, Bool.and_eq_true] at hsame
      rw [Filter.nodesOfAll, Filter.nodesOfAll, List.length_append, List.length_append,
        hf other hsame.1, ih hfs hsame.2]

/-- An operation that is the same as one without parts has no parts. -/
private theorem Operation.nodes_of_same_plain {operation other : Operation}
    (hmatch : ∀ f, operation ≠ .elemMatch f) (hnot : ∀ negated, operation ≠ .not negated)
    (h : operation.same other = true) : other.nodes = [.operation other] := by
  refine Operation.nodes_plain ?_ ?_
  · rintro f rfl
    cases operation with
    | elemMatch g => exact hmatch g rfl
    | _ => cases h
  · rintro negated rfl
    cases operation with
    | not negated => exact hnot negated rfl
    | _ => cases h

private theorem Filter.length_nodes_of_same_and :
    (∀ f : Filter, ∀ other, f.same other = true → f.nodes.length = other.nodes.length) ∧
    ∀ operation : Operation, ∀ other, operation.same other = true →
      operation.nodes.length = other.nodes.length := by
  apply Filter.induction
  case field =>
    intro target operation ih other h
    cases other with
    | field =>
      rw [Filter.same, Bool.and_eq_true] at h
      rw [nodes, nodes, List.length_cons, List.length_cons, ih _ h.2]
    | _ => cases h
  case and =>
    intro args ih other h
    cases other with
    | and => exact congrArg (· + 1) (length_nodesOfAll_of_sameAll ih h)
    | _ => cases h
  case or =>
    intro args ih other h
    cases other with
    | or => exact congrArg (· + 1) (length_nodesOfAll_of_sameAll ih h)
    | _ => cases h
  case nor =>
    intro args ih other h
    cases other with
    | nor => exact congrArg (· + 1) (length_nodesOfAll_of_sameAll ih h)
    | _ => cases h
  case not =>
    intro f ih other h
    cases other with
    | not g => exact congrArg (· + 1) (ih g h)
    | _ => cases h
  case expr =>
    intro e other h
    cases other with
    | expr e' => exact congrArg (· + 1) (Expression.length_nodes_of_same h)
    | _ => cases h
  case elemMatch =>
    intro f ih other h
    cases other with
    | elemMatch g => exact congrArg (· + 1) (ih g h)
    | _ => cases h
  case negation =>
    intro operation ih other h
    cases other with
    | not negated => exact congrArg (· + 1) (ih negated h)
    | _ => cases h
  case plain =>
    intro operation hmatch hnot other h
    rw [Operation.nodes_plain hmatch hnot, Operation.nodes_of_same_plain hmatch hnot h]
    rfl

theorem Filter.length_nodes_of_same {f other : Filter} (h : f.same other = true) :
    f.nodes.length = other.nodes.length :=
  length_nodes_of_same_and.1 f other h

theorem Projection.length_nodes_of_same {entry other : Projection} (h : entry.same other = true) :
    entry.nodes.length = other.nodes.length := by
  cases entry with
  | compute path value =>
    cases other with
    | compute =>
      rw [same, Bool.and_eq_true] at h
      exact Expression.length_nodes_of_same h.2
    | _ => cases h
  | keep path =>
    cases other with
    | keep => rfl
    | _ => cases h
  | drop path =>
    cases other with
    | drop => rfl
    | _ => cases h

/-- Lists with elements that are the same one by one have equally many nodes. -/
private theorem length_flatMap_of_allSame {α : Type} {r : α → α → Bool} {f : α → List Node}
    (h : ∀ a b, r a b = true → (f a).length = (f b).length) {l others : List α}
    (hsame : allSame r l others = true) :
    (l.flatMap f).length = (others.flatMap f).length := by
  induction l generalizing others with
  | nil =>
    cases others with
    | nil => rfl
    | cons => cases hsame
  | cons a l ih =>
    cases others with
    | nil => cases hsame
    | cons b others =>
      rw [allSame, Bool.and_eq_true] at hsame
      rw [List.flatMap_cons, List.flatMap_cons, List.length_append, List.length_append,
        h a b hsame.1, ih hsame.2]

theorem Stage.length_nodes_of_same {stage other : Stage} (h : stage.same other = true) :
    stage.nodes.length = other.nodes.length := by
  cases stage with
  | select f =>
    cases other with
    | select => exact congrArg (· + 1) (Filter.length_nodes_of_same h)
    | _ => cases h
  | project entries =>
    cases other with
    | project =>
      exact congrArg (· + 1)
        (length_flatMap_of_allSame (r := Projection.same)
          (fun _ _ => Projection.length_nodes_of_same) h)
    | _ => cases h
  | replaceRoot e =>
    cases other with
    | replaceRoot => exact congrArg (· + 1) (Expression.length_nodes_of_same h)
    | _ => cases h
  | addFields fields =>
    cases other with
    | addFields =>
      exact congrArg (· + 1) (Expression.length_nodesOfFields_of_sameFields
        (fun _ _ _ => Expression.length_nodes_of_same) h)
    | _ => cases h
  | group key accumulators =>
    cases other with
    | group otherKey others =>
      rw [same, Bool.and_eq_true] at h
      have haccumulators := length_flatMap_of_allSame
        (f := fun a : String × AccumulatorExpression => a.2.nodes) (fun a b hab => by
          rw [Bool.and_eq_true, AccumulatorExpression.same, Bool.and_eq_true] at hab
          exact congrArg (· + 1) (Expression.length_nodes_of_same hab.2.2)) h.2
      rw [nodes, nodes, List.length_cons, List.length_cons, List.length_append, List.length_append,
        Expression.length_nodes_of_same h.1]
      exact congrArg (otherKey.nodes.length + · + 1) haccumulators
    | _ => cases h
  | sort keys =>
    cases other with
    | sort => rfl
    | _ => cases h
  | skip n =>
    cases other with
    | skip => rfl
    | _ => cases h
  | limit n =>
    cases other with
    | limit => rfl
    | _ => cases h
  | unwind path keepEmpty =>
    cases other with
    | unwind => rfl
    | _ => cases h
  | count name =>
    cases other with
    | count => rfl
    | _ => cases h

/-- **Pipelines that are the same have equally many nodes.** -/
theorem Pipeline.length_nodes_of_same {p other : Pipeline} (h : p.same other = true) :
    p.nodes.length = other.nodes.length :=
  length_flatMap_of_allSame (r := Stage.same) (fun _ _ => Stage.length_nodes_of_same) h

end DocQuery
