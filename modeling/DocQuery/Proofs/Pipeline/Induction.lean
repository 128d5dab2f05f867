import DocQuery.Pipeline.Filter

/-!
# Induction over the nodes of a pipeline

Values, expressions and filters hold lists of their own kind.  The principles here give, for such a
list, the induction hypothesis for each of its members, so that a proof goes by the constructors
and nothing else.

## Main results

* `Value.induction`, `Expression.induction` — induction over one tree.
* `Filter.induction` — induction over filters and operations together.
-/

namespace DocQuery

/-- The members of a list have a property if its head and the members of its tail do. -/
private theorem forall_mem_of_head_tail {α : Type} {p : α → Prop} (a : α) (l : List α) (ha : p a)
    (hl : ∀ x ∈ l, p x) : ∀ x ∈ a :: l, p x :=
  List.forall_mem_cons.mpr ⟨ha, hl⟩

/-- A property of values that every constructor hands on from the parts to the whole. -/
theorem Value.induction {motive : Value → Prop}
    (null : motive .null) (bool : ∀ b, motive (.bool b)) (number : ∀ n, motive (.number n))
    (string : ∀ s, motive (.string s))
    (array : ∀ items, (∀ v ∈ items, motive v) → motive (.array items))
    (object : ∀ fields, (∀ field ∈ fields, motive field.2) → motive (.object fields)) :
    ∀ v, motive v :=
  @Value.rec motive (fun items => ∀ v ∈ items, motive v)
    (fun fields => ∀ field ∈ fields, motive field.2) (fun field => motive field.2)
    null bool number string array object
    (List.forall_mem_nil _) forall_mem_of_head_tail
    (List.forall_mem_nil _) forall_mem_of_head_tail
    (fun _ _ h => h)

/-- A property of expressions that every constructor hands on from the parts to the whole. -/
theorem Expression.induction {motive : Expression → Prop}
    (constant : ∀ value, motive (.constant value))
    (field : ∀ scope path, motive (.field scope path))
    (var : ∀ name, motive (.var name))
    (unary : ∀ function arg, motive arg → motive (.unary function arg))
    (binary : ∀ function left right, motive left → motive right →
      motive (.binary function left right))
    (variadic : ∀ function args, (∀ e ∈ args, motive e) → motive (.variadic function args))
    (document : ∀ fields, (∀ field ∈ fields, motive field.2) → motive (.document fields))
    (array : ∀ items, (∀ e ∈ items, motive e) → motive (.array items))
    (getField : ∀ name input, motive input → motive (.getField name input))
    (filter : ∀ input name condition, motive input → motive condition →
      motive (.filter input name condition))
    (map : ∀ input name body, motive input → motive body → motive (.map input name body)) :
    ∀ e, motive e :=
  @Expression.rec motive (fun es => ∀ e ∈ es, motive e)
    (fun fields => ∀ field ∈ fields, motive field.2) (fun field => motive field.2)
    constant field var unary binary variadic document array getField filter map
    (List.forall_mem_nil _) forall_mem_of_head_tail
    (List.forall_mem_nil _) forall_mem_of_head_tail
    (fun _ _ h => h)

/-- Properties of filters and of operations that every constructor hands on from the parts to the
whole; the operations without parts are `plain`. -/
theorem Filter.induction {motive : Filter → Prop} {tested : Operation → Prop}
    (field : ∀ target operation, tested operation → motive (.field target operation))
    (and : ∀ args, (∀ f ∈ args, motive f) → motive (.and args))
    (or : ∀ args, (∀ f ∈ args, motive f) → motive (.or args))
    (nor : ∀ args, (∀ f ∈ args, motive f) → motive (.nor args))
    (not : ∀ filter, motive filter → motive (.not filter))
    (expr : ∀ e, motive (.expr e))
    (elemMatch : ∀ filter, motive filter → tested (.elemMatch filter))
    (negation : ∀ operation, tested operation → tested (.not operation))
    (plain : ∀ operation, (∀ filter, operation ≠ .elemMatch filter) →
      (∀ negated, operation ≠ .not negated) → tested operation) :
    (∀ f, motive f) ∧ (∀ operation, tested operation) :=
  have leaf {operation : Operation} (h : ∀ filter, operation ≠ .elemMatch filter)
      (h' : ∀ negated, operation ≠ .not negated) : tested operation := plain operation h h'
  ⟨@Filter.rec motive tested (fun fs => ∀ f ∈ fs, motive f) field and or nor not expr
      (fun _ _ => leaf nofun nofun) (fun _ _ => leaf nofun nofun) (fun _ => leaf nofun nofun)
      (fun _ => leaf nofun nofun) (fun _ => leaf nofun nofun) (fun _ _ => leaf nofun nofun)
      (fun _ => leaf nofun nofun) (fun _ => leaf nofun nofun) (fun _ _ => leaf nofun nofun)
      elemMatch negation (List.forall_mem_nil _) forall_mem_of_head_tail,
    @Operation.rec motive tested (fun fs => ∀ f ∈ fs, motive f) field and or nor not expr
      (fun _ _ => leaf nofun nofun) (fun _ _ => leaf nofun nofun) (fun _ => leaf nofun nofun)
      (fun _ => leaf nofun nofun) (fun _ => leaf nofun nofun) (fun _ _ => leaf nofun nofun)
      (fun _ => leaf nofun nofun) (fun _ => leaf nofun nofun) (fun _ _ => leaf nofun nofun)
      elemMatch negation (List.forall_mem_nil _) forall_mem_of_head_tail⟩

end DocQuery
