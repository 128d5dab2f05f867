import DocQuery.Pipeline.Nodes

/-!
# Nodes and their children

A node is given by its children, in their order, and by everything else that it has: its sort, its
function or operator, its names and its paths.

## Main definitions

* `Node.children` — the nodes directly below a node.
* `Node.shell` — the node with the same nodes in the place of all of its children.
* `Node.nodes` — the node and all nodes below it.

## Main results

* `Node.nodes_eq` — these are the node and then those of its children.
* `Expression.forall_mem_nodesOfAll`, `Expression.forall_mem_nodesOfFields`,
  `Filter.forall_mem_nodesOfAll` — what holds of all nodes of several trees.
* `Node.induction` — induction over nodes of all sorts, from the children to the node.
* `Node.eq_of_shell_eq` — a node is known by its shell and its children.
-/

namespace DocQuery

/-! ### Children -/

/-- The expressions directly below an expression. -/
def Expression.children : Expression → List Expression
  | .constant _ => []
  | .field _ _ => []
  | .var _ => []
  | .unary _ arg => [arg]
  | .binary _ left right => [left, right]
  | .variadic _ args => args
  | .document fields => fields.map (·.2)
  | .array items => items
  | .getField _ input => [input]
  | .filter input _ condition => [input, condition]
  | .map input _ body => [input, body]

/-- The nodes directly below a filter. -/
def Filter.children : Filter → List Node
  | .field _ operation => [.operation operation]
  | .and args => args.map .filter
  | .or args => args.map .filter
  | .nor args => args.map .filter
  | .not filter => [.filter filter]
  | .expr e => [.expression e]

/-- The nodes directly below an operation. -/
def Operation.children : Operation → List Node
  | .elemMatch filter => [.filter filter]
  | .not operation => [.operation operation]
  | _ => []

/-- The expression that an entry of a projection computes. -/
def Projection.values : Projection → List Expression
  | .keep _ => []
  | .drop _ => []
  | .compute _ value => [value]

/-- The nodes directly below a stage. -/
def Stage.children : Stage → List Node
  | .select filter => [.filter filter]
  | .project entries => (entries.flatMap (·.values)).map .expression
  | .replaceRoot e => [.expression e]
  | .addFields fields => (fields.map (·.2)).map .expression
  | .group key accumulators => .expression key :: (accumulators.map (·.2)).map .accumulator
  | .sort _ => []
  | .skip _ => []
  | .limit _ => []
  | .unwind _ _ => []
  | .count _ => []

namespace Node

/-- The nodes directly below a node, in their order. -/
def children : Node → List Node
  | .stage s => s.children
  | .filter f => f.children
  | .operation o => o.children
  | .expression e => e.children.map .expression
  | .accumulator a => [.expression a.arg]

/-- The node and all nodes below it. -/
def nodes : Node → List Node
  | .stage s => s.nodes
  | .filter f => f.nodes
  | .operation o => o.nodes
  | .expression e => e.nodes
  | .accumulator a => a.nodes

end Node

theorem Expression.nodesOfAll_eq_flatMap (es : List Expression) :
    nodesOfAll es = es.flatMap (·.nodes) := by
  induction es with
  | nil => rfl
  | cons e es ih => rw [nodesOfAll, ih, List.flatMap_cons]

theorem Expression.nodesOfFields_eq_flatMap (fields : List (String × Expression)) :
    nodesOfFields fields = fields.flatMap (·.2.nodes) := by
  induction fields with
  | nil => rfl
  | cons field fields ih => rw [nodesOfFields, ih, List.flatMap_cons]

theorem Filter.nodesOfAll_eq_flatMap (fs : List Filter) :
    Filter.nodesOfAll fs = fs.flatMap (·.nodes) := by
  induction fs with
  | nil => rfl
  | cons f fs ih => rw [Filter.nodesOfAll, ih, List.flatMap_cons]

theorem Expression.forall_mem_nodesOfAll {p : Node → Prop} {es : List Expression} :
    (∀ node ∈ nodesOfAll es, p node) ↔ ∀ e ∈ es, ∀ node ∈ e.nodes, p node := by
  rw [nodesOfAll_eq_flatMap, List.forall_mem_flatMap]

theorem Expression.forall_mem_nodesOfFields {p : Node → Prop}
    {fields : List (String × Expression)} :
    (∀ node ∈ nodesOfFields fields, p node)
      ↔ ∀ field ∈ fields, ∀ node ∈ field.2.nodes, p node := by
  rw [nodesOfFields_eq_flatMap, List.forall_mem_flatMap]

theorem Filter.forall_mem_nodesOfAll {p : Node → Prop} {fs : List Filter} :
    (∀ node ∈ nodesOfAll fs, p node) ↔ ∀ f ∈ fs, ∀ node ∈ f.nodes, p node := by
  rw [nodesOfAll_eq_flatMap, List.forall_mem_flatMap]

/-- An operation without parts is its only node. -/
theorem Operation.nodes_plain {operation : Operation} (h : ∀ f, operation ≠ .elemMatch f)
    (h' : ∀ negated, operation ≠ .not negated) : operation.nodes = [.operation operation] := by
  cases operation with
  | elemMatch f => exact absurd rfl (h f)
  | not negated => exact absurd rfl (h' negated)
  | _ => rfl

theorem Projection.nodes_eq_flatMap (entry : Projection) :
    entry.nodes = entry.values.flatMap (·.nodes) := by
  cases entry with
  | compute path value => exact (List.append_nil _).symm
  | _ => rfl

namespace Node

/-- The nodes of a node are itself and those of its children. -/
theorem nodes_eq (n : Node) : n.nodes = n :: n.children.flatMap nodes := by
  cases n with
  | stage s =>
    rw [nodes, Stage.nodes.eq_def, children]
    cases s with
    | project entries =>
      simp [Stage.children, List.flatMap_map, List.flatMap_assoc, Projection.nodes_eq_flatMap,
        nodes]
    | addFields fields =>
      simp [Stage.children, List.flatMap_map, Expression.nodesOfFields_eq_flatMap, nodes]
    | group key accumulators => simp [Stage.children, List.flatMap_map, nodes]
    | _ => simp [Stage.children, nodes]
  | filter f =>
    cases f <;>
      simp [nodes, Filter.nodes, children, Filter.children, List.flatMap_map,
        Filter.nodesOfAll_eq_flatMap]
  | operation o => cases o <;> simp [nodes, Operation.nodes, children, Operation.children]
  | expression e =>
    cases e <;>
      simp [nodes, Expression.nodes, children, Expression.children, List.flatMap_map,
        Expression.nodesOfAll_eq_flatMap, Expression.nodesOfFields_eq_flatMap]
  | accumulator a => simp [nodes, AccumulatorExpression.nodes, children]

theorem mem_nodes_self (n : Node) : n ∈ n.nodes := by
  rw [nodes_eq]
  exact List.mem_cons_self

/-- A child has fewer nodes. -/
theorem length_nodes_lt_of_mem_children {n child : Node} (h : child ∈ n.children) :
    child.nodes.length < n.nodes.length := by
  rw [nodes_eq n, List.length_cons, List.flatMap_def]
  exact Nat.lt_succ_of_le (List.sublist_flatten_of_mem (List.mem_map_of_mem h)).length_le

/-- A property of nodes of all sorts that they take over from their children. -/
theorem induction {motive : Node → Prop}
    (h : ∀ n, (∀ child ∈ n.children, motive child) → motive n) (n : Node) : motive n := by
  induction hlength : n.nodes.length using Nat.strongRecOn generalizing n with
  | ind length ih =>
    subst hlength
    exact h n fun child hchild => ih _ (length_nodes_lt_of_mem_children hchild) child rfl

end Node

/-! ### Shells -/

/-- An expression that takes the place of children. -/
def Expression.hole : Expression :=
  .var ""

/-- The entry with a hole for its value. -/
def Projection.shell : Projection → Projection
  | .compute path _ => .compute path .hole
  | entry => entry

/-- The expression with holes for its children. -/
def Expression.shell : Expression → Expression
  | .unary function _ => .unary function hole
  | .binary function _ _ => .binary function hole hole
  | .variadic function args => .variadic function (args.map fun _ => hole)
  | .document fields => .document (fields.map fun field => (field.1, hole))
  | .array items => .array (items.map fun _ => hole)
  | .getField name _ => .getField name hole
  | .filter _ name _ => .filter hole name hole
  | .map _ name _ => .map hole name hole
  | e => e

/-- A filter that takes the place of children. -/
def Filter.hole : Filter :=
  .expr .hole

/-- An operation that takes the place of children. -/
def Operation.hole : Operation :=
  .exists true

/-- An accumulator that takes the place of children. -/
def AccumulatorExpression.hole : AccumulatorExpression :=
  ⟨.sum, .hole⟩

/-- The filter with holes for its children. -/
def Filter.shell : Filter → Filter
  | .field target _ => .field target .hole
  | .and args => .and (args.map fun _ => hole)
  | .or args => .or (args.map fun _ => hole)
  | .nor args => .nor (args.map fun _ => hole)
  | .not _ => .not hole
  | .expr _ => .expr .hole

/-- The operation with holes for its children. -/
def Operation.shell : Operation → Operation
  | .elemMatch _ => .elemMatch .hole
  | .not _ => .not hole
  | operation => operation

/-- The stage with holes for its children. -/
def Stage.shell : Stage → Stage
  | .select _ => .select .hole
  | .project entries => .project (entries.map (·.shell))
  | .replaceRoot _ => .replaceRoot .hole
  | .addFields fields => .addFields (fields.map fun field => (field.1, .hole))
  | .group _ accumulators => .group .hole (accumulators.map fun a => (a.1, .hole))
  | stage => stage

namespace Node

/-- The node with holes for its children.  It has the sort, the function or operator, the names, the
paths and the number of children of the node. -/
def shell : Node → Node
  | .stage s => .stage s.shell
  | .filter f => .filter f.shell
  | .operation o => .operation o.shell
  | .expression e => .expression e.shell
  | .accumulator a => .accumulator ⟨a.operator, .hole⟩

end Node

/-! ### Shells and children together -/

/-- Members of a list are known by what is left of each of them without its parts, if this says how
many parts there are, and by their parts. -/
private theorem eq_of_shells_eq {α β γ : Type} {shell : α → γ} (parts : α → List β)
    (hlength : ∀ a a', shell a = shell a' → (parts a).length = (parts a').length)
    (hsingle : ∀ a a', shell a = shell a' → parts a = parts a' → a = a') {l l' : List α}
    (hshells : l.map shell = l'.map shell) (hparts : l.flatMap parts = l'.flatMap parts) :
    l = l' := by
  induction l generalizing l' with
  | nil => exact (List.map_eq_nil_iff.mp hshells.symm).symm
  | cons a l ih =>
    cases l' with
    | nil => cases hshells
    | cons a' l' =>
      rw [List.map_cons, List.map_cons, List.cons.injEq] at hshells
      rw [List.flatMap_cons, List.flatMap_cons] at hparts
      obtain ⟨hfirst, hrest⟩ := List.append_inj hparts (hlength a a' hshells.1)
      rw [hsingle a a' hshells.1 hfirst, ih hshells.2 hrest]

private theorem eq_of_names_eq {β : Type} {hole : β} {l l' : List (String × β)}
    (hnames : (l.map fun member => (member.1, hole)) = l'.map fun member => (member.1, hole))
    (hmembers : l.map (·.2) = l'.map (·.2)) : l = l' := by
  refine eq_of_shells_eq (fun member => [member.2]) (fun _ _ _ => rfl)
    (fun a a' hname hmember => ?_) hnames ?_
  · exact Prod.ext (Prod.mk.inj hname).1 (List.head_eq_of_cons_eq hmember)
  · rwa [List.map_eq_flatMap, List.map_eq_flatMap] at hmembers

private theorem Expression.eq_of_shell_eq {e e' : Expression} (hshell : e.shell = e'.shell)
    (hchildren : e.children = e'.children) : e = e' := by
  cases e with
  | document fields =>
    cases e' with
    | document fields' => exact congrArg document (eq_of_names_eq (document.inj hshell) hchildren)
    | _ => cases hshell
  | _ => cases e' <;> simp_all [shell, children]

private theorem Filter.eq_of_shell_eq {f f' : Filter} (hshell : f.shell = f'.shell)
    (hchildren : f.children = f'.children) : f = f' := by
  have hargs {args args' : List Filter} (h : args.map Node.filter = args'.map Node.filter) :
      args = args' := (List.map_inj_right fun _ _ => Node.filter.inj).mp h
  cases f <;> cases f' <;> simp_all [shell, children]
  all_goals exact hargs hchildren

private theorem Operation.eq_of_shell_eq {o o' : Operation} (hshell : o.shell = o'.shell)
    (hchildren : o.children = o'.children) : o = o' := by
  cases o <;> cases o' <;> simp_all [shell, children]

private theorem Projection.eq_of_shell_eq {entry entry' : Projection}
    (hshell : entry.shell = entry'.shell) (hvalues : entry.values = entry'.values) :
    entry = entry' := by
  cases entry <;> cases entry' <;> simp_all [shell, values]

private theorem Projection.length_values_of_shell_eq (entry entry' : Projection)
    (hshell : entry.shell = entry'.shell) : entry.values.length = entry'.values.length := by
  cases entry <;> cases entry' <;> simp_all [shell, values]

private theorem Stage.eq_of_shell_eq {s s' : Stage} (hshell : s.shell = s'.shell)
    (hchildren : s.children = s'.children) : s = s' := by
  have hvalues {es es' : List Expression} (h : es.map Node.expression = es'.map Node.expression) :
      es = es' := (List.map_inj_right fun _ _ => Node.expression.inj).mp h
  cases s with
  | project entries =>
    cases s' with
    | project entries' =>
      exact congrArg project (eq_of_shells_eq Projection.values Projection.length_values_of_shell_eq
        (fun _ _ => Projection.eq_of_shell_eq) (project.inj hshell) (hvalues hchildren))
    | _ => cases hshell
  | addFields fields =>
    cases s' with
    | addFields fields' =>
      exact congrArg addFields (eq_of_names_eq (addFields.inj hshell) (hvalues hchildren))
    | _ => cases hshell
  | group key accumulators =>
    cases s' with
    | group key' accumulators' =>
      obtain ⟨hkey, hmembers⟩ := List.cons.inj hchildren
      rw [Node.expression.inj hkey, eq_of_names_eq (group.inj hshell).2
        ((List.map_inj_right fun _ _ => Node.accumulator.inj).mp hmembers)]
    | _ => cases hshell
  | _ => cases s' <;> simp_all [shell, children]

namespace Node

/-- A node is known by its shell and its children. -/
theorem eq_of_shell_eq {n n' : Node} (hshell : n.shell = n'.shell)
    (hchildren : n.children = n'.children) : n = n' := by
  cases n with
  | stage s =>
    cases n' with
    | stage s' => exact congrArg stage (Stage.eq_of_shell_eq (stage.inj hshell) hchildren)
    | _ => cases hshell
  | filter f =>
    cases n' with
    | filter f' => exact congrArg filter (Filter.eq_of_shell_eq (filter.inj hshell) hchildren)
    | _ => cases hshell
  | operation o =>
    cases n' with
    | operation o' =>
      exact congrArg operation (Operation.eq_of_shell_eq (operation.inj hshell) hchildren)
    | _ => cases hshell
  | expression e =>
    cases n' with
    | expression e' =>
      exact congrArg expression (Expression.eq_of_shell_eq (expression.inj hshell)
        ((List.map_inj_right fun _ _ => expression.inj).mp hchildren))
    | _ => cases hshell
  | accumulator a =>
    cases n' with
    | accumulator a' => 
      obtain ⟨operator, arg⟩ := a
      obtain ⟨operator', arg'⟩ := a'
      cases hshell
      cases hchildren
      rfl
    | _ => cases hshell

end Node

end DocQuery
