import DocQuery.Proofs.Revision.Rebuilt

/-!
# Traversals

A visitor and a reviser that do the same at every node and otherwise go on to its children pass
through the same nodes in the same order: through those that are listed for a pipeline.  The listing
has a node for every place in the pipeline, the places in their lexicographic order.

## Main definitions

* `Node.at?`, `Pipeline.at?` — the node at a place, which tells what child to take at each step.
* `Lists` — nodes are the ones at all places, a place before those below it and to its right.
* `Visitor.reporting`, `Reviser.reporting` — every node is reported before its children are.
* `Rewriter.KeepsAfter` — the rewriter leaves a node alone when it has done something for it.

## Main results

* `Pipeline.lists_nodes` — the nodes of a pipeline are the ones at all of its places.
* `Visitor.visitNode_eq` — a visitor does at a node what its rule says, over the visits of the
  children.
* `Rewriter.rebuildExpression_eq_kept`, … — rebuilding does not fail if the children are left alone.
* `Visitor.reporting_visitPipeline`, `Reviser.reporting_revisePipeline` — what is reported for a
  pipeline.
* `Reviser.default_revisePipeline` — the reviser without rules of its own keeps every pipeline.
* `Pipeline.nodes_traversed` — **visitors and revisers are handed the same nodes, each of them once
  and before those below it.**
-/

namespace DocQuery

open Revised

/-! ### Places -/

/-- The node at a place: the children to take, one below the other. -/
def Node.at? (n : Node) : List Nat → Option Node
  | [] => some n
  | i :: place => n.children[i]?.bind (·.at? place)

/-- The node at a place in trees that stand next to each other. -/
def Node.among? (trees : List Node) : List Nat → Option Node
  | [] => none
  | i :: place => trees[i]?.bind (·.at? place)

/-- The node at a place in a pipeline, the first step to which takes a stage. -/
def Pipeline.at? (p : Pipeline) : List Nat → Option Node :=
  Node.among? (p.stages.map .stage)

/-- The nodes are those at all places that there are, each place once, before those below it and
after those to its left. -/
def Lists (nodes : List Node) (at? : List Nat → Option Node) : Prop :=
  ∃ places : List (List Nat), places.Pairwise (· < ·) ∧
    (∀ place, place ∈ places ↔ (at? place).isSome = true) ∧ nodes.map some = places.map at?

/-- A place in trees begins with one of them. -/
private theorem Node.exists_cons_of_among {trees : List Node} {place : List Nat}
    (h : (among? trees place).isSome = true) : ∃ i rest, place = i :: rest := by
  cases place with
  | nil => cases h
  | cons i rest => exact ⟨i, rest, rfl⟩

/-- The place one tree further to the right. -/
private def nextTree : List Nat → List Nat
  | [] => []
  | i :: place => (i + 1) :: place

/-- The places in a tree, and then those in the trees to its right. -/
private def placesBeside (ps qs : List (List Nat)) : List (List Nat) :=
  ps.map (0 :: ·) ++ qs.map nextTree

section Places

variable {ps qs : List (List Nat)} (hcons : ∀ place ∈ qs, ∃ i rest, place = i :: rest)

include hcons

private theorem pairwise_placesBeside (hps : ps.Pairwise (· < ·)) (hqs : qs.Pairwise (· < ·)) :
    (placesBeside ps qs).Pairwise (· < ·) := by
  refine List.pairwise_append.mpr ⟨?_, ?_, ?_⟩
  · exact List.pairwise_map.mpr (hps.imp fun hlt => List.cons_lt_cons_iff.mpr (.inr ⟨rfl, hlt⟩))
  · refine List.pairwise_map.mpr (hqs.imp_of_mem fun {p q} hp hq hlt => ?_)
    obtain ⟨i, rest, rfl⟩ := hcons p hp
    obtain ⟨j, rest', rfl⟩ := hcons q hq
    obtain hij | ⟨rfl, hrest⟩ := List.cons_lt_cons_iff.mp hlt
    · exact List.cons_lt_cons_iff.mpr (.inl (Nat.succ_lt_succ hij))
    · exact List.cons_lt_cons_iff.mpr (.inr ⟨rfl, hrest⟩)
  · intro first hfirst later hlater
    obtain ⟨p, -, rfl⟩ := List.mem_map.mp hfirst
    obtain ⟨q, hq, rfl⟩ := List.mem_map.mp hlater
    obtain ⟨i, rest, rfl⟩ := hcons q hq
    exact List.cons_lt_cons_iff.mpr (.inl i.succ_pos)

private theorem nil_notMem_placesBeside : [] ∉ placesBeside ps qs := by
  rw [placesBeside, List.mem_append, List.mem_map, List.mem_map]
  rintro (⟨_, _, h⟩ | ⟨q, hq, h⟩)
  · cases h
  · obtain ⟨i, rest, rfl⟩ := hcons q hq
    cases h

private theorem zero_mem_placesBeside_iff {rest : List Nat} :
    0 :: rest ∈ placesBeside ps qs ↔ rest ∈ ps := by
  rw [placesBeside, List.mem_append, List.mem_map, List.mem_map]
  refine ⟨?_, fun h => .inl ⟨rest, h, rfl⟩⟩
  rintro (⟨p, hp, h⟩ | ⟨q, hq, h⟩)
  · cases h
    exact hp
  · obtain ⟨i, rest, rfl⟩ := hcons q hq
    cases h

private theorem succ_mem_placesBeside_iff {i : Nat} {rest : List Nat} :
    (i + 1) :: rest ∈ placesBeside ps qs ↔ i :: rest ∈ qs := by
  rw [placesBeside, List.mem_append, List.mem_map, List.mem_map]
  refine ⟨?_, fun h => .inr ⟨i :: rest, h, rfl⟩⟩
  rintro (⟨p, hp, h⟩ | ⟨q, hq, h⟩)
  · cases h
  · obtain ⟨j, rest', rfl⟩ := hcons q hq
    cases h
    exact hq

end Places

namespace Lists

private theorem nil : Lists [] (Node.among? []) := by
  refine ⟨[], .nil, fun place => ?_, rfl⟩
  cases place <;> exact iff_of_false List.not_mem_nil Bool.false_ne_true

/-- The places in the first tree are those in front of the others. -/
private theorem cons {n : Node} {trees ns ms : List Node} (h : Lists ns n.at?)
    (h' : Lists ms (Node.among? trees)) : Lists (ns ++ ms) (Node.among? (n :: trees)) := by
  obtain ⟨ps, hps, hmem, hns⟩ := h
  obtain ⟨qs, hqs, hmem', hms⟩ := h'
  have hcons : ∀ place ∈ qs, ∃ i rest, place = i :: rest :=
    fun place hplace => Node.exists_cons_of_among ((hmem' place).mp hplace)
  refine ⟨placesBeside ps qs, pairwise_placesBeside hcons hps hqs, fun place => ?_, ?_⟩
  · obtain _ | ⟨_ | i, rest⟩ := place
    · exact iff_of_false (nil_notMem_placesBeside hcons) Bool.false_ne_true
    · exact (zero_mem_placesBeside_iff hcons).trans (hmem rest)
    · exact (succ_mem_placesBeside_iff hcons).trans (hmem' (i :: rest))
  · rw [placesBeside, List.map_append, List.map_append, hns, hms, List.map_map, List.map_map]
    refine congrArg (_ ++ ·) (List.map_congr_left fun q hq => ?_)
    obtain ⟨i, rest, rfl⟩ := hcons q hq
    rfl

private theorem among {trees : List Node} (h : ∀ n ∈ trees, Lists n.nodes n.at?) :
    Lists (trees.flatMap Node.nodes) (Node.among? trees) := by
  induction trees with
  | nil => exact nil
  | cons n trees ih =>
    obtain ⟨hn, htrees⟩ := List.forall_mem_cons.mp h
    exact cons hn (ih htrees)

/-- A node stands before all nodes below it. -/
private theorem node {n : Node} {ns : List Node} (h : Lists ns (Node.among? n.children)) :
    Lists (n :: ns) n.at? := by
  obtain ⟨ps, hps, hmem, hns⟩ := h
  refine ⟨[] :: ps, List.pairwise_cons.mpr ⟨fun place hplace => ?_, hps⟩, fun place => ?_, ?_⟩
  · obtain ⟨i, rest, rfl⟩ := Node.exists_cons_of_among ((hmem place).mp hplace)
    exact List.nil_lt_cons i rest
  · cases place with
    | nil => exact iff_of_true List.mem_cons_self rfl
    | cons i rest =>
      rw [List.mem_cons, hmem]
      exact or_iff_right (List.cons_ne_nil i rest)
  · rw [List.map_cons, List.map_cons, hns]
    refine congrArg (some n :: ·) (List.map_congr_left fun place hplace => ?_)
    obtain ⟨i, rest, rfl⟩ := Node.exists_cons_of_among ((hmem place).mp hplace)
    rfl

end Lists

theorem Node.lists_nodes (n : Node) : Lists n.nodes n.at? := by
  induction n using Node.induction with
  | h n ih =>
    rw [nodes_eq]
    exact .node (.among ih)

theorem Pipeline.lists_nodes (p : Pipeline) : Lists p.nodes p.at? := by
  have h : Lists ((p.stages.map Node.stage).flatMap Node.nodes) p.at? :=
    .among fun n _ => n.lists_nodes
  rwa [List.flatMap_map] at h

/-! ### Computations for several nodes -/

section Effects

variable {m : Type → Type} [Monad m] {α β : Type}

theorem forM_congr {act act' : α → m Unit} {as : List α} (h : ∀ a ∈ as, act a = act' a) :
    forM as act = forM as act' := by
  induction as with
  | nil => rfl
  | cons a as ih =>
    obtain ⟨ha, has⟩ := List.forall_mem_cons.mp h
    rw [List.forM_cons, List.forM_cons, ha, ih has]

variable [LawfulMonad m]

theorem forM_flatMap {f : α → List β} {act : β → m Unit} (as : List α) :
    forM (as.flatMap f) act = forM as fun a => forM (f a) act := by
  induction as with
  | nil => rfl
  | cons a as ih => rw [List.flatMap_cons, List.forM_append, List.forM_cons, ih]

theorem forM_pure (as : List α) : (forM as fun _ => pure () : m Unit) = pure () := by
  induction as with
  | nil => rfl
  | cons a as ih => rw [List.forM_cons, pure_bind, ih]

/-- Something is done for the nodes of a node: for it and then for those of its children. -/
theorem Node.forM_nodes (n : Node) (act : Node → m Unit) :
    forM n.nodes act = (do act n; forM n.children fun child => forM child.nodes act) := by
  rw [nodes_eq, List.forM_cons, forM_flatMap]

theorem Pipeline.forM_nodes (p : Pipeline) (act : Node → m Unit) :
    forM p.nodes act = forM p.stages fun stage => forM stage.nodes act :=
  forM_flatMap p.stages

end Effects

/-! ### Visitors -/

namespace Visitor

variable {m : Type → Type} [Monad m]

/-- The visit of a node of any sort. -/
def visitNode (v : Visitor m) : Node → m Unit
  | .stage s => v.visitStage s
  | .filter f => v.visitFilter f
  | .operation o => v.visitOperation o
  | .expression e => v.visitExpression e
  | .accumulator a => v.visitAccumulator a

/-- What is done at a node of any sort. -/
def atNode (v : Visitor m) : Node → m Unit → m Unit
  | .stage s => v.stage s
  | .filter f => v.filter f
  | .operation o => v.operation o
  | .expression e => v.expression e
  | .accumulator a => v.accumulator a

variable (v : Visitor m)

theorem visitExpressions_eq (es : List Expression) :
    v.visitExpressions es = forM es v.visitExpression := by
  induction es with
  | nil => rfl
  | cons e es ih => rw [visitExpressions, List.forM_cons, ih]

theorem visitFields_eq (fields : List (String × Expression)) :
    v.visitFields fields = forM (fields.map (·.2)) v.visitExpression := by
  induction fields with
  | nil => rfl
  | cons field fields ih => rw [visitFields, List.map_cons, List.forM_cons, ih]

theorem visitFilters_eq (fs : List Filter) : v.visitFilters fs = forM fs v.visitFilter := by
  induction fs with
  | nil => rfl
  | cons f fs ih => rw [visitFilters, List.forM_cons, ih]

variable [LawfulMonad m]

theorem visitProjection_eq (entry : Projection) :
    v.visitProjection entry = forM entry.values v.visitExpression := by
  cases entry <;> simp [visitProjection, Projection.values]

private theorem visitExpression_eq (e : Expression) :
    v.visitExpression e = v.expression e (forM e.children v.visitExpression) := by
  cases e <;>
    simp [visitExpression, visitExpressions_eq, visitFields_eq, Expression.children]

private theorem visitFilter_eq (f : Filter) :
    v.visitFilter f = v.filter f (forM f.children v.visitNode) := by
  cases f <;> simp [visitFilter, visitFilters_eq, Filter.children, visitNode]

private theorem visitOperation_eq (o : Operation) :
    v.visitOperation o = v.operation o (forM o.children v.visitNode) := by
  cases o <;> simp [visitOperation, Operation.children, visitNode]

private theorem visitStage_eq (s : Stage) :
    v.visitStage s = v.stage s (forM s.children v.visitNode) := by
  cases s with
  | project entries =>
    simp [visitStage, Stage.children, visitNode, forM_flatMap, funext v.visitProjection_eq]
  | _ => simp [visitStage, visitFields_eq, Stage.children, visitNode]

/-- A visitor does at a node what its rule says, over the visits of the children. -/
theorem visitNode_eq (n : Node) : v.visitNode n = v.atNode n (forM n.children v.visitNode) := by
  cases n with
  | stage s => exact v.visitStage_eq s
  | filter f => exact v.visitFilter_eq f
  | operation o => exact v.visitOperation_eq o
  | expression e =>
    rw [Node.children, List.forM_map]
    exact v.visitExpression_eq e
  | accumulator a => simp [visitNode, visitAccumulator, atNode, Node.children]

/-- Every node is reported before its children are visited. -/
def reporting (report : Node → m Unit) : Visitor m where
  stage s visit := do
    report (.stage s)
    visit
  filter f visit := do
    report (.filter f)
    visit
  operation o visit := do
    report (.operation o)
    visit
  expression e visit := do
    report (.expression e)
    visit
  accumulator a visit := do
    report (.accumulator a)
    visit

variable (report : Node → m Unit)

theorem reporting_visitNode (n : Node) : (reporting report).visitNode n = forM n.nodes report := by
  induction n using Node.induction with
  | h n ih =>
    rw [visitNode_eq, Node.forM_nodes, ← forM_congr ih]
    cases n <;> rfl

theorem reporting_visitPipeline (p : Pipeline) :
    (reporting report).visitPipeline p = forM p.nodes report := by
  rw [Pipeline.forM_nodes]
  exact forM_congr fun stage _ => reporting_visitNode report (.stage stage)

end Visitor

/-! ### Revisers -/

section Keeping

variable {m : Type → Type} [Monad m]

/-- Something is done for a node and then the node is kept. -/
def keepAfter {α : Type} (act : m Unit) : m (Revised α) := do
  act
  return .kept

variable [LawfulMonad m] {α β γ : Type}

theorem keepAfter_pure : keepAfter (pure ()) = (pure .kept : m (Revised α)) :=
  pure_bind () _

theorem keepAfter_bind (act : m Unit) (f : Revised α → m β) :
    keepAfter act >>= f = act >>= fun _ => f .kept := by
  rw [keepAfter, bind_assoc]
  exact bind_congr fun _ => pure_bind _ _

theorem bind_keepAfter (act act' : m Unit) :
    (act >>= fun _ => keepAfter act' : m (Revised α)) = keepAfter (act >>= fun _ => act') := by
  rw [keepAfter, keepAfter, bind_assoc]

theorem mapM_bind_of_kept {f : α → m (Revised β)} {act : α → m Unit} {as : List α}
    (h : ∀ a ∈ as, f a = keepAfter (act a)) (g : List (Revised β) → m γ) :
    as.mapM f >>= g = forM as act >>= fun _ => g (as.map fun _ => .kept) := by
  induction as generalizing g with
  | nil => rw [List.mapM_nil, pure_bind, List.forM_nil, pure_bind, List.map_nil]
  | cons a as ih =>
    obtain ⟨ha, has⟩ := List.forall_mem_cons.mp h
    rw [List.mapM_cons, ha, List.forM_cons]
    simp only [bind_assoc, keepAfter_bind, pure_bind, ih has, List.map_cons]

private theorem keepAll_kept (as : List α) :
    keepAll as.length (as.map fun _ => (.kept : Revised β)) = true :=
  (keepAll_iff_forall (as.length_map _)).mpr (List.forall_mem_map.mpr fun _ _ => rfl)

/-- All nodes are kept, and so is what is made of them. -/
private theorem mapM_bind_eq_keepAfter {f : α → m (Revised β)} {act : α → m Unit} {as : List α}
    {g : List (Revised β) → m (Revised γ)} (h : ∀ a ∈ as, f a = keepAfter (act a))
    (hg : g (as.map fun _ => .kept) = pure .kept) :
    as.mapM f >>= g = keepAfter (forM as act) := by
  rw [mapM_bind_of_kept h, hg]
  rfl

namespace Rewriter

variable {w : Rewriter m} {act : Node → m Unit}

/-- The rewriter keeps the node after it has done something for it. -/
def KeepsAfter (w : Rewriter m) (act : Node → m Unit) : Node → Prop
  | .stage s => w.stage s = keepAfter (act (.stage s))
  | .filter f => w.filter f = keepAfter (act (.filter f))
  | .operation o => w.operation o = keepAfter (act (.operation o))
  | .expression e => w.expression e = keepAfter (act (.expression e))
  | .accumulator a => w.accumulator a = keepAfter (act (.accumulator a))

/-- A node with one child that is kept. -/
private theorem map_keepAfter {f : α → β} {x : m (Revised α)} (child : Node)
    (h : x = keepAfter (act child)) :
    (do return (← x).map f) = keepAfter (forM [child] act) := by
  rw [h, keepAfter_bind, List.forM_cons, List.forM_nil, bind_pure_unit]
  rfl

/-- A node with two children that are kept. -/
private theorem both_keepAfter {f : α → α → β} {a b : α} {x y : m (Revised α)}
    (left right : Node) (hx : x = keepAfter (act left)) (hy : y = keepAfter (act right)) :
    (do let r ← x; return both f a b r (← y)) = keepAfter (forM [left, right] act) := by
  rw [hx, hy, keepAfter_bind, List.forM_cons, ← bind_keepAfter]
  refine bind_congr fun _ => ?_
  rw [keepAfter_bind, List.forM_cons, List.forM_nil, bind_pure_unit]
  rfl

theorem rebuildOperation_eq_kept {o : Operation}
    (h : ∀ child ∈ o.children, w.KeepsAfter act child) :
    w.rebuildOperation o = keepAfter (forM o.children act) := by
  cases o with
  | elemMatch f => exact map_keepAfter (.filter f) (h _ List.mem_cons_self)
  | not o => exact map_keepAfter (.operation o) (h _ List.mem_cons_self)
  | _ => exact keepAfter_pure.symm

theorem rebuildAccumulator_eq_kept {a : AccumulatorExpression}
    (h : w.KeepsAfter act (.expression a.arg)) :
    w.rebuildAccumulator a = keepAfter (forM [.expression a.arg] act) :=
  map_keepAfter (.expression a.arg) h

theorem rebuildProjection_eq_kept {entry : Projection}
    (h : ∀ child ∈ entry.values, w.KeepsAfter act (.expression child)) :
    w.rebuildProjection entry = keepAfter (forM (entry.values.map .expression) act) := by
  cases entry with
  | compute path value => exact map_keepAfter (.expression value) (h _ List.mem_cons_self)
  | _ => exact keepAfter_pure.symm

variable [MonadExceptOf ArgumentError m]

theorem rebuildExpression_eq_kept {e : Expression}
    (h : ∀ child ∈ e.children, w.KeepsAfter act (.expression child)) :
    w.rebuildExpression e = keepAfter (forM (e.children.map .expression) act) := by
  rw [List.forM_map]
  cases e with
  | unary function arg =>
    exact map_keepAfter (.expression arg) (h _ List.mem_cons_self)
  | binary function left right =>
    obtain ⟨hleft, hright⟩ := List.forall_mem_cons.mp h
    exact both_keepAfter (.expression left) (.expression right) hleft
      (hright _ List.mem_cons_self)
  | variadic function args =>
    refine mapM_bind_eq_keepAfter h ?_
    rw [Expression.updateArgs, keepAll_kept]
    rfl
  | document fields =>
    rw [Expression.children, List.forM_map]
    refine mapM_bind_eq_keepAfter (List.forall_mem_map.mp h) ?_
    rw [Expression.updateFields, keepAll_kept]
    rfl
  | array items =>
    refine mapM_bind_eq_keepAfter h ?_
    rw [Expression.updateItems, keepAll_kept]
    rfl
  | getField name input =>
    exact map_keepAfter (.expression input) (h _ List.mem_cons_self)
  | filter input name condition =>
    obtain ⟨hinput, hcondition⟩ := List.forall_mem_cons.mp h
    exact both_keepAfter (.expression input) (.expression condition) hinput
      (hcondition _ List.mem_cons_self)
  | map input name body =>
    obtain ⟨hinput, hbody⟩ := List.forall_mem_cons.mp h
    exact both_keepAfter (.expression input) (.expression body) hinput
      (hbody _ List.mem_cons_self)
  | _ => exact keepAfter_pure.symm

theorem rebuildFilter_eq_kept {f : Filter} (h : ∀ child ∈ f.children, w.KeepsAfter act child) :
    w.rebuildFilter f = keepAfter (forM f.children act) := by
  cases f with
  | field target operation =>
    exact map_keepAfter (.operation operation) (h _ List.mem_cons_self)
  | not f => exact map_keepAfter (.filter f) (h _ List.mem_cons_self)
  | expr e => exact map_keepAfter (.expression e) (h _ List.mem_cons_self)
  | _ args =>
    rw [Filter.children, List.forM_map]
    refine mapM_bind_eq_keepAfter (List.forall_mem_map.mp h) ?_
    rw [Filter.updateArgs, keepAll_kept]
    rfl

private theorem allUnchanged_kept (entries : List Projection) :
    Projection.allUnchanged entries (entries.map fun _ => .kept) = true := by
  induction entries with
  | nil => rfl
  | cons entry entries ih =>
    rw [List.map_cons, Projection.allUnchanged, ih, Bool.and_true]
    cases entry <;> rfl

theorem rebuildStage_eq_kept {stage : Stage}
    (h : ∀ child ∈ stage.children, w.KeepsAfter act child) :
    w.rebuildStage stage = keepAfter (forM stage.children act) := by
  cases stage with
  | select f => exact map_keepAfter (.filter f) (h _ List.mem_cons_self)
  | project entries =>
    have hvalues := List.forall_mem_flatMap.mp (List.forall_mem_map.mp h)
    rw [Stage.children, List.map_flatMap, forM_flatMap]
    refine mapM_bind_eq_keepAfter
      (fun entry hentry => rebuildProjection_eq_kept (hvalues entry hentry)) ?_
    rw [Stage.updateProjections, allUnchanged_kept]
    rfl
  | replaceRoot e => exact map_keepAfter (.expression e) (h _ List.mem_cons_self)
  | addFields fields =>
    rw [Stage.children, List.forM_map, List.forM_map]
    refine mapM_bind_eq_keepAfter (List.forall_mem_map.mp (List.forall_mem_map.mp h)) ?_
    rw [Stage.updateFields, keepAll_kept, List.length_map, beq_self_eq_true]
    rfl
  | group key accumulators =>
    obtain ⟨hkey, haccumulators⟩ := List.forall_mem_cons.mp h
    have hkey : w.expression key = keepAfter (act (.expression key)) := hkey
    rw [rebuildStage, hkey, keepAfter_bind, Stage.children, List.forM_cons, List.forM_map,
      List.forM_map, ← bind_keepAfter]
    refine bind_congr fun _ =>
      mapM_bind_eq_keepAfter (List.forall_mem_map.mp (List.forall_mem_map.mp haccumulators)) ?_
    rw [Stage.updateGroup, keepAll_kept, List.length_map, beq_self_eq_true]
    rfl
  | _ => exact keepAfter_pure.symm

end Rewriter

end Keeping

namespace Reviser

variable {m : Type → Type} [Monad m]

/-- Every node is reported before it is rebuilt from its children. -/
def reporting (report : Node → m Unit) : Reviser m where
  stage s rebuild := do
    report (.stage s)
    rebuild
  filter f rebuild := do
    report (.filter f)
    rebuild
  operation o rebuild := do
    report (.operation o)
    rebuild
  expression e rebuild := do
    report (.expression e)
    rebuild
  accumulator a rebuild := do
    report (.accumulator a)
    rebuild

variable [LawfulMonad m] [MonadExceptOf ArgumentError m] (report : Node → m Unit)

theorem reporting_keepsAfter (n : Node) :
    (reporting report).rewriter.KeepsAfter (fun n => forM n.nodes report) n := by
  have hrules := rulesOver (reporting report)
  have hnode {α : Type} (n : Node) (rebuild : m (Revised α))
      (h : rebuild = keepAfter (forM n.children fun child => forM child.nodes report)) :
      (report n >>= fun _ => rebuild) = keepAfter (forM n.nodes report) := by
    rw [h, bind_keepAfter, ← Node.forM_nodes]
  induction n using Node.induction with
  | h n ih =>
    cases n with
    | stage s =>
      exact (hrules.stage s).trans (hnode (.stage s) _ (Rewriter.rebuildStage_eq_kept ih))
    | filter f =>
      exact (hrules.filter f).trans (hnode (.filter f) _ (Rewriter.rebuildFilter_eq_kept ih))
    | operation o =>
      exact (hrules.operation o).trans
        (hnode (.operation o) _ (Rewriter.rebuildOperation_eq_kept ih))
    | expression e =>
      exact (hrules.expression e).trans (hnode (.expression e) _
        (Rewriter.rebuildExpression_eq_kept (List.forall_mem_map.mp ih)))
    | accumulator a =>
      exact (hrules.accumulator a).trans (hnode (.accumulator a) _
        (Rewriter.rebuildAccumulator_eq_kept (ih _ List.mem_cons_self)))

theorem reporting_revisePipeline (p : Pipeline) :
    (reporting report).revisePipeline p = keepAfter (forM p.nodes report) := by
  rw [Pipeline.forM_nodes]
  refine mapM_bind_eq_keepAfter
    (fun stage _ => reporting_keepsAfter report (.stage stage)) ?_
  rw [Pipeline.update, keepAll_kept]
  rfl

/-- The reviser that rebuilds every node keeps every pipeline. -/
theorem default_revisePipeline (p : Pipeline) :
    (default : Reviser m).revisePipeline p = pure .kept := by
  have hdefault : (default : Reviser m) = reporting fun _ => pure () := by
    simp only [default, reporting, pure_bind]
  rw [hdefault, reporting_revisePipeline, forM_pure, keepAfter_pure]

end Reviser

/-! ### Traversed nodes -/

/-- Writes the node into a log. -/
def Node.log {m : Type → Type} [MonadStateOf (List Node) m] (n : Node) : m Unit :=
  modify (· ++ [n])

theorem run_forM_log (ns log : List Node) :
    (forM ns Node.log : StateM (List Node) Unit).run log = pure ((), log ++ ns) := by
  induction ns generalizing log with
  | nil =>
    rw [List.append_nil]
    rfl
  | cons n ns ih =>
    rw [List.forM_cons, StateT.run_bind]
    exact (ih (log ++ [n])).trans (by rw [List.append_assoc, List.singleton_append])

theorem ran_forM_log (ns log : List Node) : Ran (forM ns Node.log) log () (log ++ ns) := by
  induction ns generalizing log with
  | nil => exact Ran.pure_iff.mpr ⟨rfl, (List.append_nil log).symm⟩
  | cons n ns ih =>
    have hlog : Ran n.log log () (log ++ [n]) := rfl
    rw [List.forM_cons, List.append_cons]
    exact Ran.bind_iff.mpr ⟨(), log ++ [n], hlog, ih (log ++ [n])⟩

/-- **Visitors and revisers are handed the same nodes**: those at all places of a pipeline, each of
them once and before those below it and to its right. -/
theorem Pipeline.nodes_traversed (p : Pipeline) :
    Lists p.nodes p.at? ∧
      ((Visitor.reporting Node.log).visitPipeline p : StateM (List Node) Unit).run []
        = pure ((), p.nodes) ∧
      Ran ((Reviser.reporting Node.log).revisePipeline p) [] .kept p.nodes := by
  refine ⟨p.lists_nodes, ?_, ?_⟩
  · rw [Visitor.reporting_visitPipeline, run_forM_log, List.nil_append]
  · rw [Reviser.reporting_revisePipeline]
    exact Ran.bind_iff.mpr ⟨(), p.nodes, ran_forM_log p.nodes [], Ran.pure_iff.mpr ⟨rfl, rfl⟩⟩

end DocQuery
