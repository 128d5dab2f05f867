import DocQuery.Proofs.Revision.Traversal

/-!
# Rewriting shares what it does not change

A rewriter that replaces some nodes and rebuilds all others makes new nodes of those that it
replaces and of the nodes above them, and of no others.  To say which nodes are replaced, the
rewriter notes them: replacing a node is a matter of its state, so one run may replace a node and
leave an equal one alone.

## Main definitions

* `Override`, `Overrides` — what is done of one's own before and after a node is rebuilt.
* `Overrides.noting` — the reviser that does this and notes the nodes that it replaces.
* `Shares`, `SharesStages` — what a run makes of a node, or of a pipeline, by the nodes it has
  replaced.

## Main results

* `Override.ran_rule` — what the rule of an override can do.
* `Overrides.exists_shares` — a node is kept exactly if no node in it is replaced.
* `Reviser.rewriting_shares` — **rewriting shares everything that it does not change.**
-/

namespace DocQuery

open Revised

/-! ### Overrides -/

/-- What is done of one's own about nodes of one sort.  Before a node is rebuilt, it may be left
alone or be replaced, which saves rebuilding it, and what it has been rebuilt to may be replaced. -/
structure Override (σ α : Type) where
  before : α → Rewriting σ (Option (Revised α))
  after : α → Revised α → Rewriting σ (Option α)

/-- What is done of one's own about nodes of each sort. -/
structure Overrides (σ : Type) where
  stage : Override σ Stage
  filter : Override σ Filter
  operation : Override σ Operation
  expression : Override σ Expression
  accumulator : Override σ AccumulatorExpression

section Noting

variable {σ α : Type}

/-- The computation, beside which there are notes. -/
def aside (x : Rewriting σ α) : Rewriting (σ × List Node) α :=
  ExceptT.mk fun state =>
    let out := (x.run.run state.1).run
    pure (out.1, out.2, state.2)

/-- Notes the node. -/
def note (n : Node) : Rewriting (σ × List Node) Unit :=
  modify fun state => (state.1, state.2 ++ [n])

/-- Replaces the node, and notes it. -/
def replace (n : Node) (new : α) : Rewriting (σ × List Node) (Revised α) := do
  note n
  return .changed new

/-- The rule by which nodes of one sort are replaced or rebuilt. -/
def Override.rule (o : Override σ α) (wrap : α → Node) : Rule (Rewriting (σ × List Node)) α :=
  fun node rebuilt => do
    match ← aside (o.before node) with
    | some .kept => return .kept
    | some (.changed new) => replace (wrap node) new
    | none =>
      let r ← rebuilt
      match ← aside (o.after node r) with
      | some new => replace (wrap node) new
      | none => return r

/-- The reviser that does what the overrides say and notes which nodes it replaces. -/
def Overrides.noting (o : Overrides σ) : Reviser (Rewriting (σ × List Node)) :=
  ⟨o.stage.rule .stage, o.filter.rule .filter, o.operation.rule .operation,
    o.expression.rule .expression, o.accumulator.rule .accumulator⟩

variable {state state' : σ × List Node}

theorem ran_aside_iff {x : Rewriting σ α} {a : α} :
    Ran (aside x) state a state' ↔ Ran x state.1 a state'.1 ∧ state'.2 = state.2 := by
  obtain ⟨s, log⟩ := state
  obtain ⟨s', log'⟩ := state'
  show ((x.run.run s).run.1, (x.run.run s).run.2, log) = (.ok a, s', log') ↔
    (x.run.run s).run = (.ok a, s') ∧ log' = log
  rcases (x.run.run s).run with ⟨result, mid⟩
  simp only [Prod.mk.injEq, and_assoc, eq_comm (a := log)]

theorem ran_replace_iff {n : Node} {new : α} {r : Revised α} :
    Ran (replace n new) state r state' ↔
      r = .changed new ∧ state' = (state.1, state.2 ++ [n]) := by
  show (Except.ok (.changed new), state.1, state.2 ++ [n]) = (Except.ok r, state') ↔ _
  rw [Prod.mk.injEq, Except.ok.injEq, eq_comm, eq_comm (a := state')]

/-- What the rule of an override can do. -/
theorem Override.ran_rule {o : Override σ α} {wrap : α → Node} {node : α}
    {rebuilt : Rewriting (σ × List Node) (Revised α)} {r : Revised α}
    (h : Ran (o.rule wrap node rebuilt) state r state') :
    (r = .kept ∧ state'.2 = state.2) ∨
    (∃ new, r = .changed new ∧ state'.2 = state.2 ++ [wrap node]) ∨
    ∃ t mid mid', Ran rebuilt mid t mid' ∧ mid.2 = state.2 ∧
      ((∃ new, r = .changed new ∧ state'.2 = mid'.2 ++ [wrap node]) ∨
        r = t ∧ state'.2 = mid'.2) := by
  obtain ⟨decision, mid, hbefore, hrest⟩ := Ran.bind_iff.mp h
  obtain ⟨-, hmid⟩ := ran_aside_iff.mp hbefore
  cases decision with
  | some outcome =>
    cases outcome with
    | kept =>
      obtain ⟨rfl, rfl⟩ := Ran.pure_iff.mp hrest
      exact .inl ⟨rfl, hmid⟩
    | changed new =>
      obtain ⟨rfl, rfl⟩ := ran_replace_iff.mp hrest
      exact .inr (.inl ⟨new, rfl, by rw [hmid]⟩)
  | none =>
    obtain ⟨t, mid', ht, hrest⟩ := Ran.bind_iff.mp hrest
    obtain ⟨decision, mid'', hafter, hrest⟩ := Ran.bind_iff.mp hrest
    obtain ⟨-, hmid'⟩ := ran_aside_iff.mp hafter
    refine .inr (.inr ⟨t, mid, mid', ht, hmid, ?_⟩)
    cases decision with
    | some new =>
      obtain ⟨rfl, rfl⟩ := ran_replace_iff.mp hrest
      exact .inl ⟨new, rfl, by rw [hmid']⟩
    | none =>
      obtain ⟨rfl, rfl⟩ := Ran.pure_iff.mp hrest
      exact .inr ⟨rfl, hmid'⟩

end Noting

/-! ### Runs that note what they replace -/

section Runs

variable {σ α : Type} {w : Rewriter (Rewriting (σ × List Node))}

/-- A run on a node, in which the given nodes have been replaced and noted.  They are in the node,
which is kept exactly if there are none.  A node that is made anew is one of them, or it is as
before around what its children are rewritten to. -/
structure Shares (w : Rewriter (Rewriting (σ × List Node))) (n : Node) (log : List Node)
    (r : Revised Node) (log' : List Node) (replaced : List Node) : Prop where
  log_eq : log' = log ++ replaced
  subset : replaced ⊆ n.nodes
  kept_iff : r = .kept ↔ replaced = []
  rebuilt : ∀ new, r = .changed new → n ∈ replaced ∨ new.shell = n.shell ∧
    ∃ s s' rs, Ran (n.children.mapM w.rewriteNode) (s, log) rs (s', log') ∧
      new.children = resolveAll n.children rs

/-- The same for a run on a pipeline. -/
structure SharesStages (w : Rewriter (Rewriting (σ × List Node))) (p : Pipeline) (log : List Node)
    (r : Revised Pipeline) (log' : List Node) (replaced : List Node) : Prop where
  log_eq : log' = log ++ replaced
  subset : replaced ⊆ p.nodes
  kept_iff : r = .kept ↔ replaced = []
  rebuilt : ∀ new, r = .changed new → ∃ s s' rs,
    Ran (p.stages.mapM w.stage) (s, log) rs (s', log') ∧ new.stages = resolveAll p.stages rs

/-- A run in which the node itself has been replaced last. -/
theorem Shares.replaced {n new : Node} {log log' inner : List Node} (hlog : log' = log ++ inner)
    (hinner : inner ⊆ n.nodes) :
    Shares w n log (.changed new) (log' ++ [n]) (inner ++ [n]) where
  log_eq := by rw [hlog, List.append_assoc]
  subset := List.append_subset.mpr
    ⟨hinner, List.cons_subset.mpr ⟨n.mem_nodes_self, List.nil_subset n.nodes⟩⟩
  kept_iff := iff_of_false nofun (List.append_ne_nil_of_right_ne_nil _ (List.cons_ne_nil n []))
  rebuilt _ _ := .inl (List.mem_append_right _ List.mem_cons_self)

/-- A rule that replaces nodes or rebuilds them, if rebuilding them is such a run. -/
theorem exists_shares_of_rule {ov : Override σ α} {wrap : α → Node} {node : α}
    {rewritten rebuilt : Rewriting (σ × List Node) (Revised α)}
    (hrule : rewritten = ov.rule wrap node rebuilt)
    (hrewrite : w.rewriteNode (wrap node) = do return (← rewritten).map wrap)
    (hrebuild : w.rebuildNode (wrap node) = do return (← rebuilt).map wrap)
    (h : ∀ state r state', Ran (w.rebuildNode (wrap node)) state r state' →
      ∃ replaced, Shares w (wrap node) state.2 r state'.2 replaced)
    {state state' : σ × List Node} {r : Revised Node}
    (hran : Ran (w.rewriteNode (wrap node)) state r state') :
    ∃ replaced, Shares w (wrap node) state.2 r state'.2 replaced := by
  rw [hrewrite, hrule] at hran
  obtain ⟨t, ht, rfl⟩ := Ran.map_iff.mp hran
  obtain ⟨rfl, hlog⟩ | ⟨new, rfl, hlog⟩ | ⟨u, mid, mid', hu, hmid, hlast⟩ := Override.ran_rule ht
  · exact ⟨[], by rw [hlog, List.append_nil], List.nil_subset _, iff_of_true rfl rfl, nofun⟩
  · exact ⟨[wrap node], hlog ▸ .replaced (List.append_nil _).symm (List.nil_subset _)⟩
  · rw [hrebuild] at h
    obtain ⟨replaced, hshares⟩ := h mid (u.map wrap) mid' (Ran.map_iff.mpr ⟨u, hu, rfl⟩)
    rw [hmid] at hshares
    rcases hlast with ⟨new, rfl, hlog⟩ | ⟨rfl, hlog⟩
    · exact ⟨replaced ++ [wrap node], hlog ▸ .replaced hshares.log_eq hshares.subset⟩
    · exact ⟨replaced, hlog ▸ hshares⟩

/-- The notes of a run over nodes, from those of a run over each of them. -/
theorem exists_replaced_of_mapM {ns : List Node}
    (h : ∀ n ∈ ns, ∀ state r state', Ran (w.rewriteNode n) state r state' →
      ∃ replaced, Shares w n state.2 r state'.2 replaced) {state state' : σ × List Node}
    {rs : List (Revised Node)} (hran : Ran (ns.mapM w.rewriteNode) state rs state') :
    ∃ replaced, state'.2 = state.2 ++ replaced ∧ replaced ⊆ ns.flatMap Node.nodes ∧
      ((∀ r ∈ rs, r = .kept) ↔ replaced = []) := by
  induction ns generalizing state rs with
  | nil =>
    obtain ⟨rfl, rfl⟩ := Ran.mapM_nil_iff.mp hran
    exact ⟨[], (List.append_nil _).symm, List.nil_subset _, iff_of_true (List.forall_mem_nil _) rfl⟩
  | cons n ns ih =>
    obtain ⟨hn, hns⟩ := List.forall_mem_cons.mp h
    obtain ⟨r, mid, rest, hr, hrest, rfl⟩ := Ran.mapM_cons_iff.mp hran
    obtain ⟨first, hfirst⟩ := hn _ _ _ hr
    obtain ⟨more, hlog, hsubset, hkept⟩ := ih hns hrest
    refine ⟨first ++ more, ?_, ?_, ?_⟩
    · rw [hlog, hfirst.log_eq, List.append_assoc]
    · exact List.append_subset.mpr ⟨List.subset_append_of_subset_left _ hfirst.subset,
        List.subset_append_of_subset_right _ hsubset⟩
    · rw [List.forall_mem_cons, hfirst.kept_iff, hkept, List.append_eq_nil_iff]

/-- Rebuilding a node is such a run if rewriting its children is. -/
theorem exists_shares_of_rebuilt {n : Node}
    (h : ∀ child ∈ n.children, ∀ state r state', Ran (w.rewriteNode child) state r state' →
      ∃ replaced, Shares w child state.2 r state'.2 replaced) {state state' : σ × List Node}
    {r : Revised Node} (hran : Ran (w.rebuildNode n) state r state') :
    ∃ replaced, Shares w n state.2 r state'.2 replaced := by
  obtain ⟨rs, hrs, hrebuilt⟩ := rebuiltFrom_rebuildNode hran
  obtain ⟨replaced, hlog, hsubset, hkept⟩ := exists_replaced_of_mapM h hrs
  refine ⟨replaced, hlog, ?_, hrebuilt.kept_iff.trans hkept, fun new hnew => ?_⟩
  · rw [Node.nodes_eq n]
    exact List.subset_cons_of_subset n hsubset
  · obtain ⟨hshell, hchildren⟩ := hrebuilt.changed new hnew
    exact .inr ⟨hshell, state.1, state'.1, rs, hrs, hchildren⟩

/-- Every run of overrides that note what they replace is such a run. -/
theorem Overrides.exists_shares (o : Overrides σ) (n : Node) :
    ∀ (state : σ × List Node) (r : Revised Node) (state' : σ × List Node),
      Ran (o.noting.rewriter.rewriteNode n) state r state' →
        ∃ replaced, Shares o.noting.rewriter n state.2 r state'.2 replaced := by
  have hrules := o.noting.rulesOver
  induction n using Node.induction with
  | h n ih =>
    intro state r state' hran
    cases n with
    | stage s =>
      exact exists_shares_of_rule (hrules.stage s) rfl rfl
        (fun _ _ _ => exists_shares_of_rebuilt ih) hran
    | filter f =>
      exact exists_shares_of_rule (hrules.filter f) rfl rfl
        (fun _ _ _ => exists_shares_of_rebuilt ih) hran
    | operation op =>
      exact exists_shares_of_rule (hrules.operation op) rfl rfl
        (fun _ _ _ => exists_shares_of_rebuilt ih) hran
    | expression e =>
      exact exists_shares_of_rule (hrules.expression e) rfl rfl
        (fun _ _ _ => exists_shares_of_rebuilt ih) hran
    | accumulator a =>
      exact exists_shares_of_rule (hrules.accumulator a) rfl rfl
        (fun _ _ _ => exists_shares_of_rebuilt ih) hran

/-- So is every run on a pipeline. -/
theorem Overrides.exists_sharesStages (o : Overrides σ) {p : Pipeline}
    {state state' : σ × List Node} {r : Revised Pipeline}
    (hran : Ran (o.noting.revisePipeline p) state r state') :
    ∃ replaced, SharesStages o.noting.rewriter p state.2 r state'.2 replaced := by
  rw [o.noting.rulesOver.pipeline] at hran
  obtain ⟨rs, hrs, hrebuilt⟩ := exists_stages_of_rebuildPipeline hran
  have hnodes : Ran ((p.stages.map Node.stage).mapM o.noting.rewriter.rewriteNode) state
      (rs.map (·.map .stage)) state' := ran_rewriteNode_map (fun _ => rfl) hrs
  obtain ⟨replaced, hlog, hsubset, hkept⟩ :=
    exists_replaced_of_mapM (fun n _ => o.exists_shares n) hnodes
  refine ⟨replaced, hlog, ?_, ?_, fun new hnew => ?_⟩
  · rwa [List.flatMap_map] at hsubset
  · rw [hrebuilt.kept_iff, ← hkept, List.forall_mem_map]
    simp only [map_kept_iff]
  · exact ⟨state.1, state'.1, rs, hrs, hrebuilt.changed new hnew⟩

end Runs

/-- Rewriting shares everything that it does not change.  Every rewriter gives a node by its own
rule, over the rebuilding of that node.  Whatever the children are rewritten to, what is rebuilt is
the node itself exactly if each child is itself, and otherwise nothing but the children is changed
in it.  So a rewriter without rules of its own gives every pipeline itself.  One that replaces some
nodes and rebuilds all others makes new nodes exactly of those and of the nodes above them: this is
said of the run on any node, and so of the runs on its children. -/
theorem Reviser.rewriting_shares (σ : Type) :
    (∀ reviser : Reviser (Rewriting σ), reviser.RulesOver) ∧
    (∀ (w : Rewriter (Rewriting σ)) (n : Node) (s s' : σ) (r : Revised Node),
      Ran (w.rebuildNode n) s r s' → RebuiltFrom w s n r s') ∧
    (∀ (w : Rewriter (Rewriting σ)) (p : Pipeline) (s s' : σ) (r : Revised Pipeline),
      Ran (w.rebuildPipeline p) s r s' →
        ∃ rs, Ran (p.stages.mapM w.stage) s rs s' ∧ RebuiltStages p rs r) ∧
    (∀ (p : Pipeline) (s : σ),
      Ran ((default : Reviser (Rewriting σ)).revisePipeline p) s .kept s) ∧
    (∀ (o : Overrides σ) (n : Node) (s s' : σ) (log log' : List Node) (r : Revised Node),
      Ran (o.noting.rewriter.rewriteNode n) (s, log) r (s', log') →
        ∃ replaced, Shares o.noting.rewriter n log r log' replaced) ∧
    ∀ (o : Overrides σ) (p : Pipeline) (s s' : σ) (log log' : List Node) (r : Revised Pipeline),
      Ran (o.noting.revisePipeline p) (s, log) r (s', log') →
        ∃ replaced, SharesStages o.noting.rewriter p log r log' replaced := by
  refine ⟨fun reviser => reviser.rulesOver, fun w n s s' r => rebuiltFrom_rebuildNode,
    fun w p s s' r => exists_stages_of_rebuildPipeline, fun p s => ?_, ?_, ?_⟩
  · rw [default_revisePipeline]
    exact Ran.pure_iff.mpr ⟨rfl, rfl⟩
  · exact fun o n s s' log log' r => o.exists_shares n (s, log) r (s', log')
  · exact fun o p s s' log log' r => o.exists_sharesStages

/-- Nothing of one's own. -/
def Override.nothing {σ α : Type} : Override σ α :=
  ⟨fun _ => pure none, fun _ _ => pure none⟩

/-- Replaces the first reference to the field `old`. -/
def Overrides.renamingFirst (old new : String) : Overrides Bool where
  stage := .nothing
  filter := .nothing
  operation := .nothing
  accumulator := .nothing
  expression :=
    { before := fun e => do
        match e, ← get with
        | .field none path, false =>
          if path = old then
            set true
            return some (.changed (.field none new))
          return none
        | _, _ => return none
      after := fun _ _ => pure none }

/-- The filter on the sum of two fields. -/
def Filter.onSum (a b : String) : Filter :=
  .expr (.variadic .add [.field none a, .field none b])

theorem Reviser.rewriting_shares_first :
    let o := Overrides.renamingFirst "old" "new"
    let noted : List Node := [.expression (.field none "old")]
    (Ran (o.noting.rewriter.rebuildNode (.filter (.onSum "old" "old"))) (false, [])
        (.changed (.filter (.onSum "new" "old"))) (true, noted) ∧
      RebuiltFrom o.noting.rewriter (false, []) (.filter (.onSum "old" "old"))
        (.changed (.filter (.onSum "new" "old"))) (true, noted)) ∧
    (Ran (o.noting.rewriter.rebuildPipeline ⟨[.limit 5]⟩) (false, []) .kept (false, []) ∧
      ∃ rs, Ran ([.limit 5].mapM o.noting.rewriter.stage) (false, []) rs (false, []) ∧
        RebuiltStages ⟨[.limit 5]⟩ rs .kept) ∧
    (Ran (o.noting.rewriter.rewriteNode (.filter (.onSum "old" "old"))) (false, [])
        (.changed (.filter (.onSum "new" "old"))) (true, noted) ∧
      ∃ replaced, Shares o.noting.rewriter (.filter (.onSum "old" "old")) []
        (.changed (.filter (.onSum "new" "old"))) noted replaced) ∧
    (Ran (o.noting.revisePipeline ⟨[.select (.onSum "old" "old"), .limit 5]⟩) (false, [])
        (.changed ⟨[.select (.onSum "new" "old"), .limit 5]⟩) (true, noted) ∧
      ∃ replaced, SharesStages o.noting.rewriter ⟨[.select (.onSum "old" "old"), .limit 5]⟩ []
        (.changed ⟨[.select (.onSum "new" "old"), .limit 5]⟩) noted replaced) := by
  intro o noted
  obtain ⟨-, hnode, hpipeline, -, -, -⟩ := Reviser.rewriting_shares (Bool × List Node)
  obtain ⟨-, -, -, -, hshares, hstages⟩ := Reviser.rewriting_shares Bool
  exact ⟨⟨rfl, hnode _ _ _ _ _ rfl⟩, ⟨rfl, hpipeline _ _ _ _ _ rfl⟩,
    ⟨rfl, hshares o _ false true [] noted _ rfl⟩, rfl, hstages o _ false true [] noted _ rfl⟩

end DocQuery
