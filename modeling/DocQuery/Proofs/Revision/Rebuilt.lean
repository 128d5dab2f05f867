import DocQuery.Proofs.Outcome
import DocQuery.Proofs.Pipeline.Induction
import DocQuery.Proofs.Revision.Rewriting

/-!
# Rebuilt nodes

A node is rebuilt from what its children are rewritten to.  It is kept exactly if every child is,
and otherwise it is made anew around the children that result.  This is so for each of the many
sorts of nodes, each of which has its own way to find out whether something has changed.

## Main definitions

* `Rebuilt`, `RebuiltStages` — what becomes of a node, or a pipeline, by what becomes of its
  children.
* `RebuiltFrom` — the same with the computations that rewrite the children.

## Main results

* `rebuiltFrom_rebuildNode` — **a node is rebuilt from its children, whatever these are rewritten
  to.**
-/

namespace DocQuery

open Revised

/-! ### Rebuilt nodes -/

/-- The node is rebuilt from its rewritten children: it is kept if all of them are, and otherwise
made anew with nothing changed but its children, each of which is in its place. -/
structure Rebuilt (n : Node) (rs : List (Revised Node)) (r : Revised Node) : Prop where
  kept_iff : r = .kept ↔ ∀ child ∈ rs, child = .kept
  changed : ∀ new, r = .changed new →
    new.shell = n.shell ∧ new.children = resolveAll n.children rs

/-- The same for a pipeline and its rewritten stages. -/
structure RebuiltStages (p : Pipeline) (rs : List (Revised Stage)) (r : Revised Pipeline) :
    Prop where
  kept_iff : r = .kept ↔ ∀ stage ∈ rs, stage = .kept
  changed : ∀ new, r = .changed new → new.stages = resolveAll p.stages rs

namespace Rebuilt

variable {α β : Type} {wrap : α → Node}

theorem none {n : Node} : Rebuilt n [] .kept where
  kept_iff := ⟨fun _ => List.forall_mem_nil _, fun _ => rfl⟩
  changed := nofun

theorem one {make : α → β} {outer : β → Node}
    (hshell : ∀ a b, (outer (make a)).shell = (outer (make b)).shell)
    (hchildren : ∀ a, (outer (make a)).children = [wrap a]) (a : α) (r : Revised α) :
    Rebuilt (outer (make a)) [r.map wrap] ((r.map make).map outer) where
  kept_iff := by simp
  changed := by
    rintro new hnew
    cases r with
    | kept => cases hnew
    | changed b =>
      cases hnew
      refine ⟨hshell b a, ?_⟩
      rw [hchildren, hchildren]
      rfl

theorem two {make : α → α → β} {outer : β → Node}
    (hshell : ∀ a b c d, (outer (make a b)).shell = (outer (make c d)).shell)
    (hchildren : ∀ a b, (outer (make a b)).children = [wrap a, wrap b]) (a b : α)
    (r s : Revised α) :
    Rebuilt (outer (make a b)) [r.map wrap, s.map wrap] ((both make a b r s).map outer) where
  kept_iff := by cases r <;> cases s <;> simp [both]
  changed := by
    rintro new hnew
    have hresolve : new = outer (make (r.resolve a) (s.resolve b)) := by
      cases r <;> cases s <;> cases hnew <;> rfl
    rw [hresolve]
    refine ⟨hshell _ _ _ _, ?_⟩
    rw [hchildren, hchildren]
    cases r <;> cases s <;> rfl

/-- A node with any number of children is kept if all of them are. -/
theorem of_keepAll {n new : Node} {rs : List (Revised α)} {count : Nat}
    (hlength : rs.length = count) (hshell : new.shell = n.shell)
    (hchildren : new.children = resolveAll n.children (rs.map (·.map wrap))) {r : Revised Node}
    (h : r = if keepAll count rs then .kept else .changed new) :
    Rebuilt n (rs.map (·.map wrap)) r where
  kept_iff := by
    rw [List.forall_mem_map, h]
    simp only [map_kept_iff, ← keepAll_iff_forall hlength]
    split
    · next hkept => simp [hkept]
    · next hkept => simp [hkept]
  changed := by
    rintro _ rfl
    split at h
    · cases h
    · cases h
      exact ⟨hshell, hchildren⟩

theorem many {make : List α → Node}
    (hshell : ∀ as bs, as.length = bs.length → (make as).shell = (make bs).shell)
    (hchildren : ∀ as, (make as).children = as.map wrap) {olds : List α} {rs : List (Revised α)}
    (hlength : rs.length = olds.length) {r : Revised Node}
    (h : r = if keepAll olds.length rs then .kept else .changed (make (resolveAll olds rs))) :
    Rebuilt (make olds) (rs.map (·.map wrap)) r := by
  refine of_keepAll hlength (hshell _ _ (length_resolveAll hlength)) ?_ h
  rw [hchildren, hchildren, resolveAll_map wrap hlength]

theorem named {make : List (String × α) → Node}
    (hshell : ∀ as bs, as.map (·.1) = bs.map (·.1) → (make as).shell = (make bs).shell)
    (hchildren : ∀ as, (make as).children = (as.map (·.2)).map wrap) {olds : List (String × α)}
    {rs : List (Revised α)} (hlength : rs.length = olds.length) {r : Revised Node}
    (h : r = if keepAll olds.length rs then .kept else .changed (make (resolveNamed olds rs))) :
    Rebuilt (make olds) (rs.map (·.map wrap)) r := by
  have hnames : (resolveNamed olds rs).map (·.1) = olds.map (·.1) :=
    map_fst_resolveNamed_of_length_le (Nat.le_of_eq hlength.symm)
  refine of_keepAll hlength (hshell _ _ hnames) ?_ h
  rw [hchildren, hchildren, map_snd_resolveNamed_eq_resolveAll hlength,
    resolveAll_map wrap (by rw [hlength, List.length_map])]

end Rebuilt

/-! ### Rebuilding -/

section Rebuilding

variable {σ : Type} {w : Rewriter (Rewriting σ)} {s s' : σ}

/-- Nodes of one sort are rewritten as nodes. -/
theorem ran_rewriteNode_map {α β : Type} {f : α → Rewriting σ (Revised β)} {child : α → Node}
    {wrap : β → Node} (h : ∀ a, w.rewriteNode (child a) = do return (← f a).map wrap) {as : List α}
    {rs : List (Revised β)} (hran : Ran (as.mapM f) s rs s') :
    Ran ((as.map child).mapM w.rewriteNode) s (rs.map (·.map wrap)) s' := by
  induction as generalizing s rs with
  | nil =>
    obtain ⟨rfl, rfl⟩ := Ran.mapM_nil_iff.mp hran
    exact Ran.mapM_nil_iff.mpr ⟨rfl, rfl⟩
  | cons a as ih =>
    obtain ⟨r, mid, rest, hr, hrest, rfl⟩ := Ran.mapM_cons_iff.mp hran
    refine Ran.mapM_cons_iff.mpr ⟨r.map wrap, mid, rest.map (·.map wrap), ?_, ih hrest, rfl⟩
    rw [h]
    exact Ran.map_iff.mpr ⟨r, hr, rfl⟩

/-- What a node has been rebuilt from. -/
def RebuiltFrom (w : Rewriter (Rewriting σ)) (s : σ) (n : Node) (r : Revised Node) (s' : σ) :
    Prop :=
  ∃ rs, Ran (n.children.mapM w.rewriteNode) s rs s' ∧ Rebuilt n rs r

/-- A node with a single child. -/
theorem rebuiltFrom_one {α β : Type} (wrap : α → Node) (make : α → β) (outer : β → Node)
    {f : α → Rewriting σ (Revised α)}
    (hwrap : ∀ a, w.rewriteNode (wrap a) = do return (← f a).map wrap)
    (hshell : ∀ a b, (outer (make a)).shell = (outer (make b)).shell)
    (hchildren : ∀ a, (outer (make a)).children = [wrap a]) {a : α} {r : Revised β}
    (h : Ran (do return (← f a).map make) s r s') :
    RebuiltFrom w s (outer (make a)) (r.map outer) s' := by
  obtain ⟨t, ht, rfl⟩ := Ran.map_iff.mp h
  refine ⟨[t.map wrap], ?_, .one hshell hchildren a t⟩
  have hone : Ran ([a].mapM f) s [t] s' :=
    Ran.mapM_cons_iff.mpr ⟨t, s', [], ht, Ran.mapM_nil_iff.mpr ⟨rfl, rfl⟩, rfl⟩
  rw [hchildren]
  exact ran_rewriteNode_map hwrap hone

/-- A node with two children of one sort. -/
theorem rebuiltFrom_two {α β : Type} (wrap : α → Node) (make : α → α → β) (outer : β → Node)
    {f : α → Rewriting σ (Revised α)}
    (hwrap : ∀ a, w.rewriteNode (wrap a) = do return (← f a).map wrap)
    (hshell : ∀ a b c d, (outer (make a b)).shell = (outer (make c d)).shell)
    (hchildren : ∀ a b, (outer (make a b)).children = [wrap a, wrap b]) {a b : α} {r : Revised β}
    (h : Ran (do
      let t ← f a
      return both make a b t (← f b)) s r s') :
    RebuiltFrom w s (outer (make a b)) (r.map outer) s' := by
  obtain ⟨t, mid, ht, hrest⟩ := Ran.bind_iff.mp h
  obtain ⟨u, hu, rfl⟩ := Ran.map_iff.mp hrest
  refine ⟨[t.map wrap, u.map wrap], ?_, .two hshell hchildren a b t u⟩
  have htwo : Ran ([a, b].mapM f) s [t, u] s' :=
    Ran.mapM_cons_iff.mpr ⟨t, mid, [u], ht, Ran.mapM_cons_iff.mpr
      ⟨u, s', [], hu, Ran.mapM_nil_iff.mpr ⟨rfl, rfl⟩, rfl⟩, rfl⟩
  rw [hchildren]
  exact ran_rewriteNode_map hwrap htwo

/-- A node with any number of children of one sort. -/
theorem rebuiltFrom_many {α β : Type} (wrap : α → Node) (make : List α → β) (outer : β → Node)
    {f : α → Rewriting σ (Revised α)}
    (hwrap : ∀ a, w.rewriteNode (wrap a) = do return (← f a).map wrap)
    (hshell : ∀ as bs, as.length = bs.length → (outer (make as)).shell = (outer (make bs)).shell)
    (hchildren : ∀ as, (outer (make as)).children = as.map wrap) {olds : List α}
    {rs : List (Revised α)} {r : Revised β} (hrs : Ran (olds.mapM f) s rs s')
    (h : r = if keepAll olds.length rs then .kept else .changed (make (resolveAll olds rs))) :
    RebuiltFrom w s (outer (make olds)) (r.map outer) s' := by
  refine ⟨rs.map (·.map wrap), ?_, .many hshell hchildren hrs.length_eq ?_⟩
  · rw [hchildren]
    exact ran_rewriteNode_map hwrap hrs
  · rw [h]
    split <;> rfl

/-- A node with named expressions below it. -/
theorem rebuiltFrom_named {β : Type} (make : List (String × Expression) → β) (outer : β → Node)
    (hshell : ∀ as bs, as.map (·.1) = bs.map (·.1) →
      (outer (make as)).shell = (outer (make bs)).shell)
    (hchildren : ∀ as, (outer (make as)).children = (as.map (·.2)).map .expression)
    {olds : List (String × Expression)} {rs : List (Revised Expression)} {r : Revised β}
    (hrs : Ran (olds.mapM fun old => w.expression old.2) s rs s')
    (h : r = if keepAll olds.length rs then .kept else .changed (make (resolveNamed olds rs))) :
    RebuiltFrom w s (outer (make olds)) (r.map outer) s' := by
  refine ⟨rs.map (·.map .expression), ?_, .named hshell hchildren hrs.length_eq ?_⟩
  · rw [hchildren, List.map_map]
    exact ran_rewriteNode_map (fun _ => rfl) hrs
  · rw [h]
    split <;> rfl

/-- A node without children. -/
theorem rebuiltFrom_none {α : Type} {n : Node} (hchildren : n.children = []) {outer : α → Node}
    {r : Revised α} (h : Ran (pure .kept) s r s') : RebuiltFrom w s n (r.map outer) s' := by
  obtain ⟨rfl, rfl⟩ := Ran.pure_iff.mp h
  refine ⟨[], ?_, .none⟩
  rw [hchildren]
  exact Ran.mapM_nil_iff.mpr ⟨rfl, rfl⟩

/-- A node that is made anew with checks is the one that passes them. -/
theorem eq_of_renew {α β : Type} {news : List α} {make : List α → β}
    {make? : List α → Except ArgumentError β} (hmake : Gives (make? news) (· = make news))
    {kept : Bool} {r : Revised β} (h : (if kept then .ok .kept else renew (make? news)) = .ok r) :
    r = if kept then .kept else .changed (make news) := by
  cases kept with
  | true =>
    cases h
    rfl
  | false =>
    obtain ⟨new, hnew, hr⟩ := bind_eq_ok_iff.mp h
    cases hr
    rw [hmake new hnew]
    rfl

private theorem map_hole_eq {α β : Type} {hole : β} {as bs : List α} (h : as.length = bs.length) :
    as.map (fun _ => hole) = bs.map fun _ => hole := by
  rw [List.map_const', List.map_const', h]

private theorem map_names_eq {α β : Type} {hole : β} {as bs : List (String × α)}
    (h : as.map (·.1) = bs.map (·.1)) :
    (as.map fun a => (a.1, hole)) = bs.map fun b => (b.1, hole) := by
  have hpairs := congrArg (List.map fun name => (name, hole)) h
  rwa [List.map_map, List.map_map] at hpairs

theorem rebuiltFrom_rebuildExpression {e : Expression} {r : Revised Expression}
    (h : Ran (w.rebuildExpression e) s r s') :
    RebuiltFrom w s (.expression e) (r.map .expression) s' := by
  cases e with
  | constant value => exact rebuiltFrom_none rfl h
  | field scope path => exact rebuiltFrom_none rfl h
  | var name => exact rebuiltFrom_none rfl h
  | unary function arg =>
    exact rebuiltFrom_one .expression (Expression.unary function) .expression (fun _ => rfl)
      (fun _ _ => rfl) (fun _ => rfl) h
  | binary function left right =>
    exact rebuiltFrom_two .expression (Expression.binary function) .expression (fun _ => rfl)
      (fun _ _ _ _ => rfl) (fun _ _ => rfl) h
  | variadic function args =>
    obtain ⟨rs, mid, hrs, hchecked⟩ := Ran.bind_iff.mp h
    obtain ⟨hupdate, rfl⟩ := Ran.checked_iff.mp hchecked
    have hmake : Gives (Expression.variadic? function (resolveAll args rs))
        (· = .variadic function (resolveAll args rs)) := Gives.bind_any fun _ => .ok rfl
    refine rebuiltFrom_many .expression (Expression.variadic function) .expression (fun _ => rfl)
      (fun as bs hlength => ?_) (fun _ => rfl) hrs (eq_of_renew hmake hupdate)
    exact congrArg (fun holes => Node.expression (.variadic function holes)) (map_hole_eq hlength)
  | document fields =>
    obtain ⟨rs, hrs, rfl⟩ := Ran.map_iff.mp h
    refine rebuiltFrom_named Expression.document .expression (fun as bs hnames => ?_) (fun _ => rfl)
      hrs rfl
    exact congrArg (fun holes => Node.expression (.document holes)) (map_names_eq hnames)
  | array items =>
    obtain ⟨rs, hrs, rfl⟩ := Ran.map_iff.mp h
    refine rebuiltFrom_many .expression Expression.array .expression (fun _ => rfl)
      (fun as bs hlength => ?_) (fun _ => rfl) hrs rfl
    exact congrArg (fun holes => Node.expression (.array holes)) (map_hole_eq hlength)
  | getField name input =>
    exact rebuiltFrom_one .expression (Expression.getField name) .expression (fun _ => rfl)
      (fun _ _ => rfl) (fun _ => rfl) h
  | filter input name condition =>
    exact rebuiltFrom_two .expression (Expression.filter · name ·) .expression (fun _ => rfl)
      (fun _ _ _ _ => rfl) (fun _ _ => rfl) h
  | map input name body =>
    exact rebuiltFrom_two .expression (Expression.map · name ·) .expression (fun _ => rfl)
      (fun _ _ _ _ => rfl) (fun _ _ => rfl) h

/-- A combination of filters. -/
theorem rebuiltFrom_combination (make : List Filter → Filter)
    {make? : List Filter → Except ArgumentError Filter}
    (hmake : ∀ args, Gives (make? args) (· = make args))
    (hshell : ∀ as bs, as.length = bs.length → (make as).shell = (make bs).shell)
    (hchildren : ∀ args, (make args).children = args.map .filter) {args : List Filter}
    {r : Revised Filter}
    (h : Ran (do Reviser.checked (Filter.updateArgs make? args (← args.mapM w.filter))) s r s') :
    RebuiltFrom w s (.filter (make args)) (r.map .filter) s' := by
  obtain ⟨rs, mid, hrs, hchecked⟩ := Ran.bind_iff.mp h
  obtain ⟨hupdate, rfl⟩ := Ran.checked_iff.mp hchecked
  exact rebuiltFrom_many .filter make .filter (fun _ => rfl)
    (fun as bs hlength => congrArg Node.filter (hshell as bs hlength)) hchildren hrs
    (eq_of_renew (hmake _) hupdate)

theorem rebuiltFrom_rebuildFilter {f : Filter} {r : Revised Filter}
    (h : Ran (w.rebuildFilter f) s r s') : RebuiltFrom w s (.filter f) (r.map .filter) s' := by
  cases f with
  | field target operation =>
    exact rebuiltFrom_one .operation (Filter.field target) .filter (fun _ => rfl) (fun _ _ => rfl)
      (fun _ => rfl) h
  | and args =>
    exact rebuiltFrom_combination Filter.and (fun _ => Gives.bind_any fun _ => .ok rfl)
      (fun _ _ hlength => congrArg Filter.and (map_hole_eq hlength)) (fun _ => rfl) h
  | or args =>
    exact rebuiltFrom_combination Filter.or (fun _ => Gives.bind_any fun _ => .ok rfl)
      (fun _ _ hlength => congrArg Filter.or (map_hole_eq hlength)) (fun _ => rfl) h
  | nor args =>
    exact rebuiltFrom_combination Filter.nor (fun _ => Gives.bind_any fun _ => .ok rfl)
      (fun _ _ hlength => congrArg Filter.nor (map_hole_eq hlength)) (fun _ => rfl) h
  | not f =>
    exact rebuiltFrom_one .filter Filter.not .filter (fun _ => rfl) (fun _ _ => rfl)
      (fun _ => rfl) h
  | expr e =>
    exact rebuiltFrom_one .expression Filter.expr .filter (fun _ => rfl) (fun _ _ => rfl)
      (fun _ => rfl) h

theorem rebuiltFrom_rebuildOperation {o : Operation} {r : Revised Operation}
    (h : Ran (w.rebuildOperation o) s r s') :
    RebuiltFrom w s (.operation o) (r.map .operation) s' := by
  cases o with
  | elemMatch f =>
    exact rebuiltFrom_one .filter Operation.elemMatch .operation (fun _ => rfl) (fun _ _ => rfl)
      (fun _ => rfl) h
  | not o =>
    exact rebuiltFrom_one .operation Operation.not .operation (fun _ => rfl) (fun _ _ => rfl)
      (fun _ => rfl) h
  | _ => exact rebuiltFrom_none rfl h

theorem rebuiltFrom_rebuildAccumulator {a : AccumulatorExpression}
    {r : Revised AccumulatorExpression} (h : Ran (w.rebuildAccumulator a) s r s') :
    RebuiltFrom w s (.accumulator a) (r.map .accumulator) s' :=
  rebuiltFrom_one .expression (AccumulatorExpression.mk a.operator) .accumulator (fun _ => rfl)
    (fun _ _ => rfl) (fun _ => rfl) h

/-- Entries of a projection are rebuilt from the values that some of them compute. -/
private theorem exists_values {entries : List Projection} {rs : List (Revised Projection)}
    (h : Ran (entries.mapM w.rebuildProjection) s rs s') :
    ∃ vs : List (Revised Expression),
      Ran ((entries.flatMap (·.values)).mapM w.expression) s vs s' ∧
      (Projection.allUnchanged entries rs = true ↔ ∀ v ∈ vs, v = .kept) ∧
      (resolveAll entries rs).map (·.shell) = entries.map (·.shell) ∧
      (resolveAll entries rs).flatMap (·.values) = resolveAll (entries.flatMap (·.values)) vs := by
  induction entries generalizing s rs with
  | nil =>
    obtain ⟨rfl, rfl⟩ := Ran.mapM_nil_iff.mp h
    exact ⟨[], Ran.mapM_nil_iff.mpr ⟨rfl, rfl⟩, by simp [Projection.allUnchanged], rfl, rfl⟩
  | cons entry entries ih =>
    obtain ⟨r, mid, rest, hr, hrest, rfl⟩ := Ran.mapM_cons_iff.mp h
    obtain ⟨vs, hvs, hkept, hshells, hvalues⟩ := ih hrest
    cases entry with
    | compute path value =>
      obtain ⟨v, hv, rfl⟩ := Ran.map_iff.mp hr
      refine ⟨v :: vs, Ran.mapM_cons_iff.mpr ⟨v, mid, vs, hv, hvs, rfl⟩, ?_, ?_, ?_⟩
      · rw [Projection.allUnchanged, Bool.and_eq_true, hkept, List.forall_mem_cons]
        cases v <;> simp [Revised.map, Projection.isUnchanged]
      · rw [resolveAll, List.map_cons, List.map_cons, hshells]
        cases v <;> rfl
      · rw [resolveAll, List.flatMap_cons, hvalues]
        cases v <;> rfl
    | _ =>
      obtain ⟨rfl, rfl⟩ := Ran.pure_iff.mp hr
      refine ⟨vs, hvs, ?_, ?_, hvalues⟩
      · rw [Projection.allUnchanged, Bool.and_eq_true, hkept]
        exact and_iff_right rfl
      · rw [resolveAll, List.map_cons, List.map_cons, hshells]
        rfl

private theorem rebuiltFrom_project {entries : List Projection} {r : Revised Stage}
    (h : Ran (w.rebuildStage (.project entries)) s r s') :
    RebuiltFrom w s (.stage (.project entries)) (r.map .stage) s' := by
  obtain ⟨rs, mid, hrs, hchecked⟩ := Ran.bind_iff.mp h
  obtain ⟨hupdate, rfl⟩ := Ran.checked_iff.mp hchecked
  obtain ⟨vs, hvs, hkept, hshells, hvalues⟩ := exists_values hrs
  have hmake : Gives (Stage.project? (resolveAll entries rs))
      (· = .project (resolveAll entries rs)) :=
    Gives.bind_any fun _ => .ok rfl
  have hr := eq_of_renew hmake hupdate
  refine ⟨vs.map (·.map .expression), ran_rewriteNode_map (fun _ => rfl) hvs, ?_, ?_⟩
  · rw [List.forall_mem_map, map_kept_iff, hr]
    simp only [map_kept_iff, ← hkept]
    split
    · next hunchanged => simp [hunchanged]
    · next hunchanged => simp [hunchanged]
  · intro new hnew
    rw [hr] at hnew
    split at hnew
    · cases hnew
    · cases hnew
      refine ⟨congrArg (fun holes => Node.stage (.project holes)) hshells, ?_⟩
      show List.map Node.expression ((resolveAll entries rs).flatMap (·.values)) = _
      rw [hvalues]
      exact (resolveAll_map Node.expression hvs.length_eq).symm

private theorem rebuiltFrom_group {key : Expression}
    {accumulators : List (String × AccumulatorExpression)} {r : Revised Stage}
    (h : Ran (w.rebuildStage (.group key accumulators)) s r s') :
    RebuiltFrom w s (.stage (.group key accumulators)) (r.map .stage) s' := by
  obtain ⟨k, mid, hk, hrest⟩ := Ran.bind_iff.mp h
  obtain ⟨rs, last, hrs, hchecked⟩ := Ran.bind_iff.mp hrest
  obtain ⟨hupdate, rfl⟩ := Ran.checked_iff.mp hchecked
  have hlength := hrs.length_eq
  rw [Stage.updateGroup, hlength, beq_self_eq_true, ensure, if_pos rfl, ok_bind,
    pure_eq_ok] at hupdate
  have hr := (Except.ok.inj hupdate).symm
  refine ⟨k.map .expression :: rs.map (·.map .accumulator), ?_, ?_, ?_⟩
  · refine Ran.mapM_cons_iff.mpr ⟨_, mid, _, Ran.map_iff.mpr ⟨k, hk, rfl⟩, ?_, rfl⟩
    rw [List.map_map]
    exact ran_rewriteNode_map (fun _ => rfl) hrs
  · rw [List.forall_mem_cons, List.forall_mem_map, map_kept_iff, map_kept_iff, hr]
    simp only [map_kept_iff, ← keepAll_iff_forall hlength]
    cases k <;> simp [isKept]
  · intro new hnew
    rw [hr] at hnew
    split at hnew
    · cases hnew
    · cases hnew
      have hnames : (resolveNamed accumulators rs).map (·.1) = accumulators.map (·.1) :=
        map_fst_resolveNamed_of_length_le (Nat.le_of_eq hlength.symm)
      refine ⟨congrArg (fun holes => Node.stage (.group .hole holes)) (map_names_eq hnames), ?_⟩
      show .expression (k.resolve key) ::
        ((resolveNamed accumulators rs).map (·.2)).map Node.accumulator = _
      rw [map_snd_resolveNamed_eq_resolveAll hlength,
        ← resolveAll_map Node.accumulator (by rw [hlength, List.length_map])]
      cases k <;> rfl

theorem rebuiltFrom_rebuildStage {stage : Stage} {r : Revised Stage}
    (h : Ran (w.rebuildStage stage) s r s') : RebuiltFrom w s (.stage stage) (r.map .stage) s' := by
  cases stage with
  | select f =>
    exact rebuiltFrom_one .filter Stage.select .stage (fun _ => rfl) (fun _ _ => rfl)
      (fun _ => rfl) h
  | project entries => exact rebuiltFrom_project h
  | replaceRoot e =>
    exact rebuiltFrom_one .expression Stage.replaceRoot .stage (fun _ => rfl) (fun _ _ => rfl)
      (fun _ => rfl) h
  | addFields fields =>
    obtain ⟨rs, mid, hrs, hchecked⟩ := Ran.bind_iff.mp h
    obtain ⟨hupdate, rfl⟩ := Ran.checked_iff.mp hchecked
    rw [Stage.updateFields, hrs.length_eq, beq_self_eq_true, ensure, if_pos rfl, ok_bind,
      pure_eq_ok] at hupdate
    refine rebuiltFrom_named Stage.addFields .stage (fun as bs hnames => ?_) (fun _ => rfl) hrs
      (Except.ok.inj hupdate).symm
    exact congrArg (fun holes => Node.stage (.addFields holes)) (map_names_eq hnames)
  | group key accumulators => exact rebuiltFrom_group h
  | _ => exact rebuiltFrom_none rfl h

theorem rebuiltFrom_rebuildNode {n : Node} {r : Revised Node} (h : Ran (w.rebuildNode n) s r s') :
    RebuiltFrom w s n r s' := by
  cases n with
  | stage stage =>
    obtain ⟨t, ht, rfl⟩ := Ran.map_iff.mp h
    exact rebuiltFrom_rebuildStage ht
  | filter f =>
    obtain ⟨t, ht, rfl⟩ := Ran.map_iff.mp h
    exact rebuiltFrom_rebuildFilter ht
  | operation o =>
    obtain ⟨t, ht, rfl⟩ := Ran.map_iff.mp h
    exact rebuiltFrom_rebuildOperation ht
  | expression e =>
    obtain ⟨t, ht, rfl⟩ := Ran.map_iff.mp h
    exact rebuiltFrom_rebuildExpression ht
  | accumulator a =>
    obtain ⟨t, ht, rfl⟩ := Ran.map_iff.mp h
    exact rebuiltFrom_rebuildAccumulator ht

/-- A pipeline is rebuilt from its stages. -/
theorem exists_stages_of_rebuildPipeline {p : Pipeline} {r : Revised Pipeline}
    (h : Ran (w.rebuildPipeline p) s r s') :
    ∃ rs, Ran (p.stages.mapM w.stage) s rs s' ∧ RebuiltStages p rs r := by
  obtain ⟨rs, hrs, rfl⟩ := Ran.map_iff.mp h
  refine ⟨rs, hrs, ?_, ?_⟩
  · rw [← keepAll_iff_forall hrs.length_eq, Pipeline.update]
    split
    · next hkept => simp [hkept]
    · next hkept => simp [hkept]
  · intro new hnew
    rw [Pipeline.update] at hnew
    split at hnew
    · cases hnew
    · cases hnew
      rfl

end Rebuilding

end DocQuery
