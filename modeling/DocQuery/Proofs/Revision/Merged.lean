import DocQuery.Evaluation.Stage
import DocQuery.Proofs.Evaluation.Expression
import DocQuery.Proofs.Evaluation.Filter
import DocQuery.Proofs.Number.Integer
import DocQuery.Proofs.Pipeline.WellFormed
import DocQuery.Proofs.Revision.Simplified
import DocQuery.Revision.Coalesce

/-!
# Merged stages do the work of both

A stage that comes out of merging two neighbours leaves the same documents as the two do one after
the other.  Two selections test each document twice, the merged one tests it once for both: which
documents fail is the same, but not which of them fails first, so only the results of successful
runs are compared.

## Main definitions

* `Stage.mergeable` — what merging relies on.
* `Stage.Merges` — the ways in which one stage does the work of two.
* `Coalesces` — stages with neighbours merged.

## Main results

* `mergeStages?_eq_ok` — merging does not fail, and merges what can be merged.
* `Pipeline.coalesce_eq_ok` — so with all stages of a pipeline.
* `Stage.Merges.run` — a merged stage gives what the two stages give.
* `Pipeline.run_coalesce` — **a pipeline and its coalesced form give the same documents.**
-/

namespace DocQuery

/-! ### Conjunctions -/

/-- A filter holds where all of its conjuncts do. -/
@[simp] theorem Filter.decided_self_conjuncts (f : Filter) (d : Value) :
    decided false f.conjuncts d = f.holds d := by
  cases f with
  | and args => rfl
  | _ => exact decided_singleton false _ d

/-- The conjuncts of two filters hold where the first filter holds and then the second one. -/
theorem Filter.holds_conjuncts_append (f g : Filter) (d : Value) :
    (and (f.conjuncts ++ g.conjuncts)).holds d
      = (f.holds d >>= fun b => if b then g.holds d else .ok false) := by
  rw [holds_and, decided_append, decided_self_conjuncts, decided_self_conjuncts]
  refine congrArg _ (funext fun b => ?_)
  cases b <;> rfl

/-- Keeping the items that pass one test and then those that pass another one is keeping those that
pass both, where the second test is made only if the first one holds. -/
theorem keepItems_keepItems (first second : Value → Except EvalError Bool) (items : List Value) :
    SucceedAlike (keepItems (fun v => first v >>= fun b => if b then second v else .ok false) items)
      (keepItems first items >>= keepItems second) := by
  intro kept
  simp only [bind_eq_ok_iff, keepItems_eq_ok_iff]
  -- once the first test is known everywhere, both sides keep the same items
  have hkept : (∀ v ∈ items, ∃ b, first v = .ok b) →
      items.filter (passes fun v => first v >>= fun b => if b then second v else .ok false)
        = (items.filter (passes first)).filter (passes second) := by
    intro hfirst
    rw [List.filter_filter]
    refine List.filter_congr fun v hv => ?_
    obtain ⟨b, hb⟩ := hfirst v hv
    cases b <;> simp [passes, hb]
  constructor
  · rintro ⟨htests, rfl⟩
    have hfirst : ∀ v ∈ items, ∃ b, first v = .ok b := by
      intro v hv
      obtain ⟨-, b, hb, -⟩ := htests v hv
      exact ⟨b, hb⟩
    refine ⟨_, ⟨hfirst, rfl⟩, ?_, hkept hfirst⟩
    intro v hv
    obtain ⟨hmem, hpass⟩ := List.mem_filter.mp hv
    obtain ⟨outcome, b, hb, hsecond⟩ := htests v hmem
    rw [passes_of_ok hb] at hpass
    rw [if_pos hpass] at hsecond
    exact ⟨outcome, hsecond⟩
  · rintro ⟨_, ⟨hfirst, rfl⟩, hsecond, rfl⟩
    refine ⟨?_, (hkept hfirst).symm⟩
    intro v hv
    obtain ⟨b, hb⟩ := hfirst v hv
    cases b with
    | false => exact ⟨false, false, hb, rfl⟩
    | true =>
      obtain ⟨outcome, houtcome⟩ := hsecond v (List.mem_filter.mpr ⟨hv, passes_of_ok hb⟩)
      exact ⟨outcome, true, hb, houtcome⟩

/-! ### Two stages as one -/

namespace Stage

/-- The stage has passed the checks of its own construction: a conjunction has operands, and the
numbers of documents are in range.  What is below the top of the stage does not matter here. -/
def mergeable : Stage → Bool
  | .select f => (Filter.and? f.conjuncts).isOk
  | .skip n => (skip? n).isOk
  | .limit n => (limit? n).isOk
  | _ => true

theorem mergeable_select (f : Filter) : (select f).mergeable = true ↔ f.conjuncts ≠ [] := by
  simp [mergeable, Filter.and?]

theorem mergeable_skip (n : Int64) : (skip n).mergeable = true ↔ 0 ≤ n.toInt := by
  simp [mergeable, skip?]

theorem mergeable_limit (n : Int64) : (limit n).mergeable = true ↔ 0 < n.toInt := by
  simp [mergeable, limit?]

theorem mergeable_of_wellFormed {stage : Stage} (hw : stage.wellFormed = true) :
    stage.mergeable = true := by
  cases stage with
  | select f =>
    rw [mergeable_select]
    cases f with
    | and args => exact ((Filter.wellFormed_and args).mp hw).1
    | _ => exact List.cons_ne_nil _ _
  | skip n => exact hw
  | limit n => exact hw
  | _ => rfl

/-- The last stage does the work of the first two, one after the other. -/
inductive Merges : Stage → Stage → Stage → Prop where
  | select (f g : Filter) :
    Merges (.select f) (.select g) (.select (.and (f.conjuncts ++ g.conjuncts)))
  /-- The sum has to fit 64 bits. -/
  | skip {a b n : Int64} (h : n.toInt = a.toInt + b.toInt) :
    Merges (.skip a) (.skip b) (.skip n)
  | limit (a b : Int64) : Merges (.limit a) (.limit b) (.limit (if a ≤ b then a else b))

theorem Merges.mergeable {first second merged : Stage} (h : Merges first second merged)
    (hfirst : first.mergeable = true) (hsecond : second.mergeable = true) :
    merged.mergeable = true := by
  cases h with
  | select f g =>
    rw [mergeable_select] at hfirst ⊢
    exact List.append_ne_nil_of_left_ne_nil hfirst _
  | skip hsum =>
    rw [mergeable_skip] at hfirst hsecond ⊢
    omega
  | limit a b =>
    rw [mergeable_limit] at hfirst hsecond ⊢
    split
    · exact hfirst
    · exact hsecond

/-- A merged stage gives what the two stages give one after the other. -/
theorem Merges.run {first second merged : Stage} (h : Merges first second merged)
    (hfirst : first.mergeable = true) (hsecond : second.mergeable = true)
    (documents : List Value) :
    SucceedAlike (merged.run documents) (first.run documents >>= second.run) := by
  cases h with
  | select f g =>
    have hholds : (fun d => (Filter.and (f.conjuncts ++ g.conjuncts)).holds d)
        = fun d => f.holds d >>= fun b => if b then g.holds d else .ok false :=
      funext fun d => f.holds_conjuncts_append g d
    rw [Stage.run, Stage.run, hholds]
    exact keepItems_keepItems _ _ documents
  | @skip a b n hsum =>
    rw [mergeable_skip] at hfirst hsecond
    -- neither number is negative, so the documents left out add up as the numbers do
    have htotal : n.toInt.toNat = a.toInt.toNat + b.toInt.toNat := by omega
    rw [Stage.run, Stage.run, ok_bind, Stage.run, List.drop_drop, htotal]
    exact .refl _
  | limit a b =>
    have hsmaller : (if a ≤ b then a else b).toInt.toNat = min b.toInt.toNat a.toInt.toNat := by
      split
      · next hle =>
        rw [Int64.le_iff_toInt_le] at hle
        omega
      · next hle =>
        rw [Int64.le_iff_toInt_le] at hle
        omega
    rw [Stage.run, Stage.run, ok_bind, Stage.run, List.take_take, hsmaller]
    exact .refl _

theorem Merges.unique {first second merged other : Stage} (h : Merges first second merged)
    (h' : Merges first second other) : merged = other := by
  cases h with
  | select f g =>
    cases h'
    rfl
  | skip hsum =>
    cases h' with
    | skip hother => rw [Int64.toInt_inj.mp (hsum.trans hother.symm)]
  | limit a b =>
    cases h'
    rfl

theorem Merges.some_eq_some_iff {first second merged : Stage} (h : Merges first second merged)
    (other : Stage) : some merged = some other ↔ Merges first second other := by
  constructor
  · rintro ⟨⟩
    exact h
  · intro h'
    rw [h.unique h']

end Stage

open Stage in
/-- Merging does not fail, and finds the stage that does the work of both if there is one. -/
theorem mergeStages?_eq_ok {first second : Stage} (hfirst : first.mergeable = true)
    (hsecond : second.mergeable = true) :
    ∃ result, mergeStages? first second = .ok result ∧
      ∀ merged, result = some merged ↔ Merges first second merged := by
  unfold mergeStages?
  split
  case h_1 f g =>
    have hmerges := Merges.select f g
    have hne : f.conjuncts ++ g.conjuncts ≠ [] :=
      (mergeable_select _).mp (hmerges.mergeable hfirst hsecond)
    refine ⟨some (.select (.and (f.conjuncts ++ g.conjuncts))), ?_, hmerges.some_eq_some_iff⟩
    rw [Filter.and?_of_ne_nil _ hne]
    rfl
  case h_2 a b =>
    cases hsum : signed64? (a.toInt + b.toInt) with
    | none =>
      -- no number of 64 bits is the sum, so the two stages stay apart
      refine ⟨none, rfl, fun merged => ⟨nofun, ?_⟩⟩
      rintro (_ | @⟨_, _, n, htotal⟩)
      rw [← htotal, signed64?_toInt] at hsum
      cases hsum
    | some n =>
      have hmerges : Merges (.skip a) (.skip b) (.skip n) := .skip (toInt_of_signed64? hsum)
      have hn := (mergeable_skip n).mp (hmerges.mergeable hfirst hsecond)
      refine ⟨some (.skip n), ?_, hmerges.some_eq_some_iff⟩
      simp [skip?, ensure, hn]
  case h_3 a b =>
    have hmerges := Merges.limit a b
    have hn := (mergeable_limit _).mp (hmerges.mergeable hfirst hsecond)
    refine ⟨some (.limit (if a ≤ b then a else b)), ?_, hmerges.some_eq_some_iff⟩
    simp [limit?, ensure, hn]
  case h_4 hselect hskip hlimit =>
    -- stages of other kinds, or of two kinds, have no stage that does the work of both
    refine ⟨none, rfl, fun merged => ⟨nofun, ?_⟩⟩
    intro hmerges
    cases hmerges with
    | select f g => exact (hselect f g rfl rfl).elim
    | skip _ => exact (hskip _ _ rfl rfl).elim
    | limit a b => exact (hlimit a b rfl rfl).elim

/-! ### All stages -/

theorem Pipeline.run_cons (stage : Stage) (stages : List Stage) (documents : List Value) :
    run ⟨stage :: stages⟩ documents = (stage.run documents >>= run ⟨stages⟩) :=
  List.foldlM_cons ..

/-- The second list of stages is the first one with neighbours merged, from the front on. -/
inductive Coalesces : List Stage → List Stage → Prop where
  | nil : Coalesces [] []
  /-- The first stage stays and the stages behind it are merged. -/
  | apart (stage : Stage) {stages merged : List Stage} (h : Coalesces stages merged) :
    Coalesces (stage :: stages) (stage :: merged)
  /-- The first two stages become one, which may be merged again. -/
  | merge {first second both : Stage} {stages merged : List Stage}
    (hboth : Stage.Merges first second both) (h : Coalesces (both :: stages) merged) :
    Coalesces (first :: second :: stages) merged

/-- Merged stages have a property that the stages have and merging hands on. -/
theorem Coalesces.forall_mem {p : Stage → Prop} {stages merged : List Stage}
    (h : Coalesces stages merged)
    (hp : ∀ {first second both}, Stage.Merges first second both → p first → p second → p both)
    (hstages : ∀ stage ∈ stages, p stage) : ∀ stage ∈ merged, p stage := by
  induction h with
  | nil => exact hstages
  | apart stage _ ih =>
    obtain ⟨hstage, hrest⟩ := List.forall_mem_cons.mp hstages
    exact List.forall_mem_cons.mpr ⟨hstage, ih hrest⟩
  | merge hboth _ ih =>
    obtain ⟨hfirst, hrest⟩ := List.forall_mem_cons.mp hstages
    obtain ⟨hsecond, hrest⟩ := List.forall_mem_cons.mp hrest
    exact ih (List.forall_mem_cons.mpr ⟨hp hboth hfirst hsecond, hrest⟩)

theorem Coalesces.length_le {stages merged : List Stage} (h : Coalesces stages merged) :
    merged.length ≤ stages.length := by
  induction h with
  | nil => exact Nat.le_refl 0
  | apart stage _ ih => exact Nat.succ_le_succ ih
  | merge hboth _ ih => exact Nat.le_succ_of_le ih

/-- Only merging takes stages away, so as many stages are the same ones. -/
theorem Coalesces.eq_of_length_eq {stages merged : List Stage} (h : Coalesces stages merged)
    (hlength : merged.length = stages.length) : merged = stages := by
  induction h with
  | nil => rfl
  | apart stage _ ih => rw [ih (Nat.succ.inj hlength)]
  | merge hboth hmerged _ =>
    have hle := hmerged.length_le
    simp only [List.length_cons] at hle hlength
    omega

/-- Merged stages give what the stages give one after the other. -/
theorem Coalesces.run {stages merged : List Stage} (h : Coalesces stages merged)
    (hstages : ∀ stage ∈ stages, stage.mergeable = true) (documents : List Value) :
    SucceedAlike (Pipeline.run ⟨merged⟩ documents) (Pipeline.run ⟨stages⟩ documents) := by
  induction h generalizing documents with
  | nil => exact .refl _
  | apart stage _ ih =>
    rw [Pipeline.run_cons, Pipeline.run_cons]
    exact (SucceedAlike.refl _).bind (ih (List.forall_mem_cons.mp hstages).2)
  | @merge first second both stages _ hboth _ ih =>
    obtain ⟨hfirst, hrest⟩ := List.forall_mem_cons.mp hstages
    obtain ⟨hsecond, hrest⟩ := List.forall_mem_cons.mp hrest
    have hmergeable : ∀ stage ∈ both :: stages, stage.mergeable = true :=
      List.forall_mem_cons.mpr ⟨hboth.mergeable hfirst hsecond, hrest⟩
    refine (ih hmergeable documents).trans ?_
    -- the merged stage first, then all stages that are left
    rw [Pipeline.run_cons, Pipeline.run_cons, funext fun d => Pipeline.run_cons second stages d,
      ← bind_assoc]
    exact (hboth.run hfirst hsecond documents).bind fun _ => .refl _

/-- Stages after the last one that was given out: each of them is merged into it or takes its
place. -/
theorem mergeFrom_coalesces {last : Stage} {stages : List Stage} (hlast : last.mergeable = true)
    (hstages : ∀ stage ∈ stages, stage.mergeable = true) :
    ∃ merged, mergeFrom last stages = .ok merged ∧ Coalesces (last :: stages) merged := by
  -- the stage that was given out last changes from step to step, so all of them at once
  induction stages generalizing last with
  | nil => exact ⟨[last], rfl, .apart last .nil⟩
  | cons stage stages ih =>
    obtain ⟨hstage, hrest⟩ := List.forall_mem_cons.mp hstages
    obtain ⟨result, hresult, hspec⟩ := mergeStages?_eq_ok hlast hstage
    cases result with
    | none =>
      obtain ⟨merged, hmerged, hcoalesces⟩ := ih hstage hrest
      refine ⟨last :: merged, ?_, .apart last hcoalesces⟩
      simp only [mergeFrom, hresult, hmerged, ok_bind, pure_eq_ok]
    | some both =>
      have hboth := (hspec both).mp rfl
      obtain ⟨merged, hmerged, hcoalesces⟩ := ih (hboth.mergeable hlast hstage) hrest
      refine ⟨merged, ?_, .merge hboth hcoalesces⟩
      simp only [mergeFrom, hresult, hmerged, ok_bind]

theorem mergeAll_coalesces {stages : List Stage}
    (hstages : ∀ stage ∈ stages, stage.mergeable = true) :
    ∃ merged, mergeAll stages = .ok merged ∧ Coalesces stages merged := by
  cases stages with
  | nil => exact ⟨[], rfl, .nil⟩
  | cons stage stages =>
    obtain ⟨hstage, hrest⟩ := List.forall_mem_cons.mp hstages
    exact mergeFrom_coalesces hstage hrest

/-- What coalescing resolves to are the merged stages, also where it keeps the pipeline. -/
theorem Pipeline.exists_coalesce {p : Pipeline}
    (hp : ∀ stage ∈ p.stages, stage.mergeable = true) :
    ∃ r, coalesce p = .ok r ∧ mergeAll p.stages = .ok (r.resolve p).stages ∧
      Coalesces p.stages (r.resolve p).stages := by
  obtain ⟨merged, hmerged, hcoalesces⟩ := mergeAll_coalesces hp
  refine ⟨if merged.length = p.stages.length then .kept else .changed ⟨merged⟩, ?_, ?_⟩
  · rw [coalesce, hmerged]
    rfl
  · split
    · next hlength =>
      obtain rfl := hcoalesces.eq_of_length_eq hlength
      exact ⟨hmerged, hcoalesces⟩
    · exact ⟨hmerged, hcoalesces⟩

/-- Coalescing a pipeline does not fail, and merges neighbours among its stages. -/
theorem Pipeline.coalesce_eq_ok {p : Pipeline} (hp : ∀ stage ∈ p.stages, stage.mergeable = true) :
    ∃ r, coalesce p = .ok r ∧ Coalesces p.stages (r.resolve p).stages := by
  obtain ⟨r, hr, -, hcoalesces⟩ := exists_coalesce hp
  exact ⟨r, hr, hcoalesces⟩

/-- Coalescing a pipeline does not fail, and what comes out gives the same documents as the pipeline
wherever one of the two succeeds.  So one fails where the other does. -/
theorem Pipeline.run_coalesce (p : Pipeline) (hp : ∀ stage ∈ p.stages, stage.mergeable = true) :
    ∃ r, coalesce p = .ok r ∧
      ∀ documents out, (r.resolve p).run documents = .ok out ↔ p.run documents = .ok out := by
  obtain ⟨r, hr, hcoalesces⟩ := coalesce_eq_ok hp
  exact ⟨r, hr, hcoalesces.run hp⟩

/-- Three selections, of which the second one is a conjunction, become one; of three numbers to
leave out the last two are added, since the sum of the first two does not fit. -/
theorem Pipeline.run_coalesce_sums :
    let f : Filter := .field (.path "a") (.compare .gt (.int 1))
    let g : Filter := .field (.path "b") (.regex "[" "")
    let p : Pipeline := ⟨[.select f, .select (.and [g, f]), .select g, .skip Int64.maxValue, .skip 1,
      .skip 2, .limit 7, .limit 5, .count "n"]⟩
    (∀ stage ∈ p.stages, stage.mergeable = true) ∧ ∃ r, coalesce p = .ok r ∧
      ∀ documents out, (r.resolve p).run documents = .ok out ↔ p.run documents = .ok out :=
  have hp := by decide +kernel
  ⟨hp, run_coalesce _ hp⟩

end DocQuery
