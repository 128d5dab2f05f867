import Mathlib
import DocQuery.Proofs.Revision.Merged

/-!
# Coalesced pipelines

A pipeline is coalesced if no two neighbours among its stages can be merged.  This is said here of
the stages themselves and not by what merging makes of them.  The loop over the stages compares each
of them with the last one that it has given out, which grows as it takes in the stages behind it.
What makes one pass enough is that a stage that stands apart from its neighbour goes on doing so
while the neighbour grows: the sum of two numbers to leave out that is too large only becomes
larger.

## Main definitions

* `Stage.StandApart` — the two stages cannot be merged.
* `Pipeline.IsCoalesced` — neighbours stand apart.
* `Stage.MergesAll` — a stage in the place of a run of stages.

## Main results

* `isChain_mergeFrom` — stages that come out stand apart from their neighbours.
* `Coalesces.exists_runs` — each of them is in the place of a run of stages.
* `Pipeline.isCoalesced_coalesce` — **coalescing leads to a coalesced pipeline in one pass, and
  keeps exactly the pipelines that are coalesced already.**
-/

namespace DocQuery

/-! ### Stages that stand apart -/

namespace Stage

/-- The two stages cannot be merged: they are of different kinds, or of a kind that is not merged,
or numbers to leave out with a sum that does not fit 64 bits. -/
def StandApart : Stage → Stage → Prop
  | .select _, .select _ => False
  | .skip a, .skip b => Int64.maxValue.toInt < a.toInt + b.toInt
  | .limit _, .limit _ => False
  | _, _ => True

variable {first second both prev : Stage}

theorem StandApart.not_merges (h : StandApart first second) : ¬ Merges first second both := by
  intro hmerges
  cases hmerges with
  | select f g => exact h
  | @skip a b n hsum =>
    have hn := n.toInt_le
    have hlarge : Int64.maxValue.toInt < a.toInt + b.toInt := h
    omega
  | limit a b => exact h

theorem standApart_of_not_merges (hfirst : first.mergeable = true)
    (hsecond : second.mergeable = true) (h : ∀ both, ¬ Merges first second both) :
    StandApart first second := by
  unfold StandApart
  split
  case h_1 f g => exact h _ (.select f g)
  case h_2 a b =>
    rw [mergeable_skip] at hfirst hsecond
    by_contra hsmall
    have hmax : Int64.maxValue.toInt = pow2 63 - 1 := by decide
    obtain ⟨n, hn⟩ := signed64?_isSome (n := a.toInt + b.toInt) (by omega) (by omega)
    exact h _ (.skip (toInt_of_signed64? hn))
  case h_3 a b => exact h _ (.limit a b)
  case h_4 => trivial

theorem StandApart.mergeStages?_eq (h : StandApart first second) :
    mergeStages? first second = .ok none := by
  unfold mergeStages?
  split
  case h_1 f g => exact h.elim
  case h_2 a b =>
    cases hsum : signed64? (a.toInt + b.toInt) with
    | none => rfl
    | some n => exact absurd (.skip (toInt_of_signed64? hsum)) h.not_merges
  case h_3 a b => exact h.elim
  case h_4 => rfl

/-- A stage goes on standing apart while the one behind it grows. -/
theorem StandApart.of_merges (h : StandApart prev first) (hboth : Merges first second both)
    (hsecond : second.mergeable = true) : StandApart prev both := by
  cases hboth with
  | select f g => cases prev <;> exact h
  | @skip a b n hsum =>
    rw [mergeable_skip] at hsecond
    cases prev with
    | skip c =>
      have hlarge : Int64.maxValue.toInt < c.toInt + a.toInt := h
      show Int64.maxValue.toInt < c.toInt + n.toInt
      omega
    | _ => trivial
  | limit a b => cases prev <;> exact h

end Stage

open Stage (StandApart)

/-! ### One pass -/

/-- Stages that come out stand apart from their neighbours, and the first of them does so from what
the one that was given out last stood apart from. -/
theorem isChain_mergeFrom {last : Stage} {stages merged : List Stage}
    (hlast : last.mergeable = true) (hstages : ∀ stage ∈ stages, stage.mergeable = true)
    (h : mergeFrom last stages = .ok merged) :
    merged.IsChain StandApart ∧
      ∀ prev, StandApart prev last → ∀ head ∈ merged.head?, StandApart prev head := by
  -- the stage that was given out last changes from step to step, so all of them at once
  induction stages generalizing last merged with
  | nil =>
    cases h
    refine ⟨List.isChain_singleton last, fun prev hprev head hhead => ?_⟩
    rwa [← Option.mem_some_iff.mp hhead]
  | cons stage stages ih =>
    obtain ⟨hstage, hrest⟩ := List.forall_mem_cons.mp hstages
    obtain ⟨result, hresult, hspec⟩ := mergeStages?_eq_ok hlast hstage
    rw [mergeFrom, hresult, ok_bind] at h
    cases result with
    | none =>
      obtain ⟨out, hout, hmerged⟩ := bind_eq_ok_iff.mp h
      cases hmerged
      obtain ⟨hchain, hhead⟩ := ih hstage hrest hout
      have hapart : StandApart last stage := by
        refine Stage.standApart_of_not_merges hlast hstage fun both hboth => ?_
        cases (hspec both).mpr hboth
      refine ⟨List.isChain_cons.mpr ⟨hhead last hapart, hchain⟩, fun prev hprev head hmem => ?_⟩
      rwa [← Option.mem_some_iff.mp hmem]
    | some both =>
      have hboth := (hspec both).mp rfl
      obtain ⟨hchain, hhead⟩ := ih (hboth.mergeable hlast hstage) hrest h
      exact ⟨hchain, fun prev hprev => hhead prev (hprev.of_merges hboth hstage)⟩

theorem isChain_mergeAll {stages merged : List Stage}
    (hstages : ∀ stage ∈ stages, stage.mergeable = true) (h : mergeAll stages = .ok merged) :
    merged.IsChain StandApart := by
  cases stages with
  | nil =>
    cases h
    exact List.isChain_nil
  | cons stage stages =>
    obtain ⟨hstage, hrest⟩ := List.forall_mem_cons.mp hstages
    exact (isChain_mergeFrom hstage hrest h).1

/-- Stages that stand apart come out as they are. -/
theorem mergeAll_eq_of_isChain {stages : List Stage} (h : stages.IsChain StandApart) :
    mergeAll stages = .ok stages := by
  cases stages with
  | nil => rfl
  | cons stage stages =>
    rw [mergeAll]
    induction stages generalizing stage with
    | nil => rfl
    | cons next stages ih =>
      obtain ⟨hapart, hchain⟩ := List.isChain_cons_cons.mp h
      rw [mergeFrom, hapart.mergeStages?_eq, ok_bind, ih next hchain]
      rfl

/-! ### Runs of stages -/

namespace Stage

/-- The stage is in the place of a run of stages: it is the only one of them, or they are of one
kind and it has the conjuncts, the sum or the least of their numbers. -/
inductive MergesAll : List Stage → Stage → Prop where
  | one (stage : Stage) : MergesAll [stage] stage
  | select {fs : List Filter} (hlength : 2 ≤ fs.length) :
    MergesAll (fs.map .select) (.select (.and (fs.flatMap Filter.conjuncts)))
  | skip {ns : List Int64} {n : Int64} (hlength : 2 ≤ ns.length)
    (hsum : n.toInt = (ns.map (·.toInt)).sum) : MergesAll (ns.map .skip) (.skip n)
  | limit {ns : List Int64} {n : Int64} (hlength : 2 ≤ ns.length) (hmem : n ∈ ns)
    (hle : ∀ m ∈ ns, n ≤ m) : MergesAll (ns.map .limit) (.limit n)

/-- The members of a run that begins with a stage of one kind. -/
private theorem exists_eq_map_cons {α : Type} {make : α → Stage} {members : List α} {stage : Stage}
    {rest : List Stage} (h : stage :: rest = members.map make) :
    ∃ a more, members = a :: more ∧ stage = make a ∧ rest = more.map make := by
  obtain ⟨a, more, hmembers, ha, hmore⟩ := List.map_eq_cons_iff.mp h.symm
  exact ⟨a, more, hmembers, ha.symm, hmore.symm⟩

theorem MergesAll.exists_selects {args : List Filter} {rest : List Stage} {merged : Stage}
    (h : MergesAll (.select (.and args) :: rest) merged) :
    ∃ fs : List Filter, rest = fs.map .select ∧
      merged = .select (.and (args ++ fs.flatMap Filter.conjuncts)) := by
  generalize hrun : Stage.select (.and args) :: rest = run at h
  cases h with
  | one stage =>
    cases hrun
    exact ⟨[], rfl, by rw [List.flatMap_nil, List.append_nil]⟩
  | select _ =>
    obtain ⟨f, fs, rfl, hf, hrest⟩ := exists_eq_map_cons hrun
    cases hf
    exact ⟨fs, hrest, rfl⟩
  | skip _ _ =>
    obtain ⟨_, _, _, hskip, -⟩ := exists_eq_map_cons hrun
    cases hskip
  | limit _ _ _ =>
    obtain ⟨_, _, _, hlimit, -⟩ := exists_eq_map_cons hrun
    cases hlimit

theorem MergesAll.exists_skips {a : Int64} {rest : List Stage} {merged : Stage}
    (h : MergesAll (.skip a :: rest) merged) :
    ∃ (ns : List Int64) (n : Int64), rest = ns.map .skip ∧ merged = .skip n ∧
      n.toInt = ((a :: ns).map (·.toInt)).sum := by
  generalize hrun : Stage.skip a :: rest = run at h
  cases h with
  | one stage =>
    cases hrun
    exact ⟨[], a, rfl, rfl, (Int.add_zero _).symm⟩
  | select _ =>
    obtain ⟨_, _, _, hselect, -⟩ := exists_eq_map_cons hrun
    cases hselect
  | @skip _ n _ hsum =>
    obtain ⟨_, ns, rfl, ha, hrest⟩ := exists_eq_map_cons hrun
    cases ha
    exact ⟨ns, n, hrest, rfl, hsum⟩
  | limit _ _ _ =>
    obtain ⟨_, _, _, hlimit, -⟩ := exists_eq_map_cons hrun
    cases hlimit

theorem MergesAll.exists_limits {a : Int64} {rest : List Stage} {merged : Stage}
    (h : MergesAll (.limit a :: rest) merged) :
    ∃ (ns : List Int64) (n : Int64), rest = ns.map .limit ∧ merged = .limit n ∧
      n ∈ a :: ns ∧ ∀ m ∈ a :: ns, n ≤ m := by
  generalize hrun : Stage.limit a :: rest = run at h
  cases h with
  | one stage =>
    cases hrun
    exact ⟨[], a, rfl, rfl, List.mem_singleton_self a,
      List.forall_mem_singleton.mpr (Int64.le_refl a)⟩
  | select _ =>
    obtain ⟨_, _, _, hselect, -⟩ := exists_eq_map_cons hrun
    cases hselect
  | skip _ _ =>
    obtain ⟨_, _, _, hskip, -⟩ := exists_eq_map_cons hrun
    cases hskip
  | @limit _ n _ hmem hle =>
    obtain ⟨_, ns, rfl, ha, hrest⟩ := exists_eq_map_cons hrun
    cases ha
    exact ⟨ns, n, hrest, rfl, hmem, hle⟩

/-- A run grows by what its first stage has been merged from. -/
theorem MergesAll.cons {rest : List Stage} {merged : Stage} (hboth : Merges first second both)
    (h : MergesAll (both :: rest) merged) : MergesAll (first :: second :: rest) merged := by
  cases hboth with
  | select f g =>
    obtain ⟨fs, rfl, rfl⟩ := h.exists_selects
    rw [List.append_assoc]
    exact @MergesAll.select (f :: g :: fs) (Nat.le_add_left 2 _)
  | @skip a b n hab =>
    obtain ⟨ns, m, rfl, rfl, hsum⟩ := h.exists_skips
    refine @MergesAll.skip (a :: b :: ns) m (Nat.le_add_left 2 _) ?_
    simp only [List.map_cons, List.sum_cons] at hsum ⊢
    omega
  | limit a b =>
    obtain ⟨ns, m, rfl, rfl, hmem, hle⟩ := h.exists_limits
    obtain ⟨hleast, hrest⟩ := List.forall_mem_cons.mp hle
    -- the smaller of the two numbers is one of them, and the other one is not below it
    have hmin : m ∈ a :: b :: ns ∧ m ≤ a ∧ m ≤ b := by
      split at hmem
      · next hab =>
        rw [if_pos hab] at hleast
        exact ⟨List.cons_subset_cons a (List.subset_cons_self b ns) hmem, hleast,
          Int64.le_trans hleast hab⟩
      · next hab =>
        rw [if_neg hab] at hleast
        have hba := (Int64.le_total a b).resolve_left hab
        exact ⟨List.mem_cons_of_mem a hmem, Int64.le_trans hleast hba, hleast⟩
    exact @MergesAll.limit (a :: b :: ns) m (Nat.le_add_left 2 _) hmin.1
      (List.forall_mem_cons.mpr ⟨hmin.2.1, List.forall_mem_cons.mpr ⟨hmin.2.2, hrest⟩⟩)

theorem MergesAll.ne_nil {run : List Stage} {merged : Stage} (h : MergesAll run merged) :
    run ≠ [] := by
  rintro rfl
  generalize hrun : [] = run at h
  cases h with
  | one stage => cases hrun
  | select hlength =>
    rw [List.eq_nil_of_map_eq_nil hrun.symm] at hlength
    cases hlength
  | skip hlength _ =>
    rw [List.eq_nil_of_map_eq_nil hrun.symm] at hlength
    cases hlength
  | limit hlength _ _ =>
    rw [List.eq_nil_of_map_eq_nil hrun.symm] at hlength
    cases hlength

/-- The stage is of a kind that is merged. -/
def isMerged : Stage → Bool
  | .select _ => true
  | .skip _ => true
  | .limit _ => true
  | _ => false

/-- A run of stages of other kinds is a single one, which stays. -/
theorem MergesAll.filter_not_isMerged {run : List Stage} {merged : Stage}
    (h : MergesAll run merged) :
    [merged].filter (!·.isMerged) = run.filter (!·.isMerged) := by
  have hnone {α : Type} {make : α → Stage} (hmake : ∀ a, (make a).isMerged = true)
      (members : List α) : (members.map make).filter (!·.isMerged) = [] :=
    List.filter_eq_nil_iff.mpr (List.forall_mem_map.mpr fun a _ => by rw [hmake]; nofun)
  cases h with
  | one stage => rfl
  | select _ => exact (hnone (fun _ => rfl) _).symm
  | skip _ _ => exact (hnone (fun _ => rfl) _).symm
  | limit _ _ _ => exact (hnone (fun _ => rfl) _).symm

end Stage

open Stage (MergesAll)

/-- Each stage that comes out is in the place of a run of stages. -/
theorem Coalesces.exists_runs {stages merged : List Stage} (h : Coalesces stages merged) :
    ∃ runs : List (List Stage), runs.flatten = stages ∧ List.Forall₂ MergesAll runs merged := by
  induction h with
  | nil => exact ⟨[], rfl, .nil⟩
  | apart stage _ ih =>
    obtain ⟨runs, rfl, hruns⟩ := ih
    exact ⟨[stage] :: runs, rfl, .cons (.one stage) hruns⟩
  | @merge first second both stages merged hboth _ ih =>
    obtain ⟨runs, hflatten, hruns⟩ := ih
    cases hruns with
    | nil => cases hflatten
    | @cons run _ runs _ hrun hruns =>
      -- the first run begins with the merged stage, in the place of which the two are put back
      obtain ⟨stage, rest, rfl⟩ := List.exists_cons_of_ne_nil hrun.ne_nil
      rw [List.flatten_cons, List.cons_append, List.cons.injEq] at hflatten
      obtain ⟨rfl, rfl⟩ := hflatten
      exact ⟨(first :: second :: rest) :: runs, rfl, .cons (hrun.cons hboth) hruns⟩

theorem filter_not_isMerged_of_runs {runs : List (List Stage)} {merged : List Stage}
    (h : List.Forall₂ MergesAll runs merged) :
    merged.filter (!·.isMerged) = runs.flatten.filter (!·.isMerged) := by
  induction h with
  | nil => rfl
  | @cons run stage runs merged hrun _ ih =>
    rw [List.flatten_cons, List.filter_append, ← hrun.filter_not_isMerged, ← ih,
      ← List.filter_append, List.singleton_append]

/-! ### Pipelines -/

namespace Pipeline

variable {p : Pipeline}

/-- Neighbours among the stages stand apart. -/
def IsCoalesced (p : Pipeline) : Prop :=
  p.stages.IsChain StandApart

theorem coalesce_eq_kept (h : p.IsCoalesced) : coalesce p = .ok .kept := by
  rw [coalesce, mergeAll_eq_of_isChain h, ok_bind, if_pos rfl]
  rfl

/-- **Coalescing leads to a coalesced pipeline in one pass.**  No two neighbours can be merged any
more, so another pass keeps the pipeline, and the first one does so exactly if no two of its
neighbours could.  Stages of other kinds stay in their order.  Each stage that comes out is in the
place of a run of stages, a single one that it is itself or several of its own kind. -/
theorem isCoalesced_coalesce (hp : ∀ stage ∈ p.stages, stage.mergeable = true) :
    ∃ r, coalesce p = .ok r ∧ (r.resolve p).IsCoalesced ∧
      coalesce (r.resolve p) = .ok .kept ∧ (r = .kept ↔ p.IsCoalesced) ∧
      (r.resolve p).stages.filter (!·.isMerged) = p.stages.filter (!·.isMerged) ∧
      ∃ runs : List (List Stage), runs.flatten = p.stages ∧
        List.Forall₂ MergesAll runs (r.resolve p).stages := by
  obtain ⟨r, hr, hmerged, hcoalesces⟩ := exists_coalesce hp
  have hcoalesced : (r.resolve p).IsCoalesced := isChain_mergeAll hp hmerged
  obtain ⟨runs, hflatten, hruns⟩ := hcoalesces.exists_runs
  refine ⟨r, hr, hcoalesced, coalesce_eq_kept hcoalesced, ⟨?_, fun h => ?_⟩, ?_, runs, hflatten,
    hruns⟩
  · rintro rfl
    exact hcoalesced
  · exact Except.ok.inj (hr.symm.trans (coalesce_eq_kept h))
  · rw [filter_not_isMerged_of_runs hruns, hflatten]

/-- Three selections, of which the second one is a conjunction, become one; of three numbers to
leave out the last two are added, since the sum of the first two does not fit; and a bound behind
another stage is not merged with those before it. -/
theorem isCoalesced_coalesce_runs :
    let f : Filter := .field (.path "a") (.compare .gt (.int 1))
    let g : Filter := .field (.path "b") (.exists true)
    let p : Pipeline := ⟨[.select f, .select (.and [g, f]), .select g, .skip Int64.maxValue,
      .skip 1, .skip 2, .limit 7, .limit 5, .count "n", .limit 9]⟩
    let q : Pipeline := ⟨[.select (.and [f, g, f, g]), .skip Int64.maxValue, .skip 3, .limit 5,
      .count "n", .limit 9]⟩
    (∀ stage ∈ p.stages, stage.mergeable = true) ∧ coalesce p = .ok (.changed q) ∧
      q.IsCoalesced ∧ coalesce q = .ok .kept ∧ ¬ p.IsCoalesced := by
  intro f g p q
  have hp : ∀ stage ∈ p.stages, stage.mergeable = true := by decide +kernel
  obtain ⟨r, hr, hcoalesced, hkept, hiff, -⟩ := isCoalesced_coalesce hp
  obtain rfl : .changed q = r := Except.ok.inj hr
  exact ⟨hp, hr, hcoalesced, hkept, fun h => nomatch hiff.mpr h⟩

end Pipeline

end DocQuery
