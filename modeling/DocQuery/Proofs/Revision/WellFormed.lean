import DocQuery.Proofs.Lowering.WellFormed
import DocQuery.Proofs.Revision.Congruence
import DocQuery.Proofs.Revision.Merged

/-!
# Well-formed trees stay well formed

A pipeline is well formed when it has been lowered, and each pass that it goes through afterwards
yields a well-formed one.  Neither pass can fail: the checks that nodes go through when they are
built anew are passed by the parts of nodes that were well formed.

## Main results

* `Stage.Merges.wellFormed` — a merged stage is well formed.
* `wellFormed_lowered_and_revised` — **lowering yields well-formed trees, and both passes succeed on
  well-formed pipelines and keep them well formed.**
-/

namespace DocQuery

/-! ### Simplification -/

theorem Expression.congruent_true : Congruent fun _ _ => True where
  step _ := trivial
  trans _ _ := trivial
  unary _ := trivial
  binary _ _ := trivial
  variadic _ := trivial
  document _ := trivial
  array _ := trivial
  getField _ := trivial
  filter _ _ := trivial
  map _ _ := trivial

/-- Nothing has to be said of what a tree is simplified to. -/
theorem Filter.congruent_true :
    Congruent (fun _ _ => True) (fun _ _ => True) (fun _ _ => True) where
  computes := Expression.congruent_true
  step _ := trivial
  trans _ _ := trivial
  field _ := trivial
  and _ := trivial
  or _ := trivial
  nor _ := trivial
  not _ := trivial
  expr _ := trivial
  stepTested _ := trivial
  transTested _ _ := trivial
  elemMatch _ := trivial
  negation _ := trivial

/-! ### Coalescing -/

theorem Filter.wellFormed_conjuncts {f : Filter} (hw : f.wellFormed = true) :
    ∀ g ∈ f.conjuncts, g.wellFormed = true := by
  cases f with
  | and args => exact ((wellFormed_and args).mp hw).2
  | _ => exact List.forall_mem_singleton.mpr hw

/-- A stage that does the work of two well-formed stages is well formed. -/
theorem Stage.Merges.wellFormed {first second merged : Stage} (h : Merges first second merged)
    (hfirst : first.wellFormed = true) (hsecond : second.wellFormed = true) :
    merged.wellFormed = true := by
  have hmergeable := h.mergeable (mergeable_of_wellFormed hfirst) (mergeable_of_wellFormed hsecond)
  cases h with
  | select f g =>
    have hargs : ∀ h ∈ f.conjuncts ++ g.conjuncts, h.wellFormed = true :=
      List.forall_mem_append.mpr
        ⟨Filter.wellFormed_conjuncts hfirst, Filter.wellFormed_conjuncts hsecond⟩
    exact (Filter.wellFormed_and _).mpr ⟨(mergeable_select _).mp hmergeable, hargs⟩
  -- of a number of documents nothing but its range is checked
  | skip _ => exact hmergeable
  | limit _ _ => exact hmergeable

namespace Pipeline

variable {p : Pipeline}

theorem mergeable_of_wellFormed (hw : p.wellFormed = true) :
    ∀ stage ∈ p.stages, stage.mergeable = true :=
  fun stage hstage => Stage.mergeable_of_wellFormed ((wellFormed_iff p).mp hw stage hstage)

theorem wellFormed_simplify (hw : p.wellFormed = true) :
    ∃ r, simplify p = .ok r ∧ (r.resolve p).wellFormed = true := by
  obtain ⟨r, hr, hwf, -⟩ := simplify_eq_ok Filter.congruent_true hw
  exact ⟨r, hr, hwf⟩

theorem wellFormed_coalesce (hw : p.wellFormed = true) :
    ∃ r, coalesce p = .ok r ∧ (r.resolve p).wellFormed = true := by
  obtain ⟨r, hr, hcoalesces⟩ := coalesce_eq_ok (mergeable_of_wellFormed hw)
  have hstages := hcoalesces.forall_mem Stage.Merges.wellFormed ((wellFormed_iff p).mp hw)
  exact ⟨r, hr, (wellFormed_iff _).mpr hstages⟩

end Pipeline

/-! ### From a query to its last pass -/

/-- The pipeline of a query, the filter of a condition on a document and the expression of a value
are well formed if there is one.  A well-formed pipeline is simplified and coalesced without failure,
and both passes leave a well-formed one. -/
theorem wellFormed_lowered_and_revised (context : Context) :
    (∀ query p, lowerQuery context query = .ok p → p.wellFormed = true) ∧
    (∀ e f, lowerCondition context .document e = .ok f → f.wellFormed = true) ∧
    (∀ e x, lowerValue context false e = .ok x → x.wellFormed = true) ∧
    ∀ p : Pipeline, p.wellFormed = true →
      (∃ r, simplify p = .ok r ∧ (r.resolve p).wellFormed = true) ∧
      ∃ r, coalesce p = .ok r ∧ (r.resolve p).wellFormed = true :=
  ⟨wellFormed_lowerQuery context, wellFormed_lowerCondition context .document,
    wellFormed_lowerValue context false,
    fun _ hw => ⟨Pipeline.wellFormed_simplify hw, Pipeline.wellFormed_coalesce hw⟩⟩

/-- Two conditions on the elements of an array and two bounds, which are lowered, simplified and then
merged. -/
theorem wellFormed_lowered_and_revised_bounds :
    let name : Expr := .access .element (.key "name")
    let tags : Expr := .access .root (.key "tags")
    let query : Query := ⟨[
      .filter (.call tags "any" [.binary .equal name (.string "a")]),
      .filter (.unary .not (.unary .not (.call tags "any" [.binary .equal name (.param "p")]))),
      .limit 7, .limit 5]⟩
    let context := Context.empty.bind "p" (.int 1)
    ∃ p r s, lowerQuery context query = .ok p ∧ p.wellFormed = true ∧
      simplify p = .ok r ∧ (r.resolve p).wellFormed = true ∧
      coalesce (r.resolve p) = .ok s ∧ (s.resolve (r.resolve p)).wellFormed = true := by
  intro name tags query context
  obtain ⟨hquery, -, -, hpasses⟩ := wellFormed_lowered_and_revised context
  obtain ⟨p, hp⟩ : ∃ p, lowerQuery context query = .ok p := ⟨_, rfl⟩
  have hw := hquery query p hp
  obtain ⟨r, hr, hsimplified⟩ := (hpasses p hw).1
  obtain ⟨s, hs, hcoalesced⟩ := (hpasses _ hsimplified).2
  exact ⟨p, r, s, hp, hw, hr, hsimplified, hs, hcoalesced⟩

end DocQuery
