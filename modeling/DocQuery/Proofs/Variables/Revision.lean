import DocQuery.Proofs.Revision.WellFormed
import DocQuery.Proofs.Variables.Lowering

/-!
# The passes keep variables bound

A step of simplification takes nodes apart and puts parts of them together, and never moves a part
out of the condition or the body that it is in.  So a scoped tree is scoped after each step, and
therefore after all of them.  Merged stages compute what the two stages did.

## Main results

* `Expression.congruent_scoped`, `Filter.congruent_scoped` — a simplified tree is scoped.
* `Pipeline.Scoped.simplify` — so is a simplified pipeline.
* `Pipeline.Scoped.coalesce` — and one whose neighbouring stages have been merged.
-/

namespace DocQuery

/-! ### Expressions -/

namespace Expression

variable {names : List String}

theorem Scoped.step {old new : Expression} (hold : old.Scoped names) (h : Steps old new) :
    new.Scoped names := by
  cases h with
  | same => exact hold
  | computed => exact .constant _
  | @flattened function args =>
    cases hold with
    | variadic _ hargs =>
      refine .variadic function (forall_mem_spread_of_forall_mem (fun e es he hes => ?_) hargs)
      -- arguments that are taken out of an argument are in the same place
      rw [argsOf?_eq_some_iff.mp hes] at he
      cases he with
      | variadic _ hes => exact hes
  | subtracted => exact .constant _

/-- An expression is scoped where its parts are, with the name that it binds. -/
theorem congruent_scoped :
    Congruent fun new old => ∀ names, old.Scoped names → new.Scoped names where
  step h _ hold := hold.step h
  trans ha hb names hc := ha names (hb names hc)
  unary h names hold := by
    cases hold with
    | unary _ harg => exact .unary _ (h names harg)
  binary hleft hright names hold := by
    cases hold with
    | binary _ hl hr => exact .binary _ (hleft names hl) (hright names hr)
  variadic h names hold := by
    cases hold with
    | variadic _ hargs =>
      exact .variadic _ (forall_mem_of_forall₂_of_forall_mem h hargs fun _ _ he => he names)
  document h names hold := by
    cases hold with
    | document hfields =>
      exact .document (forall_mem_of_forall₂_of_forall_mem h hfields fun _ _ he => he.2 names)
  array h names hold := by
    cases hold with
    | array hitems =>
      exact .array (forall_mem_of_forall₂_of_forall_mem h hitems fun _ _ he => he names)
  getField h names hold := by
    cases hold with
    | getField _ hinput => exact .getField _ (h names hinput)
  -- the new condition is in the scope of the same name as the old one
  filter hinput hcondition names hold := by
    cases hold with
    | filter hi hc => exact .filter (hinput names hi) (hcondition _ hc)
  map hinput hbody names hold := by
    cases hold with
    | map hi hb => exact .map (hinput names hi) (hbody _ hb)

end Expression

/-! ### Filters and operations -/

/-- The opposite of an operation computes nothing. -/
theorem Operation.scoped_of_opposite? {operation opposite : Operation}
    (h : operation.opposite? = some opposite) : opposite.Scoped := by
  obtain ⟨_, _, rfl⟩ | ⟨_, rfl⟩ | ⟨_, rfl⟩ := opposite?_cases h
  all_goals exact Operation.scoped_plain nofun nofun

theorem Operation.Scoped.step {old new : Operation} (hold : old.Scoped) (h : Steps old new) :
    new.Scoped := by
  cases h with
  | same => exact hold
  | twiceNegated => exact hold
  | opposite hopposite => exact scoped_of_opposite? hopposite

namespace Filter

/-- A step makes a filter of the same parts. -/
theorem Scoped.step {old new : Filter} (hold : old.Scoped) (h : Steps old new) : new.Scoped := by
  cases h with
  | same => exact hold
  | singleConjunct => exact (scoped_and _).mp hold _ List.mem_cons_self
  | conjuncts args =>
    have hargs := (scoped_and args).mp hold
    refine (scoped_and _).mpr (forall_mem_spread_of_forall_mem (fun f fs hf hfs => ?_) hargs)
    rw [conjuncts?_eq_some_iff.mp hfs] at hf
    exact (scoped_and fs).mp hf
  | singleDisjunct => exact (scoped_or _).mp hold _ List.mem_cons_self
  | disjuncts args =>
    have hargs := (scoped_or args).mp hold
    refine (scoped_or _).mpr (forall_mem_spread_of_forall_mem (fun f fs hf hfs => ?_) hargs)
    rw [disjuncts?_eq_some_iff.mp hfs] at hf
    exact (scoped_or fs).mp hf
  | twiceNegated => exact hold
  | notOr args => exact (scoped_nor args).mpr ((scoped_or args).mp hold)
  | notNor args => exact (scoped_or args).mpr ((scoped_nor args).mp hold)
  | negatedTest => exact hold
  | opposite target hopposite => exact Operation.scoped_of_opposite? hopposite

/-- A filter is scoped if its parts are. -/
theorem congruent_scoped :
    Congruent (fun new old => old.Scoped → new.Scoped) (fun new old => old.Scoped → new.Scoped)
      fun new old => ∀ names, old.Scoped names → new.Scoped names where
  computes := Expression.congruent_scoped
  step h hold := hold.step h
  trans ha hb hc := ha (hb hc)
  field h := h
  and {news olds} h hold := by
    have holds := (scoped_and olds).mp hold
    exact (scoped_and news).mpr (forall_mem_of_forall₂_of_forall_mem h holds fun _ _ hf => hf)
  or {news olds} h hold := by
    have holds := (scoped_or olds).mp hold
    exact (scoped_or news).mpr (forall_mem_of_forall₂_of_forall_mem h holds fun _ _ hf => hf)
  nor {news olds} h hold := by
    have holds := (scoped_nor olds).mp hold
    exact (scoped_nor news).mpr (forall_mem_of_forall₂_of_forall_mem h holds fun _ _ hf => hf)
  not h := h
  expr {new old} h hold := (scoped_expr new).mpr (h _ ((scoped_expr old).mp hold))
  stepTested h hold := hold.step h
  transTested ha hb hc := ha (hb hc)
  elemMatch h := h
  negation h := h

theorem scoped_conjuncts {f : Filter} (h : f.Scoped) : ∀ g ∈ f.conjuncts, g.Scoped := by
  cases f with
  | and args => exact (scoped_and args).mp h
  | _ => exact List.forall_mem_singleton.mpr h

end Filter

/-! ### Stages and pipelines -/

/-- A stage is scoped if one is whose parts are scoped only if its own are. -/
theorem Stage.Scoped.of_related {new old : Stage} (hold : old.Scoped)
    (h : Related (fun new old => old.Scoped → new.Scoped)
      (fun new old => ∀ names, old.Scoped names → new.Scoped names) new old) : new.Scoped := by
  cases h with
  | plain => exact hold
  | select hf => exact hf hold
  | project hentries =>
    refine (scoped_project _).mpr (forall_mem_of_forall₂_of_forall_mem hentries
      ((scoped_project _).mp hold) fun old new hentry hscoped => ?_)
    cases hentry with
    | compute hvalue =>
      exact (Projection.scoped_compute _ _).mpr (hvalue _ ((Projection.scoped_compute _ _).mp hscoped))
    | _ => exact hscoped
  | replaceRoot he => exact (scoped_replaceRoot _).mpr (he _ ((scoped_replaceRoot _).mp hold))
  | addFields hfields =>
    exact (scoped_addFields _).mpr (forall_mem_of_forall₂_of_forall_mem hfields
      ((scoped_addFields _).mp hold) fun _ _ hfield => hfield.2 _)
  | group hkey haccumulators =>
    obtain ⟨holdKey, holds⟩ := (scoped_group _ _).mp hold
    exact (scoped_group _ _).mpr ⟨hkey _ holdKey,
      forall_mem_of_forall₂_of_forall_mem haccumulators holds fun _ _ ha => ha.2.2 _⟩

/-- Two stages as one compute what both compute. -/
theorem Stage.Merges.scoped {first second merged : Stage} (h : Merges first second merged)
    (hfirst : first.Scoped) (hsecond : second.Scoped) : merged.Scoped := by
  cases h with
  | select f g =>
    exact (Filter.scoped_and _).mpr (List.forall_mem_append.mpr
      ⟨Filter.scoped_conjuncts hfirst, Filter.scoped_conjuncts hsecond⟩)
  | skip => exact scoped_of_expressions_eq_nil rfl
  | limit => exact scoped_of_expressions_eq_nil rfl

namespace Pipeline

variable {p : Pipeline}

/-- What comes out when a scoped pipeline is simplified is scoped, and well formed as it was. -/
theorem Scoped.simplify (h : p.Scoped) (hw : p.wellFormed = true) :
    Gives (DocQuery.simplify p) fun r =>
      (r.resolve p).Scoped ∧ (r.resolve p).wellFormed = true := by
  obtain ⟨r, hr, hwf, hrelated⟩ := simplify_eq_ok Filter.congruent_scoped hw
  rw [hr]
  refine .ok ⟨(scoped_iff _).mpr ?_, hwf⟩
  exact forall_mem_of_forall₂_of_forall_mem hrelated ((scoped_iff p).mp h)
    fun _ _ hstage hold => hold.of_related hstage

/-- What comes out when the stages of a scoped pipeline are merged is scoped. -/
theorem Scoped.coalesce (h : p.Scoped) (hw : p.wellFormed = true) :
    Gives (DocQuery.coalesce p) fun r => (r.resolve p).Scoped := by
  obtain ⟨r, hr, hcoalesces⟩ := coalesce_eq_ok (mergeable_of_wellFormed hw)
  rw [hr]
  exact .ok ((scoped_iff _).mpr (hcoalesces.forall_mem Stage.Merges.scoped ((scoped_iff p).mp h)))

end Pipeline

end DocQuery
