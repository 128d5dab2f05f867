import DocQuery.Proofs.Pipeline.ReadSet
import DocQuery.Proofs.Revision.WellFormed

/-!
# The read set of a revised pipeline

What a pipeline reads does not change when its stages are merged, and it changes under
simplification in one place only.  The elements of an array are read below the path of the array
where they are tested there, but not where the test is negated.  A double negation that is left out
so brings the paths that are read inside it below that of the array.

## Main definitions

* `Node.negatesMatch` — the tests of a path that negate a test of array elements.

## Main results

* `Expression.congruent_reads`, `Filter.congruent_keepsReads` — simplification keeps what is read,
  path by path.
* `Stage.Merges.reads` — so does merging.
* `Pipeline.readSet_revised` — **coalescing keeps the read set of a pipeline, and so does
  simplification where no test of array elements is negated.**
-/

namespace DocQuery

/-- The operation negates a test of array elements, once or more often. -/
def Operation.negatesMatch : Operation → Bool
  | .not operation => operation.isMatch || operation.negatesMatch
  | _ => false

/-- The filter applies such an operation to what is at a path. -/
def Node.negatesMatch : Node → Bool
  | .filter (.field (.path _) test) => test.negatesMatch
  | _ => false

/-! ### Expressions -/

/-- Spread operands read what the operands do. -/
theorem flatMap_spread {α β : Type} {operands? : α → Option (List α)} {f : α → List β}
    (h : ∀ a as, operands? a = some as → as.flatMap f = f a) (args : List α) :
    (spread operands? args).flatMap f = args.flatMap f := by
  rw [spread, List.flatMap_assoc]
  refine List.flatMap_congr fun a _ => ?_
  cases hoperands : operands? a with
  | none => rw [Option.getD_none, List.flatMap_singleton]
  | some as => rw [Option.getD_some, h a as hoperands]

theorem flatMap_congr_of_forall₂ {α β γ : Type} {f : α → List γ} {g : β → List γ} {l : List α}
    {l' : List β} (h : List.Forall₂ (fun a b => f a = g b) l l') : l.flatMap f = l'.flatMap g := by
  rw [List.flatMap_def, List.flatMap_def, map_congr_of_forall₂ h]

namespace Expression

variable {old new : Expression}

/-- Spread arguments read what the arguments do. -/
theorem reads_spread (function : VariadicFunction) (args : List Expression)
    (above : Option String) :
    (spread (argsOf? function) args).flatMap (·.reads above) = args.flatMap (·.reads above) := by
  refine flatMap_spread (fun e es hes => ?_) args
  rw [argsOf?_eq_some_iff.mp hes, reads, readsOfAll_eq]

/-- Sums of integers read nothing. -/
theorem reads_of_foldIntegers? {f : Int → Int → Int} {start n : Int64} {args : List Expression}
    (h : foldIntegers? f start args = some n) (above : Option String) :
    args.flatMap (·.reads above) = [] := by
  induction args generalizing start with
  | nil => rfl
  | cons e es ih =>
    rw [foldIntegers?, List.foldlM_cons] at h
    obtain ⟨total, htotal, hrest⟩ := Option.bind_eq_some_iff.mp h
    obtain ⟨k, hk, -⟩ := Option.bind_eq_some_iff.mp htotal
    rw [List.flatMap_cons, ih hrest, integer?_eq_some_iff.mp hk, reads, List.append_nil]

theorem reads_of_constant? {function : VariadicFunction} {n : Int64} {args : List Expression}
    (h : function.constant? args = some n) (above : Option String) :
    args.flatMap (·.reads above) = [] := by
  cases function with
  | add => exact reads_of_foldIntegers? h above
  | multiply => exact reads_of_foldIntegers? h above
  | _ => cases h

/-- A step keeps what an expression reads. -/
theorem Steps.reads (h : Steps old new) (above : Option String) :
    new.reads above = old.reads above := by
  cases h with
  | same => rfl
  | @computed function args n hconstant =>
    rw [Expression.reads, Expression.reads, readsOfAll_eq, ← reads_spread function,
      reads_of_constant? hconstant]
  | flattened args =>
    rw [Expression.reads, Expression.reads, readsOfAll_eq, readsOfAll_eq, reads_spread]
  | subtracted hleft hright =>
    rw [integer?_eq_some_iff.mp hleft, integer?_eq_some_iff.mp hright]
    rfl

theorem readsOfFields_congr {news olds : List (String × Expression)} {above : Option String}
    (h : List.Forall₂ (fun old new => new.2.reads above = old.2.reads above) olds news) :
    readsOfFields above news = readsOfFields above olds := by
  rw [readsOfFields_eq, readsOfFields_eq, flatMap_congr_of_forall₂ h.flip]

/-- Expressions read what their parts do, in the order of the parts. -/
theorem congruent_reads : Congruent fun new old => ∀ above, new.reads above = old.reads above where
  step := Steps.reads
  trans ha hb above := (ha above).trans (hb above)
  unary h := h
  binary hleft hright above := by rw [reads, reads, hleft, hright]
  variadic h above := by
    rw [reads, reads, readsOfAll_eq, readsOfAll_eq,
      flatMap_congr_of_forall₂ (h.flip.imp fun _ _ he => he above)]
  document h above := by
    rw [reads, reads, readsOfFields_congr (h.imp fun _ _ hfield => hfield.2 above)]
  array h above := by
    rw [reads, reads, readsOfAll_eq, readsOfAll_eq,
      flatMap_congr_of_forall₂ (h.flip.imp fun _ _ he => he above)]
  getField h := h
  filter hinput hcondition above := by rw [reads, reads, hinput, hcondition]
  map hinput hbody above := by rw [reads, reads, hinput, hbody]

end Expression

/-! ### Filters and operations -/

/-- Among the nodes there is no test of a path that negates a test of array elements. -/
def NegatesNoMatch (nodes : List Node) : Prop :=
  ∀ node ∈ nodes, node.negatesMatch = false

theorem negatesNoMatch_cons {node : Node} {nodes : List Node} :
    NegatesNoMatch (node :: nodes) ↔ node.negatesMatch = false ∧ NegatesNoMatch nodes :=
  List.forall_mem_cons

/-- An expression has no filters inside. -/
theorem Expression.negatesNoMatch (e : Expression) : NegatesNoMatch e.nodes := by
  induction e using Expression.induction with
  | constant value => exact List.forall_mem_singleton.mpr rfl
  | field scope path => exact List.forall_mem_singleton.mpr rfl
  | var name => exact List.forall_mem_singleton.mpr rfl
  | unary function arg ih => exact negatesNoMatch_cons.mpr ⟨rfl, ih⟩
  | binary function left right ihl ihr =>
    exact negatesNoMatch_cons.mpr ⟨rfl, List.forall_mem_append.mpr ⟨ihl, ihr⟩⟩
  | variadic function args ih => exact negatesNoMatch_cons.mpr ⟨rfl, forall_mem_nodesOfAll.mpr ih⟩
  | document fields ih => exact negatesNoMatch_cons.mpr ⟨rfl, forall_mem_nodesOfFields.mpr ih⟩
  | array items ih => exact negatesNoMatch_cons.mpr ⟨rfl, forall_mem_nodesOfAll.mpr ih⟩
  | getField name input ih => exact negatesNoMatch_cons.mpr ⟨rfl, ih⟩
  | filter input name condition ihi ihc =>
    exact negatesNoMatch_cons.mpr ⟨rfl, List.forall_mem_append.mpr ⟨ihi, ihc⟩⟩
  | map input name body ihi ihb =>
    exact negatesNoMatch_cons.mpr ⟨rfl, List.forall_mem_append.mpr ⟨ihi, ihb⟩⟩

namespace Operation

/-- The new operation reads what the old one does and negates a test of array elements only if the
old one does, also at a path. -/
structure KeepsReads (new old : Operation) : Prop where
  reads : NegatesNoMatch old.nodes →
    NegatesNoMatch new.nodes ∧ ∀ above, new.reads above = old.reads above
  isMatch : old.negatesMatch = false → new.negatesMatch = false ∧ new.isMatch = old.isMatch

theorem KeepsReads.trans {a b c : Operation} (ha : a.KeepsReads b) (hb : b.KeepsReads c) :
    a.KeepsReads c where
  reads hc := by
    obtain ⟨hb, hbc⟩ := hb.reads hc
    obtain ⟨ha, hab⟩ := ha.reads hb
    exact ⟨ha, fun above => (hab above).trans (hbc above)⟩
  isMatch hc := by
    obtain ⟨hb, hbc⟩ := hb.isMatch hc
    obtain ⟨ha, hab⟩ := ha.isMatch hb
    exact ⟨ha, hab.trans hbc⟩

theorem negatesMatch_not {operation : Operation} :
    (Operation.not operation).negatesMatch = false
      ↔ operation.isMatch = false ∧ operation.negatesMatch = false := by
  rw [negatesMatch, Bool.or_eq_false_iff]

theorem negatesNoMatch_not {operation : Operation} :
    NegatesNoMatch (Operation.not operation).nodes ↔ NegatesNoMatch operation.nodes := by
  rw [nodes, negatesNoMatch_cons]
  exact and_iff_right rfl

theorem negatesNoMatch_elemMatch {f : Filter} :
    NegatesNoMatch (elemMatch f).nodes ↔ NegatesNoMatch f.nodes := by
  rw [nodes, negatesNoMatch_cons]
  exact and_iff_right rfl

/-- The opposite of an operation reads no more than the operation, which is nothing. -/
theorem keepsReads_opposite {operation opposite : Operation}
    (h : operation.opposite? = some opposite) : opposite.KeepsReads operation := by
  have hopposite : NegatesNoMatch opposite.nodes ∧ (∀ above, opposite.reads above = []) ∧
      opposite.negatesMatch = false ∧ opposite.isMatch = false := by
    obtain ⟨_, _, rfl⟩ | ⟨_, rfl⟩ | ⟨_, rfl⟩ := opposite?_cases h
    all_goals exact ⟨List.forall_mem_singleton.mpr rfl, fun _ => rfl, rfl, rfl⟩
  have hoperation : (∀ above, operation.reads above = []) ∧ operation.isMatch = false := by
    cases operation with
    | compare comparison value => exact ⟨fun _ => rfl, rfl⟩
    | isIn values => exact ⟨fun _ => rfl, rfl⟩
    | notIn values => exact ⟨fun _ => rfl, rfl⟩
    | _ => cases h
  obtain ⟨hnodes, hreads, hnegates, hmatch⟩ := hopposite
  exact ⟨fun _ => ⟨hnodes, fun above => by rw [hreads, hoperation.1]⟩,
    fun _ => ⟨hnegates, hmatch.trans hoperation.2.symm⟩⟩

theorem Steps.keepsReads {old new : Operation} (h : Steps old new) : new.KeepsReads old := by
  cases h with
  | same => exact ⟨fun h => ⟨h, fun _ => rfl⟩, fun h => ⟨h, rfl⟩⟩
  | twiceNegated operation =>
    refine ⟨fun h => ⟨?_, fun _ => rfl⟩, fun h => ?_⟩
    · exact negatesNoMatch_not.mp (negatesNoMatch_not.mp h)
    · obtain ⟨hmatch, hnegates⟩ := negatesMatch_not.mp (negatesMatch_not.mp h).2
      exact ⟨hnegates, hmatch⟩
  | @opposite operation _ hopposite =>
    have hkeeps := keepsReads_opposite hopposite
    refine ⟨fun h => hkeeps.reads (negatesNoMatch_not.mp h), fun h => ?_⟩
    obtain ⟨hmatch, hnegates⟩ := negatesMatch_not.mp h
    obtain ⟨hnew, hsame⟩ := hkeeps.isMatch hnegates
    exact ⟨hnew, hsame.trans hmatch⟩

theorem KeepsReads.not {new old : Operation} (h : new.KeepsReads old) :
    (Operation.not new).KeepsReads (.not old) where
  reads hold := by
    obtain ⟨hnew, hreads⟩ := h.reads (negatesNoMatch_not.mp hold)
    exact ⟨negatesNoMatch_not.mpr hnew, hreads⟩
  isMatch hold := by
    obtain ⟨hmatch, hnegates⟩ := negatesMatch_not.mp hold
    obtain ⟨hnew, hsame⟩ := h.isMatch hnegates
    exact ⟨negatesMatch_not.mpr ⟨hsame.trans hmatch, hnew⟩, rfl⟩

end Operation

namespace Filter

/-- The new filter reads what the old one does, and no more tests of array elements are negated. -/
def KeepsReads (new old : Filter) : Prop :=
  NegatesNoMatch old.nodes →
    NegatesNoMatch new.nodes ∧ ∀ above, new.reads above = old.reads above

variable {args : List Filter}

theorem negatesNoMatch_element {operation : Operation} :
    NegatesNoMatch (Filter.field .element operation).nodes ↔ NegatesNoMatch operation.nodes := by
  rw [nodes, negatesNoMatch_cons]
  exact and_iff_right rfl

theorem negatesNoMatch_path {path : String} {operation : Operation} :
    NegatesNoMatch (Filter.field (.path path) operation).nodes
      ↔ operation.negatesMatch = false ∧ NegatesNoMatch operation.nodes := by
  rw [nodes, negatesNoMatch_cons]
  rfl

theorem negatesNoMatch_and :
    NegatesNoMatch (and args).nodes ↔ ∀ f ∈ args, NegatesNoMatch f.nodes := by
  rw [nodes, negatesNoMatch_cons]
  exact (and_iff_right rfl).trans forall_mem_nodesOfAll

theorem negatesNoMatch_or :
    NegatesNoMatch (or args).nodes ↔ ∀ f ∈ args, NegatesNoMatch f.nodes := by
  rw [nodes, negatesNoMatch_cons]
  exact (and_iff_right rfl).trans forall_mem_nodesOfAll

theorem negatesNoMatch_nor :
    NegatesNoMatch (nor args).nodes ↔ ∀ f ∈ args, NegatesNoMatch f.nodes := by
  rw [nodes, negatesNoMatch_cons]
  exact (and_iff_right rfl).trans forall_mem_nodesOfAll

theorem negatesNoMatch_not {f : Filter} :
    NegatesNoMatch (Filter.not f).nodes ↔ NegatesNoMatch f.nodes := by
  rw [nodes, negatesNoMatch_cons]
  exact and_iff_right rfl

theorem negatesNoMatch_expr (e : Expression) : NegatesNoMatch (expr e).nodes :=
  negatesNoMatch_cons.mpr ⟨rfl, e.negatesNoMatch⟩

/-- The elements at hand are read where the test is, but those at a path below it if they are tested
one by one, which they are in both filters or in neither. -/
theorem keepsReads_field {target : Target} {new old : Operation} (h : new.KeepsReads old) :
    (Filter.field target new).KeepsReads (.field target old) := by
  intro hold
  cases target with
  | element =>
    obtain ⟨hnew, hreads⟩ := h.reads (negatesNoMatch_element.mp hold)
    refine ⟨negatesNoMatch_element.mpr hnew, fun above => ?_⟩
    rw [Filter.reads, Filter.reads, hreads]
  | path path =>
    obtain ⟨hnegates, hnodes⟩ := negatesNoMatch_path.mp hold
    obtain ⟨hnew, hreads⟩ := h.reads hnodes
    -- both operations are tests of array elements or neither is, so both read at the same place
    obtain ⟨hnewNegates, hsame⟩ := h.isMatch hnegates
    refine ⟨negatesNoMatch_path.mpr ⟨hnewNegates, hnew⟩, fun above => ?_⟩
    rw [reads_field_path, reads_field_path, hsame, hreads]

/-- A negated operation at a path reads what the operation does there, unless it tests elements. -/
theorem keepsReads_negatedTest {target : Target} {operation : Operation} :
    (Filter.field target operation).KeepsReads (.not (.field target (.not operation))) := by
  intro hold
  have hfield := negatesNoMatch_not.mp hold
  cases target with
  | element =>
    have hnodes := Operation.negatesNoMatch_not.mp (negatesNoMatch_element.mp hfield)
    exact ⟨negatesNoMatch_element.mpr hnodes, fun _ => rfl⟩
  | path path =>
    -- the operation is no test of array elements, so what it reads is not below the path
    obtain ⟨hnegates, hnodes⟩ := negatesNoMatch_path.mp hfield
    obtain ⟨hmatch, hnegates⟩ := Operation.negatesMatch_not.mp hnegates
    refine ⟨negatesNoMatch_path.mpr ⟨hnegates, Operation.negatesNoMatch_not.mp hnodes⟩,
      fun above => ?_⟩
    rw [show (Filter.not (.field (.path path) (.not operation))).reads above
        = (Filter.field (.path path) (.not operation)).reads above from rfl,
      reads_field_path, reads_field_path, hmatch]
    rfl

section Combinations

variable {make : List Filter → Filter}
  (hreads : ∀ args above, (make args).reads above = args.flatMap (·.reads above))
  (hnodes : ∀ {args}, NegatesNoMatch (make args).nodes ↔ ∀ f ∈ args, NegatesNoMatch f.nodes)

include hreads hnodes

private theorem keepsReads_single (f : Filter) : f.KeepsReads (make [f]) := by
  intro hold
  refine ⟨hnodes.mp hold f List.mem_cons_self, fun above => ?_⟩
  rw [hreads, List.flatMap_singleton]

/-- Spread operands read what the operands do. -/
private theorem keepsReads_spread {operands? : Filter → Option (List Filter)}
    (hoperands : ∀ f fs, operands? f = some fs → f = make fs) (args : List Filter) :
    (make (spread operands? args)).KeepsReads (make args) := by
  intro hold
  have hspread : ∀ f ∈ spread operands? args, NegatesNoMatch f.nodes := by
    refine forall_mem_spread_of_forall_mem (fun f fs hf hfs => ?_) (hnodes.mp hold)
    rw [hoperands f fs hfs] at hf
    exact hnodes.mp hf
  refine ⟨hnodes.mpr hspread, fun above => ?_⟩
  have hsame : (spread operands? args).flatMap (·.reads above) = args.flatMap (·.reads above) := by
    refine flatMap_spread (fun f fs hfs => ?_) args
    rw [hoperands f fs hfs, hreads]
  rw [hreads, hreads, hsame]

/-- Combined filters read what their operands do. -/
private theorem keepsReads_combination {news olds : List Filter}
    (h : List.Forall₂ (fun old new => new.KeepsReads old) olds news) :
    (make news).KeepsReads (make olds) := by
  intro hold
  have hall : List.Forall₂ (fun old new => NegatesNoMatch new.nodes ∧
      ∀ above, new.reads above = old.reads above) olds news := by
    have holds := hnodes.mp hold
    clear hold
    induction h with
    | nil => exact .nil
    | cons hnew _ ih =>
      obtain ⟨hfirst, hrest⟩ := List.forall_mem_cons.mp holds
      exact .cons (hnew hfirst) (ih hrest)
  refine ⟨hnodes.mpr (forall_mem_of_forall₂ hall fun _ _ hf => hf.1), fun above => ?_⟩
  rw [hreads, hreads, flatMap_congr_of_forall₂ (hall.flip.imp fun _ _ hf => hf.2 above)]

end Combinations

theorem Steps.keepsReads {old new : Filter} (h : Steps old new) : new.KeepsReads old := by
  cases h with
  | same => exact fun hold => ⟨hold, fun _ => rfl⟩
  | singleConjunct => exact keepsReads_single reads_and negatesNoMatch_and _
  | conjuncts args =>
    exact keepsReads_spread reads_and negatesNoMatch_and (fun _ _ => conjuncts?_eq_some_iff.mp) args
  | singleDisjunct => exact keepsReads_single reads_or negatesNoMatch_or _
  | disjuncts args =>
    exact keepsReads_spread reads_or negatesNoMatch_or (fun _ _ => disjuncts?_eq_some_iff.mp) args
  | twiceNegated f =>
    intro hold
    exact ⟨negatesNoMatch_not.mp (negatesNoMatch_not.mp hold), fun _ => rfl⟩
  | notOr args =>
    intro hold
    have hargs := negatesNoMatch_or.mp (negatesNoMatch_not.mp hold)
    exact ⟨negatesNoMatch_nor.mpr hargs, fun _ => rfl⟩
  | notNor args =>
    intro hold
    have hargs := negatesNoMatch_nor.mp (negatesNoMatch_not.mp hold)
    exact ⟨negatesNoMatch_or.mpr hargs, fun _ => rfl⟩
  | negatedTest target operation => exact keepsReads_negatedTest
  | opposite target hopposite =>
    intro hold
    have hfield := negatesNoMatch_not.mp hold
    exact keepsReads_field (Operation.keepsReads_opposite hopposite) hfield

theorem congruent_keepsReads : Congruent KeepsReads Operation.KeepsReads fun new old =>
    ∀ above, new.reads above = old.reads above where
  computes := Expression.congruent_reads
  step := Steps.keepsReads
  trans ha hb hc := by
    obtain ⟨hb, hbc⟩ := hb hc
    obtain ⟨ha, hab⟩ := ha hb
    exact ⟨ha, fun above => (hab above).trans (hbc above)⟩
  field := keepsReads_field
  and := keepsReads_combination reads_and negatesNoMatch_and
  or := keepsReads_combination reads_or negatesNoMatch_or
  nor := keepsReads_combination reads_nor negatesNoMatch_nor
  not h hold := by
    obtain ⟨hnew, hreads⟩ := h (negatesNoMatch_not.mp hold)
    exact ⟨negatesNoMatch_not.mpr hnew, hreads⟩
  expr h _ := ⟨negatesNoMatch_expr _, h⟩
  stepTested := Operation.Steps.keepsReads
  transTested := Operation.KeepsReads.trans
  elemMatch h := by
    refine ⟨fun hold => ?_, fun _ => ⟨rfl, rfl⟩⟩
    obtain ⟨hnew, hreads⟩ := h (Operation.negatesNoMatch_elemMatch.mp hold)
    exact ⟨Operation.negatesNoMatch_elemMatch.mpr hnew, hreads⟩
  negation := Operation.KeepsReads.not

theorem reads_conjuncts (f : Filter) (above : Option String) :
    f.conjuncts.flatMap (·.reads above) = f.reads above := by
  cases f with
  | and args => exact (reads_and _ above).symm
  | _ => exact List.flatMap_singleton _ _

end Filter

/-! ### Stages and pipelines -/

/-- A stage reads what a stage with related parts does. -/
theorem Stage.Related.reads {new old : Stage}
    (h : Related Filter.KeepsReads (fun new old => ∀ above, new.reads above = old.reads above)
      new old) (hold : NegatesNoMatch old.nodes) : new.reads = old.reads := by
  cases h with
  | plain => rfl
  | select hf =>
    rw [nodes, negatesNoMatch_cons] at hold
    exact (hf hold.2).2 none
  | project hentries =>
    refine flatMap_congr_of_forall₂ (hentries.flip.imp fun new old hentry => ?_)
    cases hentry with
    | compute hvalue => exact hvalue none
    | _ => rfl
  | replaceRoot he => exact he none
  | addFields hfields =>
    exact Expression.readsOfFields_congr (hfields.imp fun _ _ hfield => hfield.2 none)
  | group hkey haccumulators =>
    rw [Stage.reads, Stage.reads, hkey]
    exact congrArg _
      (flatMap_congr_of_forall₂ (haccumulators.flip.imp fun _ _ ha => ha.2.2 none))

theorem flatMap_reads_of_related {news olds : List Stage}
    (h : List.Forall₂ (fun old new => Stage.Related Filter.KeepsReads
      (fun new old => ∀ above, new.reads above = old.reads above) new old) olds news)
    (holds : ∀ stage ∈ olds, NegatesNoMatch stage.nodes) :
    news.flatMap (·.reads) = olds.flatMap (·.reads) := by
  induction h with
  | nil => rfl
  | cons hstage _ ih =>
    obtain ⟨hfirst, hrest⟩ := List.forall_mem_cons.mp holds
    rw [List.flatMap_cons, List.flatMap_cons, hstage.reads hfirst, ih hrest]

/-- A stage that does the work of two reads what both read. -/
theorem Stage.Merges.reads {first second merged : Stage} (h : Merges first second merged) :
    merged.reads = first.reads ++ second.reads := by
  cases h with
  | select f g =>
    rw [Stage.reads, Stage.reads, Stage.reads, Filter.reads_and, List.flatMap_append,
      Filter.reads_conjuncts, Filter.reads_conjuncts]
  | skip => rfl
  | limit => rfl

theorem Coalesces.reads {stages merged : List Stage} (h : Coalesces stages merged) :
    merged.flatMap (·.reads) = stages.flatMap (·.reads) := by
  induction h with
  | nil => rfl
  | apart stage _ ih => rw [List.flatMap_cons, List.flatMap_cons, ih]
  | merge hboth _ ih =>
    rw [ih, List.flatMap_cons, List.flatMap_cons, List.flatMap_cons, hboth.reads,
      List.append_assoc]

/-- A well-formed pipeline is coalesced to one that reads the same paths.  It is also simplified to
one that does, if no test of a path in it negates a test of array elements. -/
theorem Pipeline.readSet_revised {p : Pipeline} (hw : p.wellFormed = true) :
    (∃ r, coalesce p = .ok r ∧ (r.resolve p).readSet = p.readSet) ∧
    ∃ r, simplify p = .ok r ∧
      ((∀ node ∈ p.nodes, node.negatesMatch = false) → (r.resolve p).readSet = p.readSet) := by
  constructor
  · obtain ⟨r, hr, hcoalesces⟩ := coalesce_eq_ok (mergeable_of_wellFormed hw)
    exact ⟨r, hr, by rw [readSet, readSet, hcoalesces.reads]⟩
  · obtain ⟨r, hr, -, hrelated⟩ := simplify_eq_ok Filter.congruent_keepsReads hw
    refine ⟨r, hr, fun hnodes => ?_⟩
    have hstages : ∀ stage ∈ p.stages, NegatesNoMatch stage.nodes :=
      fun stage hstage node hnode => hnodes node (List.mem_flatMap.mpr ⟨stage, hstage, hnode⟩)
    rw [readSet, readSet, flatMap_reads_of_related hrelated hstages]

/-- Tests of array elements inside one another, in a conjunction that is negated twice, and
selections and numbers that are merged. -/
theorem Pipeline.readSet_revised_nested :
    let f : Filter := .field (.path "b") (.not (.compare .eq (.int 1)))
    let g : Filter := .field (.path "a") (.elemMatch (.and [f, .field (.path "c") (.elemMatch f)]))
    let p : Pipeline := ⟨[.select (.not (.not (.and [g]))), .select f, .skip 1, .skip 2]⟩
    p.wellFormed = true ∧ (∀ node ∈ p.nodes, node.negatesMatch = false) ∧
      (∃ r, coalesce p = .ok r ∧ (r.resolve p).readSet = p.readSet) ∧
      ∃ r, simplify p = .ok r ∧ (r.resolve p).readSet = p.readSet := by
  intro f g p
  have hw : p.wellFormed = true := by decide +kernel
  have hnodes : ∀ node ∈ p.nodes, node.negatesMatch = false := by decide +kernel
  obtain ⟨hcoalesce, r, hr, hreads⟩ := readSet_revised hw
  exact ⟨hw, hnodes, hcoalesce, r, hr, hreads hnodes⟩

/-- A negated test of array elements in a negation: the path that it reads in the elements is brought
below that of the array when the negations are left out. -/
theorem Pipeline.readSet_simplify_ne :
    let p : Pipeline := ⟨[.select (.not (.field (.path "a")
      (.not (.elemMatch (.field (.path "b") (.compare .gt (.int 1)))))))]⟩
    p.wellFormed = true ∧ ∃ r, simplify p = .ok r ∧
      p.readSet = ["a", "b"] ∧ (r.resolve p).readSet = ["a", "a.b"] :=
  ⟨by decide +kernel, _, rfl, by decide +kernel, by decide +kernel⟩

end DocQuery
