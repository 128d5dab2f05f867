import DocQuery.Pipeline.Nodes
import DocQuery.Proofs.Pipeline.Induction
import DocQuery.Proofs.Revision.Steps

/-!
# Relations that simplification keeps to

A tree is simplified by simplifying what is inside it and then taking one step at the top.  So a
relation between new and old trees holds between the simplified tree and the tree as soon as it
carries over from the parts to the whole and contains the steps.  Since steps do not fail on
well-formed trees, and keep them so, simplification as a whole does not fail.

## Main definitions

* `Expression.Congruent`, `Filter.Congruent` — relations that contain the steps and carry over from
  the parts to the whole.
* `Expression.SimplifiesTo`, `Filter.SimplifiesTo` — relations of what trees are simplified to.
* `Stage.Related` — stages with related parts.

## Main results

* `Expression.Congruent.simplified`, `Filter.Congruent.simplified` — a well-formed tree is simplified
  to a well-formed and related one.
* `Pipeline.simplify_eq_ok` — so is a pipeline, stage by stage.
-/

namespace DocQuery

open Revised

/-- A revision from what it is resolved to. -/
theorem exists_revised {α : Type} {old : α} {revised : Except ArgumentError (Revised α)}
    {p : α → Prop} (h : ∃ new, resolved old revised = .ok new ∧ p new) :
    ∃ s, revised = .ok s ∧ p (s.resolve old) := by
  obtain ⟨new, hnew, hp⟩ := h
  obtain ⟨s, hs, rfl⟩ := map_eq_ok_iff.mp hnew
  exact ⟨s, hs, hp⟩

/-! ### Expressions -/

namespace Expression

/-- The relation of new to old expressions contains the steps and carries over from the parts to the
whole. -/
structure Congruent (r : Expression → Expression → Prop) : Prop where
  step : ∀ {old new}, Steps old new → r new old
  trans : ∀ {a b c}, r a b → r b c → r a c
  unary : ∀ {function new old}, r new old → r (.unary function new) (.unary function old)
  binary : ∀ {function newLeft oldLeft newRight oldRight}, r newLeft oldLeft →
    r newRight oldRight → r (.binary function newLeft newRight) (.binary function oldLeft oldRight)
  variadic : ∀ {function news olds}, List.Forall₂ (fun old new => r new old) olds news →
    r (.variadic function news) (.variadic function olds)
  document : ∀ {news olds},
    List.Forall₂ (fun old new => new.1 = old.1 ∧ r new.2 old.2) olds news →
    r (.document news) (.document olds)
  array : ∀ {news olds}, List.Forall₂ (fun old new => r new old) olds news →
    r (.array news) (.array olds)
  getField : ∀ {name new old}, r new old → r (.getField name new) (.getField name old)
  filter : ∀ {name newInput oldInput newCondition oldCondition}, r newInput oldInput →
    r newCondition oldCondition →
    r (.filter newInput name newCondition) (.filter oldInput name oldCondition)
  map : ∀ {name newInput oldInput newBody oldBody}, r newInput oldInput → r newBody oldBody →
    r (.map newInput name newBody) (.map oldInput name oldBody)

variable {r : Expression → Expression → Prop}

theorem Congruent.refl (h : Congruent r) (e : Expression) : r e e :=
  h.step (.same e)

/-- Well-formed expressions are simplified to well-formed ones that are related to them. -/
def SimplifiesTo (r : Expression → Expression → Prop) : Prop :=
  ∀ e : Expression, e.wellFormed = true →
    ∃ new, e.simplified = .ok new ∧ new.wellFormed = true ∧ r new e

/-- A rebuilt node takes its step. -/
private theorem Congruent.stepped (h : Congruent r) {rebuilt old : Expression} (hr : r rebuilt old)
    (hw : rebuilt.wellFormed = true) :
    ∃ new, rebuilt.stepped = .ok new ∧ new.wellFormed = true ∧ r new old := by
  obtain ⟨new, hnew, hsteps⟩ := stepped_eq_ok hw
  exact ⟨new, hnew, hsteps.wellFormed hw, h.trans (h.step hsteps) hr⟩

/-- The operands of a rebuilt node. -/
private theorem exists_simplified {es : List Expression}
    (h : ∀ e ∈ es, ∃ new, e.simplified = .ok new ∧ new.wellFormed = true ∧ r new e) :
    ∃ news, es.mapM simplified = .ok news ∧ (∀ e ∈ news, e.wellFormed = true) ∧
      List.Forall₂ (fun old new => r new old) es news := by
  obtain ⟨news, hnews, hall⟩ := exists_mapM_eq_ok h
  exact ⟨news, hnews, forall_mem_of_forall₂ hall fun _ _ h => h.1, hall.imp fun _ _ h => h.2⟩

/-- A well-formed expression is simplified to a well-formed one that is related to it. -/
theorem Congruent.simplified (h : Congruent r) : SimplifiesTo r := by
  intro e
  induction e using Expression.induction with
  | constant value => exact fun hw => ⟨_, rfl, hw, h.refl _⟩
  | field scope path => exact fun hw => ⟨_, rfl, hw, h.refl _⟩
  | var name => exact fun hw => ⟨_, rfl, hw, h.refl _⟩
  | unary function arg ih =>
    intro hw
    obtain ⟨new, hnew, hnewWf, hr⟩ := ih hw
    rw [simplified_unary, hnew]
    exact h.stepped (h.unary hr) hnewWf
  | binary function left right ihl ihr =>
    intro hw
    rw [wellFormed, Bool.and_eq_true] at hw
    obtain ⟨a, ha, haWf, hleft⟩ := ihl hw.1
    obtain ⟨b, hb, hbWf, hright⟩ := ihr hw.2
    rw [simplified_binary, ha, hb]
    refine h.stepped (h.binary hleft hright) ?_
    rw [wellFormed, haWf, hbWf, Bool.and_self]
  | variadic function args ih =>
    intro hw
    obtain ⟨hne, hargs⟩ := (wellFormed_variadic function args).mp hw
    obtain ⟨news, hnews, hwf, hr⟩ := exists_simplified fun e he => ih e he (hargs e he)
    rw [simplified_variadic, hnews]
    refine h.stepped (h.variadic hr) ((wellFormed_variadic function news).mpr ⟨?_, hwf⟩)
    rintro rfl
    cases hr
    exact hne rfl
  | document fields ih =>
    intro hw
    obtain ⟨hnames, hfields⟩ := (wellFormed_document fields).mp hw
    have hrebuilt : ∀ field ∈ fields, ∃ new, (field.1, ·) <$> field.2.simplified = .ok new ∧
        new.2.wellFormed = true ∧ new.1 = field.1 ∧ r new.2 field.2 := by
      intro field hfield
      obtain ⟨new, hnew, hnewWf, hr⟩ := ih field hfield (hfields field hfield)
      exact ⟨(field.1, new), by rw [hnew, map_ok], hnewWf, rfl, hr⟩
    obtain ⟨news, hnews, hall⟩ := exists_mapM_eq_ok hrebuilt
    have hsame : fields.map (·.1) = news.map (·.1) :=
      map_congr_of_forall₂ (hall.imp fun _ _ hfield => hfield.2.1.symm)
    rw [simplified_document, hnews]
    exact h.stepped (h.document (hall.imp fun _ _ hfield => hfield.2))
      ((wellFormed_document news).mpr
        ⟨hsame ▸ hnames, forall_mem_of_forall₂ hall fun _ _ hfield => hfield.1⟩)
  | array items ih =>
    intro hw
    have hitems := (wellFormed_array items).mp hw
    obtain ⟨news, hnews, hwf, hr⟩ := exists_simplified fun e he => ih e he (hitems e he)
    rw [simplified_array, hnews]
    exact h.stepped (h.array hr) ((wellFormed_array news).mpr hwf)
  | getField name input ih =>
    intro hw
    obtain ⟨hname, hinput⟩ := (wellFormed_getField name input).mp hw
    obtain ⟨new, hnew, hnewWf, hr⟩ := ih hinput
    rw [simplified_getField, hnew]
    exact h.stepped (h.getField hr) ((wellFormed_getField name new).mpr ⟨hname, hnewWf⟩)
  | filter input name condition ihi ihc =>
    intro hw
    obtain ⟨hname, hinput, hcondition⟩ := (wellFormed_filter input name condition).mp hw
    obtain ⟨a, ha, haWf, hri⟩ := ihi hinput
    obtain ⟨b, hb, hbWf, hrc⟩ := ihc hcondition
    rw [simplified_filter, ha, hb]
    exact h.stepped (h.filter hri hrc) ((wellFormed_filter a name b).mpr ⟨hname, haWf, hbWf⟩)
  | map input name body ihi ihb =>
    intro hw
    obtain ⟨hname, hinput, hbody⟩ := (wellFormed_map input name body).mp hw
    obtain ⟨a, ha, haWf, hri⟩ := ihi hinput
    obtain ⟨b, hb, hbWf, hrb⟩ := ihb hbody
    rw [simplified_map, ha, hb]
    exact h.stepped (h.map hri hrb) ((wellFormed_map a name b).mpr ⟨hname, haWf, hbWf⟩)

end Expression

/-! ### Filters and operations -/

namespace Filter

/-- The relations of new to old filters, operations and expressions contain the steps and carry over
from the parts to the whole. -/
structure Congruent (r : Filter → Filter → Prop) (tested : Operation → Operation → Prop)
    (computed : Expression → Expression → Prop) : Prop where
  computes : Expression.Congruent computed
  step : ∀ {old new}, Steps old new → r new old
  trans : ∀ {a b c}, r a b → r b c → r a c
  field : ∀ {target new old}, tested new old → r (.field target new) (.field target old)
  and : ∀ {news olds}, List.Forall₂ (fun old new => r new old) olds news →
    r (.and news) (.and olds)
  or : ∀ {news olds}, List.Forall₂ (fun old new => r new old) olds news → r (.or news) (.or olds)
  nor : ∀ {news olds}, List.Forall₂ (fun old new => r new old) olds news →
    r (.nor news) (.nor olds)
  not : ∀ {new old}, r new old → r (.not new) (.not old)
  expr : ∀ {new old}, computed new old → r (.expr new) (.expr old)
  stepTested : ∀ {old new}, Operation.Steps old new → tested new old
  transTested : ∀ {a b c}, tested a b → tested b c → tested a c
  elemMatch : ∀ {new old}, r new old → tested (.elemMatch new) (.elemMatch old)
  negation : ∀ {new old}, tested new old → tested (.not new) (.not old)

variable {r : Filter → Filter → Prop} {tested : Operation → Operation → Prop}
  {computed : Expression → Expression → Prop}

theorem Congruent.refl (h : Congruent r tested computed) (f : Filter) : r f f :=
  h.step (.same f)

private theorem Congruent.stepped (h : Congruent r tested computed) {rebuilt old : Filter}
    (hr : r rebuilt old) (hw : rebuilt.wellFormed = true) :
    ∃ new, rebuilt.stepped = .ok new ∧ new.wellFormed = true ∧ r new old := by
  obtain ⟨new, hnew, hsteps⟩ := stepped_eq_ok hw
  exact ⟨new, hnew, hsteps.wellFormed hw, h.trans (h.step hsteps) hr⟩

private theorem Congruent.steppedTested (h : Congruent r tested computed)
    {rebuilt old : Operation} (hr : tested rebuilt old) (hw : rebuilt.wellFormed = true) :
    ∃ new, rebuilt.stepped = .ok new ∧ new.wellFormed = true ∧ tested new old := by
  obtain ⟨new, hnew, hsteps⟩ := Operation.stepped_eq_ok rebuilt
  exact ⟨new, hnew, hsteps.wellFormed hw, h.transTested (h.stepTested hsteps) hr⟩

/-- A combination is rebuilt from its simplified operands. -/
private theorem Congruent.combination (h : Congruent r tested computed)
    {make : List Filter → Filter}
    (hsimplified : ∀ args,
      (make args).simplified = (do Filter.stepped (make (← args.mapM Filter.simplified))))
    (hwf : ∀ args, (make args).wellFormed = true ↔ args ≠ [] ∧ ∀ f ∈ args, f.wellFormed = true)
    (hmake : ∀ {news olds}, List.Forall₂ (fun old new => r new old) olds news →
      r (make news) (make olds)) {args : List Filter}
    (ih : ∀ f ∈ args, f.wellFormed = true →
      ∃ new, f.simplified = .ok new ∧ new.wellFormed = true ∧ r new f)
    (hw : (make args).wellFormed = true) :
    ∃ new, (make args).simplified = .ok new ∧ new.wellFormed = true ∧ r new (make args) := by
  obtain ⟨hne, hargs⟩ := (hwf args).mp hw
  obtain ⟨news, hnews, hall⟩ := exists_mapM_eq_ok fun f hf => ih f hf (hargs f hf)
  rw [hsimplified, hnews]
  refine h.stepped (hmake (hall.imp fun _ _ hf => hf.2)) ((hwf news).mpr ⟨?_, ?_⟩)
  · rintro rfl
    cases hall
    exact hne rfl
  · exact forall_mem_of_forall₂ hall fun _ _ hf => hf.1

/-- Well-formed filters and operations are simplified to well-formed ones that are related to
them. -/
theorem Congruent.simplified_and (h : Congruent r tested computed) :
    (∀ f : Filter, f.wellFormed = true →
      ∃ new, f.simplified = .ok new ∧ new.wellFormed = true ∧ r new f) ∧
    ∀ operation : Operation, operation.wellFormed = true →
      ∃ new, operation.simplified = .ok new ∧ new.wellFormed = true ∧ tested new operation := by
  apply Filter.induction
  case field =>
    intro target operation ih hw
    obtain ⟨ht, ho⟩ := (wellFormed_field _ _).mp hw
    obtain ⟨new, hnew, hnewWf, hr⟩ := ih ho
    rw [simplified_field, hnew]
    exact h.stepped (h.field hr) ((wellFormed_field _ _).mpr ⟨ht, hnewWf⟩)
  case and => exact fun args => h.combination Filter.simplified_and wellFormed_and h.and
  case or => exact fun args => h.combination simplified_or wellFormed_or h.or
  case nor => exact fun args => h.combination simplified_nor wellFormed_nor h.nor
  case not =>
    intro f ih hw
    obtain ⟨new, hnew, hnewWf, hr⟩ := ih hw
    rw [simplified_not, hnew]
    exact h.stepped (h.not hr) hnewWf
  case expr =>
    intro e hw
    obtain ⟨new, hnew, hnewWf, hr⟩ := h.computes.simplified e hw
    rw [simplified_expr, hnew]
    exact h.stepped (h.expr hr) hnewWf
  case elemMatch =>
    intro f ih hw
    obtain ⟨new, hnew, hnewWf, hr⟩ := ih hw
    rw [Operation.simplified_elemMatch, hnew]
    exact h.steppedTested (h.elemMatch hr) hnewWf
  case negation =>
    intro operation ih hw
    obtain ⟨new, hnew, hnewWf, hr⟩ := ih hw
    rw [Operation.simplified_not, hnew]
    exact h.steppedTested (h.negation hr) hnewWf
  case plain =>
    intro operation hmatch hnot hw
    exact ⟨operation, Operation.simplified_plain hmatch hnot, hw, h.stepTested (.same _)⟩

/-- Well-formed filters are simplified to well-formed ones that are related to them. -/
def SimplifiesTo (r : Filter → Filter → Prop) : Prop :=
  ∀ f : Filter, f.wellFormed = true →
    ∃ new, f.simplified = .ok new ∧ new.wellFormed = true ∧ r new f

theorem Congruent.simplified (h : Congruent r tested computed) : SimplifiesTo r :=
  h.simplified_and.1

end Filter

/-! ### Stages -/

/-- The entries of a projection name the same path, or compute related values at it. -/
inductive Projection.Related (computed : Expression → Expression → Prop) :
    Projection → Projection → Prop where
  | keep (path : String) : Related computed (.keep path) (.keep path)
  | drop (path : String) : Related computed (.drop path) (.drop path)
  | compute {path : String} {new old : Expression} (h : computed new old) :
    Related computed (.compute path new) (.compute path old)

/-- The new stage is the old one with related parts, one for each. -/
inductive Stage.Related (r : Filter → Filter → Prop) (computed : Expression → Expression → Prop) :
    Stage → Stage → Prop where
  /-- There are no parts. -/
  | plain {stage : Stage} (h : stage.nodes = [.stage stage]) : Related r computed stage stage
  | select {new old : Filter} (h : r new old) : Related r computed (.select new) (.select old)
  | project {news olds : List Projection}
    (h : List.Forall₂ (fun old new => Projection.Related computed new old) olds news) :
    Related r computed (.project news) (.project olds)
  | replaceRoot {new old : Expression} (h : computed new old) :
    Related r computed (.replaceRoot new) (.replaceRoot old)
  | addFields {news olds : List (String × Expression)}
    (h : List.Forall₂ (fun old new => new.1 = old.1 ∧ computed new.2 old.2) olds news) :
    Related r computed (.addFields news) (.addFields olds)
  | group {newKey oldKey : Expression} {news olds : List (String × AccumulatorExpression)}
    (hkey : computed newKey oldKey)
    (h : List.Forall₂ (fun old new => new.1 = old.1 ∧ new.2.operator = old.2.operator ∧
      computed new.2.arg old.2.arg) olds news) :
    Related r computed (.group newKey news) (.group oldKey olds)

section Revised

variable {α : Type} {p : α → α → Prop}

/-- Nodes are related to what they resolve to if each of them is. -/
theorem forall₂_resolveAll {olds : List α} {rs : List (Revised α)}
    (h : List.Forall₂ (fun old r => p (r.resolve old) old) olds rs) :
    List.Forall₂ (fun old new => p new old) olds (resolveAll olds rs) := by
  induction h with
  | nil => exact .nil
  | cons hr _ ih =>
    rw [resolveAll]
    exact .cons hr ih

theorem forall₂_resolveNamed {olds : List (String × α)} {rs : List (Revised α)}
    (h : List.Forall₂ (fun old r => p (r.resolve old.2) old.2) olds rs) :
    List.Forall₂ (fun old new => new.1 = old.1 ∧ p new.2 old.2) olds (resolveNamed olds rs) := by
  induction h with
  | nil => exact .nil
  | cons hr _ ih => exact .cons ⟨rfl, hr⟩ ih

end Revised

namespace Projection.Related

variable {computed : Expression → Expression → Prop} {new old : Projection}

theorem path (h : Related computed new old) : new.path = old.path := by
  cases h <;> rfl

theorem isDrop (h : Related computed new old) : new.isDrop = old.isDrop := by
  cases h <;> rfl

end Projection.Related

namespace Stage

/-- What is checked of a projection is which paths it names and which of them it takes away. -/
theorem checkProjections_congr {news olds : List Projection}
    (h : List.Forall₂ (fun old new => new.path = old.path ∧ new.isDrop = old.isDrop) olds news) :
    checkProjections news = checkProjections olds := by
  have hpaths : news.map (·.path) = olds.map (·.path) :=
    (map_congr_of_forall₂ (h.imp fun _ _ he => he.1.symm)).symm
  have hentries : news.map (fun e => (e.path, e.isDrop)) = olds.map fun e => (e.path, e.isDrop) :=
    (map_congr_of_forall₂ (h.imp fun _ _ he => by rw [he.1, he.2])).symm
  have hempty : news.isEmpty = olds.isEmpty := by
    simpa using congrArg List.isEmpty hpaths
  have hany (test : Bool → Bool) :
      (news.filter (·.path != "_id")).any (fun e => test e.isDrop)
        = (olds.filter (·.path != "_id")).any fun e => test e.isDrop := by
    simpa [Function.comp_def] using
      congrArg (List.any · fun entry => entry.1 != "_id" && test entry.2) hentries
  rw [checkProjections, checkProjections, hempty, hpaths]
  dsimp only
  rw [hany fun drop => drop, hany fun drop => !drop]

variable {r : Filter → Filter → Prop} {tested : Operation → Operation → Prop}
  {computed : Expression → Expression → Prop}

private theorem exists_revisedProjection (h : Expression.SimplifiesTo computed) (entry : Projection)
    (hw : entry.wellFormed = true) :
    ∃ s, simplifier.reviseProjection entry = .ok s ∧ (s.resolve entry).wellFormed = true ∧
      Projection.Related computed (s.resolve entry) entry := by
  cases entry with
  | keep path => exact ⟨.kept, rfl, rfl, .keep path⟩
  | drop path => exact ⟨.kept, rfl, rfl, .drop path⟩
  | compute path value =>
    obtain ⟨s, hs, hwf, hr⟩ := exists_revised (h value hw)
    refine ⟨s.map (.compute path), ?_, ?_⟩
    · rw [Reviser.reviseProjection, hs]
      rfl
    · rw [resolve_map]
      exact ⟨hwf, .compute hr⟩

theorem project?_of_checkProjections {entries : List Projection}
    (h : (checkProjections entries).isOk = true) : project? entries = .ok (.project entries) := by
  rw [project?]
  cases hcheck : checkProjections entries with
  | error e =>
    rw [hcheck] at h
    cases h
  | ok u => rfl

private theorem exists_revised_project (h : Expression.SimplifiesTo computed)
    {entries : List Projection} (hw : (project entries).wellFormed = true) :
    ∃ s, simplifier.reviseStage (.project entries) = .ok s ∧
      (s.resolve (.project entries)).wellFormed = true ∧
      Related r computed (s.resolve (.project entries)) (.project entries) := by
  obtain ⟨hok, hentries⟩ := (wellFormed_project entries).mp hw
  obtain ⟨rs, hrs, hall⟩ := exists_mapM_eq_ok fun entry hentry =>
    exists_revisedProjection h entry (hentries entry hentry)
  have hrevise : simplifier.reviseStage (.project entries) = updateProjections entries rs := by
    show (entries.mapM simplifier.reviseProjection >>= fun rs =>
      Reviser.checked (updateProjections entries rs)) = _
    rw [hrs, ok_bind, checked_eq]
  have hnews := forall₂_resolveAll (hall.imp fun _ _ hs => hs.2)
  rw [hrevise, updateProjections]
  split
  · next hunchanged =>
    rw [Projection.allUnchanged_eq_keepAll (mapM_eq_ok_iff.mp hrs)] at hunchanged
    rw [resolveAll_of_keepAll hunchanged] at hnews
    exact ⟨.kept, rfl, hw, .project hnews⟩
  · -- the new entries pass the check that the old ones have passed
    have hwf : ∀ entry ∈ resolveAll entries rs, entry.wellFormed = true :=
      forall_mem_of_forall₂ (forall₂_resolveAll (p := fun new _ => new.wellFormed = true)
        (hall.imp fun _ _ hs => hs.1)) fun _ _ hentry => hentry
    have hcheck : (checkProjections (resolveAll entries rs)).isOk = true := by
      rw [checkProjections_congr (hnews.imp fun _ _ hs => ⟨hs.path, hs.isDrop⟩)]
      simpa [project?] using hok
    rw [project?_of_checkProjections hcheck]
    refine ⟨_, rfl, (wellFormed_project _).mpr ⟨?_, hwf⟩, .project hnews⟩
    rw [project?_of_checkProjections hcheck, isOk_ok]

theorem isOk_addFields? (fields : List (String × Expression)) :
    (addFields? fields).isOk = (!(fields.map (·.1)).isEmpty &&
      (checkDistinct "fields" .duplicateFieldPath (fields.map (·.1))).isOk) := by
  simp [addFields?]

theorem isOk_computedField? (path : String) (value : Expression) :
    (computedField? path value).isOk = (checkPath "path" path).isOk := by
  simp [computedField?]

/-- Fields stay well formed when they get other well-formed values. -/
theorem wellFormed_addFields_of_names {news olds : List (String × Expression)}
    (hnames : news.map (·.1) = olds.map (·.1)) (hnews : ∀ field ∈ news, field.2.wellFormed = true)
    (hw : (addFields olds).wellFormed = true) : (addFields news).wellFormed = true := by
  obtain ⟨hok, hfields⟩ := (wellFormed_addFields olds).mp hw
  have hpaths : ∀ path ∈ news.map (·.1), (checkPath "path" path).isOk = true := by
    rw [hnames]
    refine List.forall_mem_map.mpr fun field hfield => ?_
    rw [← isOk_computedField? field.1 field.2]
    exact (hfields field hfield).1
  refine (wellFormed_addFields news).mpr ⟨?_, fun field hfield => ⟨?_, hnews field hfield⟩⟩
  · rwa [isOk_addFields?, hnames, ← isOk_addFields?]
  · rw [isOk_computedField?]
    exact hpaths field.1 (List.mem_map_of_mem hfield)

/-- Fields are rebuilt with their revised values. -/
theorem updateFields_eq_ok {fields : List (String × Expression)} {rs : List (Revised Expression)}
    (hlength : rs.length = fields.length) :
    ∃ s, updateFields fields rs = .ok s ∧
      s.resolve (addFields fields) = addFields (resolveNamed fields rs) := by
  rw [updateFields, hlength, beq_self_eq_true, ensure, if_pos rfl, ok_bind, pure_eq_ok]
  exact ⟨_, rfl, resolve_ite_keepAll_named addFields⟩

/-- A group is rebuilt with its revised key and its revised accumulators. -/
theorem updateGroup_eq_ok {key : Expression} {accumulators : List (String × AccumulatorExpression)}
    (k : Revised Expression) {rs : List (Revised AccumulatorExpression)}
    (hlength : rs.length = accumulators.length) :
    ∃ s, updateGroup key accumulators k rs = .ok s ∧
      s.resolve (group key accumulators)
        = group (k.resolve key) (resolveNamed accumulators rs) := by
  rw [updateGroup, hlength, beq_self_eq_true, ensure, if_pos rfl, ok_bind, pure_eq_ok]
  refine ⟨_, rfl, ?_⟩
  split
  · next hkept =>
    rw [Bool.and_eq_true] at hkept
    rw [resolve_kept, resolveNamed_of_keepAll hkept.2]
    cases k with
    | kept => rfl
    | changed new => cases hkept.1
  · rfl

private theorem exists_revised_addFields (h : Expression.SimplifiesTo computed)
    {fields : List (String × Expression)} (hw : (addFields fields).wellFormed = true) :
    ∃ s, simplifier.reviseStage (.addFields fields) = .ok s ∧
      (s.resolve (.addFields fields)).wellFormed = true ∧
      Related r computed (s.resolve (.addFields fields)) (.addFields fields) := by
  obtain ⟨-, hfields⟩ := (wellFormed_addFields fields).mp hw
  obtain ⟨rs, hrs, hall⟩ := exists_mapM_eq_ok fun field hfield =>
    exists_revised (h field.2 (hfields field hfield).2)
  have hnews := forall₂_resolveNamed (p := fun new old => new.wellFormed = true ∧ computed new old)
    hall
  -- the fields are replaced one by one, so their number cannot be wrong
  obtain ⟨s, hs, hresolve⟩ := updateFields_eq_ok hall.length_eq.symm
  have hrevise : simplifier.reviseStage (.addFields fields) = .ok s := by
    show (simplifier.reviseFields fields >>= fun rs => Reviser.checked (updateFields fields rs)) = _
    rw [Expression.reviseFields_eq_mapM, hrs, ok_bind, checked_eq, hs]
  refine ⟨s, hrevise, ?_⟩
  rw [hresolve]
  refine ⟨?_, .addFields (hnews.imp fun _ _ hfield => ⟨hfield.1, hfield.2.2⟩)⟩
  exact wellFormed_addFields_of_names
    (map_congr_of_forall₂ (hnews.imp fun _ _ hfield => hfield.1.symm)).symm
    (forall_mem_of_forall₂ hnews fun _ _ hfield => hfield.2.1) hw

private theorem exists_revisedAccumulator (h : Expression.SimplifiesTo computed)
    (a : AccumulatorExpression) (hw : a.arg.wellFormed = true) :
    ∃ s, simplifier.reviseAccumulator a = .ok s ∧ (s.resolve a).arg.wellFormed = true ∧
      (s.resolve a).operator = a.operator ∧ computed (s.resolve a).arg a.arg := by
  obtain ⟨s, hs, hwf, hr⟩ := exists_revised (h a.arg hw)
  refine ⟨a.update s, ?_, ?_⟩
  · show (simplifier.reviseExpression a.arg >>= fun s => .ok (a.update s)) = _
    rw [hs, ok_bind]
  · cases s with
    | kept => exact ⟨hwf, rfl, hr⟩
    | changed new => exact ⟨hwf, rfl, hr⟩

theorem isOk_group? (key : Expression) (accumulators : List (String × AccumulatorExpression)) :
    (group? key accumulators).isOk
      = (checkAccumulatorNames (accumulators.map (·.1))).isOk := by
  simp [group?]

private theorem exists_revised_group (h : Expression.SimplifiesTo computed) {key : Expression}
    {accumulators : List (String × AccumulatorExpression)}
    (hw : (group key accumulators).wellFormed = true) :
    ∃ s, simplifier.reviseStage (.group key accumulators) = .ok s ∧
      (s.resolve (.group key accumulators)).wellFormed = true ∧
      Related r computed (s.resolve (.group key accumulators)) (.group key accumulators) := by
  obtain ⟨hok, hkey, haccumulators⟩ := (wellFormed_group key accumulators).mp hw
  obtain ⟨k, hk, hkWf, hkr⟩ := exists_revised (h key hkey)
  obtain ⟨rs, hrs, hall⟩ := exists_mapM_eq_ok fun a ha =>
    exists_revisedAccumulator h a.2 (haccumulators a ha)
  have hnews := forall₂_resolveNamed
    (p := fun (new old : AccumulatorExpression) => new.arg.wellFormed = true ∧
      new.operator = old.operator ∧ computed new.arg old.arg) hall
  have hnames : (resolveNamed accumulators rs).map (·.1) = accumulators.map (·.1) :=
    (map_congr_of_forall₂ (hnews.imp fun _ _ ha => ha.1.symm)).symm
  obtain ⟨s, hs, hresolve⟩ := updateGroup_eq_ok k hall.length_eq.symm
  have hrevise : simplifier.reviseStage (.group key accumulators) = .ok s := by
    show (simplifier.reviseExpression key >>= fun k =>
      (accumulators.mapM fun a => simplifier.reviseAccumulator a.2) >>= fun rs =>
        Reviser.checked (updateGroup key accumulators k rs)) = _
    rw [hk, ok_bind, hrs, ok_bind, checked_eq, hs]
  refine ⟨s, hrevise, ?_⟩
  rw [hresolve]
  refine ⟨(wellFormed_group _ _).mpr ⟨?_, hkWf, ?_⟩, .group hkr (hnews.imp fun _ _ ha => ?_)⟩
  · rwa [isOk_group?, hnames, ← isOk_group? key]
  · exact forall_mem_of_forall₂ hnews fun _ _ ha => ha.2.1
  · exact ⟨ha.1, ha.2.2⟩

/-- A well-formed stage is simplified to a well-formed one with related parts. -/
theorem exists_revised_of_simplifiesTo (hr : Filter.SimplifiesTo r)
    (hcomputed : Expression.SimplifiesTo computed) {stage : Stage}
    (hw : stage.wellFormed = true) :
    ∃ s, simplifier.reviseStage stage = .ok s ∧ (s.resolve stage).wellFormed = true ∧
      Related r computed (s.resolve stage) stage := by
  cases stage with
  | select f =>
    obtain ⟨s, hs, hwf, hr⟩ := exists_revised (hr f hw)
    refine ⟨s.map .select, ?_, ?_⟩
    · show (simplifier.reviseFilter f >>= fun s => .ok (s.map Stage.select)) = _
      rw [hs, ok_bind]
    · rw [resolve_map]
      exact ⟨hwf, .select hr⟩
  | replaceRoot e =>
    obtain ⟨s, hs, hwf, hr⟩ := exists_revised (hcomputed e hw)
    refine ⟨s.map .replaceRoot, ?_, ?_⟩
    · show (simplifier.reviseExpression e >>= fun s => .ok (s.map Stage.replaceRoot)) = _
      rw [hs, ok_bind]
    · rw [resolve_map]
      exact ⟨hwf, .replaceRoot hr⟩
  | project entries => exact exists_revised_project hcomputed hw
  | addFields fields => exact exists_revised_addFields hcomputed hw
  | group key accumulators => exact exists_revised_group hcomputed hw
  | _ => exact ⟨.kept, rfl, hw, .plain rfl⟩

end Stage

/-! ### Pipelines -/

namespace Pipeline

theorem wellFormed_iff (p : Pipeline) :
    p.wellFormed = true ↔ ∀ stage ∈ p.stages, stage.wellFormed = true := by
  rw [wellFormed, List.all_eq_true]

theorem resolve_update (p : Pipeline) (rs : List (Revised Stage)) :
    (p.update rs).resolve p = ⟨resolveAll p.stages rs⟩ :=
  resolve_ite_keepAll Pipeline.mk

/-- Simplification does not fail on a well-formed pipeline.  What comes out is well formed, and its
stages are those of the pipeline with related parts. -/
theorem simplify_eq_ok_of_simplifiesTo {r : Filter → Filter → Prop}
    {computed : Expression → Expression → Prop} (hr : Filter.SimplifiesTo r)
    (hcomputed : Expression.SimplifiesTo computed) {p : Pipeline} (hw : p.wellFormed = true) :
    ∃ s, simplify p = .ok s ∧ (s.resolve p).wellFormed = true ∧
      List.Forall₂ (fun old new => Stage.Related r computed new old) p.stages
        (s.resolve p).stages := by
  obtain ⟨rs, hrs, hall⟩ := exists_mapM_eq_ok fun stage hstage =>
    Stage.exists_revised_of_simplifiesTo hr hcomputed ((wellFormed_iff p).mp hw stage hstage)
  have hnews := forall₂_resolveAll (p := fun new old => new.wellFormed = true ∧
    Stage.Related r computed new old) hall
  refine ⟨p.update rs, ?_, ?_⟩
  · show (p.stages.mapM simplifier.reviseStage >>= fun rs => .ok (p.update rs)) = _
    rw [hrs, ok_bind]
  · rw [resolve_update]
    exact ⟨(wellFormed_iff _).mpr (forall_mem_of_forall₂ hnews fun _ _ hs => hs.1),
      hnews.imp fun _ _ hs => hs.2⟩

theorem simplify_eq_ok {r : Filter → Filter → Prop} {tested : Operation → Operation → Prop}
    {computed : Expression → Expression → Prop} (h : Filter.Congruent r tested computed)
    {p : Pipeline} (hw : p.wellFormed = true) :
    ∃ s, simplify p = .ok s ∧ (s.resolve p).wellFormed = true ∧
      List.Forall₂ (fun old new => Stage.Related r computed new old) p.stages
        (s.resolve p).stages :=
  simplify_eq_ok_of_simplifiesTo h.simplified h.computes.simplified hw

end Pipeline

end DocQuery
