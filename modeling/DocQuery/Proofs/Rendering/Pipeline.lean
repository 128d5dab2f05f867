import DocQuery.Evaluation.Stage
import DocQuery.Proofs.Rendering.Keys

/-!
# Reading pipelines back

The document of a stage has the name of the stage as its only key.  In a projection the numbers one
and zero keep and drop a path, and whatever else stands at a path is computed.

## Main definitions

* `Projection.read`, `Stage.read`, `Pipeline.read` — the readings of documents.

## Main results

* `Stage.run_read`, `Pipeline.run_read` — what is rendered is read as a pipeline that gives the same
  documents.
* `Pipeline.run_eq_of_toValue_eq` — pipelines that are rendered alike run alike.
-/

namespace DocQuery

/-! ### The reader -/

/-- The signed integer that a value is. -/
def Value.signed : Value → Int64
  | .number (.int n) => n
  | _ => 0

/-- The text behind the first character. -/
def Value.behindDollar (v : Value) : String :=
  String.ofList v.text.toList.tail

/-- The reading of an entry of a projection. -/
def Projection.read (path : String) : Value → Projection
  | .number (.int n) => if n = 0 then .drop path else .keep path
  | value => .compute path (.read value)

/-- The reading of an accumulator. -/
def AccumulatorExpression.read : Value → AccumulatorExpression
  | .object [(name, arg)] => ⟨(Accumulation.ofName? name).getD .sum, .read arg⟩
  | value => ⟨.sum, .constant value⟩

/-- The reading of a direction of sorting. -/
def Direction.read (v : Value) : Direction :=
  if v.signed = 1 then .ascending else .descending

namespace Stage

/-- The reading of a group from the entries of its document. -/
def ofGroup : List (String × Value) → Stage
  | [] => .group (.constant .null) []
  | (_, key) :: accumulators =>
    .group (.read key) (accumulators.map fun a => (a.1, AccumulatorExpression.read a.2))

/-- The reading of an unwinding. -/
def ofUnwind : Value → Stage
  | .object [(_, path), _] => .unwind path.behindDollar true
  | path => .unwind path.behindDollar false

/-- The reading of a stage from its name and what it is given. -/
def ofOperator (key : String) (arg : Value) : Stage :=
  if key = "$match" then .select arg.reading.filter
  else if key = "$project" then .project (arg.fields.map fun e => Projection.read e.1 e.2)
  else if key = "$replaceRoot" then
    .replaceRoot (.read ((arg.fields.map (·.2)).head?.getD .null))
  else if key = "$addFields" then
    .addFields (arg.fields.map fun field => (field.1, Expression.read field.2))
  else if key = "$group" then ofGroup arg.fields
  else if key = "$sort" then .sort (arg.fields.map fun k => ⟨k.1, Direction.read k.2⟩)
  else if key = "$skip" then .skip arg.signed
  else if key = "$limit" then .limit arg.signed
  else if key = "$unwind" then ofUnwind arg
  else .count arg.text

/-- The reading of a stage. -/
def read : Value → Stage
  | .object [(key, arg)] => ofOperator key arg
  | value => .count value.text

end Stage

/-- The reading of a pipeline. -/
def Pipeline.read (v : Value) : Pipeline :=
  ⟨v.items.map Stage.read⟩

/-! ### Projections -/

/-- The two entries do the same to the same path. -/
structure Projection.Alike (a b : Projection) : Prop where
  path : a.path = b.path
  isDrop : a.isDrop = b.isDrop
  contribute : ∀ document output, a.contribute document output = b.contribute document output

/-- Only a constant is written as a number. -/
theorem Expression.toValue_ne_number {e : Expression} (h : ∀ v, e ≠ .constant v) (n : Number) :
    e.toValue ≠ .number n := by
  intro heq
  cases e with
  | constant v => exact absurd rfl (h v)
  | field scope path => cases scope <;> cases heq
  | unary function arg =>
    rw [toValue, UnaryFunction.apply.eq_def] at heq
    split at heq <;> cases heq
  | _ => cases heq

theorem Projection.read_alike (e : Projection) (hw : e.wellFormed = true) :
    (Projection.read e.path e.toValue).Alike e := by
  cases e with
  | keep path => exact ⟨rfl, rfl, fun _ _ => rfl⟩
  | drop path => exact ⟨rfl, rfl, fun _ _ => rfl⟩
  | compute path value =>
    by_cases hconstant : ∃ v, value = .constant v
    · obtain ⟨v, rfl⟩ := hconstant
      -- a projection wraps every constant, lest a number be read as keeping or dropping the path
      have hread : Projection.read path (.entry "$literal" v) = .compute path (.constant v) := by
        rw [← Expression.read_literal]
        rfl
      rw [toValue, Projection.path, hread]
      exact ⟨rfl, rfl, fun _ _ => rfl⟩
    · have hother : ∀ v, value ≠ .constant v := fun v h => hconstant ⟨v, h⟩
      have hread : Projection.read path value.toValue = .compute path (.read value.toValue) := by
        rw [Projection.read]
        exact fun n => Expression.toValue_ne_number hother (.int n)
      rw [toValue, Projection.path, hread]
      · refine ⟨rfl, rfl, fun document output => ?_⟩
        rw [contribute, contribute, Expression.evalOn, Expression.evalOn,
          Expression.eval_read value hw]
      · exact hother

/-- Projections with the same entries in pairs give the same documents. -/
theorem project_congr {as bs : List Projection} (h : List.Forall₂ Projection.Alike as bs)
    (document : Value) : project as document = project bs document := by
  have hdrop : as.map (·.isDrop) = bs.map (·.isDrop) :=
    map_congr_of_forall₂ (h.imp fun _ _ hab => hab.isDrop)
  have hpath : as.map (·.path) = bs.map (·.path) :=
    map_congr_of_forall₂ (h.imp fun _ _ hab => hab.path)
  have hid : as.map (fun e => e.isDrop && e.path = "_id")
      = bs.map fun e => e.isDrop && e.path = "_id" :=
    map_congr_of_forall₂ (h.imp fun _ _ hab => by rw [hab.isDrop, hab.path])
  -- besides what its entries contribute, a projection reads these three lists
  have hall : as.all (·.isDrop) = bs.all (·.isDrop) := by
    simpa only [List.all_map, Function.id_comp] using congrArg (List.all · id) hdrop
  have hany : as.any (fun e => e.isDrop && e.path = "_id")
      = bs.any fun e => e.isDrop && e.path = "_id" := by
    simpa only [List.any_map, Function.id_comp] using congrArg (List.any · id) hid
  have hdropped : as.foldl (fun output e => output.without e.path) document
      = bs.foldl (fun output e => output.without e.path) document := by
    simpa only [List.foldl_map] using congrArg (List.foldl Value.without document) hpath
  have hcomputed : ∀ output : Value,
      as.foldlM (fun output e => Projection.contribute document output e) output
        = bs.foldlM (fun output e => Projection.contribute document output e) output :=
    foldlM_congr (h.imp fun _ _ hab => hab.contribute document)
  rw [project, project, hall, hdropped, startingId, startingId, hany, hcomputed]

/-! ### Stages -/

/-- The two lists of named expressions have the same names and the same values. -/
theorem setFields_congr {as bs : List (String × Expression)}
    (h : List.Forall₂ (fun a b => a.1 = b.1 ∧ ∀ document, a.2.evalOn document = b.2.evalOn document)
      as bs) (document : Value) : setFields as document = setFields bs document := by
  refine foldlM_congr (h.imp fun a b hab output => ?_) document
  show (do return output.assign a.1 (← a.2.evalOn document))
    = (do return output.assign b.1 (← b.2.evalOn document))
  rw [hab.1, hab.2]

/-- The two accumulators have the same name, operator and values. -/
def SameAccumulation (a b : String × AccumulatorExpression) : Prop :=
  a.1 = b.1 ∧ a.2.operator = b.2.operator ∧
    ∀ document, a.2.arg.evalOn document = b.2.arg.evalOn document

theorem collect_congr {as bs : List (String × AccumulatorExpression)}
    (h : List.Forall₂ SameAccumulation as bs) (rows : List (List Value)) (place : Nat) :
    collect rows place as = collect rows place bs := by
  induction h generalizing place with
  | nil => rfl
  | @cons a b as bs hab _ ih =>
    obtain ⟨name, a⟩ := a
    obtain ⟨name', b⟩ := b
    obtain ⟨hname, hoperator, -⟩ := hab
    dsimp only at hname hoperator
    rw [collect, collect, hname, hoperator, ih]

theorem groupDocuments_congr {key key' : Expression}
    {as bs : List (String × AccumulatorExpression)}
    (hkey : ∀ document, key.evalOn document = key'.evalOn document)
    (h : List.Forall₂ SameAccumulation as bs) (documents : List Value) :
    groupDocuments key as documents = groupDocuments key' bs documents := by
  have hrow : groupRow key as = groupRow key' bs := by
    funext document
    have hargs : as.mapM (fun a => a.2.arg.evalOn document)
        = bs.mapM fun a => a.2.arg.evalOn document :=
      mapM_congr (h.imp fun _ _ hab => hab.2.2 document)
    rw [groupRow, groupRow, hkey]
    exact congrArg _ (funext fun k => congrArg (· >>= _) hargs)
  rw [groupDocuments, groupDocuments, hrow]
  simp only [collect_congr h]

theorem AccumulatorExpression.read_toValue (a : AccumulatorExpression) :
    AccumulatorExpression.read a.toValue = ⟨a.operator, .read a.arg.toValue⟩ := by
  obtain ⟨operator, arg⟩ := a
  cases operator <;> rfl

/-- What is written behind a dollar sign is read without it. -/
theorem behindDollar_path (path : String) : (Value.string s!"${path}").behindDollar = path := by
  have hs : (s!"${path}").toList = '$' :: path.toList := by simp [toString]
  rw [Value.behindDollar, Value.text, hs, List.tail_cons, String.ofList_toList]

namespace Stage

/-- The value for a document is that of the expression read back. -/
theorem evalOn_read {e : Expression} (hw : e.wellFormed = true) (document : Value) :
    (Expression.read e.toValue).evalOn document = e.evalOn document := by
  rw [Expression.evalOn, Expression.evalOn, Expression.eval_read e hw]

theorem run_read (stage : Stage) (hw : stage.wellFormed = true) (documents : List Value) :
    (read stage.toValue).run documents = stage.run documents := by
  cases stage with
  | select f =>
    have hread : read (select f).toValue = select f.toValue.reading.filter := rfl
    rw [hread, run, run]
    exact congrArg (keepItems · documents) (funext ((Filter.readsBack.1 f hw).1))
  | project entries =>
    have hread : read (project entries).toValue
        = project (entries.map fun e => Projection.read e.path e.toValue) := by
      rw [toValue]
      exact congrArg project (List.map_map ..)
    have halike : List.Forall₂ Projection.Alike
        (entries.map fun e => Projection.read e.path e.toValue) entries := by
      rw [List.forall₂_map_left_iff, List.forall₂_same]
      exact fun e he => Projection.read_alike e (((wellFormed_project entries).mp hw).2 e he)
    rw [hread, run, run, funext (project_congr halike)]
  | replaceRoot e =>
    have hread : read (replaceRoot e).toValue = replaceRoot (.read e.toValue) := rfl
    rw [hread, run, run]
    refine congrArg (mapItems · documents) (funext fun document => ?_)
    rw [DocQuery.replaceRoot, DocQuery.replaceRoot, evalOn_read hw]
  | addFields fields =>
    have hread : read (addFields fields).toValue
        = addFields (fields.map fun field => (field.1, Expression.read field.2.toValue)) := by
      rw [toValue]
      exact congrArg addFields (List.map_map ..)
    have hsame : List.Forall₂ (fun (a b : String × Expression) => a.1 = b.1 ∧
        ∀ document, a.2.evalOn document = b.2.evalOn document)
        (fields.map fun field => (field.1, Expression.read field.2.toValue)) fields := by
      rw [List.forall₂_map_left_iff, List.forall₂_same]
      exact fun field hfield =>
        ⟨rfl, evalOn_read (((wellFormed_addFields fields).mp hw).2 field hfield).2⟩
    rw [hread, run, run, funext (setFields_congr hsame)]
  | group key accumulators =>
    obtain ⟨-, hkey, haccumulators⟩ := (wellFormed_group key accumulators).mp hw
    have hread : read (group key accumulators).toValue
        = group (.read key.toValue)
          (accumulators.map fun a => (a.1, AccumulatorExpression.read a.2.toValue)) := by
      rw [toValue]
      exact congrArg (group _) (List.map_map ..)
    have hsame : List.Forall₂ SameAccumulation
        (accumulators.map fun a => (a.1, AccumulatorExpression.read a.2.toValue))
        accumulators := by
      rw [List.forall₂_map_left_iff, List.forall₂_same]
      intro a ha
      rw [AccumulatorExpression.read_toValue]
      exact ⟨rfl, rfl, evalOn_read (haccumulators a ha)⟩
    rw [hread, run, run, groupDocuments_congr (evalOn_read hkey) hsame]
  | sort keys =>
    have hread : read (sort keys).toValue = sort keys := by
      rw [toValue]
      refine (congrArg sort (List.map_map ..)).trans (congrArg sort ?_)
      refine (List.map_congr_left fun k _ => ?_).trans (List.map_id keys)
      obtain ⟨path, direction⟩ := k
      cases direction <;> rfl
    rw [hread]
  | skip n => rfl
  | limit n => rfl
  | unwind path keepEmpty =>
    have hread : read (unwind path keepEmpty).toValue = unwind path keepEmpty := by
      cases keepEmpty with
      | false => exact congrArg (unwind · false) (behindDollar_path path)
      | true => exact congrArg (unwind · true) (behindDollar_path path)
    rw [hread]
  | count name => rfl

end Stage

/-- What is rendered from a pipeline is read as one that gives the same documents. -/
theorem Pipeline.run_read (p : Pipeline) (hw : p.wellFormed = true) (documents : List Value) :
    (read p.toValue).run documents = p.run documents := by
  obtain ⟨stages⟩ := p
  rw [wellFormed, List.all_eq_true] at hw
  rw [read, toValue, Value.items, Pipeline.documents, List.map_map, run, run, List.foldlM_map]
  induction stages generalizing documents with
  | nil => rfl
  | cons stage stages ih =>
    rw [List.forall_mem_cons] at hw
    rw [List.foldlM_cons, List.foldlM_cons]
    exact (congrArg (· >>= _) (Stage.run_read stage hw.1 documents)).trans
      (congrArg _ (funext fun documents => ih documents hw.2))

/-- Pipelines that are rendered to the same documents give the same result on all documents, and in
these documents no key stands twice if none does in the values that the pipeline holds. -/
theorem Pipeline.run_eq_of_toValue_eq {p q : Pipeline} (hp : p.wellFormed = true)
    (hq : q.wellFormed = true) :
    (p.toValue = q.toValue → ∀ documents, p.run documents = q.run documents) ∧
      ((∀ node ∈ p.nodes, ∀ v ∈ node.values, v.distinctKeys = true) →
        p.toValue.distinctKeys = true) := by
  refine ⟨fun h documents => ?_, p.distinctKeys_toValue hp⟩
  rw [← p.run_read hp, h, q.run_read hq]

/-- A negation is written below its path, and an array of constants as a constant array. -/
theorem Pipeline.run_eq_of_toValue_eq_negation :
    let p : Pipeline := ⟨[.select (.not (.field (.path "a") (.compare .eq (.string "$x")))),
      .addFields [("b", .constant (.array [.int 1, .entry "c" .null]))]]⟩
    let q : Pipeline := ⟨[.select (.and [.field (.path "a") (.not (.compare .eq (.string "$x")))]),
      .addFields [("b", .array [.constant (.int 1), .document [("c", .constant .null)]])]]⟩
    (p.wellFormed = true ∧ q.wellFormed = true ∧ p.toValue = q.toValue ∧
      ∀ node ∈ p.nodes, ∀ v ∈ node.values, v.distinctKeys = true) ∧
    (∀ documents, p.run documents = q.run documents) ∧ p.toValue.distinctKeys = true :=
  have hp := by decide +kernel
  have hq := by decide +kernel
  have hn := by decide +kernel
  ⟨⟨hp, hq, by rfl, hn⟩, (run_eq_of_toValue_eq hp hq).1 rfl, (run_eq_of_toValue_eq hp hq).2 hn⟩

end DocQuery
