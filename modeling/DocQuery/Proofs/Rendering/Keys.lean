import DocQuery.Proofs.Pipeline.Children
import DocQuery.Proofs.Rendering.Filter
import Mathlib.Data.List.Nodup

/-!
# No key twice

An object in which a key stands twice would lose an entry on the way to the server.  Rendering makes
none: the checks of the nodes keep the names apart, and tests are put together into one document
only if their keys differ.

## Main definitions

* `Value.distinctKeys` — no object in the value has a key twice.
* `Node.values` — the values that a node holds.

## Main results

* `Expression.distinctKeys_toValue`, `Filter.distinctKeys_toValue`, `Stage.distinctKeys_toValue` —
  documents have no key twice if the values held by the nodes have none.
-/

namespace DocQuery

mutual

/-- No object in the value has a key twice. -/
def Value.distinctKeys : Value → Bool
  | .array items => allDistinctKeys items
  | .object fields => decide (fields.map (·.1)).Nodup && fieldsDistinctKeys fields
  | _ => true

/-- No object in the values has a key twice. -/
def Value.allDistinctKeys : List Value → Bool
  | [] => true
  | v :: vs => v.distinctKeys && allDistinctKeys vs

/-- No object in the values of the entries has a key twice. -/
def Value.fieldsDistinctKeys : List (String × Value) → Bool
  | [] => true
  | (_, v) :: fields => v.distinctKeys && fieldsDistinctKeys fields

end

/-- The values that a node holds. -/
def Node.values : Node → List Value
  | .expression (.constant v) => [v]
  | .operation (.compare _ v) => [v]
  | .operation (.isIn vs) => vs
  | .operation (.notIn vs) => vs
  | _ => []

/-- No object in the values that a node holds has a key twice. -/
def Node.holdsDistinctKeys (node : Node) : Prop :=
  ∀ v ∈ node.values, v.distinctKeys = true

namespace Value

theorem distinctKeys_array {items : List Value} :
    (array items).distinctKeys = true ↔ ∀ v ∈ items, v.distinctKeys = true := by
  rw [distinctKeys]
  induction items with
  | nil => simp [allDistinctKeys]
  | cons item items ih => simp [allDistinctKeys, ih]

theorem distinctKeys_object {fields : List (String × Value)} :
    (object fields).distinctKeys = true
      ↔ (fields.map (·.1)).Nodup ∧ ∀ field ∈ fields, field.2.distinctKeys = true := by
  have hfields : fieldsDistinctKeys fields = true
      ↔ ∀ field ∈ fields, field.2.distinctKeys = true := by
    induction fields with
    | nil => simp [fieldsDistinctKeys]
    | cons field fields ih => simp [fieldsDistinctKeys, ih]
  rw [distinctKeys, Bool.and_eq_true, decide_eq_true_iff, hfields]

theorem distinctKeys_entry {key : String} {v : Value} :
    (entry key v).distinctKeys = true ↔ v.distinctKeys = true := by
  rw [entry, distinctKeys_object, List.forall_mem_singleton]
  exact and_iff_right (List.nodup_singleton key)

end Value

/-! ### Expressions -/

theorem UnaryFunction.distinctKeys_apply (function : UnaryFunction) {arg : Value}
    (h : arg.distinctKeys = true) : (function.apply arg).distinctKeys = true := by
  rw [apply.eq_def]
  split
  · rw [Value.distinctKeys_entry, Value.distinctKeys_entry]
    exact h
  · rw [Value.distinctKeys_entry, Value.distinctKeys_array, List.forall_mem_singleton]
    exact h
  · rw [Value.distinctKeys_entry]
    exact h

namespace Expression

theorem distinctKeys_toValue (e : Expression) (hw : e.wellFormed = true)
    (hn : ∀ node ∈ e.nodes, node.holdsDistinctKeys) : e.toValue.distinctKeys = true := by
  induction e using Expression.induction with
  | constant v =>
    have hv : v.distinctKeys = true := hn _ List.mem_cons_self v List.mem_cons_self
    rw [toValue, literal]
    split
    · exact Value.distinctKeys_entry.mpr hv
    · exact hv
  | field scope path => cases scope <;> rfl
  | var name => rfl
  | unary function arg ih =>
    rw [nodes, List.forall_mem_cons] at hn
    rw [toValue]
    exact function.distinctKeys_apply (ih hw hn.2)
  | binary function left right ihl ihr =>
    rw [wellFormed, Bool.and_eq_true] at hw
    rw [nodes, List.forall_mem_cons, List.forall_mem_append] at hn
    rw [toValue, Value.distinctKeys_entry, Value.distinctKeys_array, List.forall_mem_cons,
      List.forall_mem_singleton]
    exact ⟨ihl hw.1 hn.2.1, ihr hw.2 hn.2.2⟩
  | variadic function args ih =>
    have hargs := ((wellFormed_variadic function args).mp hw).2
    rw [nodes, List.forall_mem_cons, forall_mem_nodesOfAll] at hn
    rw [toValue, toValues_eq_map, Value.distinctKeys_entry, Value.distinctKeys_array,
      List.forall_mem_map]
    exact fun e he => ih e he (hargs e he) (hn.2 e he)
  | document fields ih =>
    obtain ⟨hnames, hfields⟩ := (wellFormed_document fields).mp hw
    rw [nodes, List.forall_mem_cons, forall_mem_nodesOfFields] at hn
    rw [toValue, toFields_eq_map, Value.distinctKeys_object, List.map_map, List.forall_mem_map]
    exact ⟨(isOk_checkFieldNames_iff.mp hnames).1, fun field hfield =>
      ih field hfield (hfields field hfield) (hn.2 field hfield)⟩
  | array items ih =>
    have hitems := (wellFormed_array items).mp hw
    rw [nodes, List.forall_mem_cons, forall_mem_nodesOfAll] at hn
    rw [toValue, toValues_eq_map, Value.distinctKeys_array, List.forall_mem_map]
    exact fun e he => ih e he (hitems e he) (hn.2 e he)
  | getField name input ih =>
    have hinput := ((wellFormed_getField name input).mp hw).2
    rw [nodes, List.forall_mem_cons] at hn
    rw [toValue, Value.distinctKeys_entry, Value.distinctKeys_object, List.forall_mem_cons,
      List.forall_mem_singleton]
    exact ⟨by simp, rfl, ih hinput hn.2⟩
  | filter input name condition ihi ihc =>
    obtain ⟨-, hinput, hcondition⟩ := (wellFormed_filter input name condition).mp hw
    rw [nodes, List.forall_mem_cons, List.forall_mem_append] at hn
    rw [toValue, Value.distinctKeys_entry, Value.distinctKeys_object, List.forall_mem_cons,
      List.forall_mem_cons, List.forall_mem_singleton]
    exact ⟨by simp, ihi hinput hn.2.1, rfl, ihc hcondition hn.2.2⟩
  | map input name body ihi ihb =>
    obtain ⟨-, hinput, hbody⟩ := (wellFormed_map input name body).mp hw
    rw [nodes, List.forall_mem_cons, List.forall_mem_append] at hn
    rw [toValue, Value.distinctKeys_entry, Value.distinctKeys_object, List.forall_mem_cons,
      List.forall_mem_cons, List.forall_mem_singleton]
    exact ⟨by simp, ihi hinput hn.2.1, rfl, ihb hbody hn.2.2⟩

end Expression

/-! ### Filters -/

theorem Operation.distinctKeys_plain {operation : Operation}
    (h : ∀ f, operation ≠ .elemMatch f) (h' : ∀ negated, operation ≠ .not negated)
    (hn : ∀ node ∈ operation.nodes, node.holdsDistinctKeys) :
    operation.toValue.distinctKeys = true := by
  rw [nodes_plain h h', List.forall_mem_singleton] at hn
  cases operation with
  | compare comparison v =>
    rw [toValue, Value.distinctKeys_entry]
    exact hn v List.mem_cons_self
  | isIn vs =>
    rw [toValue, Value.distinctKeys_entry, Value.distinctKeys_array]
    exact hn
  | notIn vs =>
    rw [toValue, Value.distinctKeys_entry, Value.distinctKeys_array]
    exact hn
  | regex pattern options =>
    rw [toValue, Value.distinctKeys_object]
    split
    · exact ⟨by simp, by simp [Value.distinctKeys]⟩
    · exact ⟨by simp, by simp [Value.distinctKeys]⟩
  | elemMatch f => exact absurd rfl (h f)
  | not negated => exact absurd rfl (h' negated)
  | _ => rfl

/-- A test has no key twice if its operation has none; its key is not one of them. -/
theorem Filter.distinctKeys_field (target : Target) (operation : Operation) :
    (field target operation).toValue.distinctKeys = operation.toValue.distinctKeys := by
  have habbreviate : (operation.abbreviate operation.toValue).distinctKeys
      = operation.toValue.distinctKeys := by
    rw [Operation.abbreviate.eq_def]
    split
    · split
      · rfl
      · rw [Operation.toValue, Bool.eq_iff_iff, Value.distinctKeys_entry]
    · rfl
  cases target with
  | path p => rw [toValue, Bool.eq_iff_iff, Value.distinctKeys_entry, habbreviate]
  | element => rw [toValue]

theorem distinctKeys_conjunction {args : List Filter} {documents : List Value}
    (h : ∀ v ∈ documents, v.distinctKeys = true) :
    (conjunction args documents).distinctKeys = true := by
  rw [conjunction]
  split
  · next hmerged =>
    rw [Bool.and_eq_true, decide_eq_true_iff] at hmerged
    -- documents are put together only after their keys have been found to differ
    refine Value.distinctKeys_object.mpr ⟨hmerged.2, fun field hfield => ?_⟩
    obtain ⟨v, hv, hmem⟩ := List.mem_flatMap.mp hfield
    cases v with
    | object fields => exact (Value.distinctKeys_object.mp (h _ hv)).2 field hmem
    | _ => cases hmem
  · rw [Value.distinctKeys_entry, Value.distinctKeys_array]
    exact h

namespace Filter

theorem distinctKeys_toValue :
    (∀ f : Filter, (∀ node ∈ f.nodes, node.holdsDistinctKeys) →
      f.wellFormed = true → f.toValue.distinctKeys = true) ∧
    ∀ operation : Operation, (∀ node ∈ operation.nodes, node.holdsDistinctKeys) →
      operation.wellFormed = true → operation.toValue.distinctKeys = true := by
  apply Filter.induction
  case field =>
    intro target operation ih hn hw
    rw [nodes, List.forall_mem_cons] at hn
    rw [distinctKeys_field]
    exact ih hn.2 ((wellFormed_field target operation).mp hw).2
  case and =>
    intro args ih hn hw
    rw [nodes, List.forall_mem_cons, forall_mem_nodesOfAll] at hn
    have hargs := ((wellFormed_and args).mp hw).2
    rw [toValue, toValues_eq_map]
    exact distinctKeys_conjunction
      (List.forall_mem_map.mpr fun f hf => ih f hf (hn.2 f hf) (hargs f hf))
  case or =>
    intro args ih hn hw
    rw [nodes, List.forall_mem_cons, forall_mem_nodesOfAll] at hn
    have hargs := ((wellFormed_or args).mp hw).2
    rw [toValue, toValues_eq_map, Value.distinctKeys_entry, Value.distinctKeys_array]
    exact List.forall_mem_map.mpr fun f hf => ih f hf (hn.2 f hf) (hargs f hf)
  case nor =>
    intro args ih hn hw
    rw [nodes, List.forall_mem_cons, forall_mem_nodesOfAll] at hn
    have hargs := ((wellFormed_nor args).mp hw).2
    rw [toValue, toValues_eq_map, Value.distinctKeys_entry, Value.distinctKeys_array]
    exact List.forall_mem_map.mpr fun f hf => ih f hf (hn.2 f hf) (hargs f hf)
  case not =>
    intro f ih hn hw
    rw [nodes, List.forall_mem_cons] at hn
    have hf := ih hn.2 hw
    by_cases hfield : ∃ target operation, f = field target operation
    · obtain ⟨target, operation, rfl⟩ := hfield
      rw [distinctKeys_field] at hf
      rw [toValue_not_field, distinctKeys_field, Operation.toValue, Value.distinctKeys_entry]
      exact hf
    · rw [toValue_not fun target operation h => hfield ⟨target, operation, h⟩,
        Value.distinctKeys_entry, Value.distinctKeys_array, List.forall_mem_singleton]
      exact hf
  case expr =>
    intro e hn hw
    rw [nodes, List.forall_mem_cons] at hn
    rw [toValue, Value.distinctKeys_entry]
    exact e.distinctKeys_toValue hw hn.2
  case elemMatch =>
    intro f ih hn hw
    rw [Operation.nodes, List.forall_mem_cons] at hn
    rw [Operation.toValue, Value.distinctKeys_entry]
    exact ih hn.2 hw
  case negation =>
    intro operation ih hn hw
    rw [Operation.nodes, List.forall_mem_cons] at hn
    rw [Operation.toValue, Value.distinctKeys_entry]
    exact ih hn.2 hw
  case plain =>
    exact fun operation h h' hn _ => Operation.distinctKeys_plain h h' hn

end Filter

/-! ### Stages -/

theorem Projection.distinctKeys_toValue (e : Projection) (hw : e.wellFormed = true)
    (hn : ∀ node ∈ e.nodes, node.holdsDistinctKeys) : e.toValue.distinctKeys = true := by
  rw [Projection.toValue.eq_def]
  split
  · rfl
  · rfl
  · next v =>
    rw [Value.distinctKeys_entry]
    exact hn _ List.mem_cons_self v List.mem_cons_self
  · next value _ => exact value.distinctKeys_toValue hw hn

namespace Stage

theorem nodup_of_project {entries : List Projection} (h : (project? entries).isOk = true) :
    (entries.map (·.path)).Nodup := by
  rw [project?, isOk_check_bind, checkProjections, isOk_check_bind, isOk_check_bind,
    Bool.and_eq_true, Bool.and_eq_true, Bool.and_eq_true] at h
  refine ((isOk_checkEach_iff
    (p := fun path => (checkPath "specifications" path).isOk = true) fun before path => ?_).mp
      h.1.2.1).2
  simp [and_comm]

theorem nodup_of_addFields {fields : List (String × Expression)}
    (h : (addFields? fields).isOk = true) : (fields.map (·.1)).Nodup := by
  rw [addFields?, isOk_check_bind, isOk_check_bind, Bool.and_eq_true, Bool.and_eq_true] at h
  exact isOk_checkDistinct_iff.mp h.2.1

theorem nodup_of_sort {keys : List SortKey} (h : (sort? keys).isOk = true) :
    (keys.map (·.path)).Nodup := by
  rw [sort?, isOk_check_bind, isOk_check_bind, Bool.and_eq_true, Bool.and_eq_true] at h
  exact isOk_checkDistinct_iff.mp h.2.1

theorem distinctKeys_toValue (stage : Stage) (hw : stage.wellFormed = true)
    (hn : ∀ node ∈ stage.nodes, node.holdsDistinctKeys) : stage.toValue.distinctKeys = true := by
  rw [nodes.eq_def, List.forall_mem_cons] at hn
  replace hn := hn.2
  cases stage with
  | select f =>
    rw [toValue, Value.distinctKeys_entry]
    exact Filter.distinctKeys_toValue.1 f hn hw
  | project entries =>
    obtain ⟨hproject, hentries⟩ := (wellFormed_project entries).mp hw
    rw [List.forall_mem_flatMap] at hn
    rw [toValue, Value.distinctKeys_entry, Value.distinctKeys_object, List.map_map,
      List.forall_mem_map]
    exact ⟨nodup_of_project hproject, fun e he => e.distinctKeys_toValue (hentries e he) (hn e he)⟩
  | replaceRoot e =>
    rw [toValue, Value.distinctKeys_entry, Value.distinctKeys_entry]
    exact e.distinctKeys_toValue hw hn
  | addFields fields =>
    obtain ⟨haddFields, hfields⟩ := (wellFormed_addFields fields).mp hw
    have hn := Expression.forall_mem_nodesOfFields.mp hn
    rw [toValue, Value.distinctKeys_entry, Value.distinctKeys_object, List.map_map,
      List.forall_mem_map]
    exact ⟨nodup_of_addFields haddFields, fun field hfield =>
      field.2.distinctKeys_toValue (hfields field hfield).2 (hn field hfield)⟩
  | group key accumulators =>
    obtain ⟨hgroup, hkey, haccumulators⟩ := (wellFormed_group key accumulators).mp hw
    rw [List.forall_mem_append, List.forall_mem_flatMap] at hn
    rw [toValue, Value.distinctKeys_entry, Value.distinctKeys_object, List.map_cons, List.map_map,
      List.forall_mem_cons, List.forall_mem_map]
    refine ⟨nodup_of_group hgroup, key.distinctKeys_toValue hkey hn.1, fun a ha => ?_⟩
    have hvalue : a.2.toValue = .entry a.2.operator.name a.2.arg.toValue := rfl
    change a.2.toValue.distinctKeys = true
    rw [hvalue, Value.distinctKeys_entry]
    exact a.2.arg.distinctKeys_toValue (haccumulators a ha)
      fun node hnode => hn.2 a ha node (List.mem_cons_of_mem _ hnode)
  | sort keys =>
    rw [wellFormed, Bool.and_eq_true] at hw
    rw [toValue, Value.distinctKeys_entry, Value.distinctKeys_object, List.map_map,
      List.forall_mem_map]
    refine ⟨nodup_of_sort hw.1, fun k _ => ?_⟩
    cases k.direction <;> rfl
  | unwind path keepEmpty =>
    cases keepEmpty with
    | false => rfl
    | true =>
      rw [toValue, Value.distinctKeys_entry, Value.distinctKeys_object]
      exact ⟨by simp, by simp [Value.distinctKeys]⟩
  | _ => rfl

end Stage

theorem Pipeline.distinctKeys_toValue (p : Pipeline) (hw : p.wellFormed = true)
    (hn : ∀ node ∈ p.nodes, node.holdsDistinctKeys) : p.toValue.distinctKeys = true := by
  rw [wellFormed, List.all_eq_true] at hw
  rw [nodes, List.forall_mem_flatMap] at hn
  rw [toValue, Value.distinctKeys_array, documents, List.forall_mem_map]
  exact fun stage hstage => stage.distinctKeys_toValue (hw stage hstage) (hn stage hstage)

end DocQuery
