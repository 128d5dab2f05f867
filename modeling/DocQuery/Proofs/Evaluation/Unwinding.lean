import DocQuery.Proofs.Evaluation.Partition
import DocQuery.Proofs.Value.Assignment

/-!
# Unwinding and grouping again

Unwinding a field makes a document of each item of its array, all with the `_id` of the document
they come from.  Grouping them by `_id` and collecting the field puts the arrays together again.

## Main definitions

* `HasItems` — the document has an `_id` and items.
* `unwoundPairs` — all items with the `_id`s of their documents.

## Main results

* `map_unwound` — what grouping reads in the unwound documents.
* `firsts_unwoundPairs`, `filter_unwoundPairs` — the `_id`s that grouping finds, and the items that it
  collects for each of them.
* `Pipeline.run_unwind_group` — **unwinding and grouping again loses nothing.**
-/

namespace DocQuery

open Expression (field)

/-! ### Unwound documents -/

/-- The document has an `_id`, and an array of items, at least one, in a field. -/
structure HasItems (name : String) (document id : Value) (items : List Value) : Prop where
  lookup_id : document.fields.lookup "_id" = some id
  lookup_items : document.fields.lookup name = some (.array items)
  ne_nil : items ≠ []

/-- All items, each with the `_id` of the document it comes from. -/
def unwoundPairs (rows : List (Value × List Value)) : List (Value × Value) :=
  rows.flatMap fun row => row.2.map (row.1, ·)

@[simp] theorem unwoundPairs_nil : unwoundPairs [] = [] := rfl

@[simp] theorem unwoundPairs_cons (row : Value × List Value) (rows : List (Value × List Value)) :
    unwoundPairs (row :: rows) = row.2.map (row.1, ·) ++ unwoundPairs rows := rfl

section Unwound

variable {name : String} {document id : Value} {items : List Value}

/-- A field of the document is what a path of one segment leads to. -/
theorem atPath_of_lookup {value : Value} (hname : '.' ∉ name.toList)
    (h : document.fields.lookup name = some value) : document.atPath name = value := by
  cases document with
  | object fields =>
    rw [Value.fields] at h
    rw [Value.atPath, pathSegments_of_notMem hname, Value.at?_cons_object, h]
    rfl
  | _ => cases h

theorem fields_assign (hname : '.' ∉ name.toList) (value : Value) :
    (document.assign name value).fields = putField name value document.fields := by
  rw [Value.assign, pathSegments_of_notMem hname]
  rfl

theorem unwindDocument_of_hasItems (hname : '.' ∉ name.toList)
    (h : HasItems name document id items) (keepEmpty : Bool) :
    unwindDocument name keepEmpty document = items.map (document.assign name ·) := by
  rw [unwindDocument, atPath_of_lookup hname h.lookup_items]
  cases items with
  | nil => exact absurd rfl h.ne_nil
  | cons item items => rfl

/-- The document of an item keeps the `_id` and shows the item in place of the array. -/
theorem valueOn_assign (hname : '.' ∉ name.toList) (hne : name ≠ "_id")
    (h : HasItems name document id items) (item : Value) :
    (field none "_id").valueOn (document.assign name item) = id
      ∧ (field none name).valueOn (document.assign name item) = item := by
  have hid : (document.assign name item).fields.lookup "_id" = some id := by
    rw [fields_assign hname, lookup_putField_of_ne hne.symm, h.lookup_id]
  have hitem : (document.assign name item).fields.lookup name = some item := by
    rw [fields_assign hname, lookup_putField]
  exact ⟨atPath_of_lookup (by decide) hid, atPath_of_lookup hname hitem⟩

/-- What grouping reads in the unwound documents. -/
theorem map_unwound {documents : List Value} {rows : List (Value × List Value)}
    (hname : '.' ∉ name.toList) (hne : name ≠ "_id")
    (h : List.Forall₂ (fun d row => HasItems name d row.1 row.2) documents rows)
    (keepEmpty : Bool) :
    (documents.flatMap (unwindDocument name keepEmpty)).map
        (fun d => ((field none "_id").valueOn d, (field none name).valueOn d))
      = unwoundPairs rows := by
  induction h with
  | nil => rfl
  | @cons d row documents rows hd _ ih =>
    rw [List.flatMap_cons, List.map_append, ih, unwindDocument_of_hasItems hname hd, List.map_map,
      unwoundPairs_cons]
    refine congrArg (· ++ unwoundPairs rows) (List.map_congr_left fun item _ => ?_)
    obtain ⟨hid, hitem⟩ := valueOn_assign hname hne hd item
    exact Prod.ext hid hitem

end Unwound

/-! ### Grouping the items -/

section Pairs

variable {before : List Value} {rows : List (Value × List Value)}

/-- Repeated values add nothing to those that are kept once one of them is. -/
theorem firsts_append_of_any {v : Value} (h : before.any (·.equal v) = true)
    (items more : List Value) :
    ∃ before', (∀ u ∈ before', u ∈ v :: before)
      ∧ firsts before (items.map (fun _ => v) ++ more) = firsts before' more := by
  induction items generalizing before with
  | nil => exact ⟨before, fun _ => List.mem_cons_of_mem v, rfl⟩
  | cons _ items ih =>
    have hany : (v :: before).any (·.equal v) = true := by rw [List.any_cons, h, Bool.or_true]
    obtain ⟨before', hmem, hfirsts⟩ := ih hany
    refine ⟨before', fun u hu => ?_, ?_⟩
    · simpa using hmem u hu
    · rw [List.map_cons, List.cons_append, firsts_cons_of_any h, hfirsts]

/-- The `_id`s that grouping finds are those of the documents. -/
theorem firsts_unwoundPairs (hitems : ∀ row ∈ rows, row.2 ≠ [])
    (hids : rows.Pairwise fun row row' => row.1.equal row'.1 = false)
    (hbefore : ∀ u ∈ before, ∀ row ∈ rows, u.equal row.1 = false) :
    firsts before ((unwoundPairs rows).map (·.1)) = rows.map (·.1) := by
  induction rows generalizing before with
  | nil => rfl
  | cons row rows ih =>
    obtain ⟨id, items⟩ := row
    obtain ⟨hfirst, hrest⟩ := List.forall_mem_cons.mp hitems
    obtain ⟨hid, hapart⟩ := List.pairwise_cons.mp hids
    obtain ⟨item, items, rfl⟩ := List.exists_cons_of_ne_nil hfirst
    have hnone : before.any (·.equal id) = false :=
      List.any_eq_false.mpr fun u hu => by
        rw [hbefore u hu _ List.mem_cons_self]
        exact Bool.false_ne_true
    -- the first item brings in the `_id`, the others of the document only repeat it
    have hany : (id :: before).any (·.equal id) = true := by
      rw [List.any_cons, id.equal_self, Bool.true_or]
    obtain ⟨before', hmem, hfirsts⟩ :=
      firsts_append_of_any hany items ((unwoundPairs rows).map (·.1))
    have hbefore' : ∀ u ∈ before', ∀ row ∈ rows, u.equal row.1 = false := by
      intro u hu row hrow
      have hu : u = id ∨ u ∈ before := by simpa using hmem u hu
      rcases hu with rfl | hu
      · exact hid row hrow
      · exact hbefore u hu row (List.mem_cons_of_mem _ hrow)
    have hkeys : (unwoundPairs ((id, item :: items) :: rows)).map (·.1)
        = id :: (items.map (fun _ => id) ++ (unwoundPairs rows).map (·.1)) := by
      rw [unwoundPairs_cons, List.map_append, List.map_map]
      rfl
    rw [hkeys, firsts_cons_of_not_any hnone, hfirsts, ih hrest hapart hbefore', List.map_cons]

theorem filter_unwoundPairs_eq_nil {id : Value}
    (h : ∀ row ∈ rows, id.equal row.1 = false) :
    (unwoundPairs rows).filter (fun pair => id.equal pair.1) = [] := by
  refine List.filter_eq_nil_iff.mpr fun pair hpair => ?_
  obtain ⟨row, hrow, hmem⟩ := List.mem_flatMap.mp hpair
  obtain ⟨_, _, rfl⟩ := List.mem_map.mp hmem
  rw [h row hrow]
  exact Bool.false_ne_true

/-- The items that grouping collects for an `_id` are those of its document. -/
theorem filter_unwoundPairs
    (hids : rows.Pairwise fun row row' => row.1.equal row'.1 = false)
    {row : Value × List Value} (hrow : row ∈ rows) :
    (unwoundPairs rows).filter (fun pair => row.1.equal pair.1) = row.2.map (row.1, ·) := by
  have hall (row : Value × List Value) :
      (row.2.map (row.1, ·)).filter (fun pair => row.1.equal pair.1) = row.2.map (row.1, ·) :=
    List.filter_eq_self.mpr (List.forall_mem_map.mpr fun _ _ => row.1.equal_self)
  induction rows with
  | nil => cases hrow
  | cons first rows ih =>
    obtain ⟨hfirst, hids⟩ := List.pairwise_cons.mp hids
    rw [unwoundPairs_cons, List.filter_append]
    rcases List.mem_cons.mp hrow with rfl | hmem
    · rw [hall, filter_unwoundPairs_eq_nil hfirst, List.append_nil]
    · have hnone : (first.2.map (first.1, ·)).filter (fun pair => row.1.equal pair.1) = [] := by
        refine List.filter_eq_nil_iff.mpr (List.forall_mem_map.mpr fun _ _ => ?_)
        rw [Value.equal_comm, hfirst row hmem]
        exact Bool.false_ne_true
      rw [hnone, List.nil_append, ih hids hmem]

end Pairs

/-! ### The round trip -/

section RoundTrip

variable {name : String} {documents : List Value} {rows : List (Value × List Value)}

/-- The `_id`s that grouping finds in the unwound documents are those of the documents. -/
theorem firsts_unwound (hname : '.' ∉ name.toList) (hne : name ≠ "_id")
    (hrows : List.Forall₂ (fun d row => HasItems name d row.1 row.2) documents rows)
    (hids : rows.Pairwise fun row row' => row.1.equal row'.1 = false) (keepEmpty : Bool) :
    firsts [] ((documents.flatMap (unwindDocument name keepEmpty)).map
      (field none "_id").valueOn) = rows.map (·.1) := by
  have hitems : ∀ row ∈ rows, row.2 ≠ [] :=
    forall_mem_of_forall₂ hrows fun _ _ hd => hd.ne_nil
  rw [← firsts_unwoundPairs hitems hids (fun _ h => absurd h List.not_mem_nil),
    ← map_unwound hname hne hrows keepEmpty, List.map_map]
  rfl

/-- The items that grouping collects from the unwound documents are those of the document with the
`_id`. -/
theorem map_peers_unwound (hname : '.' ∉ name.toList) (hne : name ≠ "_id")
    (hrows : List.Forall₂ (fun d row => HasItems name d row.1 row.2) documents rows)
    (hids : rows.Pairwise fun row row' => row.1.equal row'.1 = false) (keepEmpty : Bool)
    {row : Value × List Value} (hrow : row ∈ rows) :
    ((field none "_id").peers (documents.flatMap (unwindDocument name keepEmpty)) row.1).map
      (field none name).valueOn = row.2 := by
  calc ((field none "_id").peers (documents.flatMap (unwindDocument name keepEmpty)) row.1).map
        (field none name).valueOn
      = ((unwoundPairs rows).filter fun pair => row.1.equal pair.1).map (·.2) := by
        rw [← map_unwound hname hne hrows keepEmpty, List.filter_map, List.map_map]
        rfl
    _ = (row.2.map (row.1, ·)).map (·.2) := by rw [filter_unwoundPairs hids hrow]
    _ = row.2 := by rw [List.map_map]; exact List.map_id _

/-- **Unwinding a field and grouping by `_id` again loses nothing**, if the `_id`s tell the documents
apart and each has items: there is one document for each, in order, with its `_id` and all its
items, in order. -/
theorem Pipeline.run_unwind_group (hname : '.' ∉ name.toList) (hne : name ≠ "_id")
    (hrows : List.Forall₂ (fun d row => HasItems name d row.1 row.2) documents rows)
    (hids : rows.Pairwise fun row row' => row.1.equal row'.1 = false) (keepEmpty : Bool) :
    (Pipeline.mk [.unwind name keepEmpty,
        .group (field none "_id") [(name, ⟨.push, field none name⟩)]]).run documents
      = .ok (rows.map fun row => .object [("_id", row.1), (name, .array row.2)]) := by
  let unwound := documents.flatMap (unwindDocument name keepEmpty)
  let accumulators : List (String × AccumulatorExpression) := [(name, ⟨.push, field none name⟩)]
  have hgroup : ∀ row ∈ rows, groupDocument accumulators row.1
      ((field none "_id").peers unwound row.1)
        = .ok (.object [("_id", row.1), (name, .array row.2)]) := by
    intro row hrow
    conv_rhs => rw [← map_peers_unwound hname hne hrows hids keepEmpty hrow]
    rfl
  have hargs : ∀ d ∈ unwound, ∀ a ∈ accumulators, a.2.arg.EvaluatesOn d := by
    intro d _ a ha
    obtain rfl := List.mem_singleton.mp ha
    exact ⟨_, rfl⟩
  calc (Pipeline.mk [.unwind name keepEmpty, .group (field none "_id") accumulators]).run documents
      = groupDocuments (field none "_id") accumulators unwound := by
        rw [run, List.foldlM_cons, Stage.run, ok_bind, List.foldlM_cons]
        exact bind_pure _
    _ = (rows.map (·.1)).mapM fun id =>
          groupDocument accumulators id ((field none "_id").peers unwound id) := by
        rw [groupDocuments_eq (fun _ _ => ⟨_, rfl⟩) hargs,
          firsts_unwound hname hne hrows hids keepEmpty]
    _ = .ok (rows.map fun row => .object [("_id", row.1), (name, .array row.2)]) :=
        mapM_eq_ok_iff.mpr (List.forall₂_map_left_iff.mpr (List.forall₂_map_right_iff.mpr
          (List.forall₂_same.mpr hgroup)))

end RoundTrip

/-- Null and nested arrays come back as they were, under `_id`s that are not in order. -/
theorem Pipeline.run_unwind_group_nested :
    let first : List Value := [.null, .array [.int 1, .array []], .int 2, .null]
    let second : List Value := [.array [.null]]
    let documents : List Value := [
      .object [("_id", .int 7), ("xs", .array first), ("y", .int 0)],
      .object [("xs", .array second), ("_id", .object [("_id", .int 7)])]]
    (Pipeline.mk [.unwind "xs" false,
        .group (field none "_id") [("xs", ⟨.push, field none "xs"⟩)]]).run documents
      = .ok [.object [("_id", .int 7), ("xs", .array first)],
          .object [("_id", .object [("_id", .int 7)]), ("xs", .array second)]] := by
  intro first second documents
  have hrows : List.Forall₂ (fun d row => HasItems "xs" d row.1 row.2) documents
      [(Value.int 7, first), (Value.object [("_id", .int 7)], second)] :=
    .cons ⟨rfl, rfl, List.cons_ne_nil _ _⟩ (.cons ⟨rfl, rfl, List.cons_ne_nil _ _⟩ .nil)
  exact run_unwind_group (by decide) (by decide) hrows (by simp; rfl) false

end DocQuery
