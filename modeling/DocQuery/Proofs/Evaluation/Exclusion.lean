import DocQuery.Proofs.Evaluation.Projection
import DocQuery.Proofs.Pipeline.WellFormed
import DocQuery.Proofs.Value.Removal
import Mathlib.Data.List.Nodup

/-!
# Excluded paths

A projection that only drops paths removes them one after the other.  Each of them has then lost its
last field wherever the segments before it lead, except in the items of an array that they lead to;
all paths that are unrelated to the dropped ones yield what they did before.

A projection that drops paths may also keep `_id`, since that may be both kept and dropped beside
anything.  It then does not remove anything, but begins with the `_id` and adds nothing to it.

## Main results

* `reached_project_drops` — **what is still reached at dropped paths.**
* `project_drops_of_unrelated` — **what all other paths yield.**
-/

namespace DocQuery

variable {entries : List Projection}

/-! ### Only drops -/

theorem project_drops (hdrop : ∀ e ∈ entries, e.isDrop = true) (document : Value) :
    project entries document
      = .ok (document.removeAll (entries.map fun e => pathSegments e.path)) := by
  rw [project, if_pos (List.all_eq_true.mpr hdrop), Value.removeAll, List.foldl_map]
  rfl

/-- What is still reached at dropped paths of names that are no numerals.  All that is left at such
a path are fields of items of arrays that the names before the last one lead to.  If the document
has no such fields, the path is gone and does not exist any more. -/
theorem reached_project_drops (hdrop : ∀ e ∈ entries, e.isDrop = true) (document : Value) :
    ∃ output, project entries document = .ok output
      ∧ ∀ path front last, .drop path ∈ entries → pathSegments path = front ++ [last] →
        (∀ name ∈ pathSegments path, unsignedOf? name.toList = none) →
        output.reached (pathSegments path) = (itemsOfAll (output.reached front)).flatMap
            (fun item => (item.fields.lookup last).toList)
        ∧ ((∀ item ∈ itemsOfAll (document.reached front), item.fields.lookup last = none) →
          (Filter.field (.path path) (.exists true)).holds output = .ok false) := by
  refine ⟨_, project_drops hdrop document, fun path front last hmem hpath hnumeral => ?_⟩
  rw [hpath] at hnumeral ⊢
  obtain ⟨hfront, hlast⟩ := List.forall_mem_append.mp hnumeral
  have hlast : unsignedOf? last.toList = none := hlast last (List.mem_singleton_self last)
  have hremoved : front ++ [last] ∈ entries.map fun e => pathSegments e.path :=
    List.mem_map.mpr ⟨_, hmem, hpath⟩
  have hreached := (Value.lacks_removeAll hfront hremoved document).reached hlast
  refine ⟨hreached, fun hitems => ?_⟩
  have hlack : document.ItemsLack front last := hitems
  have hgone : (document.removeAll (entries.map fun e => pathSegments e.path)).reached
      (front ++ [last]) = [] := by
    rw [hreached]
    refine List.flatMap_eq_nil_iff.mpr fun item hitem => ?_
    rw [hlack.removeAll hfront _ item hitem]
    rfl
  rw [Filter.holds, Operation.holds, Target.values, hpath, hgone]
  rfl

/-- The field `c` is dropped in objects behind an array, and `t` beside it. -/
theorem reached_project_drops_nested :
    let entries : List Projection := [.drop "a.b.c", .drop "t"]
    let document : Value := .object
      [("a", .array [.object [("b", .object [("c", .int 1), ("d", .int 2)])]]), ("t", .int 3)]
    (Stage.project? entries).isOk = true
      ∧ (∀ e ∈ entries, e.isDrop = true)
      ∧ .drop "a.b.c" ∈ entries ∧ pathSegments "a.b.c" = ["a", "b"] ++ ["c"]
      ∧ (∀ name ∈ pathSegments "a.b.c", unsignedOf? name.toList = none)
      ∧ (∀ item ∈ itemsOfAll (document.reached ["a", "b"]), item.fields.lookup "c" = none)
      ∧ ∃ output, project entries document = .ok output
        ∧ (Filter.field (.path "a.b.c") (.exists true)).holds output = .ok false := by
  intro entries document
  have hdrop : ∀ e ∈ entries, e.isDrop = true := by simp [entries, Projection.isDrop]
  have hmem : .drop "a.b.c" ∈ entries := List.mem_cons_self
  have hnumeral : ∀ name ∈ pathSegments "a.b.c", unsignedOf? name.toList = none := by
    decide
  have hitems : ∀ item ∈ itemsOfAll (document.reached ["a", "b"]),
      item.fields.lookup "c" = none := List.forall_mem_nil _
  obtain ⟨output, hproject, hreached⟩ := reached_project_drops hdrop document
  exact ⟨by rfl, hdrop, hmem, by rfl, hnumeral, hitems, output, hproject,
    (hreached "a.b.c" ["a", "b"] "c" hmem (by rfl) hnumeral).2 hitems⟩

/-- The field `b` is dropped but stays in the items of the array `a`. -/
theorem reached_project_drop_ne :
    let document : Value := .object [("a", .array [.object [("b", .int 1)]])]
    (Stage.project? [.drop "a.b"]).isOk = true
      ∧ (∀ name ∈ pathSegments "a.b", unsignedOf? name.toList = none)
      ∧ project [.drop "a.b"] document = .ok document
      ∧ document.reached (pathSegments "a.b") = [.int 1]
      ∧ (Filter.field (.path "a.b") (.exists true)).holds document = .ok true := by
  exact ⟨by rfl, by decide, by rfl, by rfl, by rfl⟩

/-! ### Drops beside `_id` -/

/-- A projection that drops a path and computes none either drops all its paths or keeps `_id`. -/
theorem isDrop_or_keep_id (hok : (Stage.project? entries).isOk = true)
    (hdrop : ∃ path, path ≠ "_id" ∧ .drop path ∈ entries)
    (hcompute : ∀ path x, .compute path x ∉ entries) :
    ∀ e ∈ entries, e.isDrop = true ∨ e = .keep "_id" := by
  obtain ⟨dropped, hdropped, hmem⟩ := hdrop
  obtain ⟨-, -, -, hmixed⟩ := Stage.isOk_project?_iff.mp hok
  intro e he
  cases e with
  | drop path => exact .inl rfl
  | keep path =>
    have hpath : path = "_id" := hmixed ⟨_, hmem, hdropped, rfl⟩ _ he rfl
    exact .inr (hpath ▸ rfl)
  | compute path x => exact absurd he (hcompute path x)

/-- Beside a kept `_id`, drops do nothing: all that is left is the `_id`. -/
theorem project_keep_id (hentries : ∀ e ∈ entries, e.isDrop = true ∨ e = .keep "_id")
    (hkeep : .keep "_id" ∈ entries) (hdrop : .drop "_id" ∉ entries)
    (fields : List (String × Value)) :
    project entries (.object fields)
      = .ok (.object ((fields.lookup "_id").toList.map ("_id", ·))) := by
  have hcompute (path : String) (x : Expression) : .compute path x ∉ entries :=
    fun hmem => (hentries _ hmem).elim nofun nofun
  rw [project_eq_projected ⟨_, hkeep, rfl⟩ fun path x hmem => absurd hmem (hcompute path x),
    projected, startingId_of_notMem hdrop]
  refine congrArg Except.ok (Value.assignAll_eq_self fun a ha => ?_)
  -- what is assigned is the `_id` that is there already
  obtain ⟨e, he, hassign⟩ := mem_assignments.mp ha
  rcases hentries e he with hdropped | rfl
  · rw [(Projection.of_assignment? hassign).2] at hdropped
    cases hdropped
  · obtain ⟨id, hid, rfl⟩ := Option.map_eq_some_iff.mp hassign
    rw [pathSegments_of_notMem (by decide), Value.at?_cons_object] at hid
    obtain ⟨id', hlookup, hid⟩ := Option.bind_eq_some_iff.mp hid
    obtain rfl : id' = id := Option.some.inj hid
    have hstart : (Value.object fields).fields.lookup "_id" = some id' := hlookup
    rw [hstart, pathSegments_of_notMem (by decide)]
    rfl

/-- What a projection that drops a path other than `_id`, and computes nothing, makes of a document.
If it does not keep `_id`, all paths that are unrelated to its own ones yield what they did before,
and there is an `_id` as before unless it is dropped.  If it does keep `_id`, nothing else is
left. -/
theorem project_drops_of_unrelated (hok : (Stage.project? entries).isOk = true)
    (hdrop : ∃ path, path ≠ "_id" ∧ .drop path ∈ entries)
    (hcompute : ∀ path x, .compute path x ∉ entries) (fields : List (String × Value)) :
    ∃ output, project entries (.object fields) = .ok output
      ∧ (.keep "_id" ∉ entries →
        (∀ names, (∀ e ∈ entries, Unrelated (pathSegments e.path) names) →
          output.at? names = (Value.object fields).at? names)
        ∧ (.drop "_id" ∉ entries →
          (output.fields.lookup "_id").isSome = (fields.lookup "_id").isSome))
      ∧ (.keep "_id" ∈ entries →
        output = .object ((fields.lookup "_id").toList.map ("_id", ·))) := by
  have hentries := isDrop_or_keep_id hok hdrop hcompute
  by_cases hkeep : .keep "_id" ∈ entries
  · have hdropped : .drop "_id" ∉ entries := by
      intro hmem
      cases List.inj_on_of_nodup_map (Stage.isOk_project?_iff.mp hok).2.2.1 hkeep hmem rfl
    exact ⟨_, project_keep_id hentries hkeep hdropped fields, absurd hkeep, fun _ => rfl⟩
  · have hall : ∀ e ∈ entries, e.isDrop = true := fun e he =>
      (hentries e he).resolve_right fun heq => hkeep (heq ▸ he)
    refine ⟨_, project_drops hall _, fun _ => ⟨fun names hnames => ?_, fun hdropped => ?_⟩,
      fun h => absurd h hkeep⟩
    · exact Value.at?_removeAll_of_unrelated (List.forall_mem_map.mpr hnames) _
    · refine Value.isSome_lookup_removeAll (List.forall_mem_map.mpr fun e he hpath => ?_) _
      cases e with
      | drop path => exact hdropped (eq_of_pathSegments_eq_singleton hpath ▸ he)
      | keep path => cases hall _ he
      | compute path x => cases hall _ he

/-- Two paths are dropped, one of them inside of `_id`. -/
theorem project_drops_of_unrelated_items :
    let entries : List Projection := [.drop "a.b", .drop "_id.x"]
    let fields : List (String × Value) :=
      [("_id", .object [("x", .int 1), ("y", .int 2)]),
        ("a", .array [.object [("b", .int 1), ("c", .int 2)]])]
    (Stage.project? entries).isOk = true
      ∧ (∃ path, path ≠ "_id" ∧ .drop path ∈ entries)
      ∧ (∀ path x, .compute path x ∉ entries)
      ∧ .keep "_id" ∉ entries ∧ .drop "_id" ∉ entries
      ∧ (∀ e ∈ entries, Unrelated (pathSegments e.path) ["a", "c"])
      ∧ ∃ output, project entries (.object fields) = .ok output
        ∧ output.at? ["a", "c"] = some (.array [.int 2])
        ∧ (output.fields.lookup "_id").isSome = true := by
  intro entries fields
  have hok : (Stage.project? entries).isOk = true := by rfl
  have hdrop : ∃ path, path ≠ "_id" ∧ .drop path ∈ entries :=
    ⟨"a.b", by decide, List.mem_cons_self⟩
  have hcompute : ∀ path x, .compute path x ∉ entries := by simp [entries]
  have hkeep : .keep "_id" ∉ entries := by simp [entries]
  have hid : .drop "_id" ∉ entries := by simp [entries]
  have hunrelated : ∀ e ∈ entries, Unrelated (pathSegments e.path) ["a", "c"] := by
    decide
  obtain ⟨output, hproject, hframe, -⟩ := project_drops_of_unrelated hok hdrop hcompute fields
  obtain ⟨hother, hsome⟩ := hframe hkeep
  exact ⟨hok, hdrop, hcompute, hkeep, hid, hunrelated, output, hproject,
    hother _ hunrelated, hsome hid⟩

/-- Beside a kept `_id`, dropping `a` also loses `b`, which no entry names. -/
theorem project_drop_ne_of_keep :
    let entries : List Projection := [.drop "a", .keep "_id"]
    let document : Value := .object [("_id", .int 1), ("a", .int 1), ("b", .int 2)]
    (Stage.project? entries).isOk = true
      ∧ (∀ e ∈ entries, Unrelated (pathSegments e.path) (pathSegments "b"))
      ∧ project entries document = .ok (.object [("_id", .int 1)])
      ∧ (Value.object [("_id", .int 1)]).at? (pathSegments "b") = none
      ∧ document.at? (pathSegments "b") = some (.int 2) := by
  exact ⟨by rfl, by decide, by rfl, by rfl, by rfl⟩

end DocQuery
