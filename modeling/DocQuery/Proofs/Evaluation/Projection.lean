import DocQuery.Proofs.Outcome
import DocQuery.Proofs.Value.Assignment
import Mathlib.Data.List.Pairwise

/-!
# Kept and computed fields

A projection that keeps a path copies what the path yields in the document, if it yields anything;
one that computes the path assigns it whatever the expression has for its value.  So a projection
that names several paths is a list of assignments, made in what it begins with: an empty object, or
one that holds the `_id` of the document.

## Main definitions

* `Projection.assignment?`, `assignments` — what the entries of a projection assign.

## Main results

* `project_keep`, `project_compute` — the projections to one path.
* `project_keep_eq_iff` — **when keeping a path is the same as computing it.**
* `foldlM_contribute` — the entries are assigned one after the other.
* `project_of_unrelated` — **a projection to unrelated paths has exactly these paths.**
-/

namespace DocQuery

/-- A projection begins with an empty object or with the `_id` of the document. -/
theorem startingId_cases (entries : List Projection) (document : Value) :
    startingId entries document = .object [] ∨ ∃ id, document.fields.lookup "_id" = some id
      ∧ startingId entries document = .object [("_id", id)] := by
  unfold startingId
  cases document.fields.lookup "_id" with
  | none => exact .inl rfl
  | some id =>
    dsimp only
    split
    · exact .inl rfl
    · exact .inr ⟨id, rfl, rfl⟩

/-- Wherever a path leads in what a projection begins with, it leads in the document. -/
theorem at?_of_startingId {entries : List Projection} {document v : Value}
    {segments : List String} (hne : segments ≠ [])
    (h : (startingId entries document).at? segments = some v) : document.at? segments = some v := by
  obtain ⟨segment, rest, rfl⟩ := List.exists_cons_of_ne_nil hne
  rcases startingId_cases entries document with hstart | ⟨id, hid, hstart⟩
  · rw [hstart, Value.at?_cons_object] at h
    cases h
  · rw [hstart, Value.at?_cons_object, List.lookup_cons] at h
    by_cases hsegment : segment = "_id"
    · rw [hsegment, BEq.rfl] at h
      cases document with
      | object fields =>
        rw [hsegment, Value.at?_cons_object]
        exact (congrArg (Option.bind · _) hid).trans h
      | _ => cases hid
    · rw [beq_false_of_ne hsegment] at h
      cases h

theorem any_isDrop_id_iff {entries : List Projection} :
    (entries.any fun e => e.isDrop && e.path = "_id") = true ↔ .drop "_id" ∈ entries := by
  rw [List.any_eq_true]
  constructor
  · rintro ⟨e, he, htest⟩
    cases e with
    | drop path =>
      have hpath : path = "_id" := of_decide_eq_true htest
      exact hpath ▸ he
    | keep path => cases htest
    | compute path x => cases htest
  · exact fun he => ⟨_, he, rfl⟩

theorem startingId_of_mem {entries : List Projection} (h : .drop "_id" ∈ entries)
    (document : Value) : startingId entries document = .object [] := by
  unfold startingId
  rw [any_isDrop_id_iff.mpr h]
  cases document.fields.lookup "_id" <;> rfl

theorem startingId_of_notMem {entries : List Projection} (h : .drop "_id" ∉ entries)
    (document : Value) : startingId entries document
      = .object ((document.fields.lookup "_id").toList.map ("_id", ·)) := by
  unfold startingId
  rw [Bool.eq_false_iff.mpr (mt any_isDrop_id_iff.mp h)]
  cases document.fields.lookup "_id" <;> rfl

/-- Unless it is dropped, the `_id` is there from the beginning. -/
theorem at?_startingId {entries : List Projection} (h : .drop "_id" ∉ entries)
    (fields : List (String × Value)) (names : List String) :
    (startingId entries (.object fields)).at? ("_id" :: names)
      = (Value.object fields).at? ("_id" :: names) := by
  rw [startingId_of_notMem h, Value.at?_cons_object, Value.at?_cons_object, Value.fields]
  cases fields.lookup "_id" <;> rfl

/-- Nothing but the `_id` is there from the beginning. -/
theorem at?_startingId_of_unrelated {entries : List Projection} {names : List String}
    (hne : names ≠ []) (h : .drop "_id" ∉ entries → Unrelated ["_id"] names) (document : Value) :
    (startingId entries document).at? names = none := by
  by_cases hdrop : .drop "_id" ∈ entries
  · rw [startingId_of_mem hdrop]
    exact Value.at?_empty hne
  · rw [startingId_of_notMem hdrop]
    cases h hdrop with
    | head hsegment rest rest' =>
      rw [Value.at?_cons_object]
      cases document.fields.lookup "_id" with
      | none => rfl
      | some id =>
        rw [Option.toList_some, List.map_singleton, List.lookup_cons,
          beq_false_of_ne hsegment.symm]
        rfl
    | tail _ hrest => cases hrest

/-! ### One path -/

section One

variable {path : String} {e : Expression} {document v : Value}

theorem project_keep (path : String) (document : Value) :
    project [.keep path] document
      = .ok (match document.at? (pathSegments path) with
        | some value => (startingId [] document).assign path value
        | none => startingId [] document) := by
  show Projection.contribute document (startingId [] document) (.keep path) >>= pure = _
  rw [bind_pure, Projection.contribute]
  cases document.at? (pathSegments path) <;> rfl

theorem project_compute (path : String) (h : e.evalOn document = .ok v) :
    project [.compute path e] document = .ok ((startingId [] document).assign path v) := by
  show Projection.contribute document (startingId [] document) (.compute path e) >>= pure = _
  rw [Projection.contribute, h]
  rfl

/-- When keeping a path is the same as computing it: the path has to yield the value that is
computed. -/
theorem project_keep_eq_iff (h : e.evalOn document = .ok v) :
    project [.keep path] document = project [.compute path e] document
      ↔ document.at? (pathSegments path) = some v := by
  rw [project_keep, project_compute path h, Except.ok.injEq]
  constructor
  · intro heq
    -- what is computed stands in the output, and what is kept comes from the document
    have hread := congrArg (Value.at? (pathSegments path)) heq
    rw [Value.at?_assign] at hread
    cases hpath : document.at? (pathSegments path) with
    | some value =>
      rw [hpath] at hread
      exact (Value.at?_assign _ _ _).symm.trans hread
    | none =>
      rw [hpath] at hread
      exact hpath.symm.trans (at?_of_startingId (pathSegments_ne_nil path) hread)
  · intro hpath
    rw [hpath]

end One

/-! ### Several paths -/

/-- What an entry of a projection assigns: its path, and the value that is put there.  A path to be
kept that yields nothing is not assigned. -/
def Projection.assignment? (document : Value) : Projection → Option (List String × Value)
  | .keep path => (document.at? (pathSegments path)).map (pathSegments path, ·)
  | .drop _ => none
  | .compute path e => (e.evalOn document).toOption.map (pathSegments path, ·)

/-- What the entries of a projection assign, in order. -/
def assignments (entries : List Projection) (document : Value) : List (List String × Value) :=
  entries.filterMap (·.assignment? document)

section Several

variable {entries : List Projection} {document : Value} {a : List String × Value}

theorem mem_assignments :
    a ∈ assignments entries document ↔ ∃ e ∈ entries, e.assignment? document = some a :=
  List.mem_filterMap

/-- Whatever is assigned is assigned to the path of an entry that does not drop it. -/
theorem Projection.of_assignment? {e : Projection} (h : e.assignment? document = some a) :
    a.1 = pathSegments e.path ∧ e.isDrop = false := by
  cases e with
  | keep path =>
    obtain ⟨v, -, rfl⟩ := Option.map_eq_some_iff.mp h
    exact ⟨rfl, rfl⟩
  | drop path => cases h
  | compute path x =>
    obtain ⟨v, -, rfl⟩ := Option.map_eq_some_iff.mp h
    exact ⟨rfl, rfl⟩

theorem pairwise_assignments (document : Value)
    (h : entries.Pairwise fun e e' => Unrelated (pathSegments e.path) (pathSegments e'.path)) :
    (assignments entries document).Pairwise fun a b => Unrelated a.1 b.1 := by
  refine List.pairwise_filterMap.mpr (h.imp fun hpaths a ha b hb => ?_)
  rw [(Projection.of_assignment? ha).1, (Projection.of_assignment? hb).1]
  exact hpaths

theorem Projection.contribute_eq {e : Projection}
    (heval : ∀ path x, e = .compute path x → ∃ v, x.evalOn document = .ok v) (output : Value) :
    e.contribute document output
      = .ok (output.assignAll (e.assignment? document).toList) := by
  cases e with
  | keep path =>
    rw [contribute, assignment?]
    cases document.at? (pathSegments path) <;> rfl
  | drop path => rfl
  | compute path x =>
    obtain ⟨v, hv⟩ := heval path x rfl
    rw [contribute, assignment?, hv]
    rfl

/-- The entries of a projection are assigned one after the other. -/
theorem foldlM_contribute
    (heval : ∀ path x, .compute path x ∈ entries → ∃ v, x.evalOn document = .ok v)
    (start : Value) :
    entries.foldlM (fun output e => e.contribute document output) start
      = .ok (start.assignAll (assignments entries document)) := by
  induction entries generalizing start with
  | nil => rfl
  | cons e entries ih =>
    have he : ∀ path x, e = .compute path x → ∃ v, x.evalOn document = .ok v :=
      fun path x hx => heval path x (hx ▸ List.mem_cons_self)
    rw [List.foldlM_cons, Projection.contribute_eq he, ok_bind,
      ih fun path x hx => heval path x (List.mem_cons_of_mem e hx), assignments, assignments,
      List.filterMap_cons]
    cases e.assignment? document <;> rfl

/-- What a projection that names paths makes of a document, if all its values can be computed. -/
def projected (entries : List Projection) (document : Value) : Value :=
  (startingId entries document).assignAll (assignments entries document)

theorem project_eq_projected (hnames : ∃ e ∈ entries, e.isDrop = false)
    (heval : ∀ path x, .compute path x ∈ entries → ∃ v, x.evalOn document = .ok v) :
    project entries document = .ok (projected entries document) := by
  have hall : entries.all (·.isDrop) = false := by simpa using hnames
  rw [project, hall]
  exact foldlM_contribute heval _

/-- A path that parts from all paths that are named yields nothing. -/
theorem at?_projected_of_unrelated {names : List String} (hne : names ≠ [])
    (hpaths : ∀ a ∈ assignments entries document, Unrelated a.1 names)
    (hid : .drop "_id" ∉ entries → Unrelated ["_id"] names) :
    (projected entries document).at? names = none :=
  Value.at?_assignAll_eq_none hpaths (at?_startingId_of_unrelated hne hid document)

section Pairwise

variable (hpaths : entries.Pairwise fun e e' =>
  Unrelated (pathSegments e.path) (pathSegments e'.path))

include hpaths

theorem at?_projected_of_mem (ha : a ∈ assignments entries document) :
    (projected entries document).at? a.1 = some a.2 :=
  Value.at?_assignAll_of_mem (pairwise_assignments document hpaths) ha

theorem at?_projected_compute {path : String} {x : Expression} {v : Value}
    (hmem : .compute path x ∈ entries) (hv : x.evalOn document = .ok v) :
    (projected entries document).at? (pathSegments path) = some v := by
  have hassign : (Projection.compute path x).assignment? document
      = some (pathSegments path, v) := by
    rw [Projection.assignment?, hv]
    rfl
  exact at?_projected_of_mem hpaths (mem_assignments.mpr ⟨_, hmem, hassign⟩)

theorem at?_projected_keep {path : String} (hmem : .keep path ∈ entries) :
    (projected entries document).at? (pathSegments path) = document.at? (pathSegments path) := by
  cases hvalue : document.at? (pathSegments path) with
  | some v =>
    have hassign : (Projection.keep path).assignment? document = some (pathSegments path, v) := by
      rw [Projection.assignment?, hvalue]
      rfl
    exact at?_projected_of_mem hpaths (mem_assignments.mpr ⟨_, hmem, hassign⟩)
  | none =>
    -- the entry assigns nothing, so what is assigned belongs to other entries
    refine Value.at?_assignAll_eq_none (fun a ha => ?_) ?_
    · obtain ⟨e, he, hassign⟩ := mem_assignments.mp ha
      have hne : e ≠ .keep path := by
        rintro rfl
        rw [Projection.assignment?, hvalue] at hassign
        cases hassign
      have : Std.Symm fun e e' : Projection =>
          Unrelated (pathSegments e.path) (pathSegments e'.path) := ⟨fun _ _ h => h.symm⟩
      rw [(Projection.of_assignment? hassign).1]
      exact hpaths.forall he hmem hne
    · refine Option.eq_none_iff_forall_ne_some.mpr fun v hv => ?_
      rw [at?_of_startingId (pathSegments_ne_nil path) hv] at hvalue
      cases hvalue

end Pairwise

/-- A path other than `_id` that does not lead into it. -/
theorem unrelated_id {path : String} (hpath : path ≠ "_id")
    (hid : ["_id"] <+: pathSegments path → path = "_id") :
    Unrelated ["_id"] (pathSegments path) := by
  obtain ⟨segment, rest, hsegments⟩ := List.exists_cons_of_ne_nil (pathSegments_ne_nil path)
  rw [hsegments] at hid ⊢
  refine .head (fun hsegment => hpath (hid ?_)) [] rest
  exact List.cons_prefix_cons.mpr ⟨hsegment, List.nil_prefix⟩

/-- The `_id` stays as it is if no entry names it and none leads into it. -/
theorem at?_projected_id {fields : List (String × Value)} (hdrop : .drop "_id" ∉ entries)
    (hnames : ∀ e ∈ entries, e.path ≠ "_id")
    (hid : ∀ e ∈ entries, ["_id"] <+: pathSegments e.path → e.path = "_id") :
    (projected entries (.object fields)).at? ["_id"] = (Value.object fields).at? ["_id"] := by
  have hother : ∀ a ∈ assignments entries (.object fields), Unrelated a.1 ["_id"] := by
    intro a ha
    obtain ⟨e, he, hassign⟩ := mem_assignments.mp ha
    rw [(Projection.of_assignment? hassign).1]
    exact (unrelated_id (hnames e he) (hid e he)).symm
  have hstraight : (startingId entries (.object fields)).IsStraight ["_id"] := by
    rw [startingId_of_notMem hdrop]
    exact Value.isStraight_cons_iff.mpr ⟨nofun, fun u _ => Value.isStraight_nil u⟩
  rw [projected, Value.at?_assignAll_of_unrelated hother fun a ha =>
    hstraight.not_meetsArray (hother a ha)]
  exact at?_startingId hdrop fields []

/-- A projection that names unrelated paths, none of them inside of `_id`, has exactly these paths:
those to be kept yield what they do in the document, those to be computed have the values that are
computed, and the `_id` stays as it is if it is neither dropped nor computed.  No other path yields
anything. -/
theorem project_of_unrelated {fields : List (String × Value)}
    (hnames : ∃ e ∈ entries, e.isDrop = false)
    (hpaths : entries.Pairwise fun e e' => Unrelated (pathSegments e.path) (pathSegments e'.path))
    (hid : ∀ e ∈ entries, ["_id"] <+: pathSegments e.path → e.path = "_id")
    (heval : ∀ path x, .compute path x ∈ entries → ∃ v, x.evalOn (.object fields) = .ok v) :
    ∃ output, project entries (.object fields) = .ok output
      ∧ (∀ path, .keep path ∈ entries →
        output.at? (pathSegments path) = (Value.object fields).at? (pathSegments path))
      ∧ (∀ path x v, .compute path x ∈ entries → x.evalOn (.object fields) = .ok v →
        output.at? (pathSegments path) = some v)
      ∧ (.drop "_id" ∉ entries → (∀ x, .compute "_id" x ∉ entries) →
        output.at? ["_id"] = (Value.object fields).at? ["_id"])
      ∧ ∀ names, (∀ e ∈ entries, e.isDrop = false → Unrelated (pathSegments e.path) names) →
        (.drop "_id" ∉ entries → Unrelated ["_id"] names) → output.at? names = none := by
  refine ⟨projected entries (.object fields), project_eq_projected hnames heval,
    fun path hmem => at?_projected_keep hpaths hmem,
    fun path x v hmem hv => at?_projected_compute hpaths hmem hv, ?_, ?_⟩
  · intro hdrop hcompute
    by_cases hkeep : .keep "_id" ∈ entries
    · exact at?_projected_keep hpaths hkeep
    · refine at?_projected_id hdrop (fun e he hpath => ?_) hid
      cases e with
      | keep path => exact hkeep (hpath ▸ he)
      | drop path => exact hdrop (hpath ▸ he)
      | compute path x => exact hcompute x (hpath ▸ he)
  · intro names hentries hidnames
    obtain ⟨e, he, hnamed⟩ := hnames
    refine at?_projected_of_unrelated (hentries e he hnamed).ne_nil (fun a ha => ?_) hidnames
    obtain ⟨e', he', hassign⟩ := mem_assignments.mp ha
    obtain ⟨hpath, hnamed'⟩ := Projection.of_assignment? hassign
    exact hpath ▸ hentries e' he' hnamed'

/-- Fields of items are gathered, a missing path is left out, and a path is computed beside them. -/
theorem project_of_unrelated_items :
    let entries : List Projection := [.keep "a.b", .compute "n.m" (.field none "a"), .keep "x.y"]
    let items : List Value := [.object [("b", .int 1), ("c", .int 2)]]
    let fields : List (String × Value) := [("_id", .int 7), ("a", .array items), ("x", .int 3)]
    (Stage.project? entries).isOk = true
      ∧ (∃ e ∈ entries, e.isDrop = false)
      ∧ (entries.Pairwise fun e e' => Unrelated (pathSegments e.path) (pathSegments e'.path))
      ∧ (∀ e ∈ entries, ["_id"] <+: pathSegments e.path → e.path = "_id")
      ∧ (∀ path x, .compute path x ∈ entries → ∃ v, x.evalOn (.object fields) = .ok v)
      ∧ ∃ output, project entries (.object fields) = .ok output
        ∧ output.at? ["a", "b"] = some (.array [.int 1])
        ∧ output.at? ["n", "m"] = some (.array items) ∧ output.at? ["x", "y"] = none
        ∧ output.at? ["_id"] = some (.int 7) ∧ output.at? ["a", "c"] = none := by
  intro entries items fields
  have hnames : ∃ e ∈ entries, e.isDrop = false := ⟨_, List.mem_cons_self, rfl⟩
  have hpaths : entries.Pairwise fun e e' =>
      Unrelated (pathSegments e.path) (pathSegments e'.path) := by decide
  have hid : ∀ e ∈ entries, ["_id"] <+: pathSegments e.path → e.path = "_id" := by decide
  have heval : ∀ path x, .compute path x ∈ entries → ∃ v, x.evalOn (.object fields) = .ok v := by
    intro path x hmem
    obtain ⟨rfl, rfl⟩ : path = "n.m" ∧ x = .field none "a" := by simpa [entries] using hmem
    exact ⟨_, rfl⟩
  obtain ⟨output, hproject, hkeep, hcompute, hsame, habsent⟩ :=
    project_of_unrelated hnames hpaths hid heval
  refine ⟨by rfl, hnames, hpaths, hid, heval, output, hproject, ?_, ?_, ?_, ?_, ?_⟩
  · exact hkeep "a.b" (by simp [entries])
  · exact hcompute "n.m" (.field none "a") (.array items) (by simp [entries]) rfl
  · exact hkeep "x.y" (by simp [entries])
  · exact hsame (by simp [entries]) (by simp [entries])
  · exact habsent _ (by decide) fun _ => by decide

end Several

end DocQuery
