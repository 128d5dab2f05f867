import DocQuery.Proofs.Lowering.Path
import DocQuery.Proofs.Pipeline.WellFormed

/-!
# The targets of conditions and assignments

A chain of written keys becomes a path without a check of the path.  No check is needed: each key
becomes a segment that can stand between dots, and the path of such segments passes.

## Main definitions

* `IsDotted` — a path that is made of segments.

## Main results

* `IsDotted.isOk_checkPath` — such a path passes the check of paths.
* `isDotted_of_dotted?` — the path of a chain is made of segments.
* `isDotted_of_resolveField`, `Target.IsDotted.wellFormed` — so is the path of the target of a
  condition, which is well formed therefore.
* `checkPath_of_targetPath` — the path of an assignment passes every check.
-/

namespace DocQuery

/-! ### Segments -/

theorem isPathSegment_iff {name : String} :
    isPathSegment name = true
      ↔ name ≠ "" ∧ '.' ∉ name.toList ∧ startsWithDollar name = false := by
  simp [isPathSegment, containsDot, and_assoc]

/-- A numeral is a segment. -/
theorem isPathSegment_toString (n : Nat) : isPathSegment (toString n) = true := by
  rw [Nat.toString_eq_ofList_toDigits]
  have hdigit : ∀ c ∈ Nat.toDigits 10 n, c.isDigit = true :=
    fun _ => Nat.isDigit_of_mem_toDigits (by decide) (by decide)
  have hne : Nat.toDigits 10 n ≠ [] := List.ne_nil_of_length_pos Nat.length_toDigits_pos
  refine isPathSegment_iff.mpr ⟨?_, ?_, ?_⟩
  · exact fun hempty => hne (String.ofList_eq_empty_iff.mp hempty)
  · rw [String.toList_ofList]
    exact fun hdot => absurd (hdigit '.' hdot) (by decide)
  · rw [startsWithDollar, String.toList_ofList, beq_eq_false_iff_ne]
    exact fun hdollar => absurd (hdigit '$' (List.mem_of_head? hdollar)) (by decide)

theorem isPathSegment_of_segment? {key : ChainKey} {segment : String}
    (h : key.segment? = some segment) : isPathSegment segment = true := by
  cases key with
  | field name =>
    obtain ⟨hname, hsegment⟩ := Option.ite_none_right_eq_some.mp h
    cases hsegment
    exact hname
  | index n =>
    obtain ⟨hn, hsegment⟩ := Option.ite_none_right_eq_some.mp h
    obtain ⟨m, hm⟩ := Int.eq_ofNat_of_zero_le hn
    cases hsegment
    rw [hm]
    exact isPathSegment_toString m

/-! ### Paths of segments -/

/-- The path is made of segments that can stand between dots. -/
def IsDotted (path : String) : Prop :=
  ∃ segments, segments ≠ [] ∧ (∀ name ∈ segments, isPathSegment name = true) ∧
    path = dottedPath segments

theorem isDotted_of_dotted? {keys : List ChainKey} {path : String} (h : dotted? keys = some path) :
    IsDotted path := by
  obtain ⟨segments, hsegments, hpath⟩ := Option.bind_eq_some_iff.mp h
  have hall : ∀ name ∈ segments, isPathSegment name = true := by
    clear h hpath
    induction keys generalizing segments with
    | nil =>
      cases hsegments
      exact List.forall_mem_nil _
    | cons key keys ih =>
      rw [List.mapM_cons] at hsegments
      obtain ⟨first, hfirst, hsegments⟩ := Option.bind_eq_some_iff.mp hsegments
      obtain ⟨rest, hrest, hsegments⟩ := Option.bind_eq_some_iff.mp hsegments
      cases hsegments
      exact List.forall_mem_cons.mpr ⟨isPathSegment_of_segment? hfirst, ih rest hrest⟩
  cases segments with
  | nil => cases hpath
  | cons name names =>
    cases hpath
    exact ⟨name :: names, List.cons_ne_nil _ _, hall, rfl⟩

/-- A path begins as its first segment does. -/
theorem exists_toList_dottedPath (name : String) (names : List String) :
    ∃ rest, (dottedPath (name :: names)).toList = name.toList ++ rest := by
  cases names with
  | nil => exact ⟨[], by rw [dottedPath, String.intercalate_singleton, List.append_nil]⟩
  | cons next names =>
    rw [dottedPath_cons name (List.cons_ne_nil _ _), String.toList_append, String.toList_append,
      List.append_assoc]
    exact ⟨_, rfl⟩

namespace IsDotted

variable {path : String}

theorem isOk_checkPath (h : IsDotted path) (argument : String) :
    (checkPath argument path).isOk = true := by
  obtain ⟨segments, hne, hall, rfl⟩ := h
  -- how a path begins is decided by its first segment, which is not empty
  have hstart : dottedPath segments ≠ "" ∧ startsWithDollar (dottedPath segments) = false := by
    obtain ⟨name, names, rfl⟩ := List.exists_cons_of_ne_nil hne
    obtain ⟨hname, -, hdollar⟩ := isPathSegment_iff.mp (hall name List.mem_cons_self)
    obtain ⟨rest, hrest⟩ := exists_toList_dottedPath name names
    obtain ⟨c, cs, hcs⟩ : ∃ c cs, name.toList = c :: cs :=
      List.exists_cons_of_ne_nil (mt String.toList_eq_nil_iff.mp hname)
    rw [hcs, List.cons_append] at hrest
    refine ⟨fun hempty => ?_, ?_⟩
    · rw [hempty] at hrest
      cases hrest
    · rw [startsWithDollar, hcs] at hdollar
      rwa [startsWithDollar, hrest]
  refine isOk_checkPath_iff.mpr ⟨hstart.1, hstart.2, ?_⟩
  · rw [pathSegments_of_segments hne hall]
    exact fun name hname => (isPathSegment_iff.mp (hall name hname)).1

/-- A path is made of segments also with one more. -/
theorem concat (h : IsDotted path) {name : String} (hname : isPathSegment name = true) :
    IsDotted (path ++ "." ++ name) := by
  obtain ⟨segments, hne, hall, rfl⟩ := h
  refine ⟨segments ++ [name], List.append_ne_nil_of_left_ne_nil hne _, ?_,
    (dottedPath_concat hne name).symm⟩
  exact List.forall_mem_append.mpr ⟨hall, List.forall_mem_singleton.mpr hname⟩

end IsDotted

/-! ### Targets -/

/-- The path of a target is made of segments, if it has one. -/
def Target.IsDotted (target : Target) : Prop :=
  ∀ path, target = .path path → DocQuery.IsDotted path

theorem isDotted_of_resolveField {scope : Scope} {e : Expr} {target : Target}
    (h : resolveField scope e = some target) : target.IsDotted := by
  rintro path rfl
  unfold resolveField at h
  split at h
  · obtain ⟨path, hpath, h⟩ := Option.map_eq_some_iff.mp h
    cases h
    exact isDotted_of_dotted? hpath
  · cases h
  · obtain ⟨path, hpath, h⟩ := Option.map_eq_some_iff.mp h
    cases h
    exact isDotted_of_dotted? hpath
  · cases h

theorem Target.IsDotted.wellFormed {target : Target} (h : target.IsDotted) :
    target.wellFormed = true := by
  cases target with
  | element => rfl
  | path path =>
    rw [Target.wellFormed_path]
    exact (h path rfl).isOk_checkPath "path"

/-! ### Assignments -/

theorem isDotted_of_targetPath {e : Expr} {path : String} (h : targetPath e = .ok path) :
    IsDotted path := by
  unfold targetPath at h
  split at h
  · split at h
    · cases h
    · split at h
      · next hpath =>
        cases h
        exact isDotted_of_dotted? hpath
      · cases h
  · cases h

/-- The path of an assignment passes every check of paths. -/
theorem checkPath_of_targetPath {e : Expr} {path : String} (h : targetPath e = .ok path)
    (argument : String) : checkPath argument path = .ok () := by
  have hok := (isDotted_of_targetPath h).isOk_checkPath argument
  cases hcheck : checkPath argument path with
  | ok _ => rfl
  | error e =>
    rw [hcheck] at hok
    cases hok

end DocQuery
