import DocQuery.Evaluation.Stage
import DocQuery.Proofs.Value.Path

/-!
# Assigned paths

A path that is assigned in a document is found there afterwards: whatever stood in the way of its
segments has been replaced by objects.  A path that parts from it yields what it did before, unless
an array stood where both paths pass; then it yields nothing, because the array is gone.

## Main definitions

* `Unrelated` — paths of which neither leads on from the other.
* `Value.MeetsArray` — an array stands where two paths both pass.
* `Value.assignAll` — a value with paths assigned one after the other.

## Main results

* `lookup_putField`, `lookup_putField_of_ne` — the entries after one has been put into an object.
* `Value.at?_set`, `Value.at?_assign` — **what is assigned at a path is read there.**
* `Value.at?_set_of_unrelated`, `Value.at?_set_of_meetsArray` — what an unrelated path yields then.
* `Value.at?_assignAll_of_mem`, `Value.at?_assignAll_eq_iff` — **the same for assignments one after
  the other.**
-/

namespace DocQuery

/-! ### Segments -/

theorem splitAtChar_ne_nil (sep : Char) (cs : List Char) : Text.splitAtChar sep cs ≠ [] := by
  cases cs with
  | nil => exact List.cons_ne_nil _ _
  | cons c cs =>
    rw [Text.splitAtChar]
    split
    · exact List.cons_ne_nil _ _
    · split <;> exact List.cons_ne_nil _ _

/-- Even the empty path has a segment. -/
theorem pathSegments_ne_nil (path : String) : pathSegments path ≠ [] :=
  mt List.map_eq_nil_iff.mp (splitAtChar_ne_nil _ _)

/-- A path without dots is one segment. -/
theorem pathSegments_of_notMem {path : String} (h : '.' ∉ path.toList) :
    pathSegments path = [path] := by
  rw [pathSegments, splitAtChar_of_notMem h, List.map_singleton, String.ofList_toList]

theorem eq_of_splitAtChar_eq_singleton {sep : Char} {cs piece : List Char}
    (h : Text.splitAtChar sep cs = [piece]) : cs = piece := by
  induction cs generalizing piece with
  | nil => exact (List.cons.inj h).1
  | cons c cs ih =>
    rw [Text.splitAtChar] at h
    split at h
    · exact absurd (List.cons.inj h).2 (splitAtChar_ne_nil _ _)
    · split at h
      · next hnil => exact absurd hnil (splitAtChar_ne_nil _ _)
      · next first rest hsplit =>
        obtain ⟨rfl, rfl⟩ := List.cons.inj h
        rw [ih hsplit]

/-- The only path with one segment is that segment. -/
theorem eq_of_pathSegments_eq_singleton {path name : String} (h : pathSegments path = [name]) :
    path = name := by
  obtain ⟨piece, hsplit, rfl⟩ := List.map_eq_singleton_iff.mp h
  rw [← eq_of_splitAtChar_eq_singleton hsplit, String.ofList_toList]

/-! ### Unrelated paths -/

/-- The paths part at some segment, so that neither leads on from the other. -/
inductive Unrelated : List String → List String → Prop where
  /-- They part at the first segment. -/
  | head {segment segment' : String} (h : segment ≠ segment') (rest rest' : List String) :
    Unrelated (segment :: rest) (segment' :: rest')
  /-- They part further on. -/
  | tail (segment : String) {rest rest' : List String} (h : Unrelated rest rest') :
    Unrelated (segment :: rest) (segment :: rest')

section Unrelated

variable {p q front : List String}

theorem unrelated_iff : Unrelated p q ↔ ¬ p <+: q ∧ ¬ q <+: p := by
  constructor
  · intro h
    induction h with
    | head h rest rest' =>
      exact ⟨fun hp => h (List.cons_prefix_cons.mp hp).1,
        fun hq => h (List.cons_prefix_cons.mp hq).1.symm⟩
    | tail segment _ ih =>
      exact ⟨fun hp => ih.1 (List.cons_prefix_cons.mp hp).2,
        fun hq => ih.2 (List.cons_prefix_cons.mp hq).2⟩
  · rintro ⟨hp, hq⟩
    induction p generalizing q with
    | nil => exact absurd List.nil_prefix hp
    | cons segment rest ih =>
      cases q with
      | nil => exact absurd List.nil_prefix hq
      | cons segment' rest' =>
        by_cases h : segment = segment'
        · subst h
          exact .tail segment (ih (fun h => hp (List.cons_prefix_cons.mpr ⟨rfl, h⟩))
            fun h => hq (List.cons_prefix_cons.mpr ⟨rfl, h⟩))
        · exact .head h rest rest'

instance (p q : List String) : Decidable (Unrelated p q) :=
  decidable_of_iff _ unrelated_iff.symm

theorem Unrelated.symm (h : Unrelated p q) : Unrelated q p :=
  unrelated_iff.mpr (unrelated_iff.mp h).symm

theorem Unrelated.append (front : List String) (h : Unrelated p q) :
    Unrelated (front ++ p) (front ++ q) := by
  induction front with
  | nil => exact h
  | cons segment front ih => exact .tail segment ih

theorem Unrelated.ne_nil (h : Unrelated p q) : q ≠ [] := by
  cases h <;> exact List.cons_ne_nil _ _

/-- A part of the way along a path is a part of the way along the other one, or unrelated to it. -/
theorem Unrelated.isPrefix_or (h : Unrelated p q) (hfront : front <+: q) :
    front <+: p ∨ Unrelated p front := by
  by_cases hp : front <+: p
  · exact .inl hp
  · exact .inr (unrelated_iff.mpr ⟨fun h' => (unrelated_iff.mp h).1 (h'.trans hfront), hp⟩)

/-- Where the ways of two unrelated paths still agree, neither of them has come to its end. -/
theorem Unrelated.ne_of_isPrefix (h : Unrelated p q) (hfront : front <+: q) : front ≠ p :=
  fun heq => (unrelated_iff.mp h).1 (heq ▸ hfront)

end Unrelated

/-! ### Entries of an object -/

theorem lookup_putField {α : Type} (key : String) (value : α) (fields : List (String × α)) :
    (putField key value fields).lookup key = some value := by
  induction fields with
  | nil => exact List.lookup_cons_self
  | cons entry fields ih =>
    obtain ⟨name, old⟩ := entry
    by_cases hname : name = key
    · rw [putField, if_pos hname, List.lookup_cons_self]
    · rw [putField, if_neg hname, List.lookup_cons, beq_false_of_ne (Ne.symm hname)]
      exact ih

theorem lookup_putField_of_ne {α : Type} {key other : String} (h : other ≠ key) (value : α)
    (fields : List (String × α)) :
    (putField key value fields).lookup other = fields.lookup other := by
  induction fields with
  | nil => rw [putField, List.lookup_cons, beq_false_of_ne h]
  | cons entry fields ih =>
    obtain ⟨name, old⟩ := entry
    by_cases hname : name = key
    · rw [putField, if_pos hname, List.lookup_cons, List.lookup_cons, hname, beq_false_of_ne h]
    · rw [putField, if_neg hname, List.lookup_cons, List.lookup_cons, ih]

namespace Value

theorem at?_cons_object (segment : String) (segments : List String)
    (fields : List (String × Value)) :
    (object fields).at? (segment :: segments)
      = (fields.lookup segment).bind (at? segments) := by
  rw [at?, down?]
  rfl

/-- What is assigned at a path is read there, whatever the path led to before. -/
theorem at?_set (new : Value) (segments : List String) (document : Value) :
    (set new segments document).at? segments = some new := by
  induction segments generalizing document with
  | nil => rw [set, at?]
  | cons segment segments ih =>
    rw [set, at?_cons_object, lookup_putField, Option.bind_some]
    exact ih _

theorem at?_assign (document : Value) (path : String) (new : Value) :
    (document.assign path new).at? (pathSegments path) = some new :=
  at?_set new (pathSegments path) document

/-! ### The way to an assigned path -/

theorem follow_empty_ne (names : List String) (items : List Value) :
    (object []).follow names ≠ some (array items) := by
  cases names with
  | nil => nofun
  | cons name names => nofun

theorem at?_empty {names : List String} (h : names ≠ []) : (object []).at? names = none := by
  obtain ⟨name, rest, rfl⟩ := List.exists_cons_of_ne_nil h
  rw [at?_cons_object]
  rfl

/-- An assignment leaves nothing but objects on its way. -/
theorem isStraight_set (new : Value) (names : List String) (v : Value) :
    (set new names v).IsStraight names := by
  induction names generalizing v with
  | nil => exact isStraight_nil _
  | cons name names ih =>
    refine isStraight_cons_iff.mpr ⟨nofun, fun u hu => ?_⟩
    have hchild := (lookup_putField _ _ _).symm.trans hu
    exact Option.some.inj hchild ▸ ih _

/-- Whatever other names lead to from object to object stays as it is. -/
theorem follow_set_of_unrelated {p q : List String} (h : Unrelated p q) (new v : Value) :
    (set new p v).follow q = v.follow q := by
  induction h generalizing v with
  | head hne rest rest' =>
    rw [set, follow_cons, follow_cons]
    exact congrArg (Option.bind · _) (lookup_putField_of_ne hne.symm _ _)
  | tail segment h ih =>
    rw [set, follow_cons, follow_cons]
    refine (congrArg (Option.bind · _) (lookup_putField _ _ _)).trans ?_
    rw [Option.bind_some, ih]
    cases v.fields.lookup segment with
    | some u => rfl
    | none =>
      obtain ⟨name, rest, hq⟩ := List.exists_cons_of_ne_nil h.ne_nil
      rw [hq]
      rfl

/-- An array stands where both paths pass. -/
def MeetsArray (v : Value) (p q : List String) : Prop :=
  ∃ front items, front <+: p ∧ front <+: q ∧ v.follow front = some (.array items)

section MeetsArray

variable {v : Value} {p p' q : List String}

theorem meetsArray_cons_iff {segment segment' : String} :
    v.MeetsArray (segment :: p) (segment' :: q)
      ↔ (∃ items, v = .array items)
        ∨ segment = segment' ∧ ∃ u, v.fields.lookup segment = some u ∧ u.MeetsArray p q := by
  constructor
  · rintro ⟨front, items, hp, hq, hfollow⟩
    cases front with
    | nil => exact .inl ⟨items, Option.some.inj hfollow⟩
    | cons first front =>
      obtain ⟨rfl, hrest⟩ := List.cons_prefix_cons.mp hp
      obtain ⟨rfl, hrest'⟩ := List.cons_prefix_cons.mp hq
      obtain ⟨u, hu, hnext⟩ := Option.bind_eq_some_iff.mp hfollow
      exact .inr ⟨rfl, u, hu, front, items, hrest, hrest', hnext⟩
  · rintro (⟨items, rfl⟩ | ⟨rfl, u, hu, front, items, hp, hq, hfollow⟩)
    · exact ⟨[], items, List.nil_prefix, List.nil_prefix, rfl⟩
    · refine ⟨segment :: front, items, List.cons_prefix_cons.mpr ⟨rfl, hp⟩,
        List.cons_prefix_cons.mpr ⟨rfl, hq⟩, ?_⟩
      rw [follow_cons, hu]
      exact hfollow

theorem not_meetsArray_empty : ¬ (object []).MeetsArray p q :=
  fun ⟨front, items, _, _, hfollow⟩ => follow_empty_ne front items hfollow

/-- No array stands on the way of both paths if none stands on the way of one. -/
theorem IsStraight.not_meetsArray (h : v.IsStraight q) (hpq : Unrelated p q) :
    ¬ v.MeetsArray p q :=
  fun ⟨front, items, hp, hq, hfollow⟩ =>
    h front hq (hpq.symm.ne_of_isPrefix hp) items hfollow

/-- A path that parts from an assigned one yields what it did before, if no array stands where both
pass. -/
theorem at?_set_of_unrelated (h : Unrelated p q) (new : Value) (hclear : ¬ v.MeetsArray p q) :
    (set new p v).at? q = v.at? q := by
  -- along the common part of the paths there are objects, or new ones in which `q` finds nothing
  induction h generalizing v with
  | head hne rest rest' =>
    have hv (items : List Value) : v ≠ .array items :=
      fun hv => hclear (meetsArray_cons_iff.mpr (.inl ⟨items, hv⟩))
    rw [set, at?_cons_object, lookup_putField_of_ne hne.symm, at?, down?_of_not_array hv]
  | tail segment h ih =>
    have hv (items : List Value) : v ≠ .array items :=
      fun hv => hclear (meetsArray_cons_iff.mpr (.inl ⟨items, hv⟩))
    rw [set, at?_cons_object, lookup_putField, Option.bind_some, at?, down?_of_not_array hv]
    cases hchild : v.fields.lookup segment with
    | some u =>
      exact ih fun hmeet => hclear (meetsArray_cons_iff.mpr (.inr ⟨rfl, u, hchild, hmeet⟩))
    | none => exact (ih not_meetsArray_empty).trans (at?_empty h.ne_nil)

/-- A path that parts from an assigned one behind an array yields nothing: an object has taken the
place of the array. -/
theorem at?_set_of_meetsArray (h : Unrelated p q) (new : Value) (hmeet : v.MeetsArray p q) :
    (set new p v).at? q = none := by
  induction h generalizing v with
  | head hne rest rest' =>
    rcases meetsArray_cons_iff.mp hmeet with ⟨items, rfl⟩ | ⟨heq, -⟩
    · rw [set, at?_cons_object, lookup_putField_of_ne hne.symm]
      rfl
    · exact absurd heq hne
  | tail segment h ih =>
    rw [set, at?_cons_object, lookup_putField, Option.bind_some]
    rcases meetsArray_cons_iff.mp hmeet with ⟨items, rfl⟩ | ⟨-, u, hu, hmeet⟩
    · exact (at?_set_of_unrelated h new not_meetsArray_empty).trans (at?_empty h.ne_nil)
    · rw [hu]
      exact ih hmeet

/-- An assignment puts no array where a path parts from the assigned one. -/
theorem MeetsArray.of_set {new : Value} (h : Unrelated p q)
    (hmeet : (set new p v).MeetsArray p' q) : v.MeetsArray p' q := by
  obtain ⟨front, items, hp', hq, hfollow⟩ := hmeet
  rcases h.isPrefix_or hq with hfront | hfront
  · exact absurd hfollow (isStraight_set new p v front hfront (h.ne_of_isPrefix hq) items)
  · rw [follow_set_of_unrelated hfront] at hfollow
    exact ⟨front, items, hp', hq, hfollow⟩

/-- An assignment takes away no array but those on its own way. -/
theorem MeetsArray.set (hmeet : v.MeetsArray p' q) (h : Unrelated p q) (new : Value)
    (hclear : ¬ v.MeetsArray p q) : (set new p v).MeetsArray p' q := by
  obtain ⟨front, items, hp', hq, hfollow⟩ := hmeet
  rcases h.isPrefix_or hq with hfront | hfront
  · exact absurd ⟨front, items, hfront, hq, hfollow⟩ hclear
  · exact ⟨front, items, hp', hq, (follow_set_of_unrelated hfront new v).trans hfollow⟩

end MeetsArray

/-! ### Assignments one after the other -/

/-- The value with paths assigned one after the other. -/
def assignAll (assignments : List (List String × Value)) (v : Value) : Value :=
  assignments.foldl (fun v a => set a.2 a.1 v) v

@[simp] theorem assignAll_nil (v : Value) : assignAll [] v = v := rfl

@[simp] theorem assignAll_cons (a : List String × Value) (assignments : List (List String × Value))
    (v : Value) : assignAll (a :: assignments) v = assignAll assignments (set a.2 a.1 v) := rfl

section AssignAll

variable {as : List (List String × Value)} {v : Value} {q : List String}

/-- Assignments that change nothing one by one change nothing together. -/
theorem assignAll_eq_self (h : ∀ a ∈ as, set a.2 a.1 v = v) : assignAll as v = v :=
  List.foldlRecOn as _ (motive := fun w => w = v) rfl fun w hw a ha => by rw [hw, h a ha]

theorem at?_assignAll_eq_none (h : ∀ a ∈ as, Unrelated a.1 q) (hnone : v.at? q = none) :
    (assignAll as v).at? q = none := by
  refine List.foldlRecOn as _ (motive := fun w : Value => w.at? q = none) hnone
    fun w hw a ha => ?_
  by_cases hmeet : w.MeetsArray a.1 q
  · exact at?_set_of_meetsArray (h a ha) a.2 hmeet
  · exact (at?_set_of_unrelated (h a ha) a.2 hmeet).trans hw

theorem at?_assignAll_of_unrelated (h : ∀ a ∈ as, Unrelated a.1 q)
    (hclear : ∀ a ∈ as, ¬ v.MeetsArray a.1 q) : (assignAll as v).at? q = v.at? q := by
  induction as generalizing v with
  | nil => rfl
  | cons a as ih =>
    obtain ⟨ha, has⟩ := List.forall_mem_cons.mp h
    obtain ⟨hclear, hclears⟩ := List.forall_mem_cons.mp hclear
    rw [assignAll_cons, ih has fun b hb hmeet => hclears b hb (hmeet.of_set ha)]
    exact at?_set_of_unrelated ha a.2 hclear

/-- Each of some assignments to unrelated paths is read where it was made. -/
theorem at?_assignAll_of_mem (hpaths : as.Pairwise fun a b => Unrelated a.1 b.1)
    {a : List String × Value} (ha : a ∈ as) : (assignAll as v).at? a.1 = some a.2 := by
  induction as generalizing v with
  | nil => cases ha
  | cons b as ih =>
    obtain ⟨hb, hpaths⟩ := List.pairwise_cons.mp hpaths
    rcases List.mem_cons.mp ha with rfl | ha
    · -- the later paths part from this one, which now leads through objects only
      have hlater : ∀ c ∈ as, Unrelated c.1 a.1 := fun c hc => (hb c hc).symm
      rw [assignAll_cons, at?_assignAll_of_unrelated hlater fun c hc =>
        (isStraight_set a.2 a.1 v).not_meetsArray (hlater c hc)]
      exact at?_set a.2 a.1 v
    · exact ih hpaths ha

end AssignAll

end Value

end DocQuery
