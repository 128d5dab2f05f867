import DocQuery.Evaluation.Stage
import DocQuery.Proofs.Value.Preorder
import Mathlib.Data.List.Pairwise

/-!
# Groups and sets of values

Documents are put into groups, and values into sets, by looking for an equal key or value among those
that are there.  Equality in the order of values is an equivalence, so it does not matter which ones
are there already: two rows are in one group exactly if their keys are equal.

## Main definitions

* `Represents` — values that stand for all values of a list, one for each of its classes.
* `Groups` — the rows of a list by key.

## Main results

* `Value.equal_congr` — equal values are equal to the same values.
* `represents_distinct` — a set has one value of each class.
* `groups_groupRows` — **a group consists of the rows whose keys are equal to its own.**
-/

namespace DocQuery

namespace Value

variable {a b c : Value}

theorem equal_self (a : Value) : a.equal a = true :=
  equal_iff.mpr (order_self a)

theorem equal_trans (hab : a.equal b = true) (hbc : b.equal c = true) : a.equal c = true := by
  rw [equal_iff] at hab hbc ⊢
  rw [order_chains a b c (by rw [hab]; rfl) (by rw [hbc]; rfl), hab, hbc]
  rfl

theorem equal_congr (h : a.equal b = true) (c : Value) : a.equal c = b.equal c := by
  have h' : b.equal a = true := equal_comm a b ▸ h
  exact Bool.eq_iff_iff.mpr ⟨equal_trans h', equal_trans h⟩

end Value

/-- Of values that are told apart, two are the same if the values that they are equal to are equal. -/
theorem eq_iff_of_pairwise {α : Type} {key : α → Value} {xs : List α}
    (h : xs.Pairwise fun x y => (key x).equal (key y) = false) {x y : α} (hx : x ∈ xs)
    (hy : y ∈ xs) {a b : Value} (hxa : (key x).equal a = true) (hyb : (key y).equal b = true) :
    x = y ↔ a.equal b = true := by
  rw [← Value.equal_congr hxa, Value.equal_comm, ← Value.equal_congr hyb, Value.equal_comm]
  constructor
  · rintro rfl
    exact (key x).equal_self
  · intro hequal
    refine Classical.byContradiction fun hne => ?_
    have : Std.Symm fun x y : α => (key x).equal (key y) = false :=
      ⟨fun x y hxy => (Value.equal_comm (key y) (key x)).trans hxy⟩
    rw [h.forall hx hy hne] at hequal
    cases hequal

/-! ### One value for each class -/

/-- No two of the kept values are equal, and every value of the list is equal to one of them. -/
structure Represents (kept values : List Value) : Prop where
  apart : kept.Pairwise fun v w => v.equal w = false
  covers : ∀ v ∈ values, ∃ w ∈ kept, w.equal v = true

/-- The kept values with one more, unless it is equal to one of them. -/
def addDistinct (kept : List Value) (v : Value) : List Value :=
  if kept.any (·.equal v) then kept else kept ++ [v]

variable {kept values : List Value}

theorem Represents.add (h : Represents kept values) (v : Value) :
    Represents (addDistinct kept v) (values ++ [v]) := by
  rw [addDistinct]
  split
  · next hany =>
    have hfound := List.any_eq_true.mp hany
    exact ⟨h.apart, List.forall_mem_append.mpr ⟨h.covers, List.forall_mem_singleton.mpr hfound⟩⟩
  · next hany =>
    have hnew : ∀ w ∈ kept, w.equal v = false := by
      simpa only [List.any_eq_true, not_exists, not_and, Bool.not_eq_true] using hany
    refine ⟨List.pairwise_append.mpr ⟨h.apart, List.pairwise_singleton _ _, fun w hw u hu => ?_⟩,
      List.forall_mem_append.mpr ⟨fun u hu => ?_, List.forall_mem_singleton.mpr ?_⟩⟩
    · rw [List.mem_singleton.mp hu]
      exact hnew w hw
    · obtain ⟨w, hw, hequal⟩ := h.covers u hu
      exact ⟨w, List.mem_append_left _ hw, hequal⟩
    · exact ⟨v, List.mem_append_right _ List.mem_cons_self, v.equal_self⟩

theorem represents_foldl (h : Represents kept values) (more : List Value) :
    Represents (more.foldl addDistinct kept) (values ++ more) := by
  induction more generalizing kept values with
  | nil => rwa [List.append_nil]
  | cons v more ih =>
    rw [List.foldl_cons, List.append_cons]
    exact ih (h.add v)

/-- A set has one value of each class of equal ones. -/
theorem represents_distinct (values : List Value) : Represents (distinct values) values := by
  have hempty : Represents [] [] := ⟨.nil, List.forall_mem_nil _⟩
  exact represents_foldl hempty values

/-! ### Groups -/

/-- The groups have keys that stand for those of all rows, and each consists of the rows whose keys
are equal to its own, in order. -/
structure Groups (rows : List (Value × List Value)) (groups : List (Value × List (List Value))) :
    Prop where
  keys : Represents (groups.map (·.1)) (rows.map (·.1))
  members : ∀ group ∈ groups, group.2 = (rows.filter fun row => group.1.equal row.1).map (·.2)

variable {rows : List (Value × List Value)} {groups : List (Value × List (List Value))}

theorem map_fst_insertRow (row : Value × List Value) (groups : List (Value × List (List Value))) :
    (insertRow row groups).map (·.1) = addDistinct (groups.map (·.1)) row.1 := by
  induction groups with
  | nil => rfl
  | cons group groups ih =>
    obtain ⟨key, members⟩ := group
    rw [insertRow]
    split
    · next hequal => simp [addDistinct, hequal]
    · next hequal =>
      rw [List.map_cons, ih, addDistinct, addDistinct]
      simp only [List.map_cons, List.any_cons, Bool.eq_false_iff.mpr hequal, Bool.false_or]
      split <;> rfl

/-- A group is left alone, is joined by the row, or is made for it. -/
theorem mem_insertRow {row : Value × List Value} {group : Value × List (List Value)}
    (hapart : (groups.map (·.1)).Pairwise fun v w => v.equal w = false)
    (h : group ∈ insertRow row groups) :
    group ∈ groups ∧ group.1.equal row.1 = false
    ∨ (∃ members, (group.1, members) ∈ groups ∧ group.1.equal row.1 = true
        ∧ group.2 = members ++ [row.2])
    ∨ (∀ other ∈ groups, other.1.equal row.1 = false) ∧ group = (row.1, [row.2]) := by
  induction groups with
  | nil => exact .inr (.inr ⟨List.forall_mem_nil _, List.mem_singleton.mp h⟩)
  | cons first groups ih =>
    obtain ⟨key, members⟩ := first
    rw [List.map_cons, List.pairwise_cons] at hapart
    rw [insertRow] at h
    split at h
    · next hequal =>
      rcases List.mem_cons.mp h with rfl | hmem
      · exact .inr (.inl ⟨members, List.mem_cons_self, hequal, rfl⟩)
      · -- the keys further on are not equal to the one that the row is equal to
        have hother := hapart.1 _ (List.mem_map_of_mem hmem)
        rw [Value.equal_congr hequal, Value.equal_comm] at hother
        exact .inl ⟨List.mem_cons_of_mem _ hmem, hother⟩
    · next hequal =>
      have hequal := Bool.eq_false_iff.mpr hequal
      rcases List.mem_cons.mp h with rfl | hmem
      · exact .inl ⟨List.mem_cons_self, hequal⟩
      · rcases ih hapart.2 hmem with ⟨hmem, hother⟩ | ⟨members', hmem, hjoined⟩ | ⟨hnone, hnew⟩
        · exact .inl ⟨List.mem_cons_of_mem _ hmem, hother⟩
        · exact .inr (.inl ⟨members', List.mem_cons_of_mem _ hmem, hjoined⟩)
        · exact .inr (.inr ⟨List.forall_mem_cons.mpr ⟨hequal, hnone⟩, hnew⟩)

/-- A row with a key that no group has is the first one with such a key. -/
theorem Groups.filter_eq_nil (h : Groups rows groups) {key : Value}
    (hnone : ∀ group ∈ groups, group.1.equal key = false) :
    (rows.filter fun row => key.equal row.1) = [] := by
  refine List.filter_eq_nil_iff.mpr fun row hrow hequal => ?_
  obtain ⟨_, hmem, hkey⟩ := h.keys.covers _ (List.mem_map_of_mem hrow)
  obtain ⟨group, hgroup, rfl⟩ := List.mem_map.mp hmem
  rw [Value.equal_comm] at hequal
  have hfound := Value.equal_trans hkey hequal
  rw [hnone group hgroup] at hfound
  cases hfound

theorem Groups.insert (h : Groups rows groups) (row : Value × List Value) :
    Groups (rows ++ [row]) (insertRow row groups) := by
  constructor
  · rw [map_fst_insertRow, List.map_append]
    exact h.keys.add row.1
  · intro group hgroup
    rw [List.filter_append, List.map_append, List.filter_cons, List.filter_nil]
    rcases mem_insertRow h.keys.apart hgroup with
      ⟨hmem, hother⟩ | ⟨members, hmem, hequal, hjoined⟩ | ⟨hnone, rfl⟩
    · rw [if_neg (Bool.eq_false_iff.mp hother), h.members group hmem]
      exact (List.append_nil _).symm
    · rw [if_pos hequal, hjoined]
      exact congrArg (· ++ [row.2]) (h.members _ hmem)
    · rw [h.filter_eq_nil hnone, if_pos row.1.equal_self]
      rfl

theorem groups_foldl (h : Groups rows groups) (more : List (Value × List Value)) :
    Groups (rows ++ more) (more.foldl (fun groups row => insertRow row groups) groups) := by
  induction more generalizing rows groups with
  | nil => rwa [List.append_nil]
  | cons row more ih =>
    rw [List.foldl_cons, List.append_cons]
    exact ih (h.insert row)

/-- The rows by key: no two groups have equal keys, each row has a group, and a group consists of the
rows whose keys are equal to its own. -/
theorem groups_groupRows (rows : List (Value × List Value)) : Groups rows (groupRows rows) := by
  have hempty : Groups [] [] := ⟨⟨.nil, List.forall_mem_nil _⟩, List.forall_mem_nil _⟩
  exact groups_foldl hempty rows

namespace Groups

variable (h : Groups rows groups)
include h

/-- A row is in the group whose key is equal to its own. -/
theorem exists_mem {row : Value × List Value} (hrow : row ∈ rows) :
    ∃ g ∈ groups, g.1.equal row.1 = true ∧ row.2 ∈ g.2 := by
  obtain ⟨_, hmem, hequal⟩ := h.keys.covers _ (List.mem_map_of_mem hrow)
  obtain ⟨g, hg, rfl⟩ := List.mem_map.mp hmem
  refine ⟨g, hg, hequal, ?_⟩
  rw [h.members g hg]
  exact List.mem_map_of_mem (List.mem_filter.mpr ⟨hrow, hequal⟩)

end Groups

end DocQuery
