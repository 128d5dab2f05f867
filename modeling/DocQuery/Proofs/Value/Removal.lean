import DocQuery.Proofs.Pipeline.Induction
import DocQuery.Proofs.Value.Assignment

/-!
# Removed paths

The last field of a removed path is taken away from the objects that the segments before it reach,
arrays on the way being entered.  Nothing else changes: unrelated paths yield what they did before,
and what names reach afterwards is what they reached before, less some fields.

An array that the segments before the last one reach is not entered any more: it is left as it is,
its items included.

## Main definitions

* `Value.removeAll` — a value with paths removed one after the other.
* `Value.Lacks`, `Value.ItemsLack` — a field is missing in what names reach, or in the items of the
  arrays that they reach.

## Main results

* `Value.at?_remove_of_unrelated`, `Value.at?_removeAll_of_unrelated` — **an unrelated path yields
  what it did before.**
* `Value.reached_remove` — what the segments before the last one reach afterwards.
* `Value.exists_mem_reached_of_remove` — whatever is reached after a removal was reached before it.
* `Value.lacks_removeAll` — **each of some removed paths has lost its last field.**
-/

namespace DocQuery

/-! ### Entries of an object -/

theorem lookup_eraseField {α : Type} (key : String) (fields : List (String × α)) :
    (eraseField key fields).lookup key = none := by
  refine List.lookup_eq_none_iff.mpr fun field hfield => ?_
  have hkept := (List.mem_filter.mp hfield).2
  exact bne_comm.trans hkept

theorem lookup_eraseField_of_ne {α : Type} {key other : String} (h : other ≠ key)
    (fields : List (String × α)) : (eraseField key fields).lookup other = fields.lookup other := by
  induction fields with
  | nil => rfl
  | cons entry fields ih =>
    obtain ⟨name, value⟩ := entry
    rw [eraseField] at ih ⊢
    by_cases hname : name = key
    · rw [List.filter_cons_of_neg (by simpa using hname), ih, List.lookup_cons, hname,
        beq_false_of_ne h]
    · rw [List.filter_cons_of_pos (by simpa using hname), List.lookup_cons, List.lookup_cons, ih]

/-- The values under the key change, and no names do. -/
theorem modifyField_eq_map {α : Type} (key : String) (f : α → α) (fields : List (String × α)) :
    modifyField key f fields
      = fields.map fun entry => (entry.1, if entry.1 = key then f entry.2 else entry.2) := by
  refine List.map_congr_left fun entry _ => ?_
  dsimp only
  split <;> rfl

/-- Where names stay, the value that is found is the one that was found, changed. -/
theorem lookup_map_value {α : Type} (g : String → α → α) (key : String)
    (fields : List (String × α)) :
    (fields.map fun entry => (entry.1, g entry.1 entry.2)).lookup key
      = (fields.lookup key).map (g key) := by
  induction fields with
  | nil => rfl
  | cons entry fields ih =>
    rw [List.map_cons, List.lookup_cons, List.lookup_cons, ih]
    split
    · next hkey => rw [beq_iff_eq.mp hkey, Option.map_some]
    · rfl

theorem lookup_modifyField {α : Type} (key : String) (f : α → α) (fields : List (String × α)) :
    (modifyField key f fields).lookup key = (fields.lookup key).map f := by
  rw [modifyField_eq_map, lookup_map_value fun name value => if name = key then f value else value]
  simp only [if_true]

theorem lookup_modifyField_of_ne {α : Type} {key other : String} (h : other ≠ key) (f : α → α)
    (fields : List (String × α)) :
    (modifyField key f fields).lookup other = fields.lookup other := by
  rw [modifyField_eq_map, lookup_map_value fun name value => if name = key then f value else value]
  simp only [if_neg h, Option.map_id']

namespace Value

variable {segment other : String}

/-! ### Items of an array -/

theorem modifyAll_eq_map (segment : String) (f : Value → Value) (items : List Value) :
    modifyAll segment f items = items.map (modify segment f) := by
  induction items with
  | nil => rfl
  | cons item items ih => rw [modifyAll, ih, List.map_cons]

theorem downAll_eq_filterMap (segment : String) (next : Value → Option Value)
    (items : List Value) : downAll segment next items = items.filterMap (down? segment next) := by
  induction items with
  | nil => rfl
  | cons item items ih =>
    rw [downAll, List.filterMap_cons]
    cases down? segment next item with
    | none => exact ih
    | some value => exact congrArg _ ih

theorem modify_array (segment : String) (f : Value → Value) (items : List Value) :
    (array items).modify segment f = array (items.map (modify segment f)) := by
  rw [modify, modifyAll_eq_map]

theorem down?_array (segment : String) (next : Value → Option Value) (items : List Value) :
    (array items).down? segment next = some (array (items.filterMap (down? segment next))) := by
  rw [down?, downAll_eq_filterMap]

theorem modify_object (segment : String) (f : Value → Value) (fields : List (String × Value)) :
    (object fields).modify segment f = object (modifyField segment f fields) := by
  rw [modify]

/-- Only the fields of an object change. -/
theorem fields_modify (segment : String) (f : Value → Value) (v : Value) :
    (v.modify segment f).fields = modifyField segment f v.fields := by
  cases v with
  | object fields => rw [modify_object]; rfl
  | array items => rw [modify_array]; rfl
  | _ => simp [modify, fields, modifyField]

@[simp] theorem remove_nil (v : Value) : v.remove [] = v := by
  rw [remove]

theorem remove_cons {rest : List String} (h : rest ≠ []) (segment : String) (v : Value) :
    v.remove (segment :: rest) = v.modify segment (remove rest) := by
  obtain ⟨next, rest, rfl⟩ := List.exists_cons_of_ne_nil h
  rw [remove]

/-! ### What expressions read -/

theorem down?_modify (segment : String) (f : Value → Value) (next : Value → Option Value)
    (v : Value) :
    (v.modify segment f).down? segment next = v.down? segment fun u => next (f u) := by
  -- both enter the arrays in an array, so the items are looked at one by one
  induction v using Value.induction with
  | object fields _ =>
    rw [modify_object, down?, down?, lookup_modifyField]
    cases fields.lookup segment <;> rfl
  | array items ih =>
    rw [modify_array, down?_array, down?_array, List.filterMap_map]
    exact congrArg (fun found => some (array found)) (List.filterMap_congr ih)
  | _ => simp [modify, down?]

theorem down?_modify_of_ne (h : other ≠ segment) (f : Value → Value)
    (next : Value → Option Value) (v : Value) :
    (v.modify segment f).down? other next = v.down? other next := by
  induction v using Value.induction with
  | object fields _ => rw [modify_object, down?, down?, lookup_modifyField_of_ne h]
  | array items ih =>
    rw [modify_array, down?_array, down?_array, List.filterMap_map]
    exact congrArg (fun found => some (array found)) (List.filterMap_congr ih)
  | _ => simp [modify]

/-- A path that parts from a removed one yields what it did before. -/
theorem at?_remove_of_unrelated {p q : List String} (h : Unrelated p q) (v : Value) :
    (v.remove p).at? q = v.at? q := by
  -- along the common part of the paths, what is removed further on is not looked at
  induction h generalizing v with
  | @head first second hne rest rest' =>
    rw [at?, at?]
    by_cases hrest : rest = []
    · subst hrest
      cases v with
      | object fields => rw [remove, down?, down?, lookup_eraseField_of_ne hne.symm]
      | _ => rfl
    · rw [remove_cons hrest, down?_modify_of_ne hne.symm]
  | tail first h ih =>
    rw [at?, at?, remove_cons h.symm.ne_nil, down?_modify]
    exact congrArg (down? first · v) (funext ih)

/-! ### What conditions read -/

/-- One step from an array by a name that is no numeral. -/
theorem step_array (hnumeral : unsignedOf? segment.toList = none) (items : List Value) :
    (array items).step segment
      = items.flatMap fun item => (item.fields.lookup segment).toList := by
  rw [step, hnumeral]
  rfl

theorem step_modify (hnumeral : unsignedOf? segment.toList = none) (f : Value → Value)
    (v : Value) : (v.modify segment f).step segment = (v.step segment).map f := by
  cases v with
  | object fields =>
    rw [modify_object, step, step, lookup_modifyField]
    cases fields.lookup segment <;> rfl
  | array items =>
    rw [modify_array, step_array hnumeral, step_array hnumeral, List.flatMap_map, List.map_flatMap]
    refine congrArg (List.flatMap · items) (funext fun item => ?_)
    rw [fields_modify, lookup_modifyField]
    cases item.fields.lookup segment <;> rfl
  | _ => simp [modify, step]

theorem step_modify_of_ne (hnumeral : unsignedOf? other.toList = none) (h : other ≠ segment)
    (f : Value → Value) (v : Value) : (v.modify segment f).step other = v.step other := by
  cases v with
  | object fields => rw [modify_object, step, step, lookup_modifyField_of_ne h]
  | array items =>
    rw [modify_array, step_array hnumeral, step_array hnumeral, List.flatMap_map]
    refine congrArg (List.flatMap · items) (funext fun item => ?_)
    rw [fields_modify, lookup_modifyField_of_ne h]
  | _ => simp [modify]

/-- The names before the last one of a removed path reach what they did before, each without the
last field. -/
theorem reached_remove {front : List String} (last : String)
    (hnumeral : ∀ name ∈ front, unsignedOf? name.toList = none) (v : Value) :
    (v.remove (front ++ [last])).reached front = (v.reached front).map (remove [last]) := by
  induction front generalizing v with
  | nil => rfl
  | cons name front ih =>
    obtain ⟨hname, hfront⟩ := List.forall_mem_cons.mp hnumeral
    have hne : front ++ [last] ≠ [] := List.append_ne_nil_of_right_ne_nil _ (List.cons_ne_nil _ _)
    rw [List.cons_append, remove_cons hne, reached, step_modify hname, List.flatMap_map, reached,
      List.map_flatMap]
    exact congrArg (List.flatMap · (v.step name)) (funext (ih hfront))

/-- Whatever is one step away after a removal was so before it, less what a path of its own takes
away. -/
theorem exists_mem_step_of_remove {p : List String} {v w : Value}
    (hnumeral : unsignedOf? other.toList = none) (hw : w ∈ (v.remove p).step other) :
    ∃ rest, ∃ w' ∈ v.step other, w = w'.remove rest := by
  rcases p with _ | ⟨segment, _ | ⟨next, rest⟩⟩
  · rw [remove_nil] at hw
    exact ⟨[], w, hw, (remove_nil w).symm⟩
  · -- the field itself is taken away from an object, and all else stays
    cases v with
    | object fields =>
      by_cases h : other = segment
      · rw [remove, step, h, lookup_eraseField] at hw
        cases hw
      · rw [remove, step, lookup_eraseField_of_ne h] at hw
        exact ⟨[], w, hw, (remove_nil w).symm⟩
    | _ => exact ⟨[], w, hw, (remove_nil w).symm⟩
  · rw [remove] at hw
    by_cases h : other = segment
    · subst h
      rw [step_modify hnumeral] at hw
      obtain ⟨w', hw', rfl⟩ := List.mem_map.mp hw
      exact ⟨next :: rest, w', hw', rfl⟩
    · rw [step_modify_of_ne hnumeral h] at hw
      exact ⟨[], w, hw, (remove_nil w).symm⟩

/-- Whatever names reach after a removal they reached before it, less what a path of its own takes
away. -/
theorem exists_mem_reached_of_remove {names p : List String} {v u : Value}
    (hnumeral : ∀ name ∈ names, unsignedOf? name.toList = none)
    (hu : u ∈ (v.remove p).reached names) :
    ∃ rest, ∃ u' ∈ v.reached names, u = u'.remove rest := by
  induction names generalizing v p with
  | nil => exact ⟨p, v, List.mem_singleton_self v, List.mem_singleton.mp hu⟩
  | cons name names ih =>
    obtain ⟨hname, hnames⟩ := List.forall_mem_cons.mp hnumeral
    obtain ⟨w, hw, hu⟩ := List.mem_flatMap.mp hu
    obtain ⟨rest, w', hw', rfl⟩ := exists_mem_step_of_remove hname hw
    obtain ⟨rest', u', hu', rfl⟩ := ih hnames hu
    exact ⟨rest', u', List.mem_flatMap.mpr ⟨w', hw', hu'⟩, rfl⟩

/-! ### Fields and items of what is left -/

theorem lookup_remove_singleton (key : String) (v : Value) :
    (v.remove [key]).fields.lookup key = none := by
  cases v with
  | object fields => exact lookup_eraseField key fields
  | _ => rfl

/-- A field stays, if perhaps with less in it, unless it is the one that is removed. -/
theorem isSome_lookup_remove {p : List String} {key : String} (h : p ≠ [key]) (v : Value) :
    ((v.remove p).fields.lookup key).isSome = (v.fields.lookup key).isSome := by
  rcases p with _ | ⟨segment, _ | ⟨next, rest⟩⟩
  · rw [remove]
  · have hne : key ≠ segment := fun heq => h (heq ▸ rfl)
    cases v with
    | object fields => exact congrArg Option.isSome (lookup_eraseField_of_ne hne fields)
    | _ => rfl
  · rw [remove, fields_modify]
    by_cases hkey : key = segment
    · rw [hkey, lookup_modifyField, Option.isSome_map]
    · rw [lookup_modifyField_of_ne hkey]

/-- A removal adds no field. -/
theorem lookup_remove_eq_none {key : String} {v : Value} (h : v.fields.lookup key = none)
    (p : List String) : (v.remove p).fields.lookup key = none := by
  by_cases hp : p = [key]
  · rw [hp]
    exact lookup_remove_singleton key v
  · rw [← Option.isNone_iff_eq_none, ← Option.not_isSome, isSome_lookup_remove hp, h]
    rfl

theorem items_modify (segment : String) (f : Value → Value) (v : Value) :
    (v.modify segment f).items = v.items.map (modify segment f) := by
  cases v with
  | array items => rw [modify_array]; rfl
  | _ => simp [modify, items]

theorem items_remove_singleton (key : String) (v : Value) :
    (v.remove [key]).items = v.items := by
  cases v <;> rfl

/-- The items of an array stay, if perhaps with less in them. -/
theorem exists_mem_items_of_remove {p : List String} {v item : Value}
    (h : item ∈ (v.remove p).items) : ∃ rest, ∃ item' ∈ v.items, item = item'.remove rest := by
  rcases p with _ | ⟨segment, _ | ⟨next, rest⟩⟩
  · rw [remove_nil] at h
    exact ⟨[], item, h, (remove_nil item).symm⟩
  · -- the last segment does not enter an array
    rw [items_remove_singleton] at h
    exact ⟨[], item, h, (remove_nil item).symm⟩
  · rw [remove, items_modify] at h
    obtain ⟨item', hitem', rfl⟩ := List.mem_map.mp h
    exact ⟨segment :: next :: rest, item', hitem', by rw [remove]⟩

/-! ### Removals one after the other -/

/-- The value with paths removed one after the other. -/
def removeAll (paths : List (List String)) (v : Value) : Value :=
  paths.foldl (fun v p => v.remove p) v

@[simp] theorem removeAll_nil (v : Value) : v.removeAll [] = v := rfl

@[simp] theorem removeAll_cons (p : List String) (paths : List (List String)) (v : Value) :
    v.removeAll (p :: paths) = (v.remove p).removeAll paths := rfl

/-- No value that the front reaches has the last field. -/
def Lacks (front : List String) (last : String) (v : Value) : Prop :=
  ∀ u ∈ v.reached front, u.fields.lookup last = none

/-- No item of an array that the front reaches has the last field. -/
def ItemsLack (front : List String) (last : String) (v : Value) : Prop :=
  ∀ item ∈ itemsOfAll (v.reached front), item.fields.lookup last = none

section RemoveAll

variable {paths : List (List String)} {front : List String} {last : String} {v : Value}

theorem at?_removeAll_of_unrelated {q : List String} (h : ∀ p ∈ paths, Unrelated p q) (v : Value) :
    (v.removeAll paths).at? q = v.at? q :=
  List.foldlRecOn paths _ (motive := fun w => w.at? q = v.at? q) rfl fun w hw p hp =>
    (at?_remove_of_unrelated (h p hp) w).trans hw

theorem isSome_lookup_removeAll {key : String} (h : ∀ p ∈ paths, p ≠ [key]) (v : Value) :
    ((v.removeAll paths).fields.lookup key).isSome = (v.fields.lookup key).isSome :=
  List.foldlRecOn paths _
    (motive := fun w => (w.fields.lookup key).isSome = (v.fields.lookup key).isSome) rfl
    fun w hw p hp => (isSome_lookup_remove (h p hp) w).trans hw

variable (hnumeral : ∀ name ∈ front, unsignedOf? name.toList = none)

include hnumeral

/-- The removal of a path takes the last field away from all that the front reaches. -/
theorem lacks_remove (last : String) (v : Value) :
    (v.remove (front ++ [last])).Lacks front last := by
  intro u hu
  rw [reached_remove last hnumeral] at hu
  obtain ⟨u', -, rfl⟩ := List.mem_map.mp hu
  exact lookup_remove_singleton last u'

theorem Lacks.remove (h : v.Lacks front last) (p : List String) :
    (v.remove p).Lacks front last := by
  intro u hu
  obtain ⟨rest, u', hu', rfl⟩ := exists_mem_reached_of_remove hnumeral hu
  exact lookup_remove_eq_none (h u' hu') rest

theorem ItemsLack.remove (h : v.ItemsLack front last) (p : List String) :
    (v.remove p).ItemsLack front last := by
  intro item hitem
  obtain ⟨u, hu, hitem⟩ := List.mem_flatMap.mp hitem
  obtain ⟨rest, u', hu', rfl⟩ := exists_mem_reached_of_remove hnumeral hu
  obtain ⟨rest', item', hitem', rfl⟩ := exists_mem_items_of_remove hitem
  exact lookup_remove_eq_none (h item' (List.mem_flatMap.mpr ⟨u', hu', hitem'⟩)) rest'

theorem Lacks.removeAll (h : v.Lacks front last) (paths : List (List String)) :
    (v.removeAll paths).Lacks front last :=
  List.foldlRecOn paths _ h fun _ hw p _ => hw.remove hnumeral p

theorem ItemsLack.removeAll (h : v.ItemsLack front last) (paths : List (List String)) :
    (v.removeAll paths).ItemsLack front last :=
  List.foldlRecOn paths _ h fun _ hw p _ => hw.remove hnumeral p

/-- Each of some removed paths has lost its last field. -/
theorem lacks_removeAll (hmem : front ++ [last] ∈ paths) (v : Value) :
    (v.removeAll paths).Lacks front last := by
  -- the removal of the path takes the field away, and no later removal brings it back
  induction paths generalizing v with
  | nil => cases hmem
  | cons p paths ih =>
    rcases List.mem_cons.mp hmem with rfl | hmem
    · exact (lacks_remove hnumeral last v).removeAll hnumeral paths
    · exact ih hmem _

end RemoveAll

/-- A name that an object lacks is found only in the items of an array. -/
theorem step_of_lookup_eq_none {key : String} {v : Value}
    (hnumeral : unsignedOf? key.toList = none) (h : v.fields.lookup key = none) :
    v.step key = v.items.flatMap fun item => (item.fields.lookup key).toList := by
  cases v with
  | object fields => exact congrArg Option.toList h
  | array items => exact step_array hnumeral items
  | _ => rfl

/-- If no value that the front reaches has the last field, the whole path reaches only fields of
items of arrays. -/
theorem Lacks.reached {front : List String} {last : String} {v : Value} (h : v.Lacks front last)
    (hnumeral : unsignedOf? last.toList = none) :
    v.reached (front ++ [last])
      = (itemsOfAll (v.reached front)).flatMap fun item => (item.fields.lookup last).toList := by
  rw [reached_append, itemsOfAll, List.flatMap_assoc]
  refine List.flatMap_congr fun u hu => ?_
  rw [reached_singleton]
  exact step_of_lookup_eq_none hnumeral (h u hu)

end Value

end DocQuery
