import DocQuery.Value.Path
import Mathlib.Data.List.Infix

/-!
# Paths without arrays on the way

Conditions and expressions read a path differently only where it goes through an array.  Along names
that lead through objects, both find the value that the names lead to, or nothing.

## Main definitions

* `Value.follow` — the value that names lead to, from object to object.
* `Value.IsStraight` — no array stands on the way.

## Main results

* `pathSegments_dottedPath` — names without dots are the segments of their path.
* `Value.at?_of_isStraight`, `Value.reached_of_isStraight` — both readings find the same value.
-/

namespace DocQuery

/-! ### Names and their path -/

theorem splitAtChar_of_notMem {sep : Char} {cs : List Char} (h : sep ∉ cs) :
    Text.splitAtChar sep cs = [cs] := by
  induction cs with
  | nil => rfl
  | cons c cs ih =>
    obtain ⟨hc, hcs⟩ := not_or.mp (mt List.mem_cons.mpr h)
    rw [Text.splitAtChar, if_neg (Ne.symm hc), ih hcs]

theorem splitAtChar_append {sep : Char} {cs : List Char} (h : sep ∉ cs) (rest : List Char) :
    Text.splitAtChar sep (cs ++ sep :: rest) = cs :: Text.splitAtChar sep rest := by
  induction cs with
  | nil => rw [List.nil_append, Text.splitAtChar, if_pos rfl]
  | cons c cs ih =>
    obtain ⟨hc, hcs⟩ := not_or.mp (mt List.mem_cons.mpr h)
    rw [List.cons_append, Text.splitAtChar, if_neg (Ne.symm hc), ih hcs]

theorem dottedPath_cons (name : String) {names : List String} (h : names ≠ []) :
    dottedPath (name :: names) = name ++ "." ++ dottedPath names :=
  String.intercalate_cons_of_ne_nil h

theorem dottedPath_concat {names : List String} (h : names ≠ []) (name : String) :
    dottedPath (names ++ [name]) = dottedPath names ++ "." ++ name := by
  rw [dottedPath, String.intercalate_append_of_ne_nil h (List.cons_ne_nil _ _),
    String.intercalate_singleton, dottedPath]

theorem pathSegments_dottedPath {names : List String} (h : names ≠ [])
    (hd : ∀ name ∈ names, '.' ∉ name.toList) : pathSegments (dottedPath names) = names := by
  induction names with
  | nil => exact absurd rfl h
  | cons name names ih =>
    obtain ⟨hname, hnames⟩ := List.forall_mem_cons.mp hd
    cases names with
    | nil =>
      rw [pathSegments, dottedPath, String.intercalate_singleton, splitAtChar_of_notMem hname,
        List.map_singleton, String.ofList_toList]
    | cons next names =>
      have hnext : next :: names ≠ [] := List.cons_ne_nil _ _
      have hsplit : (name ++ "." ++ dottedPath (next :: names)).toList
          = name.toList ++ '.' :: (dottedPath (next :: names)).toList := by
        simp [String.toList_append]
      rw [dottedPath_cons name hnext, pathSegments, hsplit, splitAtChar_append hname,
        List.map_cons, String.ofList_toList]
      exact congrArg _ (ih hnext hnames)

namespace Value

/-! ### Following names -/

/-- The value that names lead to, from object to object. -/
def follow : List String → Value → Option Value
  | [], v => some v
  | name :: names, v => v.fields.lookup name >>= follow names

/-- No value on the way along the names is an array, the first one included.  What they lead to may
be one. -/
def IsStraight (names : List String) (v : Value) : Prop :=
  ∀ front, front <+: names → front ≠ names → ∀ items, v.follow front ≠ some (.array items)

@[simp] theorem follow_nil (v : Value) : v.follow [] = some v := rfl

theorem follow_cons (name : String) (names : List String) (v : Value) :
    v.follow (name :: names) = (v.fields.lookup name).bind (follow names) := rfl

theorem follow_append (names names' : List String) (v : Value) :
    v.follow (names ++ names') = (v.follow names).bind (follow names') := by
  induction names generalizing v with
  | nil => rfl
  | cons name names ih =>
    rw [List.cons_append, follow_cons, follow_cons, Option.bind_assoc]
    exact congrArg _ (funext ih)

theorem isStraight_nil (v : Value) : v.IsStraight [] :=
  fun _ hfront hne => absurd (List.prefix_nil.mp hfront) hne

theorem isStraight_cons_iff {name : String} {names : List String} {v : Value} :
    v.IsStraight (name :: names) ↔
      (∀ items, v ≠ .array items) ∧ ∀ u, v.fields.lookup name = some u → u.IsStraight names := by
  -- the proper fronts of the longer chain are the empty one and, behind `name`, those of the rest
  constructor
  · refine fun h => ⟨fun items hv => ?_, fun u hu front hfront hne items hitems => ?_⟩
    · exact h [] List.nil_prefix (List.cons_ne_nil _ _).symm items (congrArg some hv)
    · refine h (name :: front) (List.cons_prefix_cons.mpr ⟨rfl, hfront⟩)
        (fun heq => hne (List.cons.inj heq).2) items ?_
      rw [follow_cons, hu, Option.bind_some, hitems]
  · rintro ⟨hv, hnext⟩ front hfront hne items hitems
    cases front with
    | nil => exact hv items (Option.some.inj hitems)
    | cons first front =>
      obtain ⟨rfl, hrest⟩ := List.cons_prefix_cons.mp hfront
      obtain ⟨u, hu, hlast⟩ := Option.bind_eq_some_iff.mp hitems
      exact hnext u hu front hrest (fun heq => hne (congrArg _ heq)) items hlast

theorem IsStraight.of_append {names names' : List String} {v : Value}
    (h : v.IsStraight (names ++ names')) : v.IsStraight names := by
  intro front hfront hne
  refine h front (hfront.trans (List.prefix_append _ _)) fun heq => hne ?_
  exact hfront.eq_of_length_le (heq ▸ (List.prefix_append names names').length_le)

/-! ### The two readings -/

theorem down?_of_not_array {v : Value} (h : ∀ items, v ≠ .array items) (name : String)
    (next : Value → Option Value) : v.down? name next = (v.fields.lookup name).bind next := by
  cases v with
  | array items => exact absurd rfl (h items)
  | object fields =>
    rw [down?]
    rfl
  | _ => simp [down?, fields]

theorem step_of_not_array {v : Value} (h : ∀ items, v ≠ .array items) (name : String) :
    v.step name = (v.fields.lookup name).toList := by
  cases v with
  | array items => exact absurd rfl (h items)
  | _ => rfl

theorem at?_of_isStraight {names : List String} {v : Value} (h : v.IsStraight names) :
    v.at? names = v.follow names := by
  induction names generalizing v with
  | nil => rw [at?, follow_nil]
  | cons name names ih =>
    obtain ⟨hv, hnext⟩ := isStraight_cons_iff.mp h
    rw [at?, down?_of_not_array hv, follow_cons]
    cases hu : v.fields.lookup name with
    | none => rfl
    | some u => exact ih (hnext u hu)

theorem reached_of_isStraight {names : List String} {v : Value} (h : v.IsStraight names) :
    v.reached names = (v.follow names).toList := by
  induction names generalizing v with
  | nil => rfl
  | cons name names ih =>
    obtain ⟨hv, hnext⟩ := isStraight_cons_iff.mp h
    rw [reached, step_of_not_array hv, follow_cons]
    cases hu : v.fields.lookup name with
    | none => rfl
    | some u =>
      rw [Option.toList_some, List.flatMap_singleton]
      exact ih (hnext u hu)

theorem reached_append (names names' : List String) (v : Value) :
    v.reached (names ++ names') = (v.reached names).flatMap (reached names') := by
  induction names generalizing v with
  | nil => rw [List.nil_append, reached, List.flatMap_singleton]
  | cons name names ih =>
    rw [List.cons_append, reached, reached, List.flatMap_assoc]
    exact congrArg (List.flatMap · (v.step name)) (funext ih)

theorem reached_singleton (name : String) (v : Value) : v.reached [name] = v.step name :=
  List.flatMap_singleton' (v.step name)

/-- The first index leads somewhere in an array that has an item. -/
theorem step_zero_isEmpty (items : List Value) :
    ((array items).step "0").isEmpty = items.isEmpty := by
  have hzero : unsignedOf? "0".toList = some 0 := by decide
  rw [step, hzero]
  cases items <;> rfl

end Value

end DocQuery
