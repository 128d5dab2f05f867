import DocQuery.Proofs.Regex.Escape

/-!
# Patterns that are read

The reader makes no repetition with a lower bound above its upper one.  This is so for everything
that it keeps while it reads: the parts and branches of the group being read and of the groups
around it.  So a search with a pattern that has been read finds exactly what the pattern matches.

## Main definitions

* `Group.IsBounded`, `Reading.IsBounded` — the bounds of all repetitions are in order.

## Main results

* `isBounded_of_readOn` — reading on after one character keeps them in order.
* `isBounded_of_readPattern` — they are in order in every pattern that is read.
* `isIn_iff_of_compile?` — **a text contains a match of a pattern that can be searched for exactly
  if the pattern matches some part of it.**
-/

namespace DocQuery.Regex

/-! ### Groups -/

/-- The bounds of all repetitions in a group are in order. -/
structure Group.IsBounded (g : Group) : Prop where
  branches : ∀ branch ∈ g.branches, branch.pattern.IsBounded
  parts : ∀ part ∈ g.parts, ∀ p ∈ part.pattern, p.IsBounded

namespace Group.IsBounded

variable {g : Group}

theorem empty (flags : Flags) (number : Option Nat) : Group.IsBounded ⟨[], [], flags, number⟩ :=
  ⟨List.forall_mem_nil _, List.forall_mem_nil _⟩

theorem branch (h : g.IsBounded) : g.branch.pattern.IsBounded := by
  refine Pattern.isBounded_sequence fun p hp => ?_
  obtain ⟨part, hpart, hp⟩ := List.mem_filterMap.mp hp
  exact h.parts part (List.mem_reverse.mp hpart) p hp

theorem choice (h : g.IsBounded) : g.choice.pattern.IsBounded := by
  have hfold : ∀ (branches : List Branch) (p : Pattern),
      (∀ branch ∈ branches, branch.pattern.IsBounded) → p.IsBounded →
        (branches.foldl (fun choice b => .alt b.pattern choice) p).IsBounded := by
    intro branches p hbranches hp
    induction branches generalizing p with
    | nil => exact hp
    | cons b branches ih =>
      obtain ⟨hb, hbranches⟩ := List.forall_mem_cons.mp hbranches
      exact ih _ hbranches ⟨hb, hp⟩
  exact hfold g.branches g.branch.pattern h.branches h.branch

theorem part (h : g.IsBounded) : ∀ p ∈ g.part.pattern, p.IsBounded := by
  intro p hp
  cases hp
  cases g.number with
  | none => exact h.choice
  | some number => exact h.choice

theorem add (h : g.IsBounded) {part : Part} (hpart : ∀ p ∈ part.pattern, p.IsBounded) :
    (g.add part).IsBounded :=
  ⟨h.branches, List.forall_mem_cons.mpr ⟨hpart, h.parts⟩⟩

theorem addLeaf (h : g.IsBounded) {p : Pattern} (hp : p.IsBounded) : (g.addLeaf p).IsBounded := by
  refine h.add fun q hq => ?_
  cases hq
  exact hp

theorem divide (h : g.IsBounded) : g.divide.IsBounded :=
  ⟨List.forall_mem_cons.mpr ⟨h.branch, h.branches⟩, List.forall_mem_nil _⟩

theorem switched (h : g.IsBounded) (flags : Flags) : (g.switched flags).IsBounded :=
  ⟨h.branches, List.forall_mem_cons.mpr ⟨nofun, h.parts⟩⟩

theorem repeatLast {g' : Group} {least : Nat} {most : Option Nat} (h : g.IsBounded)
    (hbounds : ∀ m ∈ most, least ≤ m) (hrepeat : g.repeatLast least most = some g') :
    g'.IsBounded := by
  unfold Group.repeatLast at hrepeat
  split at hrepeat
  · next pattern depth parts hparts =>
    cases hrepeat
    have hall := h.parts
    rw [hparts] at hall
    obtain ⟨hlast, hrest⟩ := List.forall_mem_cons.mp hall
    refine ⟨h.branches, List.forall_mem_cons.mpr ⟨fun q hq => ?_, hrest⟩⟩
    cases hq
    exact ⟨hbounds, hlast pattern rfl⟩
  · cases hrepeat

end Group.IsBounded

/-! ### What the reader keeps -/

/-- The same for the group being read and the groups around it. -/
structure Reading.IsBounded (r : Reading) : Prop where
  group : r.group.IsBounded
  outer : ∀ g ∈ r.outer, g.IsBounded

namespace Reading.IsBounded

variable {r : Reading}

theorem withGroup (h : r.IsBounded) {g : Group} (hg : g.IsBounded) : (r.withGroup g).IsBounded :=
  ⟨hg, h.outer⟩

theorem opened (h : r.IsBounded) (flags : Flags) : (r.opened flags).IsBounded :=
  ⟨.empty flags none, List.forall_mem_cons.mpr ⟨h.group, h.outer⟩⟩

theorem openedNumbered (h : r.IsBounded) (names : List (List Char)) :
    (r.openedNumbered names).IsBounded :=
  ⟨.empty r.group.flags _, List.forall_mem_cons.mpr ⟨h.group, h.outer⟩⟩

theorem closed? (h : r.IsBounded) {r' : Reading} (hclosed : r.closed? = some r') :
    r'.IsBounded := by
  have houter := h.outer
  unfold Reading.closed? at hclosed
  split at hclosed
  · cases hclosed
  · next g outer hr =>
    cases hclosed
    rw [hr] at houter
    obtain ⟨hg, houter⟩ := List.forall_mem_cons.mp houter
    exact ⟨hg.add h.group.part, houter⟩

end Reading.IsBounded

/-! ### Reading -/

theorem le_of_readBounds {flags : Flags} {cs rest : List Char} {least : Nat} {most : Option Nat}
    (h : readBounds flags cs = some (least, most, rest)) : ∀ m ∈ most, least ≤ m := by
  obtain ⟨⟨n, afterLeast⟩, -, h⟩ := Option.bind_eq_some_iff.mp h
  dsimp only at h
  split at h
  · cases h
    intro m hm
    cases hm
    exact Nat.le_refl _
  · split at h
    · cases h
      exact nofun
    · obtain ⟨⟨m, afterMost⟩, -, h⟩ := Option.bind_eq_some_iff.mp h
      split at h
      · split at h
        · next hle =>
          cases h
          intro m hm
          cases hm
          exact hle
        · cases h
      · cases h
  · cases h

variable {r r' : Reading} {c : Char} {cs rest : List Char}

theorem isBounded_of_openNamed (hr : r.IsBounded) (h : openNamed r cs = some (r', rest)) :
    r'.IsBounded := by
  unfold openNamed at h
  dsimp only at h
  split at h
  · split at h
    · cases h
      exact hr.openedNumbered _
    · cases h
  · cases h

theorem isBounded_of_openGroup (hr : r.IsBounded) (h : openGroup r cs = some (r', rest)) :
    r'.IsBounded := by
  unfold openGroup at h
  split at h
  case h_5 => exact isBounded_of_openNamed hr h
  case h_6 => exact isBounded_of_openNamed hr h
  case h_8 =>
    obtain ⟨⟨flags, afterFlags⟩, -, h⟩ := Option.bind_eq_some_iff.mp h
    split at h
    · cases h
      exact hr.withGroup (hr.group.switched _)
    · cases h
      exact hr.opened _
  case h_9 =>
    cases h
    exact hr.openedNumbered _
  all_goals cases h

/-- Reading on after a character keeps the bounds in order. -/
theorem isBounded_of_readOn (hr : r.IsBounded) (h : readOn r c cs = some (r', rest)) :
    r'.IsBounded := by
  have hnone (least : Nat) : ∀ m ∈ (none : Option Nat), least ≤ m := fun _ hm => by cases hm
  unfold readOn at h
  dsimp only at h
  split at h
  · exact isBounded_of_openGroup hr h
  · obtain ⟨r'', hclosed, h⟩ := Option.bind_eq_some_iff.mp h
    cases h
    exact hr.closed? hclosed
  · cases h
    exact hr.withGroup hr.group.divide
  · obtain ⟨⟨set, depth, afterSet⟩, -, h⟩ := Option.bind_eq_some_iff.mp h
    cases h
    refine hr.withGroup (hr.group.add fun p hp => ?_)
    cases hp
    trivial
  · obtain ⟨g, hrepeat, h⟩ := Option.bind_eq_some_iff.mp h
    cases h
    exact hr.withGroup (hr.group.repeatLast (fun m _ => m.zero_le) hrepeat)
  · obtain ⟨g, hrepeat, h⟩ := Option.bind_eq_some_iff.mp h
    cases h
    exact hr.withGroup (hr.group.repeatLast (hnone _) hrepeat)
  · obtain ⟨g, hrepeat, h⟩ := Option.bind_eq_some_iff.mp h
    cases h
    exact hr.withGroup (hr.group.repeatLast (hnone _) hrepeat)
  · obtain ⟨⟨least, most, afterBounds⟩, hbounds, h⟩ := Option.bind_eq_some_iff.mp h
    obtain ⟨g, hrepeat, h⟩ := Option.bind_eq_some_iff.mp h
    cases h
    exact hr.withGroup (hr.group.repeatLast (le_of_readBounds hbounds) hrepeat)
  · obtain ⟨⟨escape, afterEscape⟩, -, h⟩ := Option.bind_eq_some_iff.mp h
    cases h
    refine hr.withGroup (hr.group.addLeaf ?_)
    cases escape <;> trivial
  · obtain ⟨set, -, h⟩ := Option.bind_eq_some_iff.mp h
    cases h
    exact hr.withGroup (hr.group.addLeaf trivial)
  all_goals
    cases h
    exact hr.withGroup (hr.group.addLeaf trivial)

/-- The reader stops with the choice of the group being read, or it reads on. -/
theorem readAll_eq_some {fuel : Nat} {branch : Branch} (h : readAll fuel r cs = some branch) :
    r.group.choice = branch ∨ ∃ later r' c more rest, fuel = later + 1 ∧
      readOn r c more = some (r', rest) ∧ readAll later r' rest = some branch := by
  rw [readAll.eq_def] at h
  cases hskip : skip r.group.flags cs with
  | nil =>
    simp only [hskip, Option.ite_none_right_eq_some, Option.some.injEq] at h
    exact .inl h.2
  | cons c more =>
    cases fuel with
    | zero => simp [hskip] at h
    | succ later =>
      simp only [hskip] at h
      split at h
      · next r' rest hread => exact .inr ⟨later, r', c, more, rest, rfl, hread, h⟩
      · cases h

theorem isBounded_of_readAll {fuel : Nat} {branch : Branch} (hr : r.IsBounded)
    (h : readAll fuel r cs = some branch) : branch.pattern.IsBounded := by
  induction fuel generalizing r cs with
  | zero =>
    obtain rfl | ⟨later, _, _, _, _, hfuel, -⟩ := readAll_eq_some h
    · exact hr.group.choice
    · cases hfuel
  | succ fuel ih =>
    obtain rfl | ⟨later, r', c, more, rest, hfuel, hread, hrest⟩ := readAll_eq_some h
    · exact hr.group.choice
    · cases hfuel
      exact ih (isBounded_of_readOn hr hread) hrest

/-- The bounds are in order in every pattern that is read. -/
theorem isBounded_of_readPattern {flags : Flags} {text : String} {p : Pattern}
    (h : readPattern flags text = some p) : p.IsBounded := by
  obtain ⟨branch, hread, h⟩ := Option.bind_eq_some_iff.mp h
  split at h
  · cases h
    exact isBounded_of_readAll ⟨.empty flags none, List.forall_mem_nil _⟩ hread
  · cases h

/-- A text contains a match of a pattern that can be searched for exactly if the pattern matches
some part of it. -/
theorem isIn_iff_of_compile? {pattern options : String} {p : Pattern}
    (h : compile? pattern options = some p) (text : String) :
    p.isIn text = true
      ↔ ∃ before part after, text.toList = before ++ part ++ after ∧ p.spans before part after := by
  obtain ⟨q, hread, h⟩ := Option.bind_eq_some_iff.mp h
  split at h
  · cases h
    exact Pattern.isIn_iff (isBounded_of_readPattern hread) text
  · cases h

end DocQuery.Regex
