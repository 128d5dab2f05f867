import DocQuery.Proofs.Regex.Spans
import DocQuery.Regex.Search
import Mathlib.Data.List.Forall2

/-!
# Marks on repetitions

Marks on a pattern stand for matches that have begun: each can be completed by certain texts.  The
move of a part says what these are at a place, and how they change with the next character.  For a
repetition this is so if it is so for the repeated part.

## Main definitions

* `Pattern.pending` — the texts that complete a match that has begun.
* `Progress.Fits` — no repetition has more marked copies than it has copies.
* `Move.Describes` — the move of a pattern is right at a place.

## Main results

* `Pattern.not_pending_none` — without marks no match has begun.
* `Move.describes_times` — **the move of a repetition is right if that of its part is.**
-/

namespace DocQuery.Regex

/-! ### Marks -/

/-- The copies of which marks on a repetition are kept.  Without an upper bound the last copy
follows itself. -/
def copyCount (least : Nat) (most : Option Nat) : Nat :=
  most.getD (max least 1)

/-- What completes a match that has come to one of the copies of a part, `count` copies being before
the first of them.  A copy is completed as its marks say, and what follows is `more` copies. -/
def pendingCopies (pending : Progress → Spans) (more : Nat → Spans) : Nat → List Progress → Spans
  | _, [] => fun _ _ _ => False
  | count, marks :: rest => fun before part after =>
    (pending marks).andThen (more (count + 1)) before part after ∨
      pendingCopies pending more (count + 1) rest before part after

/-- What completes a match that has begun, by the marks that it has left. -/
def Pattern.pending : Pattern → Progress → Spans
  | .empty, _ => fun _ _ _ => False
  | .one _, marks => fun _ part _ => marks.isNone = false ∧ part = []
  | .anchored _ _, _ => fun _ _ _ => False
  | .seq first second, marks => fun before part after =>
    (first.pending marks.parts.1).andThen second.spans before part after ∨
      second.pending marks.parts.2 before part after
  | .alt first second, marks => fun before part after =>
    first.pending marks.parts.1 before part after ∨ second.pending marks.parts.2 before part after
  | .times part least most, marks =>
    pendingCopies part.pending (part.spans.more least most) 0 marks.toList
  | .group _ part, marks => part.pending marks

/-- No repetition has marks on more copies than are kept. -/
def Progress.Fits : Pattern → Progress → Prop
  | .empty, _ => True
  | .one _, _ => True
  | .anchored _ _, _ => True
  | .seq first second, marks => Fits first marks.parts.1 ∧ Fits second marks.parts.2
  | .alt first second, marks => Fits first marks.parts.1 ∧ Fits second marks.parts.2
  | .times part least most, marks =>
    marks.toList.length ≤ copyCount least most ∧ ∀ copy ∈ marks.toList, Fits part copy
  | .group _ part, marks => Fits part marks

namespace Progress

theorem isNone_iff {marks : Progress} : marks.isNone = true ↔ marks = .none := by
  cases marks <;> simp [isNone]

theorem parts_ofParts (first second : Progress) :
    (ofParts first second).parts = (first, second) := by
  unfold ofParts
  split
  · next h =>
    rw [Bool.and_eq_true, isNone_iff, isNone_iff] at h
    rw [h.1, h.2]
    rfl
  · rfl

theorem toList_ofList (copies : List Progress) : (ofList copies).toList = copies := by
  cases copies <;> rfl

theorem fits_none (p : Pattern) : Fits p .none := by
  induction p with
  | seq first second hfirst hsecond => exact ⟨hfirst, hsecond⟩
  | alt first second hfirst hsecond => exact ⟨hfirst, hsecond⟩
  | times part least most ih => exact ⟨Nat.zero_le _, List.forall_mem_nil _⟩
  | group number part ih => exact ih
  | _ => trivial

end Progress

/-- Without marks no match has begun. -/
theorem Pattern.not_pending_none {p : Pattern} {before part after : List Char} :
    ¬p.pending .none before part after := by
  induction p generalizing before part after with
  | empty => exact id
  | one set => exact fun h => Bool.noConfusion h.1
  | anchored words condition => exact id
  | seq first second hfirst hsecond =>
    rintro (⟨xs, ys, -, hpending, -⟩ | hpending)
    · exact hfirst hpending
    · exact hsecond hpending
  | alt first second hfirst hsecond =>
    rintro (hpending | hpending)
    · exact hfirst hpending
    · exact hsecond hpending
  | times inner least most ih => exact id
  | group number inner ih => exact ih

/-! ### Moves -/

/-- The move is right for a pattern with the given marks at a place: it says whether the pattern
matches nothing there and whether a match that has begun ends there, and the marks after the next
character stand for the matches that have begun and, if any can, for those that begin there. -/
structure Move.Describes (move : Move) (p : Pattern) (marks : Progress) (before rest : List Char) :
    Prop where
  passes_iff : move.passes = true ↔ p.spans before [] rest
  ends_iff : move.ends = true ↔ p.pending marks before [] rest
  fits : ∀ begins, (move.next begins).Fits p
  next_iff : ∀ {c : Char} {cs after : List Char}, rest = c :: (cs ++ after) → ∀ begins,
    (p.pending (move.next begins) (before ++ [c]) cs after
      ↔ p.pending marks before (c :: cs) after ∨ begins = true ∧ p.spans before (c :: cs) after)

namespace Move

variable {p : Pattern} {least : Nat} {most : Option Nat} {move unmarked : Move}
  {moves : List Move} {marks : Progress} {copies : List Progress} {before rest : List Char}
  {c : Char} {cs after : List Char}

/-- The same for a match that has another part after it. -/
theorem Describes.next_andThen_iff (h : move.Describes p marks before rest)
    (hrest : rest = c :: (cs ++ after)) (begins : Bool) (second : Spans) :
    (p.pending (move.next begins)).andThen second (before ++ [c]) cs after
      ↔ (p.pending marks).readsThen second before c cs after
        ∨ begins = true ∧ p.spans.readsThen second before c cs after := by
  have hnext {xs ys : List Char} (hsplit : cs = xs ++ ys) :
      p.pending (move.next begins) (before ++ [c]) xs (ys ++ after)
        ↔ p.pending marks before (c :: xs) (ys ++ after)
          ∨ begins = true ∧ p.spans before (c :: xs) (ys ++ after) :=
    h.next_iff (by rw [hrest, hsplit, List.append_assoc]) begins
  constructor
  · rintro ⟨xs, ys, hsplit, hpending, hsecond⟩
    rw [List.append_assoc, List.singleton_append] at hsecond
    rcases (hnext hsplit).mp hpending with hpending | ⟨hbegins, hspans⟩
    · exact .inl ⟨xs, ys, hsplit, hpending, hsecond⟩
    · exact .inr ⟨hbegins, xs, ys, hsplit, hspans, hsecond⟩
  · rintro (⟨xs, ys, hsplit, hpending, hsecond⟩ | ⟨hbegins, xs, ys, hsplit, hspans, hsecond⟩)
    · refine ⟨xs, ys, hsplit, (hnext hsplit).mpr (.inl hpending), ?_⟩
      rwa [List.append_assoc, List.singleton_append]
    · refine ⟨xs, ys, hsplit, (hnext hsplit).mpr (.inr ⟨hbegins, hspans⟩), ?_⟩
      rwa [List.append_assoc, List.singleton_append]

/-- The same for a part without marks. -/
theorem Describes.next_unmarked_iff (h : unmarked.Describes p .none before rest)
    (hrest : rest = c :: (cs ++ after)) (begins : Bool) (second : Spans) :
    (p.pending (unmarked.next begins)).andThen second (before ++ [c]) cs after
      ↔ begins = true ∧ p.spans.readsThen second before c cs after := by
  rw [h.next_andThen_iff hrest, or_iff_right]
  rintro ⟨xs, ys, -, hpending, -⟩
  exact Pattern.not_pending_none hpending

/-! ### Copies of a part -/

section Copies

variable {count : Nat}

/-- After the last copy whose marks are kept there is nothing to come, or without an upper bound the
same as after it once more. -/
theorem more_copyCount_iff {part : Spans} (hcount : count = copyCount least most) :
    part.more least most count before (c :: cs) after
      ↔ most = none ∧ part.readsThen (part.more least most count) before c cs after := by
  cases most with
  | none =>
    have hleast : least ≤ count := hcount ▸ Nat.le_max_left least 1
    rw [Spans.more_unbounded_iff hleast, and_iff_right rfl]
  | some m =>
    exact iff_of_false (Spans.not_more_cons (Nat.le_of_eq hcount.symm)) (nofun ∘ And.left)

theorem more_last_iff {part : Spans} (hcount : count + 1 = copyCount least most) :
    part.more least most count before (c :: cs) after
      ↔ part.readsThen (part.more least most (count + 1)) before c cs after := by
  rw [Spans.more_cons_iff, or_iff_right_of_imp]
  exact fun ⟨_, hmore⟩ => ((more_copyCount_iff hcount).mp hmore).2

theorem pendingCopies_cons_iff {pending : Progress → Spans} {more : Nat → Spans} :
    pendingCopies pending more count (marks :: copies) before cs after
      ↔ (pending marks).andThen (more (count + 1)) before cs after
        ∨ pendingCopies pending more (count + 1) copies before cs after :=
  Iff.rfl

theorem not_pendingCopies_nil {pending : Progress → Spans} {more : Nat → Spans} :
    ¬pendingCopies pending more count [] before cs after :=
  id

/-- Copies without marks can be left out at the end. -/
theorem pendingCopies_progressCons_iff (first : Progress) (copies : List Progress)
    (more : Nat → Spans) :
    pendingCopies p.pending more count (Progress.cons first copies) before cs after
      ↔ pendingCopies p.pending more count (first :: copies) before cs after := by
  unfold Progress.cons
  split
  · next h =>
    rw [Bool.and_eq_true, Progress.isNone_iff, List.isEmpty_iff] at h
    rw [h.1, h.2]
    refine iff_of_false id ?_
    rintro (⟨xs, ys, -, hpending, -⟩ | hpending)
    · exact Pattern.not_pending_none hpending
    · exact hpending
  · exact Iff.rfl

/-- Copies without marks, the first of which can be passed as the others can. -/
theorem pendingCopies_replicate_iff (h : unmarked.Describes p .none before rest)
    (hpasses : unmarked.passes = true) (hrest : rest = c :: (cs ++ after)) (begins : Bool)
    (later : Nat) (hcount : count + (later + 1) = copyCount least most) :
    pendingCopies p.pending (p.spans.more least most) count
        (List.replicate (later + 1) (unmarked.next begins)) (before ++ [c]) cs after
      ↔ begins = true ∧ p.spans.more least most count before (c :: cs) after := by
  have hempty : p.spans before [] (c :: cs ++ after) := by
    rw [List.cons_append, ← hrest]
    exact h.passes_iff.mp hpasses
  induction later generalizing count with
  | zero =>
    rw [List.replicate_succ, pendingCopies_cons_iff, h.next_unmarked_iff hrest, List.replicate_zero,
      or_iff_left not_pendingCopies_nil, more_last_iff hcount]
  | succ later ih =>
    have hlater : count + 1 + (later + 1) = copyCount least most := by omega
    have hmore : p.spans.more least most count before (c :: cs) after ↔ _ := Spans.more_cons_iff
    rw [List.replicate_succ, pendingCopies_cons_iff, h.next_unmarked_iff hrest,
      or_congr_right (ih hlater), ← and_or_left, hmore, and_iff_right hempty, or_comm]

/-- The marks on copies that had none. -/
theorem pendingCopies_advance_nil_iff (h : unmarked.Describes p .none before rest)
    (hrest : rest = c :: (cs ++ after)) (loops begins : Bool) (later : Nat)
    (hcount : count + (later + 1) = copyCount least most) :
    pendingCopies p.pending (p.spans.more least most) count
        (advance unmarked loops (later + 1) begins []) (before ++ [c]) cs after
      ↔ begins = true ∧ p.spans.more least most count before (c :: cs) after := by
  rw [advance]
  split
  · next hnone =>
    -- a match of the part would begin here, and it would leave marks
    refine iff_of_false id ?_
    rintro ⟨hbegins, n, -, -, hparts⟩
    obtain ⟨m, -, hreads⟩ := Spans.reads_of_times hparts
    obtain ⟨xs, ys, -, hpending, -⟩ := (h.next_unmarked_iff hrest begins _).mpr ⟨hbegins, hreads⟩
    rw [Progress.isNone_iff.mp hnone] at hpending
    exact Pattern.not_pending_none hpending
  · split
    · next hpasses => exact pendingCopies_replicate_iff h hpasses hrest begins later hcount
    · next hpasses =>
      have hempty : ¬p.spans before [] (c :: cs ++ after) := by
        rw [List.cons_append, ← hrest]
        exact mt h.passes_iff.mpr hpasses
      rw [pendingCopies_cons_iff, or_iff_left not_pendingCopies_nil, h.next_unmarked_iff hrest,
        Spans.more_cons_iff, or_iff_right fun hfirst => hempty hfirst.1]

/-- The marks on the last copies after the next character. -/
theorem pendingCopies_advance_iff (h : unmarked.Describes p .none before rest)
    (hmoves : List.Forall₂ (fun move marks => move.Describes p marks before rest) moves copies)
    (hrest : rest = c :: (cs ++ after)) {later : Nat}
    (hcount : count + later = copyCount least most) (hlater : most = none → 0 < later)
    (hlength : copies.length ≤ later) (begins : Bool) :
    pendingCopies p.pending (p.spans.more least most) count
        (advance unmarked most.isNone later begins moves) (before ++ [c]) cs after
      ↔ pendingCopies p.pending (p.spans.more least most) count copies before (c :: cs) after
        ∨ begins = true ∧ p.spans.more least most count before (c :: cs) after := by
  induction hmoves generalizing count later begins with
  | nil =>
    rw [or_iff_right not_pendingCopies_nil]
    cases later with
    | zero =>
      refine iff_of_false id fun hmore => ?_
      exact Nat.lt_irrefl 0 (hlater ((more_copyCount_iff hcount).mp hmore.2).1)
    | succ later => exact pendingCopies_advance_nil_iff h hrest _ begins later hcount
  | @cons move marks moves copies hmove hmoves ih =>
    cases later with
    | zero => cases hlength
    | succ later =>
      have hempty : p.spans before [] (c :: cs ++ after) ↔ unmarked.passes = true := by
        rw [List.cons_append, ← hrest, h.passes_iff]
      have hends : p.pending marks before [] (c :: cs ++ after) ↔ move.ends = true := by
        rw [List.cons_append, ← hrest, hmove.ends_iff]
      rw [advance, pendingCopies_progressCons_iff, pendingCopies_cons_iff, pendingCopies_cons_iff,
        hmove.next_andThen_iff hrest, Spans.andThen_cons_iff, hends]
      cases later with
      | zero =>
        -- the last copy: nothing is beyond it, and if it loops, its ends are its beginnings
        rw [List.length_cons, Nat.zero_add, Nat.succ_le_succ_iff, Nat.le_zero] at hlength
        cases List.length_eq_zero_iff.mp hlength
        cases hmoves
        rw [more_last_iff hcount, advance, or_iff_left not_pendingCopies_nil,
          or_iff_left not_pendingCopies_nil, more_copyCount_iff hcount]
        simp only [Bool.or_eq_true, Bool.and_eq_true, Option.isNone_iff_eq_none, decide_true]
        tauto
      | succ later =>
        have hlater : count + 1 + (later + 1) = copyCount least most := by omega
        have hmore : p.spans.more least most count before (c :: cs) after ↔ _ := Spans.more_cons_iff
        have hlength := Nat.succ_le_succ_iff.mp hlength
        rw [or_congr_right (ih hlater (fun _ => later.succ_pos) hlength _), hmore, hempty]
        simp only [Bool.or_eq_true, Bool.and_eq_true, Nat.succ_ne_zero, decide_false,
          Bool.and_false, Bool.false_and]
        cases begins <;> cases move.ends <;> cases unmarked.passes <;>
          simp [or_assoc, or_comm, or_left_comm]

/-- A match ends at one of the copies from which the lower bound can be reached at the place. -/
theorem any_ends_iff (h : unmarked.Describes p .none before rest)
    (hmoves : List.Forall₂ (fun move marks => move.Describes p marks before rest) moves copies)
    (hbounds : ∀ m ∈ most, least ≤ m) (hlength : ∀ m ∈ most, count + copies.length ≤ m) :
    (if unmarked.passes then moves else moves.drop (least - (count + 1))).any (·.ends) = true
      ↔ pendingCopies p.pending (p.spans.more least most) count copies before [] rest := by
  induction hmoves generalizing count with
  | nil =>
    rw [List.drop_nil, ite_self]
    exact iff_of_false Bool.false_ne_true id
  | @cons move marks moves copies hmove hmoves ih =>
    have hlater : ∀ m ∈ most, count + 1 + copies.length ≤ m := by
      intro m hm
      have := hlength m hm
      rw [List.length_cons] at this
      omega
    have hcount : ∀ m ∈ most, count + 1 ≤ m := fun m hm => Nat.le_of_add_right_le (hlater m hm)
    rw [pendingCopies_cons_iff, Spans.andThen_nil_iff, ← hmove.ends_iff, Spans.more_nil_iff hbounds,
      and_iff_right hcount, ← h.passes_iff, ← ih hlater]
    by_cases hpasses : unmarked.passes = true
    · simp [hpasses]
    · by_cases hleast : least ≤ count + 1
      · have hdrop : least - (count + 1) = 0 ∧ least - (count + 1 + 1) = 0 := by omega
        simp [hpasses, hdrop, hleast]
      · have hdrop : least - (count + 1) = least - (count + 1 + 1) + 1 := by omega
        simp [hpasses, hdrop, hleast]

theorem length_advance_le (unmarked : Move) (loops begins : Bool) (later : Nat)
    (moves : List Move) :
    (advance unmarked loops later begins moves).length ≤ later := by
  induction later generalizing begins moves with
  | zero => exact Nat.zero_le _
  | succ later ih =>
    cases moves with
    | nil =>
      rw [advance]
      split
      · exact Nat.zero_le _
      · split
        · exact Nat.le_of_eq List.length_replicate
        · exact Nat.succ_le_succ (Nat.zero_le later)
    | cons move moves =>
      rw [advance, Progress.cons]
      split
      · exact Nat.zero_le _
      · exact Nat.succ_le_succ (ih _ _)

theorem fits_of_mem_advance (h : ∀ begins, (unmarked.next begins).Fits p) {moves : List Move}
    (hmoves : ∀ move ∈ moves, ∀ begins, (move.next begins).Fits p) {loops begins : Bool}
    {later : Nat} {copy : Progress} (hcopy : copy ∈ advance unmarked loops later begins moves) :
    copy.Fits p := by
  induction later generalizing begins moves with
  | zero => cases hcopy
  | succ later ih =>
    cases moves with
    | nil =>
      rw [advance] at hcopy
      split at hcopy
      · cases hcopy
      · split at hcopy
        · rw [(List.mem_replicate.mp hcopy).2]
          exact h _
        · rw [List.mem_singleton.mp hcopy]
          exact h _
    | cons move moves =>
      obtain ⟨hmove, hmoves⟩ := List.forall_mem_cons.mp hmoves
      rw [advance, Progress.cons] at hcopy
      split at hcopy
      · cases hcopy
      · rcases List.mem_cons.mp hcopy with rfl | hcopy
        · exact hmove _
        · exact ih hmoves hcopy

end Copies

/-- The move of a repetition is right if those of the marked copies are, and that of the others. -/
theorem describes_times (h : unmarked.Describes p .none before rest) {moveOf : Progress → Move}
    (hcopies : ∀ copy ∈ marks.toList, (moveOf copy).Describes p copy before rest)
    (hbounds : ∀ m ∈ most, least ≤ m) (hfits : marks.Fits (.times p least most)) :
    (Move.times unmarked least most (marks.toList.map moveOf)).Describes (.times p least most) marks
      before rest := by
  have hmoves : List.Forall₂ (fun move copy => move.Describes p copy before rest)
      (marks.toList.map moveOf) marks.toList :=
    List.forall₂_map_left_iff.mpr (List.forall₂_same.mpr hcopies)
  constructor
  case passes_iff =>
    show (decide (least = 0) || unmarked.passes) = true ↔ p.spans.more least most 0 before [] rest
    rw [Spans.more_nil_iff hbounds, and_iff_right fun m _ => m.zero_le, Nat.le_zero, ← h.passes_iff,
      Bool.or_eq_true, decide_eq_true_iff]
  case ends_iff =>
    have hlength : ∀ m ∈ most, 0 + marks.toList.length ≤ m := by
      intro m hm
      have hlength := hfits.1
      rw [Option.mem_def.mp hm] at hlength
      rwa [Nat.zero_add]
    exact any_ends_iff h hmoves hbounds hlength
  case fits =>
    intro begins
    show Progress.Fits _ (.ofList (advance ..))
    rw [Progress.Fits, Progress.toList_ofList]
    refine ⟨length_advance_le .., fun copy hcopy => fits_of_mem_advance h.fits ?_ hcopy⟩
    exact List.forall_mem_map.mpr fun copy hcopy => (hcopies copy hcopy).fits
  case next_iff =>
    intro c cs after hrest begins
    show pendingCopies _ _ 0 (Progress.ofList (advance ..)).toList _ _ _ ↔ _
    rw [Progress.toList_ofList]
    have hlater : most = none → 0 < copyCount least most := by
      rintro rfl
      exact Nat.lt_of_lt_of_le Nat.zero_lt_one (Nat.le_max_right least 1)
    exact pendingCopies_advance_iff h hmoves hrest (Nat.zero_add _) hlater hfits.1 begins

end Move

end DocQuery.Regex
