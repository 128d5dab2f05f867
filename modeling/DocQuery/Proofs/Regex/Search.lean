import DocQuery.Proofs.Regex.Repetition

/-!
# Searches find matches

Reading a text once, with all matches that have begun followed at the same time, finds out whether
some part of the text matches.

## Main results

* `Pattern.describes_move` — the move of every pattern is right at every place.
* `Pattern.isInRest_iff` — what is found in the rest of a text.
* `Pattern.isIn_iff` — **a text contains a match exactly if the pattern matches some part of it.**
-/

namespace DocQuery.Regex

variable {first second : Pattern} {marks : Progress} {before rest : List Char}

/-! ### Moves of patterns -/

namespace Move

variable {move next : Move}

/-- A pattern that matches nothing but the empty text, and so has no marks. -/
theorem describes_still {p : Pattern} {passes : Bool}
    (hpasses : passes = true ↔ p.spans before [] rest)
    (hpending : ∀ {part after}, ¬p.pending marks before part after)
    (hspans : ∀ {c cs after}, ¬p.spans before (c :: cs) after) :
    (still passes).Describes p marks before rest where
  passes_iff := hpasses
  ends_iff := iff_of_false Bool.false_ne_true hpending
  fits _ := Progress.fits_none p
  next_iff _ _ := by
    refine iff_of_false Pattern.not_pending_none ?_
    rintro (hbegun | ⟨-, hbegins⟩)
    · exact hpending hbegun
    · exact hspans hbegins

theorem describes_andThen (hfirst : move.Describes first marks.parts.1 before rest)
    (hsecond : next.Describes second marks.parts.2 before rest) :
    (move.andThen next).Describes (.seq first second) marks before rest where
  passes_iff := by
    show (move.passes && next.passes) = true ↔ first.spans.andThen second.spans before [] rest
    rw [Bool.and_eq_true, hfirst.passes_iff, hsecond.passes_iff, Spans.andThen_nil_iff]
  ends_iff := by
    show ((move.ends && next.passes) || next.ends) = true
      ↔ (first.pending marks.parts.1).andThen second.spans before [] rest
        ∨ second.pending marks.parts.2 before [] rest
    rw [Bool.or_eq_true, Bool.and_eq_true, hfirst.ends_iff, hsecond.passes_iff, hsecond.ends_iff,
      Spans.andThen_nil_iff]
  fits begins := by
    show Progress.Fits _ (.ofParts ..)
    rw [Progress.Fits, Progress.parts_ofParts]
    exact ⟨hfirst.fits _, hsecond.fits _⟩
  next_iff := by
    intro c cs after hrest begins
    show (first.pending (Progress.ofParts ..).parts.1).andThen second.spans _ cs after
        ∨ second.pending (Progress.ofParts ..).parts.2 _ cs after
      ↔ ((first.pending marks.parts.1).andThen second.spans before (c :: cs) after
          ∨ second.pending marks.parts.2 before (c :: cs) after)
        ∨ begins = true ∧ first.spans.andThen second.spans before (c :: cs) after
    -- the second part begins where the first one can be passed or ends
    rw [Progress.parts_ofParts, hfirst.next_andThen_iff hrest, hsecond.next_iff hrest,
      Spans.andThen_cons_iff, Spans.andThen_cons_iff, List.cons_append, ← hrest, ← hfirst.ends_iff,
      ← hfirst.passes_iff, Bool.or_eq_true, Bool.and_eq_true]
    cases begins <;> cases move.ends <;> cases move.passes <;>
      simp [or_assoc, or_comm, or_left_comm]

theorem describes_either (hfirst : move.Describes first marks.parts.1 before rest)
    (hsecond : next.Describes second marks.parts.2 before rest) :
    (move.either next).Describes (.alt first second) marks before rest where
  passes_iff := by
    show (move.passes || next.passes) = true
      ↔ first.spans before [] rest ∨ second.spans before [] rest
    rw [Bool.or_eq_true, hfirst.passes_iff, hsecond.passes_iff]
  ends_iff := by
    show (move.ends || next.ends) = true
      ↔ first.pending marks.parts.1 before [] rest ∨ second.pending marks.parts.2 before [] rest
    rw [Bool.or_eq_true, hfirst.ends_iff, hsecond.ends_iff]
  fits begins := by
    show Progress.Fits _ (.ofParts ..)
    rw [Progress.Fits, Progress.parts_ofParts]
    exact ⟨hfirst.fits _, hsecond.fits _⟩
  next_iff := by
    intro c cs after hrest begins
    show first.pending (Progress.ofParts ..).parts.1 _ cs after
        ∨ second.pending (Progress.ofParts ..).parts.2 _ cs after
      ↔ (first.pending marks.parts.1 before (c :: cs) after
          ∨ second.pending marks.parts.2 before (c :: cs) after)
        ∨ begins = true
          ∧ (first.spans before (c :: cs) after ∨ second.spans before (c :: cs) after)
    rw [Progress.parts_ofParts, hfirst.next_iff hrest, hsecond.next_iff hrest, and_or_left,
      or_or_or_comm]

end Move

namespace Pattern

theorem describes_one (set : CharSet) (marks : Progress) (before rest : List Char) :
    ((one set).move before.getLast? rest.head? marks).Describes (one set) marks before rest where
  passes_iff := by
    refine iff_of_false Bool.false_ne_true ?_
    rintro ⟨c, -, hc⟩
    cases hc
  ends_iff := by
    show (!marks.isNone) = true ↔ marks.isNone = false ∧ ([] : List Char) = []
    rw [Bool.not_eq_true', and_iff_left rfl]
  fits _ := trivial
  next_iff := by
    rintro c cs after rfl begins
    show (Progress.isNone (if begins && set.has c then .here else .none) = false ∧ cs = [])
      ↔ (marks.isNone = false ∧ c :: cs = [])
        ∨ begins = true ∧ ∃ d, set.has d = true ∧ c :: cs = [d]
    cases begins <;> cases hc : set.has c <;> simp [Progress.isNone, hc]

/-- The move of every pattern is right at every place. -/
theorem describes_move {p : Pattern} (hp : p.IsBounded) (before rest : List Char) {marks : Progress}
    (hmarks : marks.Fits p) :
    (p.move before.getLast? rest.head? marks).Describes p marks before rest := by
  induction p generalizing marks with
  | empty => exact Move.describes_still (iff_of_true rfl rfl) id nofun
  | one set => exact describes_one set marks before rest
  | anchored words condition =>
    exact Move.describes_still (and_iff_right rfl).symm id (nofun ∘ And.left)
  | seq first second hfirst hsecond =>
    exact Move.describes_andThen (hfirst hp.1 hmarks.1) (hsecond hp.2 hmarks.2)
  | alt first second hfirst hsecond =>
    exact Move.describes_either (hfirst hp.1 hmarks.1) (hsecond hp.2 hmarks.2)
  | times part least most ih =>
    have hunmarked := ih hp.2 (Progress.fits_none part)
    refine Move.describes_times hunmarked (fun copy hcopy => ?_) hp.1 hmarks
    split
    · next hnone =>
      rw [Progress.isNone_iff.mp hnone]
      exact hunmarked
    · exact ih hp.2 (hmarks.2 copy hcopy)
  | group number part ih =>
    obtain ⟨hpasses, hends, hfits, hnext⟩ := ih hp hmarks
    exact ⟨hpasses, hends, hfits, hnext⟩

/-! ### Searches -/

/-- The matches that have begun after the next character, if matches begin before it. -/
theorem starts_next_iff {p : Pattern} {move : Move} {c : Char}
    (h : move.Describes p marks before (c :: rest)) :
    (p.pending (move.next true)).starts (before ++ [c]) rest
      ↔ (∃ part after, rest = part ++ after ∧ p.pending marks before (c :: part) after)
        ∨ ∃ part after, rest = part ++ after ∧ p.spans before (c :: part) after := by
  have hnext {part after : List Char} (hparts : rest = part ++ after) :
      p.pending (move.next true) (before ++ [c]) part after
        ↔ p.pending marks before (c :: part) after ∨ p.spans before (c :: part) after :=
    (h.next_iff (congrArg (c :: ·) hparts) true).trans (or_congr_right (and_iff_right rfl))
  constructor
  · rintro ⟨part, after, hparts, hpending⟩
    rcases (hnext hparts).mp hpending with hbegun | hbegins
    · exact .inl ⟨part, after, hparts, hbegun⟩
    · exact .inr ⟨part, after, hparts, hbegins⟩
  · rintro (⟨part, after, hparts, hbegun⟩ | ⟨part, after, hparts, hbegins⟩)
    · exact ⟨part, after, hparts, (hnext hparts).mpr (.inl hbegun)⟩
    · exact ⟨part, after, hparts, (hnext hparts).mpr (.inr hbegins)⟩

/-- What is found in the rest of a text: the end of a match that has begun, or a whole match. -/
theorem isInRest_iff {p : Pattern} (hp : p.IsBounded) {marks : Progress} (hmarks : marks.Fits p)
    (before rest : List Char) :
    p.isInRest before.getLast? rest marks = true
      ↔ (p.pending marks).starts before rest ∨ p.spans.within before rest := by
  induction rest generalizing before marks with
  | nil =>
    have hmove := p.describes_move hp before [] hmarks
    rw [isInRest, Bool.or_eq_true, Spans.starts_nil_iff, Spans.within_nil_iff, ← hmove.passes_iff,
      ← hmove.ends_iff, or_comm]
    rfl
  | cons c rest ih =>
    have hmove := p.describes_move hp before (c :: rest) hmarks
    have hlater := ih (hmove.fits true) (before ++ [c])
    rw [List.getLast?_concat] at hlater
    rw [isInRest, Bool.or_eq_true, Bool.or_eq_true, Spans.within_cons_iff, Spans.starts_cons_iff,
      Spans.starts_cons_iff, ← hmove.passes_iff, ← hmove.ends_iff]
    rw [starts_next_iff hmove] at hlater
    -- a match is found now, or later as one that has begun, begins now, or begins later
    refine (or_congr_right hlater).trans (iff_of_eq ?_)
    rw [List.head?_cons]
    ac_rfl

/-- A text contains a match exactly if the pattern matches some part of it. -/
theorem isIn_iff {p : Pattern} (hp : p.IsBounded) (text : String) :
    p.isIn text = true
      ↔ ∃ before part after, text.toList = before ++ part ++ after ∧ p.spans before part after := by
  have hfound := isInRest_iff hp (Progress.fits_none p) [] text.toList
  rw [isIn, ← List.getLast?_nil, hfound, or_iff_right]
  · rfl
  · rintro ⟨part, after, -, hpending⟩
    exact not_pending_none hpending

end Pattern

end DocQuery.Regex
