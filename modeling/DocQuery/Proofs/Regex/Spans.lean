import DocQuery.Regex.Pattern

/-!
# What patterns match

A pattern matches parts of a text.  Whether it matches a part may also depend on what is before the
part and after it, since anchors look at the characters around their place.

## Main definitions

* `Spans` — parts of texts, with what is before them and after them.
* `Spans.andThen`, `Spans.times`, `Spans.more` — parts that follow each other.
* `Spans.starts`, `Spans.within` — parts at the beginning of a text, and anywhere in it.
* `Pattern.spans` — the parts that a pattern matches.
* `Pattern.IsBounded` — the bounds of repetitions are in order.

## Main results

* `Spans.andThen_cons_iff` — the first of two parts is empty or has the first character.
* `Spans.starts_cons_iff`, `Spans.within_cons_iff` — where a part is in a text.
* `Spans.more_nil_iff`, `Spans.more_cons_iff` — what a repetition can still match.
-/

namespace DocQuery.Regex

/-- Parts of texts, each with the text before it and the text after it. -/
abbrev Spans : Type :=
  (before part after : List Char) → Prop

namespace Spans

/-- A part of one kind and then one of another. -/
def andThen (first second : Spans) : Spans := fun before part after =>
  ∃ xs ys, part = xs ++ ys ∧ first before xs (ys ++ after) ∧ second (before ++ xs) ys after

/-- The same for a part that begins with the character `c` and has it in its first part. -/
def readsThen (first second : Spans) (before : List Char) (c : Char) (cs after : List Char) :
    Prop :=
  ∃ xs ys, cs = xs ++ ys ∧ first before (c :: xs) (ys ++ after)
    ∧ second (before ++ c :: xs) ys after

/-- As many parts as given, one after the other. -/
def times (part : Spans) : Nat → Spans
  | 0 => fun _ chars _ => chars = []
  | n + 1 => part.andThen (part.times n)

/-- What is left of a repetition with the given bounds after `count` parts. -/
def more (part : Spans) (least : Nat) (most : Option Nat) (count : Nat) : Spans :=
  fun before chars after =>
    ∃ n, least ≤ count + n ∧ (∀ m ∈ most, count + n ≤ m) ∧ part.times n before chars after

/-- A part at the beginning of a text. -/
def starts (spans : Spans) (before rest : List Char) : Prop :=
  ∃ part after, rest = part ++ after ∧ spans before part after

/-- A part anywhere in a text. -/
def within (spans : Spans) (before rest : List Char) : Prop :=
  ∃ between part after, rest = between ++ part ++ after ∧ spans (before ++ between) part after

variable {spans first second : Spans} {before cs after : List Char} {c : Char}

theorem andThen_nil_iff :
    first.andThen second before [] after ↔ first before [] after ∧ second before [] after := by
  constructor
  · rintro ⟨xs, ys, hparts, hfirst, hsecond⟩
    obtain ⟨rfl, rfl⟩ := List.append_eq_nil_iff.mp hparts.symm
    rw [List.append_nil] at hsecond
    exact ⟨hfirst, hsecond⟩
  · rintro ⟨hfirst, hsecond⟩
    exact ⟨[], [], rfl, hfirst, by rwa [List.append_nil]⟩

theorem andThen_cons_iff :
    first.andThen second before (c :: cs) after
      ↔ first before [] (c :: cs ++ after) ∧ second before (c :: cs) after
        ∨ first.readsThen second before c cs after := by
  constructor
  · rintro ⟨xs, ys, hparts, hfirst, hsecond⟩
    cases xs with
    | nil =>
      cases hparts
      rw [List.append_nil] at hsecond
      exact .inl ⟨hfirst, hsecond⟩
    | cons x xs =>
      obtain ⟨rfl, rfl⟩ := List.cons_eq_cons.mp hparts
      exact .inr ⟨xs, ys, rfl, hfirst, hsecond⟩
  · rintro (⟨hfirst, hsecond⟩ | ⟨xs, ys, rfl, hfirst, hsecond⟩)
    · exact ⟨[], c :: cs, rfl, hfirst, by rwa [List.append_nil]⟩
    · exact ⟨c :: xs, ys, rfl, hfirst, hsecond⟩

theorem readsThen_mono {second' : Spans} (h : ∀ before cs after, second before cs after →
    second' before cs after) (hreads : first.readsThen second before c cs after) :
    first.readsThen second' before c cs after := by
  obtain ⟨xs, ys, hparts, hfirst, hsecond⟩ := hreads
  exact ⟨xs, ys, hparts, hfirst, h _ _ _ hsecond⟩

/-! ### Parts of a text -/

theorem starts_nil_iff : spans.starts before [] ↔ spans before [] [] := by
  constructor
  · rintro ⟨part, after, hparts, hspans⟩
    obtain ⟨rfl, rfl⟩ := List.append_eq_nil_iff.mp hparts.symm
    exact hspans
  · exact fun hspans => ⟨[], [], rfl, hspans⟩

theorem starts_cons_iff :
    spans.starts before (c :: cs)
      ↔ spans before [] (c :: cs)
        ∨ ∃ part after, cs = part ++ after ∧ spans before (c :: part) after := by
  constructor
  · rintro ⟨part, after, hparts, hspans⟩
    cases part with
    | nil =>
      cases hparts
      exact .inl hspans
    | cons d part =>
      cases hparts
      exact .inr ⟨part, after, rfl, hspans⟩
  · rintro (hspans | ⟨part, after, rfl, hspans⟩)
    · exact ⟨[], c :: cs, rfl, hspans⟩
    · exact ⟨c :: part, after, rfl, hspans⟩

theorem within_nil_iff : spans.within before [] ↔ spans before [] [] := by
  constructor
  · rintro ⟨between, part, after, hparts, hspans⟩
    obtain ⟨hbefore, rfl⟩ := List.append_eq_nil_iff.mp hparts.symm
    obtain ⟨rfl, rfl⟩ := List.append_eq_nil_iff.mp hbefore
    rwa [List.append_nil] at hspans
  · exact fun hspans => ⟨[], [], [], rfl, by rwa [List.append_nil]⟩

/-- A part of a text is at its beginning or in what is behind its first character. -/
theorem within_cons_iff :
    spans.within before (c :: cs)
      ↔ spans.starts before (c :: cs) ∨ spans.within (before ++ [c]) cs := by
  constructor
  · rintro ⟨between, part, after, hparts, hspans⟩
    cases between with
    | nil => exact .inl ⟨part, after, hparts, by rwa [List.append_nil] at hspans⟩
    | cons d between =>
      cases hparts
      exact .inr ⟨between, part, after, rfl, by rwa [List.append_assoc]⟩
  · rintro (⟨part, after, hparts, hspans⟩ | ⟨between, part, after, rfl, hspans⟩)
    · exact ⟨[], part, after, hparts, by rwa [List.append_nil]⟩
    · exact ⟨c :: between, part, after, rfl, by rwa [List.append_assoc] at hspans⟩

/-! ### Repetitions -/

section Repetitions

variable {part : Spans} {least count : Nat} {most : Option Nat}

theorem times_nil_iff {n : Nat} :
    part.times n before [] after ↔ n = 0 ∨ part before [] after := by
  induction n with
  | zero => exact iff_of_true rfl (.inl rfl)
  | succ n ih =>
    rw [times, andThen_nil_iff, ih, or_iff_right (Nat.succ_ne_zero n)]
    exact ⟨And.left, fun h => ⟨h, .inr h⟩⟩

theorem more_nil_iff (hbounds : ∀ m ∈ most, least ≤ m) :
    part.more least most count before [] after
      ↔ (∀ m ∈ most, count ≤ m) ∧ (least ≤ count ∨ part before [] after) := by
  constructor
  · rintro ⟨n, hleast, hmost, hpart⟩
    refine ⟨fun m hm => Nat.le_of_add_right_le (hmost m hm), ?_⟩
    rcases times_nil_iff.mp hpart with rfl | hpart
    · exact .inl hleast
    · exact .inr hpart
  · rintro ⟨hcount, hleast | hpart⟩
    · exact ⟨0, hleast, hcount, rfl⟩
    · refine ⟨least - count, by omega, fun m hm => ?_, times_nil_iff.mpr (.inr hpart)⟩
      have := hbounds m hm
      have := hcount m hm
      omega

/-- Unless there is nothing left to match, there is one part and then what is left after it. -/
theorem more_cons_iff :
    part.more least most count before (c :: cs) after
      ↔ part before [] (c :: cs ++ after) ∧ part.more least most (count + 1) before (c :: cs) after
        ∨ part.readsThen (part.more least most (count + 1)) before c cs after := by
  rw [← andThen_cons_iff]
  constructor
  · rintro ⟨n, hleast, hmost, hparts⟩
    cases n with
    | zero => cases hparts
    | succ n =>
      obtain ⟨xs, ys, hsplit, hfirst, hrest⟩ := hparts
      rw [← Nat.add_assoc, Nat.add_right_comm] at hleast hmost
      exact ⟨xs, ys, hsplit, hfirst, n, hleast, hmost, hrest⟩
  · rintro ⟨xs, ys, hsplit, hfirst, n, hleast, hmost, hrest⟩
    rw [Nat.add_right_comm, Nat.add_assoc] at hleast hmost
    exact ⟨n + 1, hleast, hmost, xs, ys, hsplit, hfirst, hrest⟩

/-- Some part is the first one that is not empty. -/
theorem reads_of_times {n : Nat} (h : part.times n before (c :: cs) after) :
    ∃ m < n, part.readsThen (part.times m) before c cs after := by
  induction n with
  | zero => cases h
  | succ n ih =>
    rcases andThen_cons_iff.mp h with ⟨-, hrest⟩ | hreads
    · obtain ⟨m, hm, hreads⟩ := ih hrest
      exact ⟨m, Nat.lt_succ_of_lt hm, hreads⟩
    · exact ⟨n, Nat.lt_succ_self n, hreads⟩

theorem not_more_cons {m : Nat} (h : m ≤ count) :
    ¬part.more least (some m) count before (c :: cs) after := by
  rintro ⟨n, -, hmost, hparts⟩
  have hn : n = 0 := by
    have := hmost m rfl
    omega
  subst hn
  cases hparts

/-- Without an upper bound, and with the lower one reached, parts that are empty change nothing. -/
theorem more_unbounded_iff (h : least ≤ count) :
    part.more least none count before (c :: cs) after
      ↔ part.readsThen (part.more least none count) before c cs after := by
  constructor
  · rintro ⟨n, -, -, hparts⟩
    obtain ⟨m, -, hreads⟩ := reads_of_times hparts
    exact readsThen_mono (fun _ _ _ hrest => ⟨m, Nat.le_add_right_of_le h, nofun, hrest⟩) hreads
  · rintro ⟨xs, ys, rfl, hfirst, n, -, -, hrest⟩
    exact ⟨n + 1, Nat.le_add_right_of_le h, nofun, c :: xs, ys, rfl, hfirst, hrest⟩

end Repetitions

end Spans

namespace Pattern

/-- The parts that a pattern matches. -/
def spans : Pattern → Spans
  | .empty => fun _ part _ => part = []
  | .one set => fun _ part _ => ∃ c, set.has c = true ∧ part = [c]
  | .anchored words condition => fun before part after =>
    part = [] ∧ condition.holds words before.getLast? after.head? = true
  | .seq first second => first.spans.andThen second.spans
  | .alt first second => fun before part after =>
    first.spans before part after ∨ second.spans before part after
  | .times part least most => part.spans.more least most 0
  | .group _ part => part.spans

/-- No repetition has a lower bound above its upper one. -/
def IsBounded : Pattern → Prop
  | .empty => True
  | .one _ => True
  | .anchored _ _ => True
  | .seq first second => first.IsBounded ∧ second.IsBounded
  | .alt first second => first.IsBounded ∧ second.IsBounded
  | .times part least most => (∀ m ∈ most, least ≤ m) ∧ part.IsBounded
  | .group _ part => part.IsBounded

end Pattern

end DocQuery.Regex
