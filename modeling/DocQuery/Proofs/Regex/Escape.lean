import DocQuery.Proofs.Regex.Search
import DocQuery.Regex.Compile
import DocQuery.Regex.Escape
import Mathlib.Data.List.Infix

/-!
# Escaped text

A text in which every special character has a backslash before it is a pattern: the sequence of its
characters, each of which stands for itself.  With an anchor on one side, it is found at that end of
a text only.

## Main definitions

* `Pattern.sequence` — patterns one after the other.
* `Reading.ofLeaves` — what has been read if it was such patterns.

## Main results

* `readPattern_escape`, `readPattern_start_escape`, `readPattern_escape_end` — escaped text is read.
* `Pattern.isIn_literals_iff`, `Pattern.isIn_start_literals_iff`, `Pattern.isIn_literals_end_iff` —
  **where it is found.**
-/

namespace DocQuery.Regex

/-! ### Sequences -/

/-- The patterns one after the other. -/
def Pattern.sequence (ps : List Pattern) : Pattern :=
  ps.foldr .seq .empty

/-- The patterns of characters that stand for themselves. -/
def literals (flags : Flags) (cs : List Char) : List Pattern :=
  cs.map (literal flags)

theorem CharSet.has_only_iff {c d : Char} : (CharSet.only c).has d = true ↔ d = c := by
  have hpoints : (CharSet.only c).has d = true ↔ d.toNat = c.toNat := by
    rw [has, only, range, holds, holds, Bool.or_false]
    split
    · exact iff_of_false Bool.false_ne_true (by omega)
    · rw [decide_eq_true_iff]
      omega
  exact hpoints.trans Char.toNat_inj

variable {flags : Flags}

theorem spans_literal_iff (hcase : flags.ignoreCase = false) {c : Char}
    {before part after : List Char} :
    (literal flags c).spans before part after ↔ part = [c] := by
  have hset : fold flags (.only c) = .only c := by
    rw [fold, hcase]
    rfl
  rw [literal, hset]
  constructor
  · rintro ⟨d, hd, rfl⟩
    rw [CharSet.has_only_iff.mp hd]
  · rintro rfl
    exact ⟨c, CharSet.has_only_iff.mpr rfl, rfl⟩

/-- Characters that stand for themselves match the text that they make. -/
theorem spans_sequence_literals_iff (hcase : flags.ignoreCase = false) {cs : List Char}
    {ps : List Pattern} {before part after : List Char} :
    (Pattern.sequence (literals flags cs ++ ps)).spans before part after
      ↔ ∃ rest, part = cs ++ rest ∧ (Pattern.sequence ps).spans (before ++ cs) rest after := by
  induction cs generalizing before part with
  | nil =>
    rw [List.append_nil]
    exact ⟨fun hspans => ⟨part, rfl, hspans⟩, fun ⟨_, hpart, hspans⟩ => hpart ▸ hspans⟩
  | cons c cs ih =>
    constructor
    · rintro ⟨xs, ys, rfl, hxs, hys⟩
      obtain ⟨rest, rfl, hrest⟩ := ih.mp hys
      rw [(spans_literal_iff hcase).mp hxs, List.append_assoc] at hrest
      exact ⟨rest, by rw [(spans_literal_iff hcase).mp hxs]; rfl, hrest⟩
    · rintro ⟨rest, rfl, hrest⟩
      refine ⟨[c], cs ++ rest, rfl, (spans_literal_iff hcase).mpr rfl, ih.mpr ⟨rest, rfl, ?_⟩⟩
      rwa [List.append_assoc]

theorem Pattern.isBounded_sequence {ps : List Pattern} (h : ∀ p ∈ ps, p.IsBounded) :
    (sequence ps).IsBounded := by
  induction ps with
  | nil => trivial
  | cons p ps ih =>
    obtain ⟨hp, hps⟩ := List.forall_mem_cons.mp h
    exact ⟨hp, ih hps⟩

theorem isBounded_of_mem_literals {cs : List Char} {p : Pattern} (h : p ∈ literals flags cs) :
    p.IsBounded := by
  obtain ⟨c, -, rfl⟩ := List.mem_map.mp h
  trivial

/-! ### Where escaped text is found -/

namespace Pattern

variable {cs : List Char} {text : String}

theorem isIn_literals_iff (hcase : flags.ignoreCase = false) :
    (sequence (literals flags cs)).isIn text = true ↔ cs <:+: text.toList := by
  have hbounded : (sequence (literals flags cs)).IsBounded :=
    isBounded_sequence fun _ => isBounded_of_mem_literals
  rw [isIn_iff hbounded, ← List.append_nil (literals flags cs)]
  simp only [spans_sequence_literals_iff hcase]
  constructor
  · rintro ⟨before, part, after, htext, rest, rfl, rfl⟩
    rw [List.append_nil] at htext
    exact ⟨before, after, htext.symm⟩
  · rintro ⟨before, after, htext⟩
    exact ⟨before, cs, after, htext.symm, [], (List.append_nil cs).symm, rfl⟩

theorem isIn_start_literals_iff (hcase : flags.ignoreCase = false) (words : CharSet) :
    (sequence (.anchored words .textStart :: literals flags cs)).isIn text = true
      ↔ cs <+: text.toList := by
  have hbounded : (sequence (.anchored words .textStart :: literals flags cs)).IsBounded :=
    ⟨trivial, isBounded_sequence fun _ => isBounded_of_mem_literals⟩
  rw [isIn_iff hbounded, ← List.append_nil (literals flags cs)]
  constructor
  · rintro ⟨before, part, after, htext, xs, ys, rfl, ⟨rfl, hstart⟩, hspans⟩
    obtain ⟨rest, rfl, rfl⟩ := (spans_sequence_literals_iff hcase).mp hspans
    have hbefore : before = [] := List.getLast?_eq_none_iff.mp (Option.isNone_iff_eq_none.mp hstart)
    rw [hbefore, List.append_nil] at htext
    exact ⟨after, htext.symm⟩
  · rintro ⟨after, htext⟩
    refine ⟨[], cs, after, htext.symm, [], cs, rfl, ⟨rfl, rfl⟩, ?_⟩
    exact (spans_sequence_literals_iff hcase).mpr ⟨[], (List.append_nil cs).symm, rfl⟩

theorem isIn_literals_end_iff (hcase : flags.ignoreCase = false) (words : CharSet) :
    (sequence (literals flags cs ++ [.anchored words .textEnd])).isIn text = true
      ↔ cs <:+ text.toList := by
  have hbounded : (sequence (literals flags cs ++ [.anchored words .textEnd])).IsBounded := by
    refine isBounded_sequence (List.forall_mem_append.mpr ⟨fun _ => isBounded_of_mem_literals, ?_⟩)
    exact List.forall_mem_singleton.mpr trivial
  rw [isIn_iff hbounded]
  simp only [spans_sequence_literals_iff hcase]
  constructor
  · rintro ⟨before, part, after, htext, rest, rfl, xs, ys, rfl, ⟨rfl, hend⟩, rfl⟩
    have hafter : after = [] := List.head?_eq_none_iff.mp (Option.isNone_iff_eq_none.mp hend)
    rw [hafter, List.append_nil, List.append_nil, List.append_nil] at htext
    exact ⟨before, htext.symm⟩
  · rintro ⟨before, htext⟩
    refine ⟨before, cs, [], ?_, [], (List.append_nil cs).symm, [], [], rfl, ⟨rfl, rfl⟩, rfl⟩
    rw [List.append_nil, htext]

end Pattern

/-! ### Reading escaped text -/

/-- A special character stands for itself after a backslash. -/
theorem readEscape_of_isSpecial {c : Char} (h : isSpecial c = true) (cs : List Char) :
    readEscape flags (c :: cs) = some (.char c, cs) := by
  simp only [isSpecial, List.contains_iff_mem, List.mem_cons, List.not_mem_nil, or_false] at h
  rcases h with rfl | rfl | rfl | rfl | rfl | rfl | rfl | rfl | rfl | rfl | rfl | rfl | rfl | rfl |
    rfl | rfl | rfl | rfl <;> rfl

/-- What has been read if it was patterns one after the other. -/
def Reading.ofLeaves (flags : Flags) (ps : List Pattern) : Reading :=
  ⟨⟨[], (ps.map fun p => ⟨some p, 0⟩).reverse, flags, none⟩, [], [], 0⟩

theorem Reading.withGroup_addLeaf (ps : List Pattern) (p : Pattern) :
    (ofLeaves flags ps).withGroup ((ofLeaves flags ps).group.addLeaf p)
      = ofLeaves flags (ps ++ [p]) := by
  rw [ofLeaves, ofLeaves, List.map_append, List.map_singleton, List.reverse_append]
  rfl

/-- A character that is not special stands for itself. -/
theorem readOn_of_not_isSpecial {c : Char} (h : isSpecial c = false) (r : Reading)
    (cs : List Char) :
    readOn r c cs = some (r.withGroup (r.group.addLeaf (literal r.group.flags c)), cs) := by
  unfold readOn
  split
  case h_13 => rfl
  all_goals exact absurd h (by decide)

theorem readOn_of_isSpecial {c : Char} (h : isSpecial c = true) (r : Reading) (cs : List Char) :
    readOn r '\\' (c :: cs)
      = some (r.withGroup (r.group.addLeaf (literal r.group.flags c)), cs) := by
  show (readEscape r.group.flags (c :: cs) >>= _) = _
  rw [readEscape_of_isSpecial h]
  rfl

theorem readAll_cons (hspaced : flags.spaced = false) {fuel : Nat} {r r' : Reading} {c : Char}
    {cs rest : List Char} (hflags : r.group.flags = flags)
    (hread : readOn r c cs = some (r', rest)) :
    readAll (fuel + 1) r (c :: cs) = readAll fuel r' rest := by
  have hskip : skip r.group.flags (c :: cs) = c :: cs := by
    rw [skip, hflags, hspaced]
    rfl
  rw [readAll.eq_def]
  simp only [hskip, hread]

/-- Escaped characters are read as what stands for themselves. -/
theorem readAll_escapeChars (hspaced : flags.spaced = false) (ps : List Pattern)
    (cs rest : List Char) (fuel : Nat) :
    readAll (fuel + cs.length) (.ofLeaves flags ps) (escapeChars cs ++ rest)
      = readAll fuel (.ofLeaves flags (ps ++ literals flags cs)) rest := by
  induction cs generalizing ps with
  | nil =>
    rw [literals, List.map_nil, List.append_nil]
    rfl
  | cons c cs ih =>
    have hleaf : _ = Reading.ofLeaves flags _ := Reading.withGroup_addLeaf ps (literal flags c)
    have hliterals : ps ++ literals flags (c :: cs)
        = (ps ++ [literal flags c]) ++ literals flags cs := by
      rw [List.append_assoc]
      rfl
    rw [List.length_cons, ← Nat.add_assoc, escapeChars, hliterals, ← ih]
    split
    · next hspecial =>
      refine readAll_cons hspaced rfl ?_
      rw [← hleaf]
      exact readOn_of_isSpecial hspecial _ _
    · next hspecial =>
      refine readAll_cons hspaced rfl ?_
      rw [← hleaf]
      exact readOn_of_not_isSpecial (Bool.eq_false_iff.mpr hspecial) _ _

/-! ### Patterns of escaped text -/

/-- Only leaves make no group deeper than one. -/
theorem depthOf_le_one {depths : List Nat} (h : ∀ depth ∈ depths, depth = 0) :
    Group.depthOf depths ≤ 1 := by
  have hgreatest : depths.foldl max 0 = 0 := by
    induction depths with
    | nil => rfl
    | cons depth depths ih =>
      obtain ⟨rfl, hdepths⟩ := List.forall_mem_cons.mp h
      exact ih hdepths
  rw [Group.depthOf, hgreatest]
  split <;> decide

theorem depthOf_singleton (depth : Nat) : Group.depthOf [depth] = depth :=
  Nat.zero_max depth

theorem choice_ofLeaves (flags : Flags) (ps : List Pattern) :
    ∃ depth ≤ 1, (Reading.ofLeaves flags ps).group.choice = ⟨.sequence ps, depth⟩ := by
  have hpatterns : (Reading.ofLeaves flags ps).group.parts.reverse.filterMap (·.pattern) = ps := by
    rw [Reading.ofLeaves, List.reverse_reverse, List.filterMap_map]
    exact List.filterMap_some
  have hdepths : ∀ depth ∈ (Reading.ofLeaves flags ps).group.parts.map (·.depth), depth = 0 := by
    rw [Reading.ofLeaves, List.forall_mem_map]
    intro part hpart
    obtain ⟨p, -, rfl⟩ := List.mem_map.mp (List.mem_reverse.mp hpart)
    rfl
  have hbranch : (Reading.ofLeaves flags ps).group.branch.pattern = .sequence ps :=
    congrArg Pattern.sequence hpatterns
  refine ⟨(Reading.ofLeaves flags ps).group.branch.depth, depthOf_le_one hdepths, ?_⟩
  show Branch.mk (Reading.ofLeaves flags ps).group.branch.pattern (Group.depthOf [_]) = _
  rw [depthOf_singleton, hbranch]

/-- In the end the patterns that have been read are one after the other. -/
theorem readAll_nil_ofLeaves (hspaced : flags.spaced = false) (fuel : Nat) (ps : List Pattern) :
    ∃ depth ≤ 1, readAll fuel (.ofLeaves flags ps) [] = some ⟨.sequence ps, depth⟩ := by
  have hskip : skip flags [] = [] := by
    rw [skip, hspaced]
    rfl
  obtain ⟨depth, hdepth, hchoice⟩ := choice_ofLeaves flags ps
  refine ⟨depth, hdepth, ?_⟩
  rw [readAll.eq_def, ← hchoice]
  simp only [Reading.ofLeaves, hskip, List.isEmpty_nil, if_true]

theorem readPattern_eq_some {text : String} {ps : List Pattern} {fuel : Nat}
    (hspaced : flags.spaced = false)
    (h : readAll (text.toList.length + 1) (.ofLeaves flags []) text.toList
      = readAll fuel (.ofLeaves flags ps) []) :
    readPattern flags text = some (.sequence ps) := by
  obtain ⟨depth, hdepth, hread⟩ := readAll_nil_ofLeaves hspaced fuel ps
  show (readAll (text.toList.length + 1) (.ofLeaves flags []) text.toList >>= _) = _
  rw [h, hread]
  have hmax : depth ≤ maxDepth := Nat.le_trans hdepth (by decide)
  exact if_pos hmax

theorem length_le_length_escapeChars (cs : List Char) : cs.length ≤ (escapeChars cs).length := by
  induction cs with
  | nil => exact Nat.le_refl 0
  | cons c cs ih =>
    rw [escapeChars]
    split
    · exact Nat.succ_le_succ (Nat.le_succ_of_le ih)
    · exact Nat.succ_le_succ ih

/-- There is fuel enough for escaped text and what is after it. -/
theorem exists_readAll_escapeChars (hspaced : flags.spaced = false) (ps : List Pattern)
    (cs rest : List Char) :
    ∃ fuel,
      readAll ((escapeChars cs ++ rest).length + 1) (.ofLeaves flags ps) (escapeChars cs ++ rest)
        = readAll (fuel + rest.length + 1) (.ofLeaves flags (ps ++ literals flags cs)) rest := by
  obtain ⟨fuel, hfuel⟩ := Nat.exists_eq_add_of_le (length_le_length_escapeChars cs)
  refine ⟨fuel, ?_⟩
  rw [← readAll_escapeChars hspaced, List.length_append, hfuel]
  exact congrArg (readAll · _ _) (by omega)

theorem toList_escape (text : String) : (escape text).toList = escapeChars text.toList :=
  String.toList_ofList

/-- Escaped text is the sequence of its characters. -/
theorem readPattern_escape (hspaced : flags.spaced = false) (text : String) :
    readPattern flags (escape text) = some (.sequence (literals flags text.toList)) := by
  obtain ⟨fuel, hread⟩ := exists_readAll_escapeChars hspaced [] text.toList []
  rw [List.append_nil, List.nil_append, ← toList_escape] at hread
  exact readPattern_eq_some hspaced hread

/-- With a circumflex before it, it begins with the anchor of a beginning. -/
theorem readPattern_start_escape (hspaced : flags.spaced = false) (text : String) :
    readPattern flags ("^" ++ escape text)
      = some (.sequence (.anchored .empty (startAnchor flags) :: literals flags text.toList)) := by
  obtain ⟨fuel, hread⟩ := exists_readAll_escapeChars hspaced
    [.anchored .empty (startAnchor flags)] text.toList []
  rw [List.append_nil, ← toList_escape] at hread
  apply readPattern_eq_some hspaced
  rw [String.toList_append]
  exact (readAll_cons hspaced rfl rfl).trans hread

/-- With a dollar sign after it, it ends with the anchor of an end. -/
theorem readPattern_escape_end (hspaced : flags.spaced = false) (text : String) :
    readPattern flags (escape text ++ "$")
      = some (.sequence (literals flags text.toList ++ [.anchored .empty (endAnchor flags)])) := by
  obtain ⟨fuel, hread⟩ := exists_readAll_escapeChars hspaced [] text.toList ['$']
  have hleaf : _ = Reading.ofLeaves flags _ := Reading.withGroup_addLeaf
    (literals flags text.toList) (.anchored .empty (endAnchor flags))
  rw [← toList_escape] at hread
  apply readPattern_eq_some hspaced
  rw [String.toList_append]
  refine hread.trans (readAll_cons hspaced rfl ?_)
  rw [← hleaf]
  rfl

/-- A pattern that is read can be searched for if it is small enough. -/
theorem compile?_of_readPattern {text options : String} {pattern : Pattern}
    (hread : readPattern (flagsOf options) text = some pattern)
    (hfits : (compile? text options).isSome = true) : compile? text options = some pattern := by
  have hcompile : compile? text options = if pattern.normal.fits then some pattern else none := by
    rw [compile?, hread]
    rfl
  rw [hcompile] at hfits ⊢
  split
  · rfl
  · next hlarge =>
    rw [if_neg hlarge] at hfits
    cases hfits

end DocQuery.Regex
