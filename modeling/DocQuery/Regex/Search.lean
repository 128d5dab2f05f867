import DocQuery.Regex.Pattern

/-!
# Searches

Whether a text contains a match of a pattern.  The text is read once, character after character, and
all matches that have begun are followed at the same time.  How far they are is kept as marks on the
pattern: a part is marked if it matched the last character.  A mark moves on to the parts that can
come next, so that the work for a character is at most linear in the pattern with its repetitions
written out, however repetitions are nested.

## Main definitions

* `Progress` — the marks on a pattern.
* `Move` — what the marks on a part mean at a place, and how they move.
* `Pattern.move` — the move of a pattern.
* `Pattern.isIn` — the text contains a match.
-/

namespace DocQuery.Regex

/-- The marks on a pattern. -/
inductive Progress where
  /-- No part is marked. -/
  | none
  /-- The pattern is one character, and matched the last one. -/
  | here
  /-- The marks on the two parts of a pattern. -/
  | both (first second : Progress)
  /-- The marks on the copies of a repeated part, of which the last ones without marks are left
  out. -/
  | copies (list : List Progress)

namespace Progress

/-- No part is marked. -/
def isNone : Progress → Bool
  | none => true
  | _ => false

/-- The marks on the two parts. -/
def parts : Progress → Progress × Progress
  | both first second => (first, second)
  | _ => (none, none)

/-- The marks on the copies. -/
def toList : Progress → List Progress
  | copies list => list
  | _ => []

/-- The marks on a pattern from those on its two parts. -/
def ofParts (first second : Progress) : Progress :=
  if first.isNone && second.isNone then none else both first second

/-- The marks on a pattern from those on the copies of its part. -/
def ofList : List Progress → Progress
  | [] => none
  | list => copies list

/-- The marks on a copy before those on later copies. -/
def cons (first : Progress) (rest : List Progress) : List Progress :=
  if first.isNone && rest.isEmpty then [] else first :: rest

end Progress

/-- A part of a pattern at a place of a text. -/
structure Move where
  /-- The part matches nothing at the place. -/
  passes : Bool
  /-- A match of at least one character ends at the place. -/
  ends : Bool
  /-- The marks after the next character, if a match can begin at the place or if none can. -/
  next : (begins : Bool) → Progress

namespace Move

/-- Nothing is matched, or nothing can be. -/
def still (passes : Bool) : Move :=
  ⟨passes, false, fun _ => .none⟩

/-- One part and then another. -/
def andThen (first second : Move) : Move where
  passes := first.passes && second.passes
  ends := (first.ends && second.passes) || second.ends
  next begins :=
    .ofParts (first.next begins) (second.next ((begins && first.passes) || first.ends))

/-- One part or another. -/
def either (first second : Move) : Move where
  passes := first.passes || second.passes
  ends := first.ends || second.ends
  next begins := .ofParts (first.next begins) (second.next begins)

/-- The marks on the last `count` copies of a part after the next character.  The moves are those of
the first of these copies, and `unmarked` is that of all others; if `loops`, the last copy follows
itself. -/
def advance (unmarked : Move) (loops : Bool) : (count : Nat) → Bool → List Move → List Progress
  | 0, _, _ => []
  | count + 1, begins, [] =>
    let first := unmarked.next begins
    if first.isNone then []
    else if unmarked.passes then List.replicate (count + 1) first
    else [first]
  | count + 1, begins, move :: moves =>
    let again := loops && count = 0 && move.ends
    Progress.cons (move.next (begins || again))
      (advance unmarked loops count ((begins && unmarked.passes) || move.ends) moves)

/-- At least and at most as many matches of a part as given, one after the other.  The moves are
those of the first copies, and `unmarked` is that of all others. -/
def times (unmarked : Move) (least : Nat) (most : Option Nat) (moves : List Move) : Move where
  passes := least = 0 || unmarked.passes
  ends := (if unmarked.passes then moves else moves.drop (least - 1)).any (·.ends)
  next begins :=
    .ofList (advance unmarked most.isNone (most.getD (max least 1)) begins moves)

end Move

namespace Pattern

/-- The move of a pattern with the given marks between two characters. -/
def move (before after : Option Char) : Pattern → Progress → Move
  | .empty, _ => .still true
  | .one set, marks =>
    { passes := false
      ends := !marks.isNone
      next := fun begins => if begins && after.any set.has then .here else .none }
  | .anchored words condition, _ => .still (condition.holds words before after)
  | .seq first second, marks =>
    (first.move before after marks.parts.1).andThen (second.move before after marks.parts.2)
  | .alt first second, marks =>
    (first.move before after marks.parts.1).either (second.move before after marks.parts.2)
  | .times part least most, marks =>
    let unmarked := part.move before after .none
    .times unmarked least most <| marks.toList.map fun marks =>
      if marks.isNone then unmarked else part.move before after marks
  | .group _ part, marks => part.move before after marks

/-- A match ends in the rest of a text, of which the character before is given, or at its start. -/
def isInRest (pattern : Pattern) : Option Char → List Char → Progress → Bool
  | before, [], marks =>
    let move := pattern.move before none marks
    move.passes || move.ends
  | before, c :: rest, marks =>
    let move := pattern.move before c marks
    move.passes || move.ends || pattern.isInRest c rest (move.next true)

/-- The text contains a match. -/
def isIn (pattern : Pattern) (text : String) : Bool :=
  pattern.isInRest none text.toList .none

end Pattern

end DocQuery.Regex
