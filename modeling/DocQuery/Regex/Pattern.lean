import DocQuery.Regex.CharSet

/-!
# Patterns

What a regular expression says.

## Main definitions

* `Anchor` — the conditions on a place between two characters.
* `Pattern` — regular expressions.
-/

namespace DocQuery.Regex

/-- A condition on a place in a text. -/
inductive Anchor where
  | textStart
  | textEnd
  /-- Before the text or after a line feed. -/
  | lineStart
  | lineEnd
  /-- Before the text or after a line break of any of the usual kinds. -/
  | anyLineStart
  | anyLineEnd
  | wordBoundary
  | noWordBoundary
  | wordStart
  | wordEnd
  /-- Not after a character of a word. -/
  | wordStartHalf
  /-- Not before a character of a word. -/
  | wordEndHalf
  deriving DecidableEq

/-- The condition holds between two characters, either of which is missing at an end of the text.
`words` is the set of characters of words. -/
def Anchor.holds (words : CharSet) (anchor : Anchor) (before after : Option Char) : Bool :=
  let wordBefore := before.any words.has
  let wordAfter := after.any words.has
  match anchor with
  | .textStart => before.isNone
  | .textEnd => after.isNone
  | .lineStart => before.isNone || before = some '\n'
  | .lineEnd => after.isNone || after = some '\n'
  | .anyLineStart =>
    before.isNone || before = some '\n' || (before = some '\r' && after != some '\n')
  | .anyLineEnd =>
    after.isNone || after = some '\r' || (after = some '\n' && before != some '\r')
  | .wordBoundary => wordBefore != wordAfter
  | .noWordBoundary => wordBefore == wordAfter
  | .wordStart => !wordBefore && wordAfter
  | .wordEnd => wordBefore && !wordAfter
  | .wordStartHalf => !wordBefore
  | .wordEndHalf => !wordAfter

/-- A regular expression. -/
inductive Pattern where
  | empty
  /-- One character of a set. -/
  | one (set : CharSet)
  /-- Nothing, at a place where a condition holds. -/
  | anchored (words : CharSet) (condition : Anchor)
  | seq (first second : Pattern)
  | alt (first second : Pattern)
  /-- At least and at most as many matches as given, one after the other. -/
  | times (pattern : Pattern) (least : Nat) (most : Option Nat)
  /-- A group with a number by which the text it matches can be asked for. -/
  | group (number : Nat) (pattern : Pattern)
  deriving DecidableEq

end DocQuery.Regex
