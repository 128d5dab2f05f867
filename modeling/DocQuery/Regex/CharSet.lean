import DocQuery.Text.Blank
import DocQuery.Text.CaseGroups

/-!
# Sets of characters

The sets that a pattern can ask a character to belong to, as ranges in increasing order with a gap
between any two neighbours.  A range is one of code points whose ends are characters, so that the
code points of surrogates inside it do no harm.

## Main definitions

* `CharSet` — the sets.
* `CharSet.has` — membership.
* `CharSet.ofRanges` — the set with given ranges in any order.
* `CharSet.union`, `inter`, `diff`, `symmDiff`, `compl` — operations.
* `CharSet.folded` — all characters equal to one of a set but for case.
-/

namespace DocQuery.Regex

open Text (Ranges)

/-- A set of characters. -/
structure CharSet where
  /-- The inclusive ranges of code points. -/
  ranges : Ranges
  deriving DecidableEq

namespace CharSet

/-! ### Membership -/

/-- A code point lies in one of the ranges, which are in increasing order. -/
def holds (n : Nat) : Ranges → Bool
  | [] => false
  | (first, last) :: rest => if n < first then false else n ≤ last || holds n rest

/-- Membership of a character. -/
def has (set : CharSet) (c : Char) : Bool :=
  holds c.toNat set.ranges

/-- The set has no character. -/
def isEmpty (set : CharSet) : Bool :=
  set.ranges.isEmpty

/-- All characters of the set are ASCII characters. -/
def isAscii (set : CharSet) : Bool :=
  set.ranges.all fun (_, last) => last < 0x80

/-- The only character of the set. -/
def single? (set : CharSet) : Option Char :=
  match set.ranges with
  | [(first, last)] => if first = last then some (Char.ofNat first) else none
  | _ => none

/-! ### Construction -/

/-- Joins ranges that meet or overlap. -/
def join : Ranges → Ranges
  | [] => []
  | [range] => [range]
  | (a, b) :: (c, d) :: rest =>
    if c ≤ b + 1 then join ((a, max b d) :: rest) else (a, b) :: join ((c, d) :: rest)
  termination_by ranges => ranges.length

/-- The set with the given ranges. -/
def ofRanges (ranges : Ranges) : CharSet :=
  ⟨join (ranges.mergeSort fun a b => a.1 ≤ b.1)⟩

/-- The set of the given code points. -/
def ofPoints (points : List Nat) : CharSet :=
  ofRanges (points.map fun n => (n, n))

/-- The empty set. -/
def empty : CharSet :=
  ⟨[]⟩

/-- The characters between two of them. -/
def range (first last : Char) : CharSet :=
  ⟨[(first.toNat, last.toNat)]⟩

/-- The set of one character. -/
def only (c : Char) : CharSet :=
  range c c

/-- The last code point. -/
def lastPoint : Nat := 0x10FFFF

/-- All characters. -/
def all : CharSet :=
  ⟨[(0, lastPoint)]⟩

/-- The ASCII characters. -/
def ascii : CharSet :=
  ⟨[(0, 0x7F)]⟩

/-! ### Operations -/

/-- The code point of the next character. -/
def next (n : Nat) : Nat :=
  if n = 0xD7FF then 0xE000 else n + 1

/-- The code point of the character before. -/
def previous (n : Nat) : Nat :=
  if n = 0xE000 then 0xD7FF else n - 1

/-- The characters in one of two sets or in both. -/
def union (a b : CharSet) : CharSet :=
  ⟨join (List.merge a.ranges b.ranges fun x y => x.1 ≤ y.1)⟩

/-- The union of sets. -/
def unions (sets : List CharSet) : CharSet :=
  sets.foldr union empty

/-- The ranges common to two lists of ranges. -/
def meet : Ranges → Ranges → Ranges
  | (a, b) :: as, (c, d) :: bs =>
    let rest := if b < d then meet as ((c, d) :: bs) else meet ((a, b) :: as) bs
    if max a c ≤ min b d then (max a c, min b d) :: rest else rest
  | _, _ => []
  termination_by as bs => as.length + bs.length

/-- The characters in both of two sets. -/
def inter (a b : CharSet) : CharSet :=
  ⟨meet a.ranges b.ranges⟩

/-- What is left of ranges without others. -/
def without : Ranges → Ranges → Ranges
  | [], _ => []
  | as, [] => as
  | (a, b) :: as, (c, d) :: bs =>
    if d < a then without ((a, b) :: as) bs
    else if b < c then (a, b) :: without as ((c, d) :: bs)
    else
      let rest := if d < b then without ((next d, b) :: as) bs else without as ((c, d) :: bs)
      if a < c then (a, previous c) :: rest else rest
  termination_by as bs => as.length + bs.length

/-- The characters in the first set, but not in the second. -/
def diff (a b : CharSet) : CharSet :=
  ⟨without a.ranges b.ranges⟩

/-- The characters in one of the two sets, but not in both. -/
def symmDiff (a b : CharSet) : CharSet :=
  (a.union b).diff (a.inter b)

/-- The gaps after a code point between ranges.  Between neighbours at both sides of the surrogates
there is no character; there the gap is written with its ends exchanged. -/
def gaps (point : Nat) : Ranges → Ranges
  | [] => if point < lastPoint then [(next point, lastPoint)] else []
  | (first, last) :: rest =>
    (min (next point) (previous first), max (next point) (previous first)) :: gaps last rest

/-- The characters outside a set. -/
def compl (set : CharSet) : CharSet :=
  match set.ranges with
  | [] => all
  | (first, last) :: rest =>
    ⟨if 0 < first then (0, previous first) :: gaps last rest else gaps last rest⟩

/-- The characters that are equal to one of the set but for case. -/
def folded (set : CharSet) : CharSet :=
  set.union (ofPoints (Text.caseGroups.filter fun group =>
    group.any fun n => holds n set.ranges).flatten)

/-! ### Classes with a name -/

/-- Blanks. -/
def blank : CharSet :=
  ofRanges Text.blankRanges

/-- The ASCII digits. -/
def asciiDigit : CharSet :=
  range '0' '9'

/-- The ASCII blanks. -/
def asciiBlank : CharSet :=
  ofRanges [(0x09, 0x0D), (0x20, 0x20)]

/-- The ASCII characters of words. -/
def asciiWord : CharSet :=
  ofRanges [(0x30, 0x39), (0x41, 0x5A), (0x5F, 0x5F), (0x61, 0x7A)]

/-- The ASCII class with the given name. -/
def ascii? : String → Option CharSet
  | "alnum" => some (ofRanges [(0x30, 0x39), (0x41, 0x5A), (0x61, 0x7A)])
  | "alpha" => some (ofRanges [(0x41, 0x5A), (0x61, 0x7A)])
  | "ascii" => some ascii
  | "blank" => some (ofRanges [(0x09, 0x09), (0x20, 0x20)])
  | "cntrl" => some (ofRanges [(0x00, 0x1F), (0x7F, 0x7F)])
  | "digit" => some asciiDigit
  | "graph" => some (range '!' '~')
  | "lower" => some (range 'a' 'z')
  | "print" => some (range ' ' '~')
  | "punct" => some (ofRanges [(0x21, 0x2F), (0x3A, 0x40), (0x5B, 0x60), (0x7B, 0x7E)])
  | "space" => some asciiBlank
  | "upper" => some (range 'A' 'Z')
  | "word" => some asciiWord
  | "xdigit" => some (ofRanges [(0x30, 0x39), (0x41, 0x46), (0x61, 0x66)])
  | _ => none

end CharSet

end DocQuery.Regex
