import DocQuery.Number.Rounding
import DocQuery.Regex.CharSet

/-!
# Sets of characters as bytes

A set of characters written as the sequences of bytes that encode its characters.  Characters whose
encodings differ in ranges of bytes only make one sequence of ranges; a range of characters is
split until every part is of this kind.

## Main definitions

* `ByteRange` — a range of bytes.
* `encode` — the bytes of a character.
* `sequencesOf` — the sequences for a range of characters.
* `ByteTree` — sequences with common beginnings joined.
* `EncodedSet` — a set with its sequences.
-/

namespace DocQuery.Regex

/-- A range of bytes. -/
structure ByteRange where
  first : Nat
  last : Nat
  deriving DecidableEq

/-! ### Encoding -/

/-- A byte that continues a character, with the lowest six bits of a number. -/
def continuation (n : Nat) : Nat :=
  0x80 + n % 0x40

/-- The bytes of a code point. -/
def encode (n : Nat) : List Nat :=
  if n < 0x80 then [n]
  else if n < 0x800 then [0xC0 + n / 0x40, continuation n]
  else if n < 0x10000 then [0xE0 + n / 0x1000, continuation (n / 0x40), continuation n]
  else [0xF0 + n / 0x40000, continuation (n / 0x1000), continuation (n / 0x40), continuation n]

/-- Where a range that holds the code point `last` and a later one is split in two: the end of the
first part and the beginning of the second. -/
structure Cut where
  last : Nat
  next : Nat

/-- The last code points of the encodings with one, two and three bytes. -/
def lastOfLength : List Nat :=
  [0x7F, 0x7FF, 0xFFFF]

/-- The cut between encodings of different lengths. -/
def lengthCut? (first last : Nat) : Option Cut :=
  (lastOfLength.find? fun n => first ≤ n && n < last).map fun n => ⟨n, n + 1⟩

/-- The cut that makes the last bytes of one of the ends, as many as give `size` code points, run
through all their values. -/
def alignmentCut? (first last size : Nat) : Option Cut :=
  if first / size = last / size then none
  else if first % size ≠ 0 then
    let start := (first / size + 1) * size
    some ⟨start - 1, start⟩
  else if last % size ≠ size - 1 then
    let start := last / size * size
    some ⟨start - 1, start⟩
  else none

/-- Where a range has to be split first, if it is not of one sequence. -/
def cut? (first last : Nat) : Option Cut :=
  if first < 0xE000 ∧ 0xD7FF < last then some ⟨0xD7FF, 0xE000⟩
  else
    (lengthCut? first last).or <|
      if last < 0x80 then none
      else [0x40, 0x1000, 0x40000].findSome? (alignmentCut? first last)

/-- The sequences for a range of characters.  No range is split more than a few times on the way to
any part of it, so that the fuel of 32 never runs out. -/
def sequencesFrom : (fuel : Nat) → (first last : Nat) → List (List ByteRange)
  | 0, _, _ => []
  | fuel + 1, first, last =>
    if last < first then []
    else match cut? first last with
      | some cut => sequencesFrom fuel first cut.last ++ sequencesFrom fuel cut.next last
      | none => [List.zipWith .mk (encode first) (encode last)]

/-- The sequences for a range of characters. -/
def sequencesOf (first last : Nat) : List (List ByteRange) :=
  sequencesFrom 32 first last

/-! ### Trees -/

/-- Sequences of ranges of bytes, as branches for the first range: what comes below it, and the
branches beside it.  A sequence ends where nothing is below. -/
inductive ByteTree where
  | done
  | branch (range : ByteRange) (below beside : ByteTree)

/-- The tree with a sequence added after all others: it is joined with the last one as far as their
beginnings are the same. -/
def ByteTree.add : ByteTree → List ByteRange → ByteTree
  | tree, [] => tree
  | .done, range :: rest => .branch range (add .done rest) .done
  | .branch range below .done, next :: rest =>
    if range = next then .branch range (add below rest) .done
    else .branch range below (.branch next (add .done rest) .done)
  | .branch range below beside, sequence => .branch range below (add beside sequence)

/-! ### Encoded sets -/

/-- A set of characters with the sequences of bytes that encode them, in order and as a tree. -/
structure EncodedSet where
  set : CharSet
  sequences : List (List ByteRange)
  tree : ByteTree

/-- A set with its sequences. -/
def EncodedSet.of (set : CharSet) : EncodedSet :=
  let sequences := set.ranges.flatMap fun (first, last) => sequencesOf first last
  ⟨set, sequences, sequences.foldl .add .done⟩

end DocQuery.Regex
