import DocQuery.Regex.Normal

/-!
# The size of machines

A search runs two machines over the bytes of a text, one forward and one backward, and a pattern is
refused when one of them would take too much memory.  This module counts what the machines take
without making them.  A state takes 32 bytes; a state that chooses by ranges of bytes takes 8 more
for each range, and a state that forks takes 4 more for each way out.

The machine for a set shares states that choose in the same way.  It finds them in a table with a
fixed number of places, in which a newer state takes the place of an older one, so that not all of
them are found.  The places depend on the numbers of states, which is why the states are counted one
after the other and not by a formula.

## Main definitions

* `Size` — what has been counted.
* `Build` — parts of machines.
* `Normal.build` — the machine for a pattern.
* `Normal.fits` — the machines for a pattern are not too large.
-/

namespace DocQuery.Regex

/-- The direction in which a machine reads. -/
inductive Direction where
  | forward
  | backward
  deriving DecidableEq

/-- The end of the text where a match begins for a machine that reads in a direction. -/
def Direction.edge : Direction → Anchor
  | .forward => .textStart
  | .backward => .textEnd

/-! ### Counting -/

/-- The number of states, and the bytes that they take beyond their common size. -/
structure Size where
  states : Nat
  extra : Nat

/-- The greatest number of bytes of a machine. -/
def maxBytes : Nat := 10 * 1024 * 1024

/-- The size is not too large. -/
def Size.fits (size : Size) : Bool :=
  32 * size.states + size.extra ≤ maxBytes

/-- The size if it is not too large. -/
def Size.checked (size : Size) : Option Size :=
  if size.fits then some size else none

/-- A part of a machine that is added to what is there already; none if it gets too large. -/
abbrev Build := Size → Option Size

namespace Build

/-- Nothing. -/
def nothing : Build := some

/-- States with a number of bytes beyond their common size. -/
def states (count extra : Nat) : Build := fun size =>
  Size.checked ⟨size.states + count, size.extra + extra⟩

/-- A way out of a state that forks. -/
def way : Build :=
  states 0 4

/-- One part and then another. -/
def andThen (first second : Build) : Build := fun size =>
  (first size).bind second

/-- A part as many times as given. -/
def repeated (part : Build) : Nat → Build
  | 0, size => some size
  | n + 1, size =>
    match part size with
    | some size => repeated part n size
    | none => none

end Build

/-! ### Sets -/

/-- A range of bytes and the state that follows it. -/
structure Way where
  range : ByteRange
  next : Nat
  deriving DecidableEq

/-- A step of a hash of 64 bits. -/
def hashStep (hash : UInt64) (n : Nat) : UInt64 :=
  (hash ^^^ n.toUInt64) * 1099511628211

/-- The hash of nothing. -/
def hashOfNothing : UInt64 :=
  14695981039346656037

/-- The hash of ways. -/
def hashOf (ways : List Way) : UInt64 :=
  ways.foldl
    (fun hash way => hashStep (hashStep (hashStep hash way.range.first) way.range.last) way.next)
    hashOfNothing

/-- The hash of one way that begins with the state that follows. -/
def hashOfNext (way : Way) : UInt64 :=
  hashStep (hashStep (hashStep hashOfNothing way.next) way.range.first) way.range.last

/-- The states that can be found again, with their ways: for every place of a table the last one
that has been put there. -/
abbrev Table := Array (Option (List Way × Nat))

/-- What there is while a set is built. -/
structure Sharing where
  size : Size
  table : Table

/-- Nothing can be found in a table with the given number of places. -/
def Sharing.ofSize (size : Size) (places : Nat) : Sharing :=
  ⟨size, Array.replicate places none⟩

/-- The number of the state with the given ways, which is added if it is not found. -/
def share (hash : UInt64) (extra : Nat) (ways : List Way) : Sharing → Option (Nat × Sharing)
  | ⟨size, table⟩ =>
    let place := hash.toNat % table.size
    match table.getD place none with
    | some (found, state) =>
      if found = ways then some (state, ⟨size, table⟩) else new place size table
    | none => new place size table
where
  /-- Adds a state. -/
  new (place : Nat) (size : Size) (table : Table) : Option (Nat × Sharing) :=
    match Build.states 1 extra size with
    | some larger =>
      some (size.states, ⟨larger, table.setIfInBounds place (some (ways, size.states))⟩)
    | none => none

/-- The number of places for states that read forward. -/
def forwardPlaces : Nat := 10000

/-- The number of places for states that read backward. -/
def backwardPlaces : Nat := 1000

/-- The ways out of a state that reads forward, after the states they lead to have been added. -/
def ByteTree.ways (last : Nat) : ByteTree → Sharing → Option (List Way × Sharing)
  | .done, s => some ([], s)
  | .branch range below beside, s => do
    let (ways, s) ← below.ways last s
    let (next, s) ←
      if ways.isEmpty then some (last, s)
      else share (hashOf ways) (8 * ways.length) ways s
    let (others, s) ← beside.ways last s
    return (⟨range, next⟩ :: others, s)

/-- The states for a set that read forward. -/
def EncodedSet.forward (set : EncodedSet) : Build := fun size => do
  let last := size.states
  let size ← Build.states 1 0 size
  let (ways, s) ← set.tree.ways last (.ofSize size forwardPlaces)
  let (_, s) ← share (hashOf ways) (8 * ways.length) ways s
  return s.size

/-- The states for a sequence that read backward; a state is found by the one that follows it. -/
def backwardStates : List ByteRange → Nat → Sharing → Option Sharing
  | [], _, s => some s
  | range :: rest, next, s => do
    let (state, s) ← share (hashOfNext ⟨range, next⟩) 0 [⟨range, next⟩] s
    backwardStates rest state s

/-- The states for all sequences that read backward. -/
def allBackwardStates (last : Nat) : List (List ByteRange) → Sharing → Option Size
  | [], s => some s.size
  | sequence :: rest, s => do
    let s ← backwardStates sequence last s
    let size ← Build.way s.size
    allBackwardStates last rest { s with size := size }

/-- The states for a set that read backward. -/
def EncodedSet.backward (set : EncodedSet) : Build := fun size => do
  let last := size.states + 1
  let size ← Build.states 2 0 size
  allBackwardStates last set.sequences (.ofSize size backwardPlaces)

/-- The states for a set. -/
def EncodedSet.build (direction : Direction) (set : EncodedSet) : Build :=
  if set.set.isAscii then Build.states 2 (8 * set.set.ranges.length)
  else match direction with
    | .forward => set.forward
    | .backward => set.backward

/-! ### Choices between texts -/

/-- Texts with common beginnings joined, in the order in which they are preferred: the end of a
text, or a byte with what comes below it; and what is beside it. -/
inductive TextTree where
  | last
  | stop (beside : TextTree)
  | byte (value : Nat) (below beside : TextTree)

namespace TextTree

/-- A text ends here. -/
def hasStop : TextTree → Bool
  | .last => false
  | .stop _ => true
  | .byte _ _ beside => beside.hasStop

/-- No text goes on. -/
def isLeaf : TextTree → Bool
  | .last => true
  | .stop beside => beside.isLeaf
  | .byte _ _ _ => false

/-- Marks the end of a text; after an end without a continuation another one makes no difference. -/
def mark : TextTree → TextTree
  | .last => .stop .last
  | .stop .last => .stop .last
  | .stop beside => .stop beside.mark
  | .byte value below beside => .byte value below (markAfter beside)
where
  /-- Marks the end of a text after a byte. -/
  markAfter : TextTree → TextTree
    | .last => .stop .last
    | .stop beside => .stop (markAfter beside)
    | .byte value below beside => .byte value below (markAfter beside)

/-- The tree of one text. -/
def ofBytes : List Nat → TextTree
  | [] => .stop .last
  | b :: bs => .byte b (ofBytes bs) .last

/-- Adds a text.  It is joined only with texts that are preferred to all ends of texts here or to
none. -/
def add : TextTree → List Nat → TextTree
  | tree, [] => tree.mark
  | .last, b :: bs => .byte b (ofBytes bs) .last
  | .stop beside, bs => .stop (beside.add bs)
  | .byte value below beside, b :: bs =>
    if beside.hasStop then .byte value below (beside.add (b :: bs))
    else if value = b then .byte value (below.add bs) beside
    else .byte value below (beside.add (b :: bs))

/-- The state that chooses between the bytes up to an end, if there are any, and the way to it. -/
def buildBytes : Nat → Build
  | 0 => Build.nothing
  | 1 => Build.states 1 4
  | n + 2 => Build.states 1 (8 * (n + 2) + 4)

/-- The states for the bytes of a tree, of which `count` have been seen since the last end. -/
def buildFrom : TextTree → (count : Nat) → Build
  | .last, count => buildBytes count
  | .stop beside, count => (buildBytes count).andThen (Build.way.andThen (beside.buildFrom 0))
  | .byte _ below beside, count =>
    let first := if below.isLeaf then Build.nothing
      else (below.buildFrom 0).andThen (Build.states 1 0)
    first.andThen (beside.buildFrom (count + 1))

end TextTree

/-- The bytes of a text in the order in which they are read. -/
def bytesOf (direction : Direction) (chars : List Char) : List Nat :=
  let bytes := chars.flatMap fun c => encode c.toNat
  match direction with
  | .forward => bytes
  | .backward => bytes.reverse

/-- The states for a choice between texts. -/
def buildTexts (direction : Direction) (texts : List (List Char)) : Build :=
  let tree := (texts.map (bytesOf direction)).foldl .add TextTree.last
  (Build.states 1 0).andThen ((tree.buildFrom 0).andThen (Build.states 1 0))

/-! ### Patterns -/

/-- A part of a machine, and whether its last state forks, so that the way to what follows takes
memory. -/
structure Piece where
  build : Build
  forks : Bool

namespace Piece

/-- A piece whose last state does not fork. -/
def plain (build : Build) : Piece :=
  ⟨build, false⟩

/-- The piece and the way to what follows. -/
def linked (piece : Piece) : Build :=
  if piece.forks then piece.build.andThen Build.way else piece.build

/-- One piece and then another. -/
def andThen (first second : Piece) : Piece :=
  ⟨first.linked.andThen second.build, second.forks⟩

/-- Pieces one after the other. -/
def chain : List Piece → Piece
  | [] => plain (Build.states 1 0)
  | [piece] => piece
  | piece :: rest => piece.andThen (chain rest)

/-- A piece as many times as given. -/
def exactly (piece : Piece) : Nat → Piece
  | 0 => plain (Build.states 1 0)
  | n + 1 => ⟨(Build.repeated piece.linked n).andThen piece.build, piece.forks⟩

/-- A piece at least as many times as given. -/
def atLeast (piece : Piece) (canBeEmpty : Bool) : Nat → Piece
  | 0 =>
    if canBeEmpty then
      plain (piece.linked.andThen (Build.states 3 (4 + 4 + 4 + 4)))
    else ⟨(Build.states 1 4).andThen piece.linked, true⟩
  | 1 => ⟨piece.linked.andThen (Build.states 1 4), true⟩
  | n + 2 => ⟨((piece.exactly (n + 1)).andThen piece).linked.andThen (Build.states 1 4), true⟩

/-- A piece or nothing. -/
def optional (piece : Piece) : Piece :=
  plain ((Build.states 1 8).andThen (piece.linked.andThen (Build.states 1 0)))

/-- A piece at least and at most as many times as given. -/
def between (piece : Piece) (least most : Nat) : Piece :=
  let first := (piece.exactly least).linked.andThen (Build.states 1 0)
  let more := Build.repeated ((Build.states 1 8).andThen piece.linked) (most - least)
  plain (first.andThen more)

/-- A repetition. -/
def times (piece : Piece) (canBeEmpty : Bool) (least : Nat) (most : Option Nat) : Piece :=
  match most with
  | none => piece.atLeast canBeEmpty least
  | some most =>
    if least = 0 ∧ most = 1 then piece.optional
    else if least = most then piece.exactly least
    else piece.between least most

/-- A choice between pieces.  The states that fork and end it are added after the second. -/
def choice : List Piece → Piece
  | first :: second :: rest =>
    let two := first.linked.andThen (second.linked.andThen (Build.states 2 (4 + 4)))
    plain (rest.foldl (fun build piece => build.andThen (piece.linked.andThen Build.way)) two)
  | pieces => chain pieces

end Piece

namespace Normal

/-- The characters of a text. -/
def text? : Normal → Option (List Char)
  | .text chars => some chars
  | _ => none

mutual

/-- The machine for a pattern. -/
def piece (direction : Direction) : Normal → Piece
  | .empty => .plain (Build.states 1 0)
  | .text chars => .plain (Build.states (textLength chars) 0)
  | .set s => .plain (s.build direction)
  | .anchored _ _ => .plain (Build.states 1 0)
  | .times part least most =>
    (piece direction part).times (part.leastLength.all (· = 0)) least most
  | .group _ part =>
    match direction with
    | .forward =>
      .plain ((Build.states 1 0).andThen
        ((piece direction part).linked.andThen (Build.states 1 0)))
    | .backward => piece direction part
  | .seq parts =>
    match direction with
    | .forward => .chain (pieces direction parts)
    | .backward => .chain (pieces direction parts).reverse
  | .alt branches =>
    match branches.mapM text? with
    | some texts => .plain (buildTexts direction texts)
    | none => .choice (pieces direction branches)

/-- The machines for several patterns. -/
def pieces (direction : Direction) : List Normal → List Piece
  | [] => []
  | p :: ps => piece direction p :: pieces direction ps

end

/-! ### Whole machines -/

mutual

/-- Every match begins at an end of the text, if it is read in the given direction. -/
def isFixed (direction : Direction) : Normal → Bool
  | .anchored _ condition => condition = direction.edge
  | .times part least _ => 0 < least && isFixed direction part
  | .group _ part => isFixed direction part
  | .seq parts =>
    match direction with
    | .forward => isFixedFirst direction parts
    | .backward => isFixedLast direction parts
  | .alt branches => !branches.isEmpty && areFixed direction branches
  | _ => false

/-- Every match of a sequence begins at the start of the text. -/
def isFixedFirst (direction : Direction) : List Normal → Bool
  | [] => false
  | p :: ps => isFixed direction p || (p.isEmptyOnly && isFixedFirst direction ps)

/-- Every match of a sequence ends at the end of the text. -/
def isFixedLast (direction : Direction) : List Normal → Bool
  | [] => false
  | p :: ps => isFixedLast direction ps || (ps.all isEmptyOnly && isFixed direction p)

/-- All branches begin at an end of the text. -/
def areFixed (direction : Direction) : List Normal → Bool
  | [] => true
  | p :: ps => isFixed direction p && areFixed direction ps

end

/-- The states that look for the beginning of a match. -/
def lead (direction : Direction) (p : Normal) : Piece :=
  if isFixed direction p then .plain (Build.states 1 0)
  else ⟨Build.states 3 (8 + 4), true⟩

/-- The whole machine for a pattern. -/
def machine (direction : Direction) (p : Normal) : Build :=
  let body := match direction with
    | .forward => piece direction (.group 0 p)
    | .backward => piece direction p
  (lead direction p).linked.andThen (body.linked.andThen (Build.states 1 0))

/-- The machines for a pattern are not too large. -/
def fits (p : Normal) : Bool :=
  (machine .backward p ⟨0, 0⟩).isSome && (machine .forward p ⟨0, 0⟩).isSome

end Normal

end DocQuery.Regex
