import DocQuery.Regex.Pattern
import DocQuery.Regex.Utf8

/-!
# Normal forms of patterns

A pattern is simplified before a machine is made of it: characters in a row become a text, sequences
and choices inside others of their kind are made part of them, a choice between characters or sets
becomes a set, and a choice gives up what all its branches begin with.

## Main definitions

* `Normal` — simplified patterns.
* `Normal.leastLength`, `Normal.greatestLength` — the lengths of matches in bytes.
* `Normal.ofSet`, `Normal.seqOf`, `Normal.choice`, `Normal.timesOf` — the ways to build them.
* `Pattern.normal` — the normal form of a pattern.
-/

namespace DocQuery.Regex

/-- A simplified pattern. -/
inductive Normal where
  | empty
  /-- One character or several. -/
  | text (chars : List Char)
  /-- One character of a set that has none or several. -/
  | set (set : EncodedSet)
  | anchored (words : CharSet) (condition : Anchor)
  | times (part : Normal) (least : Nat) (most : Option Nat)
  | group (number : Nat) (part : Normal)
  | seq (parts : List Normal)
  | alt (branches : List Normal)

namespace Normal

mutual

/-- The patterns are the same. -/
def same : Normal → Normal → Bool
  | .empty, .empty => true
  | .text a, .text b => a == b
  | .set a, .set b => a.set == b.set
  | .anchored words a, .anchored other b => words == other && a == b
  | .times a least most, .times b least' most' => least == least' && most == most' && same a b
  | .group n a, .group m b => n == m && same a b
  | .seq as, .seq bs => sameAll as bs
  | .alt as, .alt bs => sameAll as bs
  | _, _ => false

/-- The patterns of two lists are the same. -/
def sameAll : List Normal → List Normal → Bool
  | [], [] => true
  | a :: as, b :: bs => same a b && sameAll as bs
  | _, _ => false

end

/-! ### Lengths -/

/-- The number of bytes of a text. -/
def textLength (chars : List Char) : Nat :=
  chars.foldl (fun length c => length + c.utf8Size) 0

mutual

/-- The length of the shortest match, if there can be a match. -/
def leastLength : Normal → Option Nat
  | .empty => some 0
  | .text chars => some (textLength chars)
  | .set s => s.set.ranges.head?.map fun (first, _) => (Char.ofNat first).utf8Size
  | .anchored _ _ => some 0
  | .times part least _ => part.leastLength.map (least * ·)
  | .group _ part => part.leastLength
  | .seq parts => leastSum parts
  | .alt branches => leastOf branches

/-- The sum of the shortest lengths. -/
def leastSum : List Normal → Option Nat
  | [] => some 0
  | p :: ps => do return (← p.leastLength) + (← leastSum ps)

/-- The least of the shortest lengths, of which none may be missing. -/
def leastOf : List Normal → Option Nat
  | [] => none
  | [p] => p.leastLength
  | p :: ps => do return min (← p.leastLength) (← leastOf ps)

end

mutual

/-- The length of the longest match, if there is one. -/
def greatestLength : Normal → Option Nat
  | .empty => some 0
  | .text chars => some (textLength chars)
  | .set s => s.set.ranges.getLast?.map fun (_, last) => (Char.ofNat last).utf8Size
  | .anchored _ _ => some 0
  | .times part _ most => do return (← most) * (← part.greatestLength)
  | .group _ part => part.greatestLength
  | .seq parts => greatestSum parts
  | .alt branches => greatestOf branches

/-- The sum of the longest lengths. -/
def greatestSum : List Normal → Option Nat
  | [] => some 0
  | p :: ps => do return (← p.greatestLength) + (← greatestSum ps)

/-- The greatest of the longest lengths, of which none may be missing. -/
def greatestOf : List Normal → Option Nat
  | [] => none
  | [p] => p.greatestLength
  | p :: ps => do return max (← p.greatestLength) (← greatestOf ps)

end

/-- Every match is empty. -/
def isEmptyOnly (p : Normal) : Bool :=
  p.greatestLength == some 0

/-! ### Construction -/

/-- One character of a set. -/
def ofSet (set : CharSet) : Normal :=
  match set.single? with
  | some c => .text [c]
  | none => .set (.of set)

/-- The parts of which a pattern is the sequence. -/
def parts : Normal → List Normal
  | .empty => []
  | .seq parts => parts
  | p => [p]

/-- Puts a part before others; two texts become one. -/
def consPart : Normal → List Normal → List Normal
  | .text a, .text b :: rest => .text (a ++ b) :: rest
  | p, rest => p :: rest

/-- The pattern of parts that have been joined. -/
def ofParts : List Normal → Normal
  | [] => .empty
  | [p] => p
  | ps => .seq ps

/-- The sequence of patterns. -/
def seqOf (ps : List Normal) : Normal :=
  ofParts ((ps.flatMap parts).foldr consPart [])

/-- A repetition.  What matches nothing but the empty text need not be repeated. -/
def timesOf (part : Normal) (least : Nat) (most : Option Nat) : Normal :=
  let (least, most) := if part.isEmptyOnly then (min least 1, some (min (most.getD 1) 1))
    else (least, most)
  if least = 0 ∧ most = some 0 then .empty
  else if least = 1 ∧ most = some 1 then part
  else .times part least most

/-- The branches of which a pattern is the choice. -/
def branches : Normal → List Normal
  | .alt branches => branches
  | p => [p]

/-- The only character of a text. -/
def char? : Normal → Option Char
  | .text [c] => some c
  | _ => none

/-- The set of a pattern that is one. -/
def charSet? : Normal → Option CharSet
  | .set s => some s.set
  | _ => none

/-- The parts of a sequence. -/
def seqParts? : Normal → Option (List Normal)
  | .seq parts => some parts
  | _ => none

/-- How many parts two sequences have in common at their beginnings. -/
def commonLength : List Normal → List Normal → Nat
  | a :: as, b :: bs => if a.same b then commonLength as bs + 1 else 0
  | _, _ => 0

/-- How many parts a sequence has in common with all others at their beginnings. -/
def commonPrefix (first : List Normal) (others : List (List Normal)) : Nat :=
  others.foldl (fun length parts => min length (commonLength first parts)) first.length

/-- The choice between branches that are not choices themselves.  The fuel bounds how many times the
branches can give up a common beginning. -/
def choose : (fuel : Nat) → List Normal → Normal
  | _, [] => .set (.of .empty)
  | _, [p] => p
  | fuel, ps =>
    match ps.mapM char?, ps.mapM charSet?, ps.mapM seqParts?, fuel with
    | some cs, _, _, _ => ofSet (.ofPoints (cs.map Char.toNat))
    | none, some sets, _, _ => ofSet (.unions sets)
    | none, none, some (first :: others), fuel + 1 =>
      let length := commonPrefix first others
      if length = 0 then .alt ps
      else
        let rest := (first :: others).flatMap fun parts => (seqOf (parts.drop length)).branches
        seqOf (first.take length ++ [choose fuel rest])
    | _, _, _, _ => .alt ps

/-- The number of parts of the first of several patterns. -/
def firstLength : List Normal → Nat
  | .seq parts :: _ => parts.length
  | _ => 0

/-- The choice between patterns, some of which may be choices themselves. -/
def choice : List Normal → Normal
  | [p] => p
  | ps =>
    let ps := ps.flatMap branches
    choose (firstLength ps + 1) ps

end Normal

namespace Pattern

/-- The normal forms of the branches of a pattern.  What is no choice is its own only branch. -/
def normalBranches : Pattern → List Normal
  | .empty => [.empty]
  | .one set => [.ofSet set]
  | .anchored words condition => [.anchored words condition]
  | .seq first second => [.seqOf [.choice first.normalBranches, .choice second.normalBranches]]
  | .alt first second => .choice first.normalBranches :: second.normalBranches
  | .times pattern least most => [.timesOf (.choice pattern.normalBranches) least most]
  | .group number pattern => [.group number (.choice pattern.normalBranches)]

/-- The normal form of a pattern. -/
def normal (pattern : Pattern) : Normal :=
  .choice pattern.normalBranches

end Pattern

end DocQuery.Regex
