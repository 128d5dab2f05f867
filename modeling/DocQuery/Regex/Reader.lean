import DocQuery.Regex.Reader.Brackets
import DocQuery.Text.Name

/-!
# Reading regular expressions

The notation of patterns: alternatives, groups, repetitions, sets in brackets, escapes, and flags
that can be switched inside a group.  There are no references to groups and no conditions on the
text around a match other than anchors.

The reader goes through the characters once and keeps the groups that are open in a list.  With
every part of the pattern it keeps the depth of the part, since a pattern may not be nested too
deeply: one for every group, repetition and pair of brackets, one for every sequence of several
parts and for every choice.

## Main definitions

* `readBounds` — how often something is repeated.
* `Reading` — how far the reader has come.
* `readPattern` — the pattern that a text writes, if it writes one.
-/

namespace DocQuery.Regex

/-! ### Repetitions -/

/-- Reads the digits of a number. -/
def readNumeral (flags : Flags) : Nat → List Char → List Char → List Char × List Char
  | fuel + 1, digits, c :: cs =>
    if c.isDigit then readNumeral flags fuel (digits ++ [c]) (skip flags cs)
    else (digits, c :: cs)
  | _, digits, cs => (digits, cs)

/-- Reads a number of repetitions with blanks around it; it has to fit 32 bits. -/
def readCount (flags : Flags) (cs : List Char) : Option (Nat × List Char) :=
  match readNumeral flags (cs.length + 1) [] (cs.dropWhile Text.isBlank) with
  | ([], _) => none
  | (digits, rest) =>
    let n := digits.foldl (fun n d => 10 * n + (d.toNat - '0'.toNat)) 0
    if n < pow2 32 then some (n, skip flags (rest.dropWhile Text.isBlank)) else none

/-- Reads the bounds of a repetition after the opening brace. -/
def readBounds (flags : Flags) (cs : List Char) : Option (Nat × Option Nat × List Char) := do
  let (least, rest) ← readCount flags (skip flags cs)
  match rest with
  | '\x7d' :: rest => return (least, some least, rest)
  | ',' :: rest =>
    match skip flags rest with
    | '\x7d' :: rest => return (least, none, rest)
    | rest =>
      match ← readCount flags rest with
      | (most, '\x7d' :: rest) => if least ≤ most then return (least, some most, rest) else none
      | _ => none
  | _ => none

/-- The characters after a question mark, which says which of several matches is preferred. -/
def afterPreference : List Char → List Char
  | '?' :: rest => rest
  | cs => cs

/-! ### Groups -/

/-- A part of a sequence with its depth.  The pattern is missing where flags were switched, which
cannot be repeated. -/
structure Part where
  pattern : Option Pattern
  depth : Nat

/-- A branch of a choice with its depth. -/
structure Branch where
  pattern : Pattern
  depth : Nat

/-- A group that is open: the branches that are complete, last first, the parts of the one being
read, last first, the flags, and the number of the group if it has one. -/
structure Group where
  branches : List Branch
  parts : List Part
  flags : Flags
  number : Option Nat

namespace Group

/-- The greatest of the depths, and one more if there are several. -/
def depthOf (depths : List Nat) : Nat :=
  let greatest := depths.foldl max 0
  if depths.length ≤ 1 then greatest else greatest + 1

/-- The branch being read. -/
def branch (g : Group) : Branch :=
  ⟨(g.parts.reverse.filterMap (·.pattern)).foldr .seq .empty, depthOf (g.parts.map (·.depth))⟩

/-- The choice between the branches. -/
def choice (g : Group) : Branch :=
  ⟨g.branches.foldl (fun choice b => .alt b.pattern choice) g.branch.pattern,
    depthOf (g.branch.depth :: g.branches.map (·.depth))⟩

/-- The part that the group makes when it is closed. -/
def part (g : Group) : Part :=
  let choice := g.choice
  ⟨some (match g.number with
    | some number => .group number choice.pattern
    | none => choice.pattern), choice.depth + 1⟩

/-- The group with a further part. -/
def add (g : Group) (part : Part) : Group :=
  { g with parts := part :: g.parts }

/-- The group with a further part that has no parts of its own. -/
def addLeaf (g : Group) (pattern : Pattern) : Group :=
  g.add ⟨some pattern, 0⟩

/-- The group after a vertical bar. -/
def divide (g : Group) : Group :=
  { g with branches := g.branch :: g.branches, parts := [] }

/-- The group after flags have been switched. -/
def switched (g : Group) (flags : Flags) : Group :=
  { g with parts := ⟨none, 0⟩ :: g.parts, flags := flags }

/-- The group with its last part repeated. -/
def repeatLast (g : Group) (least : Nat) (most : Option Nat) : Option Group :=
  match g.parts with
  | ⟨some pattern, depth⟩ :: parts =>
    some { g with parts := ⟨some (.times pattern least most), depth + 1⟩ :: parts }
  | _ => none

end Group

/-- How far the reader has come: the group being read, the groups around it, the names of groups,
and the number of groups with a number. -/
structure Reading where
  group : Group
  outer : List Group
  names : List (List Char)
  count : Nat

namespace Reading

/-- Replaces the group being read. -/
def withGroup (r : Reading) (g : Group) : Reading :=
  { r with group := g }

/-- Opens a group without a number. -/
def opened (r : Reading) (flags : Flags) : Reading :=
  { r with group := ⟨[], [], flags, none⟩, outer := r.group :: r.outer }

/-- Opens a group with a number. -/
def openedNumbered (r : Reading) (names : List (List Char)) : Reading :=
  ⟨⟨[], [], r.group.flags, some (r.count + 1)⟩, r.group :: r.outer, names, r.count + 1⟩

/-- Closes a group at its parenthesis. -/
def closed? (r : Reading) : Option Reading :=
  match r.outer with
  | [] => none
  | g :: outer => some { r with group := g.add r.group.part, outer := outer }

end Reading

/-- Reads letters of flags up to a colon or a parenthesis, which is left.  Letters after a dash
switch off; no letter repeats, and a dash is followed by one. -/
def readFlags (seen : List Char) : Flags → List Char → Option (Flags × List Char)
  | _, [] => none
  | flags, c :: cs =>
    if c = ':' || c = ')' then
      if seen.head? = some '-' then none else some (flags, c :: cs)
    else if seen.contains c then none
    else if c = '-' then readFlags (c :: seen) flags cs
    else
      match flags.switch (!seen.contains '-') c with
      | some flags => readFlags (c :: seen) flags cs
      | none => none

/-- A character of the name of a group, the first one or a later one. -/
def isGroupNameChar (first : Bool) (c : Char) : Bool :=
  if first then c = '_' || Text.isAlphabetic c
  else c = '_' || c = '.' || c = '[' || c = ']' || Text.isAlphanumeric c

/-- The name of a group is a name and is not used yet. -/
def isNewName (names : List (List Char)) (name : List Char) : Bool :=
  match name with
  | [] => false
  | c :: cs => isGroupNameChar true c && cs.all (isGroupNameChar false) && !names.contains name

/-- Opens a group with a name, after the angle bracket. -/
def openNamed (r : Reading) (cs : List Char) : Option (Reading × List Char) :=
  let name := cs.takeWhile (· != '>')
  match cs.dropWhile (· != '>') with
  | '>' :: rest =>
    if isNewName r.names name then some (r.openedNumbered (name :: r.names), rest) else none
  | _ => none

/-- Opens a group after its parenthesis, or switches flags.  Conditions on what stands before or
after a match are refused. -/
def openGroup (r : Reading) (cs : List Char) : Option (Reading × List Char) :=
  match skip r.group.flags cs with
  | '?' :: '=' :: _ => none
  | '?' :: '!' :: _ => none
  | '?' :: '<' :: '=' :: _ => none
  | '?' :: '<' :: '!' :: _ => none
  | '?' :: 'P' :: '<' :: rest => openNamed r rest
  | '?' :: '<' :: rest => openNamed r rest
  | '?' :: ')' :: _ => none
  | '?' :: rest => do
    match ← readFlags [] r.group.flags rest with
    | (flags, ')' :: rest) => return (r.withGroup (r.group.switched flags), rest)
    | (flags, rest) => return (r.opened flags, rest.drop 1)
  | rest => some (r.openedNumbered r.names, rest)

/-! ### Patterns -/

/-- The set of a dot. -/
def dot? (flags : Flags) : Option CharSet :=
  if flags.asciiOnly then none
  else if flags.dotAll then some .all
  else if flags.anyBreak then some (CharSet.ofPoints [0x0A, 0x0D]).compl
  else some (CharSet.only '\n').compl

/-- The anchor of a circumflex. -/
def startAnchor (flags : Flags) : Anchor :=
  if flags.multiLine then (if flags.anyBreak then .anyLineStart else .lineStart) else .textStart

/-- The anchor of a dollar sign. -/
def endAnchor (flags : Flags) : Anchor :=
  if flags.multiLine then (if flags.anyBreak then .anyLineEnd else .lineEnd) else .textEnd

/-- The pattern of a character that stands for itself. -/
def literal (flags : Flags) (c : Char) : Pattern :=
  .one (fold flags (.only c))

/-- The pattern of an escape. -/
def escapePattern (flags : Flags) : Escape → Pattern
  | .char c => literal flags c
  | .set set => .one set
  | .anchor anchor => .anchored (wordSet flags) anchor

/-- Reads on after the character `c`. -/
def readOn (r : Reading) (c : Char) (cs : List Char) : Option (Reading × List Char) :=
  let g := r.group
  match c with
  | '(' => openGroup r cs
  | ')' => do return (← r.closed?, cs)
  | '|' => some (r.withGroup g.divide, cs)
  | '[' => do
    let (set, depth, rest) ← readSet g.flags (2 * cs.length + 2) cs
    return (r.withGroup (g.add ⟨some (.one set), depth⟩), rest)
  | '?' => do return (r.withGroup (← g.repeatLast 0 (some 1)), afterPreference cs)
  | '*' => do return (r.withGroup (← g.repeatLast 0 none), afterPreference cs)
  | '+' => do return (r.withGroup (← g.repeatLast 1 none), afterPreference cs)
  | '\x7b' => do
    let (least, most, rest) ← readBounds g.flags cs
    return (r.withGroup (← g.repeatLast least most), afterPreference (skip g.flags rest))
  | '\\' => do
    let (escape, rest) ← readEscape g.flags cs
    return (r.withGroup (g.addLeaf (escapePattern g.flags escape)), rest)
  | '.' => do return (r.withGroup (g.addLeaf (.one (← dot? g.flags))), cs)
  | '^' => some (r.withGroup (g.addLeaf (.anchored .empty (startAnchor g.flags))), cs)
  | '$' => some (r.withGroup (g.addLeaf (.anchored .empty (endAnchor g.flags))), cs)
  | c => some (r.withGroup (g.addLeaf (literal g.flags c)), cs)

/-- Reads all characters; in the end no group is open. -/
def readAll : Nat → Reading → List Char → Option Branch
  | fuel, r, cs =>
    match skip r.group.flags cs, fuel with
    | [], _ => if r.outer.isEmpty then some r.group.choice else none
    | _ :: _, 0 => none
    | c :: cs, fuel + 1 =>
      match readOn r c cs with
      | some (r, rest) => readAll fuel r rest
      | none => none

/-- The greatest depth of a pattern. -/
def maxDepth : Nat := 250

/-- The pattern that a text writes, if it writes one that is not nested too deeply. -/
def readPattern (flags : Flags) (text : String) : Option Pattern := do
  let cs := text.toList
  let read ← readAll (cs.length + 1) ⟨⟨[], [], flags, none⟩, [], [], 0⟩ cs
  if read.depth ≤ maxDepth then some read.pattern else none

/-- The flags for letters of options: `i` ignores case, `m` takes the ends of lines for those of the
text, `s` lets a dot match line breaks, `x` leaves blanks out. -/
def flagsOf (options : String) : Flags :=
  let given (c : Char) := options.toList.contains c
  ⟨given 'i', given 'm', given 's', given 'x', false, false⟩

end DocQuery.Regex
