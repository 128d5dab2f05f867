import DocQuery.Regex.Reader.Escape

/-!
# Reading sets in brackets

A set in brackets has members, among them other sets in brackets, and operations between groups of
members.  A pattern may not be nested too deeply, and sets count for its depth: one for every pair
of brackets, for every operation and for every group of several members.

## Main definitions

* `SetOperation` — the operations.
* `Members` — the members that have been read.
* `readAsciiClass`, `readRange` — the members that are not in brackets of their own.
* `readSet` — a set in brackets with its depth.
-/

namespace DocQuery.Regex

/-! ### Members and operations -/

/-- An operation on sets. -/
inductive SetOperation where
  | inter
  | diff
  | symmDiff

/-- The result of an operation. -/
def SetOperation.run : SetOperation → CharSet → CharSet → CharSet
  | .inter, a, b => a.inter b
  | .diff, a, b => a.diff b
  | .symmDiff, a, b => a.symmDiff b

/-- The members of a set that have been read: their union, their number and the greatest depth of
one of them. -/
structure Members where
  set : CharSet
  count : Nat
  depth : Nat

namespace Members

/-- No members. -/
def none : Members :=
  ⟨.empty, 0, 0⟩

/-- The members and another one. -/
def add (m : Members) (set : CharSet) (depth : Nat) : Members :=
  ⟨m.set.union set, m.count + 1, max m.depth depth⟩

/-- The depth of the members together. -/
def fullDepth (m : Members) : Nat :=
  if m.count ≤ 1 then m.depth else m.depth + 1

end Members

/-- A set with its depth, and an operation to be done on it, while the second operand is read. -/
abbrev Pending := Option (CharSet × Nat × SetOperation)

/-- Does a pending operation. -/
def settle (flags : Flags) (pending : Pending) (members : Members) : CharSet × Nat :=
  match pending with
  | none => (members.set, members.fullDepth)
  | some (set, depth, operation) =>
    (operation.run (fold flags set) (fold flags members.set), 1 + max depth members.fullDepth)

/-- Puts an operation off until its second operand has been read. -/
def postpone (flags : Flags) (pending : Pending) (members : Members) (operation : SetOperation) :
    Pending :=
  let (set, depth) := settle flags pending members
  some (set, depth, operation)

/-! ### Members without brackets of their own -/

/-- Reads the name of an ASCII class, `:name:]` or `:^name:]`, and whether it is negated. -/
def readAsciiClass (cs : List Char) : Option (Bool × CharSet × List Char) :=
  match cs with
  | ':' :: cs =>
    let (negated, cs) := match cs with
      | '^' :: rest => (true, rest)
      | cs => (false, cs)
    match cs.dropWhile (· != ':') with
    | ':' :: ']' :: rest =>
      (CharSet.ascii? (String.ofList (cs.takeWhile (· != ':')))).map fun set => (negated, set, rest)
    | _ => none
  | _ => none

/-- A character can be a member of a set. -/
def isAllowed (flags : Flags) (c : Char) : Bool :=
  !flags.asciiOnly || c.toNat < 0x80

/-- Reads one character or class of a set. -/
def readMember (flags : Flags) : List Char → Option (Escape × List Char)
  | [] => none
  | '\\' :: cs => readEscape flags cs
  | c :: cs => some (.char c, cs)

/-- The set of a character or class alone. -/
def memberSet? (flags : Flags) : Escape → Option CharSet
  | .char c => if isAllowed flags c then some (.only c) else none
  | .set set => some set
  | .anchor _ => none

/-- The set of the characters from one to another. -/
def rangeSet? (flags : Flags) : Escape → Escape → Option CharSet
  | .char first, .char last =>
    if first ≤ last ∧ isAllowed flags first ∧ isAllowed flags last then some (.range first last)
    else none
  | _, _ => none

/-- The first character after blanks and at most one number sign. -/
def peekChar : (commented : Bool) → List Char → Option Char
  | _, [] => none
  | commented, c :: cs =>
    if Text.isBlank c then peekChar commented cs
    else if !commented && c = '#' then peekChar true cs
    else some c

/-- The character after a dash by which it is decided whether the dash makes a range. -/
def peek (flags : Flags) (cs : List Char) : Option Char :=
  if flags.spaced then peekChar false cs <|> cs.head? else cs.head?

/-- Reads one character, class or range of a set. -/
def readRange (flags : Flags) (cs : List Char) : Option (CharSet × List Char) := do
  let (first, rest) ← readMember flags cs
  match skip flags rest with
  | [] => none
  | '-' :: more =>
    if peek flags more = some ']' || peek flags more = some '-' then
      return (← memberSet? flags first, '-' :: more)
    else
      let (last, rest) ← readMember flags (skip flags more)
      return (← rangeSet? flags first last, rest)
  | rest => return (← memberSet? flags first, rest)

/-- Reads dashes at the beginning of a set, which stand for themselves. -/
def readDashes (flags : Flags) : Nat → Members → List Char → Members × List Char
  | fuel + 1, members, '-' :: cs =>
    readDashes flags fuel (members.add (.only '-') 0) (skip flags cs)
  | _, members, cs => (members, cs)

/-! ### Sets -/

mutual

/-- Reads a set with its depth, after its opening bracket. -/
def readSet (flags : Flags) : Nat → List Char → Option (CharSet × Nat × List Char)
  | 0, _ => none
  | fuel + 1, cs =>
    let (negated, cs) := match skip flags cs with
      | '^' :: rest => (true, skip flags rest)
      | cs => (false, cs)
    match readDashes flags (cs.length + 1) .none cs with
    | (_, []) => none
    | (members, ']' :: rest) =>
      if members.count = 0 then
        readMembers flags fuel negated none (members.add (.only ']') 0) rest
      else readMembers flags fuel negated none members (']' :: rest)
    | (members, cs) => readMembers flags fuel negated none members cs

/-- Reads the members of a set up to its closing bracket. -/
def readMembers (flags : Flags) :
    Nat → Bool → Pending → Members → List Char → Option (CharSet × Nat × List Char)
  | 0, _, _, _, _ => none
  | fuel + 1, negated, pending, members, cs =>
    match skip flags cs with
    | [] => none
    | '[' :: rest =>
      match readAsciiClass rest with
      | some (inverted, set, rest) =>
        match foldAndNegate? flags inverted set with
        | some set => readMembers flags fuel negated pending (members.add set 0) rest
        | none => none
      | none =>
        match readSet flags fuel rest with
        | some (set, depth, rest) =>
          readMembers flags fuel negated pending (members.add set depth) rest
        | none => none
    | ']' :: rest =>
      let (set, depth) := settle flags pending members
      (foldAndNegate? flags negated set).map fun set => (set, depth + 1, rest)
    | '&' :: '&' :: rest =>
      readMembers flags fuel negated (postpone flags pending members .inter) .none rest
    | '-' :: '-' :: rest =>
      readMembers flags fuel negated (postpone flags pending members .diff) .none rest
    | '~' :: '~' :: rest =>
      readMembers flags fuel negated (postpone flags pending members .symmDiff) .none rest
    | cs =>
      match readRange flags cs with
      | some (set, rest) => readMembers flags fuel negated pending (members.add set 0) rest
      | none => none

end

end DocQuery.Regex
