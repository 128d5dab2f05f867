import DocQuery.Regex.Category

/-!
# Flags of patterns

What can be switched on and off in a pattern, and what depends on it: which blanks are left out of
the notation, which characters count as digits, blanks and parts of words, and which sets are closed
under a change of case.

## Main definitions

* `Flags` — what can be switched.
* `skip` — the notation after blanks and comments.
* `fold`, `complement?`, `letterClass?` — sets as the flags make them.
-/

namespace DocQuery.Regex

/-- What can be switched on and off. -/
structure Flags where
  /-- Characters match others that are equal but for case. -/
  ignoreCase : Bool := false
  /-- The ends of lines count as the ends of the text do. -/
  multiLine : Bool := false
  /-- A dot matches line breaks as well. -/
  dotAll : Bool := false
  /-- Blanks and comments in the pattern are left out. -/
  spaced : Bool := false
  /-- A carriage return is a line break as well. -/
  anyBreak : Bool := false
  /-- Sets have ASCII characters only. -/
  asciiOnly : Bool := false
  deriving DecidableEq

/-- Switches a flag by its letter. -/
def Flags.switch (flags : Flags) (value : Bool) : Char → Option Flags
  | 'i' => some { flags with ignoreCase := value }
  | 'm' => some { flags with multiLine := value }
  | 's' => some { flags with dotAll := value }
  | 'x' => some { flags with spaced := value }
  | 'R' => some { flags with anyBreak := value }
  | 'u' => some { flags with asciiOnly := !value }
  | 'U' => some flags
  | _ => none

/-! ### Blanks -/

/-- The characters after a comment and the line feed that ends it. -/
def afterComment (cs : List Char) : List Char :=
  (cs.dropWhile (· != '\n')).drop 1

/-- The characters after blanks and comments. -/
def afterBlanks : Nat → List Char → List Char
  | 0, cs => cs
  | fuel + 1, cs =>
    match cs.dropWhile Text.isBlank with
    | '#' :: rest => afterBlanks fuel (afterComment rest)
    | rest => rest

/-- Leaves out blanks and comments if the flags say so. -/
def skip (flags : Flags) (cs : List Char) : List Char :=
  if flags.spaced then afterBlanks (cs.length + 1) cs else cs

/-! ### Sets -/

/-- The characters of words. -/
def wordSet (flags : Flags) : CharSet :=
  if flags.asciiOnly then .asciiWord else .word

/-- A set with what is equal to one of its characters but for case, if that is to be ignored. -/
def fold (flags : Flags) (set : CharSet) : CharSet :=
  if flags.ignoreCase then
    if flags.asciiOnly then set.union ((set.inter .ascii).folded.inter .ascii) else set.folded
  else set

/-- The class of characters that a letter after a backslash names. -/
def letterClass? (flags : Flags) : Char → Option CharSet
  | 'd' => some (if flags.asciiOnly then .asciiDigit else .digit)
  | 's' => some (if flags.asciiOnly then .asciiBlank else .blank)
  | 'w' => some (wordSet flags)
  | _ => none

/-- The set of all other characters; there is none that could split a character. -/
def complement? (flags : Flags) (set : CharSet) : Option CharSet :=
  if flags.asciiOnly then none else some set.compl

/-- A set, or its complement, after case has been ignored if it is to be. -/
def foldAndNegate? (flags : Flags) (negated : Bool) (set : CharSet) : Option CharSet :=
  if negated then complement? flags (fold flags set) else some (fold flags set)

end DocQuery.Regex
