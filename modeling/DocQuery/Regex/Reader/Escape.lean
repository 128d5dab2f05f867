import DocQuery.Number.Rounding
import DocQuery.Regex.Pattern
import DocQuery.Regex.Property
import DocQuery.Regex.Reader.Flags
import DocQuery.Text.Split

/-!
# Reading escapes

What a backslash and the characters after it stand for in a pattern: a character, a set of
characters or a condition on a place.

## Main definitions

* `Escape` — what an escape stands for.
* `readCodePoint` — characters by their code points.
* `readProperty` — sets by a property.
* `readEscape` — all escapes.
-/

namespace DocQuery.Regex

/-- What an escape stands for. -/
inductive Escape where
  | char (c : Char)
  | set (set : CharSet)
  | anchor (anchor : Anchor)

/-! ### Code points -/

/-- The value of a hexadecimal digit. -/
def hexDigit? (c : Char) : Option Nat :=
  if '0' ≤ c ∧ c ≤ '9' then some (c.toNat - '0'.toNat)
  else if 'a' ≤ c ∧ c ≤ 'f' then some (c.toNat - 'a'.toNat + 10)
  else if 'A' ≤ c ∧ c ≤ 'F' then some (c.toNat - 'A'.toNat + 10)
  else none

/-- The character with the given code point, if there is one. -/
def charOf? (n : Nat) : Option Char :=
  if h : n.isValidChar then some (Char.ofNatAux n h) else none

/-- Reads as many hexadecimal digits as given. -/
def readDigits (flags : Flags) : Nat → Nat → List Char → Option (Nat × List Char)
  | 0, value, cs => some (value, cs)
  | count + 1, value, c :: cs => do
    readDigits flags count (16 * value + (← hexDigit? c)) (skip flags cs)
  | _ + 1, _, [] => none

/-- Reads hexadecimal digits up to a closing brace, of which there is at least one. -/
def readBraced (flags : Flags) : Nat → List Nat → List Char → Option (Nat × List Char)
  | fuel + 1, digits, c :: cs =>
    if c = '\x7d' then
      if digits.isEmpty then none
      else some (digits.foldr (fun d value => 16 * value + d) 0, skip flags cs)
    else do readBraced flags fuel ((← hexDigit? c) :: digits) (skip flags cs)
  | _, _, _ => none

/-- The character for two, four or eight digits.  Two digits can stand for a byte, and where sets
have ASCII characters only, no character is made of bytes that do not. -/
def charOfDigits? (flags : Flags) (count n : Nat) : Option Char :=
  if flags.asciiOnly && count == 2 && 0x80 ≤ n then none else charOf? n

/-- Reads a code point in hexadecimal digits: as many as given, or any number in braces. -/
def readCodePoint (flags : Flags) (count : Nat) (cs : List Char) : Option (Char × List Char) := do
  match skip flags cs with
  | '\x7b' :: rest =>
    let (n, rest) ← readBraced flags (rest.length + 1) [] (skip flags rest)
    return (← charOf? n, rest)
  | rest =>
    let (n, rest) ← readDigits flags count 0 rest
    return (← charOfDigits? flags count n, rest)

/-! ### Anchors -/

/-- The anchor with the given name in braces after `\b`. -/
def namedAnchor? : String → Option Anchor
  | "start" => some .wordStart
  | "end" => some .wordEnd
  | "start-half" => some .wordStartHalf
  | "end-half" => some .wordEndHalf
  | _ => none

/-- A character of the name of an anchor. -/
def isAnchorNameChar (c : Char) : Bool :=
  c.isAlpha || c = '-'

/-- Reads the characters of the name of an anchor. -/
def readAnchorName (flags : Flags) : Nat → List Char → List Char → List Char × List Char
  | fuel + 1, name, c :: cs =>
    if isAnchorNameChar c then readAnchorName flags fuel (name ++ [c]) (skip flags cs)
    else (name, c :: cs)
  | _, name, cs => (name, cs)

/-- Reads what follows `\b`.  Braces that cannot be a name are left for a repetition. -/
def readBoundary (flags : Flags) (cs : List Char) : Option (Escape × List Char) :=
  match cs with
  | '\x7b' :: rest =>
    match skip flags rest with
    | [] => none
    | c :: more =>
      if isAnchorNameChar c then
        match readAnchorName flags (more.length + 2) [] (c :: more) with
        | (name, '\x7d' :: rest) =>
          (namedAnchor? (String.ofList name)).map fun anchor => (.anchor anchor, rest)
        | _ => none
      else some (.anchor .wordBoundary, cs)
  | _ => some (.anchor .wordBoundary, cs)

/-! ### Properties -/

/-- Reads the characters of the name of a property up to the closing brace. -/
def readPropertyName (flags : Flags) : Nat → List Char → List Char → Option (List Char × List Char)
  | fuel + 1, name, c :: cs =>
    if c = '\x7d' then some (name, cs)
    else readPropertyName flags fuel (name ++ [c]) (skip flags cs)
  | _, _, _ => none

/-- The set that the text in the braces of a property names.  It is split at the first `!=`, else
at the first colon, else at the first `=`; the first of these asks for all other values. -/
def propertySet? (flags : Flags) (name : List Char) : Option CharSet :=
  match Text.splitOnceAtText ['!', '='] name with
  | some (property, value) =>
    (CharSet.ofProperty? property value).map fun set => (fold flags set).compl
  | none =>
    (match Text.splitOnce ':' name <|> Text.splitOnce '=' name with
    | some (property, value) => CharSet.ofProperty? property value
    | none => CharSet.named? name).map (fold flags)

/-- Reads a property after `\p`: a single letter, or a name in braces. -/
def readProperty (flags : Flags) (cs : List Char) : Option (CharSet × List Char) := do
  if flags.asciiOnly then none else
  match skip flags cs with
  | [] => none
  | '\\' :: _ => none
  | '\x7b' :: rest =>
    let (name, rest) ← readPropertyName flags (rest.length + 1) [] (skip flags rest)
    return (← propertySet? flags name, rest)
  | c :: rest => return (fold flags (← CharSet.named? [c]), rest)

/-! ### All escapes -/

/-- What a single character after a backslash stands for: a sign for itself, a letter for a control
character or an anchor. -/
def shortEscape? (c : Char) : Option Escape :=
  match c with
  | 'a' => some (.char (Char.ofNat 0x07))
  | 'f' => some (.char (Char.ofNat 0x0C))
  | 't' => some (.char '\t')
  | 'n' => some (.char '\n')
  | 'r' => some (.char '\r')
  | 'v' => some (.char (Char.ofNat 0x0B))
  | 'A' => some (.anchor .textStart)
  | 'z' => some (.anchor .textEnd)
  | 'B' => some (.anchor .noWordBoundary)
  | '<' => some (.anchor .wordStart)
  | '>' => some (.anchor .wordEnd)
  | c => if c.toNat < 0x80 && !c.isAlphanum then some (.char c) else none

/-- Reads what follows a backslash. -/
def readEscape (flags : Flags) : List Char → Option (Escape × List Char)
  | [] => none
  | 'x' :: cs => (readCodePoint flags 2 cs).map fun (c, rest) => (.char c, rest)
  | 'u' :: cs => (readCodePoint flags 4 cs).map fun (c, rest) => (.char c, rest)
  | 'U' :: cs => (readCodePoint flags 8 cs).map fun (c, rest) => (.char c, rest)
  | 'b' :: cs => readBoundary flags cs
  | 'p' :: cs => (readProperty flags cs).map fun (set, rest) => (.set set, rest)
  | 'P' :: cs => (readProperty flags cs).map fun (set, rest) => (.set set.compl, rest)
  | c :: cs =>
    match letterClass? flags c, letterClass? flags c.toLower with
    | some set, _ => some (.set set, cs)
    | none, some set => do return (.set (← complement? flags set), cs)
    | none, none => (shortEscape? c).map fun escape => (escape, cs)

end DocQuery.Regex
