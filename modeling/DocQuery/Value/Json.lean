import DocQuery.Value.Dialect
import DocQuery.Value.Path

/-!
# JSON text

Values as JSON text, and back.  A number without a point and an exponent is read as an integer as
long as it fits 64 bits; minus zero, and everything else, is read as a floating-point number.  Of
entries with the same key the first gives the place and the last the value.  Text nested more than
127 levels deep is refused.

## Main definitions

* `toJson`, `toJsonLines` — a value as JSON on one line, or over several.
* `ofJson?` — the value that a JSON text writes.
-/

namespace DocQuery

/-! ### Writing -/

/-- A character inside the quotes of a JSON string. -/
def jsonEscaped (c : Char) : List Char :=
  match c with
  | '"' => ['\\', '"']
  | '\\' => ['\\', '\\']
  | '\x08' => ['\\', 'b']
  | '\x0c' => ['\\', 'f']
  | '\n' => ['\\', 'n']
  | '\r' => ['\\', 'r']
  | '\t' => ['\\', 't']
  | _ =>
    if c.toNat < 0x20 then
      ['\\', 'u', '0', '0', Nat.digitChar (c.toNat / 16), Nat.digitChar (c.toNat % 16)]
    else
      [c]

/-- A JSON string. -/
def jsonString (s : String) : List Char :=
  '"' :: s.toList.flatMap jsonEscaped ++ ['"']

/-- JSON on one line, without spaces. -/
def jsonDialect : Dialect where
  string := jsonString
  key := jsonString
  colon := [':']
  comma := [',']
  pad := []
  emptyObject := ['\x7b', '\x7d']

/-- JSON over several lines, with a space after each colon. -/
def jsonLinesDialect : Dialect :=
  { jsonDialect with colon := [':', ' '] }

/-- The value as JSON on one line. -/
def toJson (value : Value) : String :=
  String.ofList (jsonDialect.line value)

/-- The value as JSON over several lines. -/
def toJsonLines (value : Value) : String :=
  String.ofList (jsonLinesDialect.lines 0 value)

/-! ### Reading

Every reader takes the remaining text and returns what it read with the text after it. -/

namespace JsonText

/-- The text after the blanks of JSON. -/
def skipBlanks (cs : List Char) : List Char :=
  cs.dropWhile fun c => c == ' ' || c == '\n' || c == '\t' || c == '\r'

/-- Four hexadecimal digits. -/
def fourHex? : List Char → Option (Nat × List Char)
  | a :: b :: c :: d :: rest => do
    let digit (c : Char) : Option Nat :=
      if c.isDigit then some (c.toNat - '0'.toNat)
      else if 'a' ≤ c ∧ c ≤ 'f' then some (c.toNat - 'a'.toNat + 10)
      else if 'A' ≤ c ∧ c ≤ 'F' then some (c.toNat - 'A'.toNat + 10)
      else none
    some (((← digit a) * 16 + (← digit b)) * 256 + (← digit c) * 16 + (← digit d), rest)
  | _ => none

/-- The character of an escape by code unit.  A high surrogate needs a low one in an escape right
after it, and a low one cannot stand alone. -/
def unicodeEscape? (cs : List Char) : Option (Char × List Char) := do
  let (unit, rest) ← fourHex? cs
  if 0xD800 ≤ unit ∧ unit < 0xDC00 then
    match rest with
    | '\\' :: 'u' :: rest =>
      let (low, rest) ← fourHex? rest
      if 0xDC00 ≤ low ∧ low < 0xE000 then
        some (Char.ofNat (0x10000 + (unit - 0xD800) * 0x400 + (low - 0xDC00)), rest)
      else none
    | _ => none
  else if 0xDC00 ≤ unit ∧ unit < 0xE000 then none
  else some (Char.ofNat unit, rest)

/-- The character of an escape, after its backslash. -/
def escape? : List Char → Option (Char × List Char)
  | '"' :: rest => some ('"', rest)
  | '\\' :: rest => some ('\\', rest)
  | '/' :: rest => some ('/', rest)
  | 'b' :: rest => some ('\x08', rest)
  | 'f' :: rest => some ('\x0c', rest)
  | 'n' :: rest => some ('\n', rest)
  | 'r' :: rest => some ('\r', rest)
  | 't' :: rest => some ('\t', rest)
  | 'u' :: rest => unicodeEscape? rest
  | _ => none

/-- The characters of a string up to its closing quote; the fuel bounds their number. -/
def stringChars? : Nat → List Char → Option (List Char × List Char)
  | 0, _ => none
  | _ + 1, [] => none
  | _ + 1, '"' :: rest => some ([], rest)
  | fuel + 1, '\\' :: rest => do
    let (c, rest) ← escape? rest
    let (cs, rest) ← stringChars? fuel rest
    some (c :: cs, rest)
  | fuel + 1, c :: rest =>
    if c.toNat < 0x20 then none
    else do
      let (cs, rest) ← stringChars? fuel rest
      some (c :: cs, rest)

/-- A string, after its opening quote. -/
def string? (cs : List Char) : Option (String × List Char) := do
  let (chars, rest) ← stringChars? (cs.length + 1) cs
  some (String.ofList chars, rest)

/-! #### Numbers

The digits of a number are gathered into an integer below `2 ^ 64`; later digits only count for
the exponent, or are dropped.  A number with a point or an exponent is the gathered integer times a
power of ten in floating-point arithmetic, and is refused when it is not finite. -/

/-- Gathers digits as long as the integer stays below `2 ^ 64`. -/
def gather (n : Nat) : List Char → Nat × List Char
  | [] => (n, [])
  | c :: rest =>
    if c.isDigit ∧ 10 * n + digitValue c < pow2 64 then gather (10 * n + digitValue c) rest
    else (n, c :: rest)

/-- `x` times a power of ten; the fuel bounds the divisions by `10 ^ 308`. -/
def timesTenPow? : Nat → Binary64 → Int → Option Binary64
  | 0, _, _ => none
  | fuel + 1, x, exponent =>
    if 0 ≤ exponent ∧ exponent ≤ 308 then x.mul (.tenPow exponent.toNat)
    else if exponent < 0 ∧ -308 ≤ exponent then x.div (.tenPow (-exponent).toNat)
    else if x.isZero then some x
    else if 0 ≤ exponent then none
    else do timesTenPow? fuel (← x.div (.tenPow 308)) (exponent + 308)

/-- The floating-point number for gathered digits and a power of ten. -/
def real? (negative : Bool) (n : Nat) (exponent : Int) : Option Number := do
  let x ← timesTenPow? 4 (.ofInt n) exponent
  some (.real (if negative then x.neg else x))

/-- A number from its exponent mark on, if there is one. -/
def exponentPart? (negative : Bool) (n : Nat) (exponent : Int) (cs : List Char) :
    Option (Number × List Char) := do
  match cs with
  | c :: rest =>
    if c = 'e' ∨ c = 'E' then
      let (sign, rest) := match rest with
        | '+' :: rest => ((1 : Int), rest)
        | '-' :: rest => (-1, rest)
        | _ => (1, rest)
      let power ← naturalOf? (rest.takeWhile Char.isDigit)
      some (← real? negative n (exponent + sign * power), rest.dropWhile Char.isDigit)
    else some (← real? negative n exponent, cs)
  | [] => some (← real? negative n exponent, cs)

/-- A number from the digits of its fraction on. -/
def fractionPart? (negative : Bool) (n : Nat) (exponent : Int) (cs : List Char) :
    Option (Number × List Char) :=
  match cs with
  | c :: _ =>
    if c.isDigit then
      let (gathered, rest) := gather n cs
      exponentPart? negative gathered (exponent - (cs.length - rest.length))
        (rest.dropWhile Char.isDigit)
    else none
  | [] => none

/-- A number without its sign. -/
def magnitude? (negative : Bool) (cs : List Char) : Option (Number × List Char) :=
  match cs with
  | '0' :: c :: _ => if c.isDigit then none else number (gather 0 cs)
  | c :: _ => if c.isDigit then number (gather 0 cs) else none
  | [] => none
where
  number : Nat × List Char → Option (Number × List Char)
  | (n, rest) =>
    let beyond := rest.takeWhile Char.isDigit
    match rest.dropWhile Char.isDigit with
    | '.' :: rest => fractionPart? negative n beyond.length rest
    | 'e' :: rest => exponentPart? negative n beyond.length ('e' :: rest)
    | 'E' :: rest => exponentPart? negative n beyond.length ('E' :: rest)
    | rest =>
      if !beyond.isEmpty then (real? negative n beyond.length).map (·, rest)
      else if !negative then some (.ofInt n, rest)
      else if 0 < n ∧ n ≤ pow2 63 then some (.ofInt (-n), rest)
      else some (.real (Binary64.ofInt n).neg, rest)

/-! #### Values -/

mutual

/-- A value, with at most `depth` levels of arrays and objects.  The fuel bounds the calls of the
three readers, of which a value takes at most two for each of its characters. -/
def value? : (fuel depth : Nat) → List Char → Option (Value × List Char)
  | 0, _, _ => none
  | fuel + 1, depth, cs =>
    match skipBlanks cs with
    | 'n' :: 'u' :: 'l' :: 'l' :: rest => some (.null, rest)
    | 't' :: 'r' :: 'u' :: 'e' :: rest => some (.bool true, rest)
    | 'f' :: 'a' :: 'l' :: 's' :: 'e' :: rest => some (.bool false, rest)
    | '"' :: rest => (string? rest).map fun (s, rest) => (.string s, rest)
    | '-' :: rest => (magnitude? true rest).map fun (n, rest) => (.number n, rest)
    | '[' :: rest =>
      match depth with
      | 0 => none
      | depth + 1 =>
        match skipBlanks rest with
        | ']' :: rest => some (.array [], rest)
        | rest => (items? fuel depth rest).map fun (items, rest) => (.array items, rest)
    | '\x7b' :: rest =>
      match depth with
      | 0 => none
      | depth + 1 =>
        match skipBlanks rest with
        | '\x7d' :: rest => some (.object [], rest)
        | rest => (fields? fuel depth rest).map fun (fields, rest) =>
            (.object (collectFields fields), rest)
    | rest => (magnitude? false rest).map fun (n, rest) => (.number n, rest)

/-- The items of an array up to its closing bracket, at least one. -/
def items? : (fuel depth : Nat) → List Char → Option (List Value × List Char)
  | 0, _, _ => none
  | fuel + 1, depth, cs => do
    let (item, rest) ← value? fuel depth cs
    match skipBlanks rest with
    | ',' :: rest =>
      let (items, rest) ← items? fuel depth rest
      some (item :: items, rest)
    | ']' :: rest => some ([item], rest)
    | _ => none

/-- The entries of an object up to its closing brace, at least one. -/
def fields? : (fuel depth : Nat) → List Char → Option (List (String × Value) × List Char)
  | 0, _, _ => none
  | fuel + 1, depth, cs => do
    match skipBlanks cs with
    | '"' :: rest =>
      let (key, rest) ← string? rest
      match skipBlanks rest with
      | ':' :: rest =>
        let (value, rest) ← value? fuel depth rest
        match skipBlanks rest with
        | ',' :: rest =>
          let (fields, rest) ← fields? fuel depth rest
          some ((key, value) :: fields, rest)
        | '\x7d' :: rest => some ([(key, value)], rest)
        | _ => none
      | _ => none
    | _ => none

end

/-- The most levels of arrays and objects that are read. -/
def maxDepth : Nat := 127

end JsonText

/-- The value that a JSON text writes, if it writes one and nothing else. -/
def ofJson? (text : String) : Option Value := do
  let cs := text.toList
  let (value, rest) ← JsonText.value? (2 * cs.length + 2) JsonText.maxDepth cs
  if (JsonText.skipBlanks rest).isEmpty then some value else none

end DocQuery
