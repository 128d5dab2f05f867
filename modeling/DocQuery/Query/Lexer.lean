import DocQuery.Number.Numeral
import DocQuery.Query.Token
import DocQuery.Text.Blank
import DocQuery.Text.Name

/-!
# From text to tokens

A query text is read from left to right into tokens, blanks between them skipped.  Positions count
characters from the start of the text.

## Main definitions

* `LexError` — why a text cannot be read, with its message.
* `Cursor.token` — the token at a place in the text.
* `scan` — all tokens of a text, up to the first error if there is one.
-/

namespace DocQuery

/-- Why a text cannot be read into tokens. -/
inductive LexError where
  /-- A character that begins no token. -/
  | unexpectedChar (ch : Char) (position : Nat)
  /-- A single equals sign. -/
  | loneEquals (position : Nat)
  /-- A string without its closing quote, which starts at the position. -/
  | unterminatedString (start : Nat)
  /-- A backslash before a character that has no escape; the position is the character's. -/
  | invalidEscape (ch : Char) (position : Nat)
  /-- An integer that does not fit 64 bits. -/
  | invalidNumber (text : String) (position : Nat)
  deriving DecidableEq

/-- The wording of an error. -/
def LexError.message : LexError → String
  | .unexpectedChar ch position => s!"unexpected character '{ch}' at position {position}"
  | .loneEquals position =>
    s!"unexpected '=' at position {position} (did you mean '==', '!=' or ':='?)"
  | .unterminatedString start => s!"unterminated string starting at position {start}"
  | .invalidEscape ch position => s!"invalid escape sequence '\\{ch}' at position {position}"
  | .invalidNumber text position => s!"invalid number '{text}' at position {position}"

/-- A place in a text: how many characters are behind it and which are ahead. -/
structure Cursor where
  position : Nat
  rest : List Char

namespace Cursor

/-- The place `n` characters further on. -/
def advance (c : Cursor) (n : Nat) : Cursor :=
  ⟨c.position + n, c.rest.drop n⟩

/-- The place of the next character that is not blank. -/
def skipBlanks (c : Cursor) : Cursor :=
  c.advance (c.rest.takeWhile Text.isBlank).length

/-- The character that a backslash and `ch` stand for. -/
def unescape? (ch : Char) : Option Char :=
  match ch with
  | 'n' => some '\n'
  | 't' => some '\t'
  | 'r' => some '\r'
  | '"' => some '"'
  | '\'' => some '\''
  | '\\' => some '\\'
  | _ => none

/-- The content of a string up to its closing quote, for a string that starts at `start`, and the
place after the quote. -/
def stringBody (quote : Char) (start : Nat) :
    (position : Nat) → List Char → Except LexError (List Char × Cursor)
  | _, [] => .error (.unterminatedString start)
  | position, c :: rest =>
    if c = quote then .ok ([], ⟨position + 1, rest⟩)
    else if c = '\\' then
      match rest with
      | [] => .error (.unterminatedString start)
      | e :: rest =>
        match unescape? e with
        | none => .error (.invalidEscape e (position + 1))
        | some ch => do
          let (chars, after) ← stringBody quote start (position + 2) rest
          .ok (ch :: chars, after)
    else do
      let (chars, after) ← stringBody quote start (position + 1) rest
      .ok (c :: chars, after)

/-- The string at a place that holds a quote. -/
def string (c : Cursor) (quote : Char) : Except LexError (Token × Cursor) := do
  let (chars, after) ← stringBody quote c.position (c.position + 1) (c.rest.drop 1)
  .ok (.string (String.ofList chars), after)

/-- The name at a place, and the place after it. -/
def name (c : Cursor) : String × Cursor :=
  let chars := c.rest.takeWhile Text.isNamePart
  (String.ofList chars, c.advance chars.length)

/-- The token for a name: a keyword, or an identifier. -/
def word (name : String) : Token :=
  match name with
  | "and" => .and
  | "or" => .or
  | "not" => .not
  | "true" => .boolean true
  | "false" => .boolean false
  | "null" => .null
  | name => .identifier name

/-- The number written by digits with a fraction. -/
def floatLiteral (whole fraction : List Char) : FloatLiteral :=
  match Binary64.nearest false (appendDigits 0 (whole ++ fraction)) (pow10 fraction.length) with
  | some x => .finite x
  | none => .infinite false

/-- An integer with these digits at a place, if there is one that fits. -/
def integerToken (c : Cursor) (digits : List Char) : Option Int64 → Except LexError (Token × Cursor)
  | some n => .ok (.integer n, c.advance digits.length)
  | none => .error (.invalidNumber (String.ofList digits) c.position)

/-- The integer with these digits at a place. -/
def integer (c : Cursor) (digits : List Char) : Except LexError (Token × Cursor) :=
  c.integerToken digits (signed64? (appendDigits 0 digits))

/-- The number at a place that holds a digit.  A point belongs to it only if a digit follows. -/
def number (c : Cursor) : Except LexError (Token × Cursor) :=
  let whole := c.rest.takeWhile Char.isDigit
  match c.rest.drop whole.length with
  | '.' :: d :: rest =>
    if d.isDigit then
      let fraction := (d :: rest).takeWhile Char.isDigit
      .ok (.float (floatLiteral whole fraction),
        c.advance (whole.length + 1 + fraction.length))
    else c.integer whole
  | _ => c.integer whole

/-- The sign of two characters. -/
def pair? (first second : Char) : Option Token :=
  match first, second with
  | '|', '>' => some .pipe
  | '?', '?' => some .questionQuestion
  | '=', '=' => some .eqEq
  | ':', '=' => some .colonEqual
  | '>', '=' => some .gtEq
  | '<', '=' => some .ltEq
  | '!', '=' => some .notEq
  | _, _ => none

/-- The sign of one character. -/
def single? (ch : Char) : Option Token :=
  match ch with
  | '&' => some .ampersand
  | '|' => some .bar
  | '.' => some .dot
  | ',' => some .comma
  | '+' => some .plus
  | '-' => some .minus
  | '*' => some .star
  | '/' => some .slash
  | '%' => some .percent
  | '?' => some .question
  | '~' => some .tilde
  | ':' => some .colon
  | '>' => some .gt
  | '<' => some .lt
  | '!' => some .exclamation
  | '\x7b' => some .lBrace
  | '\x7d' => some .rBrace
  | '@' => some .at
  | '(' => some .lParen
  | ')' => some .rParen
  | '[' => some .lBracket
  | ']' => some .rBracket
  | _ => none

/-- The token for a sign of one or two characters, and its length; none for a character that
begins no sign.  Where there is one of two characters, it goes before that of its first one. -/
def sign? : List Char → Option (Token × Nat)
  | [] => none
  | ch :: rest =>
    match rest.head?.bind (pair? ch) with
    | some token => some (token, 2)
    | none => (single? ch).map (·, 1)

/-- The characters begin with a name. -/
def startsWithName : List Char → Bool
  | [] => false
  | c :: _ => Text.isNameStart c

/-- The token at a place that holds no blank, and the place after it. -/
def token (c : Cursor) : Except LexError (Token × Cursor) :=
  match c.rest with
  | [] => .ok (.eof, c)
  | '$' :: rest =>
    if startsWithName rest then
      let (name, after) := (c.advance 1).name
      .ok (.param name, after)
    else .ok (.dollar, c.advance 1)
  | '"' :: _ => c.string '"'
  | '\'' :: _ => c.string '\''
  | ch :: _ =>
    match sign? c.rest with
    | some (sign, length) => .ok (sign, c.advance length)
    | none =>
      if Text.isNameStart ch then
        let (name, after) := c.name
        .ok (word name, after)
      else if ch.isDigit then c.number
      else if ch = '=' then .error (.loneEquals c.position)
      else .error (.unexpectedChar ch c.position)

end Cursor

/-- A token with the positions where it starts and where it stops. -/
structure Lexeme where
  start : Nat
  token : Token
  stop : Nat
  deriving DecidableEq

/-- The tokens of a text.  Without a failure the last one is the end of the text; with one they
are the tokens before it. -/
structure Scan where
  lexemes : List Lexeme
  failure : Option LexError

/-- The tokens from a place on; the fuel bounds their number. -/
def scanFrom : Nat → Cursor → Scan
  | 0, _ => ⟨[], none⟩
  | fuel + 1, c =>
    match c.skipBlanks.token with
    | .error e => ⟨[], some e⟩
    | .ok (token, after) =>
      let lexeme := ⟨c.skipBlanks.position, token, after.position⟩
      if token = .eof then ⟨[lexeme], none⟩
      else
        let following := scanFrom fuel after
        ⟨lexeme :: following.lexemes, following.failure⟩

/-- The tokens of a text. -/
def scan (text : String) : Scan :=
  scanFrom (text.toList.length + 1) ⟨0, text.toList⟩

end DocQuery
