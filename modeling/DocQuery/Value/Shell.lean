import DocQuery.Value.Dialect

/-!
# Shell notation

The notation of the database shell: simple keys stand without quotes, and spaces surround colons
and the inside of braces.

## Main definitions

* `isBareKey` — a key that stands without quotes.
* `toShell`, `toShellLines` — a value in shell notation on one line, or over several.
-/

namespace DocQuery

/-- A control character, ASCII or not. -/
def isControl (c : Char) : Bool :=
  c.toNat < 0x20 || (0x7F ≤ c.toNat && c.toNat < 0xA0)

/-- A character inside the quotes of a string. -/
def shellEscaped (c : Char) : List Char :=
  match c with
  | '"' => ['\\', '"']
  | '\\' => ['\\', '\\']
  | '\n' => ['\\', 'n']
  | '\r' => ['\\', 'r']
  | '\t' => ['\\', 't']
  | _ =>
    if isControl c then
      ['\\', 'u', '0', '0', Nat.digitChar (c.toNat / 16), Nat.digitChar (c.toNat % 16)]
    else
      [c]

/-- A quoted string. -/
def shellString (s : String) : List Char :=
  '"' :: s.toList.flatMap shellEscaped ++ ['"']

/-- A key of ASCII letters, digits, underscores, dollar signs and dots stands without quotes. -/
def isBareKey (key : String) : Bool :=
  !key.toList.isEmpty
    && key.toList.all fun c => c.isAlphanum || c == '_' || c == '$' || c == '.'

/-- Shell notation. -/
def shellDialect : Dialect where
  string := shellString
  key key := if isBareKey key then key.toList else shellString key
  colon := [' ', ':', ' ']
  comma := [',', ' ']
  pad := [' ']
  emptyObject := ['\x7b', ' ', '\x7d']

/-- The value in shell notation on one line. -/
def toShell (value : Value) : String :=
  String.ofList (shellDialect.line value)

/-- The value in shell notation over several lines. -/
def toShellLines (value : Value) : String :=
  String.ofList (shellDialect.lines 0 value)

end DocQuery
