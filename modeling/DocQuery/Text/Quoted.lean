import DocQuery.Text.Printable

/-!
# Quoted text

The form in which a message shows a text: between double quotes, with a backslash before quotes
and backslashes, short escapes for four controls, and the code point in hexadecimal for whatever
else cannot be seen on its own.

## Main definitions

* `escaped` — one character as it stands between the quotes.
* `quoted` — the whole text.
-/

namespace DocQuery.Text

/-- A code point between braces, in small hexadecimal digits without leading zeros. -/
def codePointEscape (c : Char) : List Char :=
  ['\\', 'u', '\x7b'] ++ Nat.toDigits 16 c.toNat ++ ['\x7d']

/-- A character as it stands between double quotes. -/
def escaped (c : Char) : List Char :=
  match c with
  | '\x00' => ['\\', '0']
  | '\t' => ['\\', 't']
  | '\r' => ['\\', 'r']
  | '\n' => ['\\', 'n']
  | '\\' => ['\\', '\\']
  | '"' => ['\\', '"']
  | _ => if isExtender c || !isPrintable c then codePointEscape c else [c]

/-- The text between double quotes. -/
def quoted (s : String) : String :=
  String.ofList ('"' :: s.toList.flatMap escaped ++ ['"'])

end DocQuery.Text
