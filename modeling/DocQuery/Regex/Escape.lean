/-!
# Text as a pattern

A pattern that matches a given text and nothing else.

## Main definitions

* `Regex.isSpecial` — the characters that mean something else than themselves.
* `Regex.escape` — the text with a backslash before each of them.
-/

namespace DocQuery.Regex

/-- The character means something else than itself in some place of a pattern. -/
def isSpecial (c : Char) : Bool :=
  ['\\', '.', '+', '*', '?', '(', ')', '|', '[', ']', '\x7b', '\x7d', '^', '$', '#', '&', '-',
    '~'].contains c

/-- The characters with a backslash before each special one. -/
def escapeChars : List Char → List Char
  | [] => []
  | c :: cs => if isSpecial c then '\\' :: c :: escapeChars cs else c :: escapeChars cs

/-- The pattern that matches exactly a text. -/
def escape (text : String) : String :=
  String.ofList (escapeChars text.toList)

end DocQuery.Regex
