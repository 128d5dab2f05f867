import DocQuery.Text.Alphabetic
import DocQuery.Text.Category

/-!
# Numeric characters and names

The numeric characters are those of the Unicode categories for numbers: decimal digits of every
script, letter numbers such as Roman numerals, and other numbers such as fractions and superscripts.

Field names, parameters, types, members and variables are written as names: a letter or an
underscore, then letters, numbers and underscores.

## Main definitions

* `isNumeric` — the three categories together.
* `isAlphanumeric` — a letter or a number.
* `isNameStart`, `isNamePart` — the characters a name begins and goes on with.
* `isName` — a whole text is a name.
-/

namespace DocQuery.Text

/-- A digit or another number of any script. -/
def isNumeric (c : Char) : Bool :=
  if c.toNat < 0x80 then c.isDigit else Category.numbers.any fun category => category.has c

/-- A letter or a number of any script. -/
def isAlphanumeric (c : Char) : Bool :=
  isAlphabetic c || isNumeric c

/-- A character that a name may begin with. -/
def isNameStart (c : Char) : Bool :=
  isAlphabetic c || c == '_'

/-- A character that a name may go on with. -/
def isNamePart (c : Char) : Bool :=
  isAlphanumeric c || c == '_'

/-- The characters spell one name. -/
def isNameChars : List Char → Bool
  | [] => false
  | c :: rest => isNameStart c && rest.all isNamePart

/-- The text is one name. -/
def isName (s : String) : Bool :=
  isNameChars s.toList

end DocQuery.Text
