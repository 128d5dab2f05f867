import DocQuery.Text.Ranges

/-!
# Blank characters

The characters with the Unicode property White_Space, and the removal of blanks at the ends of a
text.

## Main definitions

* `isBlank` — the property itself.
* `trimStart`, `trim` — a text without its leading, or leading and trailing, blanks.
-/

namespace DocQuery.Text

/-- The blank characters: five ASCII controls and the space, and the spaces and line separators
of other blocks. -/
def blankRanges : Ranges :=
  [(0x09, 0x0D), (0x20, 0x20), (0x85, 0x85), (0xA0, 0xA0), (0x1680, 0x1680), (0x2000, 0x200A),
  (0x2028, 0x2029), (0x202F, 0x202F), (0x205F, 0x205F), (0x3000, 0x3000)]

/-- A space, tab or line break of any script. -/
def isBlank (c : Char) : Bool :=
  blankRanges.has c

/-- The characters from the first one that is not blank. -/
def trimStart (cs : List Char) : List Char :=
  cs.dropWhile isBlank

/-- The characters up to the last one that is not blank. -/
def trimEnd (cs : List Char) : List Char :=
  (cs.reverse.dropWhile isBlank).reverse

/-- The text without blanks at either end. -/
def trim (s : String) : String :=
  String.ofList (trimEnd (trimStart s.toList))

end DocQuery.Text
