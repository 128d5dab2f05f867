import DocQuery.Text.Ranges

/-!
# Breaks in text

The characters with a part of their own in the rules for breaking a text into characters as they are
read, words and sentences.

## Main definitions

* `prefixRanges` — the characters that are joined to the one after them.
* `leadingJamoRanges` — the consonants that begin a Korean syllable.
* `vowelJamoRanges` — the vowels of Korean syllables, and others that behave like them.
* `trailingJamoRanges` — the consonants that end a Korean syllable.
* `freeMarkRanges` — the marks that take space and stand apart from the character before.
* `prependedRanges` — the marks that enclose the numbers after them.
* `otherWordLetterRanges` — the characters of words that are not letters.
* `otherKatakanaRanges` — the characters of words in Katakana that belong to several scripts.
* `midWordRanges` — the marks that do not end a word between letters.
* `midNumberRanges` — the marks that do not end a word between digits.
* `midWordOrNumberRanges` — the marks that do not end a word between letters or digits.
* `otherNumericRanges` — the characters of numbers that are not digits.
* `continueRanges` — the marks that do not end a sentence after one that does.
* `otherCloseRanges` — the marks that can close a sentence and are not brackets or quotes by
  category.
-/

namespace DocQuery.Text

/-- The characters that are joined to the one after them. -/
def prefixRanges : Ranges :=
  [(0x0600, 0x0605), (0x06DD, 0x06DD), (0x070F, 0x070F), (0x0890, 0x0891), (0x08E2, 0x08E2),
  (0x0D4E, 0x0D4E), (0x110BD, 0x110BD), (0x110CD, 0x110CD), (0x111C2, 0x111C3), (0x113D1, 0x113D1),
  (0x1193F, 0x1193F), (0x11941, 0x11941), (0x11A3A, 0x11A3A), (0x11A84, 0x11A89),
  (0x11D46, 0x11D46), (0x11F02, 0x11F02)]

/-- The consonants that begin a Korean syllable. -/
def leadingJamoRanges : Ranges :=
  [(0x1100, 0x115F), (0xA960, 0xA97C)]

/-- The vowels of Korean syllables, and others that behave like them. -/
def vowelJamoRanges : Ranges :=
  [(0x1160, 0x11A7), (0xD7B0, 0xD7C6), (0x16D63, 0x16D63), (0x16D67, 0x16D6A)]

/-- The consonants that end a Korean syllable. -/
def trailingJamoRanges : Ranges :=
  [(0x11A8, 0x11FF), (0xD7CB, 0xD7FB)]

/-- The marks that take space and stand apart from the character before. -/
def freeMarkRanges : Ranges :=
  [(0x102B, 0x102C), (0x1038, 0x1038), (0x1062, 0x1064), (0x1067, 0x106D), (0x1083, 0x1083),
  (0x1087, 0x108C), (0x108F, 0x108F), (0x109A, 0x109C), (0x1A61, 0x1A61), (0x1A63, 0x1A64),
  (0xAA7B, 0xAA7B), (0xAA7D, 0xAA7D), (0x11720, 0x11721)]

/-- The marks that enclose the numbers after them. -/
def prependedRanges : Ranges :=
  [(0x0600, 0x0605), (0x06DD, 0x06DD), (0x070F, 0x070F), (0x0890, 0x0891), (0x08E2, 0x08E2),
  (0x110BD, 0x110BD), (0x110CD, 0x110CD)]

/-- The characters of words that are not letters. -/
def otherWordLetterRanges : Ranges :=
  [(0x02C2, 0x02C5), (0x02D2, 0x02D7), (0x02DE, 0x02DF), (0x02E5, 0x02EB), (0x02ED, 0x02ED),
  (0x02EF, 0x02FF), (0x055A, 0x055C), (0x055E, 0x055E), (0x058A, 0x058A), (0x05F3, 0x05F3),
  (0x070F, 0x070F), (0xA708, 0xA716), (0xA720, 0xA721), (0xA789, 0xA78A), (0xAB5B, 0xAB5B)]

/-- The characters of words in Katakana that belong to several scripts. -/
def otherKatakanaRanges : Ranges :=
  [(0x3031, 0x3035), (0x309B, 0x309C), (0x30A0, 0x30A0), (0x30FC, 0x30FC), (0xFF70, 0xFF70)]

/-- The marks that do not end a word between letters. -/
def midWordRanges : Ranges :=
  [(0x003A, 0x003A), (0x00B7, 0x00B7), (0x0387, 0x0387), (0x055F, 0x055F), (0x05F4, 0x05F4),
  (0x2027, 0x2027), (0xFE13, 0xFE13), (0xFE55, 0xFE55), (0xFF1A, 0xFF1A)]

/-- The marks that do not end a word between digits. -/
def midNumberRanges : Ranges :=
  [(0x002C, 0x002C), (0x003B, 0x003B), (0x037E, 0x037E), (0x0589, 0x0589), (0x060C, 0x060D),
  (0x066C, 0x066C), (0x07F8, 0x07F8), (0x2044, 0x2044), (0xFE10, 0xFE10), (0xFE14, 0xFE14),
  (0xFE50, 0xFE50), (0xFE54, 0xFE54), (0xFF0C, 0xFF0C), (0xFF1B, 0xFF1B)]

/-- The marks that do not end a word between letters or digits. -/
def midWordOrNumberRanges : Ranges :=
  [(0x002E, 0x002E), (0x2018, 0x2019), (0x2024, 0x2024), (0xFE52, 0xFE52), (0xFF07, 0xFF07),
  (0xFF0E, 0xFF0E)]

/-- The characters of numbers that are not digits. -/
def otherNumericRanges : Ranges :=
  [(0x0600, 0x0605), (0x066B, 0x066B), (0x06DD, 0x06DD), (0x0890, 0x0891), (0x08E2, 0x08E2),
  (0x110BD, 0x110BD), (0x110CD, 0x110CD)]

/-- The marks that do not end a sentence after one that does. -/
def continueRanges : Ranges :=
  [(0x002C, 0x002D), (0x003A, 0x003B), (0x037E, 0x037E), (0x055D, 0x055D), (0x060C, 0x060D),
  (0x07F8, 0x07F8), (0x1802, 0x1802), (0x1808, 0x1808), (0x2013, 0x2014), (0x3001, 0x3001),
  (0xFE10, 0xFE11), (0xFE13, 0xFE14), (0xFE31, 0xFE32), (0xFE50, 0xFE51), (0xFE54, 0xFE55),
  (0xFE58, 0xFE58), (0xFE63, 0xFE63), (0xFF0C, 0xFF0D), (0xFF1A, 0xFF1B), (0xFF64, 0xFF64)]

/-- The marks that can close a sentence and are not brackets or quotes by category. -/
def otherCloseRanges : Ranges :=
  [(0x0022, 0x0022), (0x0027, 0x0027), (0x275B, 0x2760), (0x2E00, 0x2E01), (0x2E06, 0x2E08),
  (0x2E0B, 0x2E0B), (0x1F676, 0x1F678)]

end DocQuery.Text
