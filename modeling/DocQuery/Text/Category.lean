import DocQuery.Text.Category.Letter
import DocQuery.Text.Category.Mark
import DocQuery.Text.Category.Number
import DocQuery.Text.Category.Punctuation
import DocQuery.Text.Category.Symbol

/-!
# Categories of characters

The Unicode general categories: every character that is assigned belongs to exactly one of them.

## Main definitions

* `Category` — the categories.
* `Category.ranges` — the characters of a category.
* `Category.has` — membership in a category.
-/

namespace DocQuery.Text

/-- Blanks. -/
def spaceRanges : Ranges :=
  [(0x0020, 0x0020), (0x00A0, 0x00A0), (0x1680, 0x1680), (0x2000, 0x200A), (0x202F, 0x202F),
  (0x205F, 0x205F), (0x3000, 0x3000)]

/-- The separator of lines. -/
def lineSeparatorRanges : Ranges :=
  [(0x2028, 0x2028)]

/-- The separator of paragraphs. -/
def paragraphSeparatorRanges : Ranges :=
  [(0x2029, 0x2029)]

/-- Control characters. -/
def controlRanges : Ranges :=
  [(0x0000, 0x001F), (0x007F, 0x009F)]

/-- Characters that say how to set others. -/
def formatRanges : Ranges :=
  [(0x00AD, 0x00AD), (0x0600, 0x0605), (0x061C, 0x061C), (0x06DD, 0x06DD), (0x070F, 0x070F),
  (0x0890, 0x0891), (0x08E2, 0x08E2), (0x180E, 0x180E), (0x200B, 0x200F), (0x202A, 0x202E),
  (0x2060, 0x2064), (0x2066, 0x206F), (0xFEFF, 0xFEFF), (0xFFF9, 0xFFFB), (0x110BD, 0x110BD),
  (0x110CD, 0x110CD), (0x13430, 0x1343F), (0x1BCA0, 0x1BCA3), (0x1D173, 0x1D17A),
  (0xE0001, 0xE0001), (0xE0020, 0xE007F)]

/-- Characters without a common meaning. -/
def privateUseRanges : Ranges :=
  [(0xE000, 0xF8FF), (0xF0000, 0xFFFFD), (0x100000, 0x10FFFD)]

/-- A general category of assigned characters. -/
inductive Category where
  | uppercaseLetter
  | lowercaseLetter
  | titlecaseLetter
  | modifierLetter
  | otherLetter
  | nonspacingMark
  | spacingMark
  | enclosingMark
  | decimalNumber
  | letterNumber
  | otherNumber
  | connector
  | dash
  | opening
  | closing
  | initialQuote
  | finalQuote
  | otherPunctuation
  | mathSymbol
  | currency
  | modifierSymbol
  | otherSymbol
  | space
  | lineSeparator
  | paragraphSeparator
  | control
  | format
  | privateUse
  deriving DecidableEq

namespace Category

/-- The characters of a category. -/
def ranges : Category → Ranges
  | .uppercaseLetter => uppercaseLetterRanges
  | .lowercaseLetter => lowercaseLetterRanges
  | .titlecaseLetter => titlecaseLetterRanges
  | .modifierLetter => modifierLetterRanges
  | .otherLetter => otherLetterRanges
  | .nonspacingMark => nonspacingMarkRanges
  | .spacingMark => spacingMarkRanges
  | .enclosingMark => enclosingMarkRanges
  | .decimalNumber => decimalNumberRanges
  | .letterNumber => letterNumberRanges
  | .otherNumber => otherNumberRanges
  | .connector => connectorRanges
  | .dash => dashRanges
  | .opening => openRanges
  | .closing => closeRanges
  | .initialQuote => initialQuoteRanges
  | .finalQuote => finalQuoteRanges
  | .otherPunctuation => otherPunctuationRanges
  | .mathSymbol => mathSymbolRanges
  | .currency => currencyRanges
  | .modifierSymbol => modifierSymbolRanges
  | .otherSymbol => otherSymbolRanges
  | .space => spaceRanges
  | .lineSeparator => lineSeparatorRanges
  | .paragraphSeparator => paragraphSeparatorRanges
  | .control => controlRanges
  | .format => formatRanges
  | .privateUse => privateUseRanges

/-- Membership in a category. -/
def has (category : Category) (c : Char) : Bool :=
  category.ranges.has c

/-- The letters that have a case. -/
def casedLetters : List Category :=
  [.uppercaseLetter, .lowercaseLetter, .titlecaseLetter]

/-- All letters. -/
def letters : List Category :=
  [.uppercaseLetter, .lowercaseLetter, .titlecaseLetter, .modifierLetter, .otherLetter]

/-- All marks. -/
def marks : List Category :=
  [.nonspacingMark, .spacingMark, .enclosingMark]

/-- All numbers. -/
def numbers : List Category :=
  [.decimalNumber, .letterNumber, .otherNumber]

/-- All punctuation marks. -/
def punctuation : List Category :=
  [.connector, .dash, .opening, .closing, .initialQuote, .finalQuote, .otherPunctuation]

/-- All signs. -/
def symbols : List Category :=
  [.mathSymbol, .currency, .modifierSymbol, .otherSymbol]

/-- All separators. -/
def separators : List Category :=
  [.space, .lineSeparator, .paragraphSeparator]

/-- The assigned characters that are not to be seen. -/
def others : List Category :=
  [.control, .format, .privateUse]

/-- The categories of characters that leave a trace on paper. -/
def visible : List Category :=
  letters ++ marks ++ numbers ++ punctuation ++ symbols

/-- All categories of assigned characters. -/
def assigned : List Category :=
  visible ++ separators ++ others

end Category

end DocQuery.Text
