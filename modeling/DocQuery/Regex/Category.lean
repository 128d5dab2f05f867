import DocQuery.Regex.CharSet
import DocQuery.Text.Alphabetic
import DocQuery.Text.Category

/-!
# Sets of characters by category

The general categories as sets, with the names that a pattern can use for them, and the classes of
digits and of the characters of words.  Patterns do not know the newest characters, and take one
letter, U+0295, for a small one, which it is no more.

## Main definitions

* `CharSet.known` — the characters of a list that patterns know.
* `CharSet.ofCategory`, `CharSet.ofCategories` — the sets of categories.
* `CharSet.alphabetic`, `CharSet.digit`, `CharSet.word` — letters, digits, characters of words.
* `category?` — the set with a name of a category.
-/

namespace DocQuery.Regex

open Text (Category Ranges)

namespace CharSet

/-! ### Categories -/

/-- The characters of a list without the newest ones. -/
def known (ranges : Ranges) : CharSet :=
  (ofRanges ranges).diff (ofRanges Text.newestRanges)

/-- The letter that has lost its case. -/
def formerSmall : CharSet :=
  ofPoints [0x295]

/-- The characters of a category. -/
def ofCategory (category : Category) : CharSet :=
  match category with
  | .lowercaseLetter => (known category.ranges).union formerSmall
  | .otherLetter => (known category.ranges).diff formerSmall
  | _ => known category.ranges

/-- The characters of several categories. -/
def ofCategories (categories : List Category) : CharSet :=
  unions (categories.map ofCategory)

/-- The characters that are assigned. -/
def assigned : CharSet :=
  ofCategories Category.assigned

/-- The code points between the characters, which are reserved for pairs. -/
def surrogates : CharSet :=
  ofRanges [(0xD800, 0xDFFF)]

/-- The characters that are not assigned. -/
def unassigned : CharSet :=
  (assigned.union surrogates).compl

/-- The characters that are not to be seen or not assigned. -/
def others : CharSet :=
  unions [ofCategories Category.others, surrogates, unassigned]

/-! ### Letters, digits and words -/

/-- The letters, and the marks that act as letters. -/
def alphabetic : CharSet :=
  (known Text.alphabeticRanges).union (ofRanges [(0x41, 0x5A), (0x61, 0x7A)])

/-- The decimal digits of all scripts. -/
def digit : CharSet :=
  ofCategory .decimalNumber

/-- The two characters that say whether letters are to be joined. -/
def joiners : CharSet :=
  ofRanges [(0x200C, 0x200D)]

/-- The characters of words of all scripts. -/
def word : CharSet :=
  unions [alphabetic, ofCategories Category.marks, digit, ofCategory .connector, joiners]

end CharSet

/-! ### Names -/

/-- The categories that a name other than that of a set with unassigned characters stands for. -/
def categories? : String → Option (List Category)
  | "l" | "letter" => some Category.letters
  | "lc" | "casedletter" => some Category.casedLetters
  | "lu" | "uppercaseletter" => some [.uppercaseLetter]
  | "ll" | "lowercaseletter" => some [.lowercaseLetter]
  | "lt" | "titlecaseletter" => some [.titlecaseLetter]
  | "lm" | "modifierletter" => some [.modifierLetter]
  | "lo" | "otherletter" => some [.otherLetter]
  | "m" | "mark" | "combiningmark" => some Category.marks
  | "mn" | "nonspacingmark" => some [.nonspacingMark]
  | "mc" | "spacingmark" => some [.spacingMark]
  | "me" | "enclosingmark" => some [.enclosingMark]
  | "n" | "number" => some Category.numbers
  | "nd" | "decimalnumber" | "digit" => some [.decimalNumber]
  | "nl" | "letternumber" => some [.letterNumber]
  | "no" | "othernumber" => some [.otherNumber]
  | "p" | "punctuation" | "punct" => some Category.punctuation
  | "pc" | "connectorpunctuation" => some [.connector]
  | "pd" | "dashpunctuation" => some [.dash]
  | "ps" | "openpunctuation" => some [.opening]
  | "pe" | "closepunctuation" => some [.closing]
  | "pi" | "initialpunctuation" => some [.initialQuote]
  | "pf" | "finalpunctuation" => some [.finalQuote]
  | "po" | "otherpunctuation" => some [.otherPunctuation]
  | "s" | "symbol" => some Category.symbols
  | "sm" | "mathsymbol" => some [.mathSymbol]
  | "sc" | "currencysymbol" => some [.currency]
  | "sk" | "modifiersymbol" => some [.modifierSymbol]
  | "so" | "othersymbol" => some [.otherSymbol]
  | "z" | "separator" => some Category.separators
  | "zs" | "spaceseparator" => some [.space]
  | "zl" | "lineseparator" => some [.lineSeparator]
  | "zp" | "paragraphseparator" => some [.paragraphSeparator]
  | "cc" | "control" | "cntrl" => some [.control]
  | "cf" | "format" => some [.format]
  | "co" | "privateuse" => some [.privateUse]
  | _ => none

/-- The set with the given name of a category. -/
def category? : String → Option CharSet
  | "any" => some .all
  | "ascii" => some .ascii
  | "assigned" => some .assigned
  | "cn" | "unassigned" => some .unassigned
  | "c" | "other" => some .others
  | name => (categories? name).map .ofCategories

end DocQuery.Regex
