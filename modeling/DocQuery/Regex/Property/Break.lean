import DocQuery.Regex.Property.Binary
import DocQuery.Text.Script

/-!
# Properties of breaks

The parts that characters have in the rules for breaking a text into characters as they are read,
words and sentences.  Each of these three properties has a value for every character; the value of
the characters without a part of their own cannot be asked for.

## Main definitions

* `clusterBreaks`, `wordBreaks`, `sentenceBreaks` — the values of the three properties.
-/

namespace DocQuery.Regex

namespace CharSet

/-- The two halves of a line break. -/
def carriageReturn : CharSet :=
  only '\r'

/-- See `carriageReturn`. -/
def lineFeed : CharSet :=
  only '\n'

/-- The joiner that forces a join. -/
def joiner : CharSet :=
  ofPoints [0x200D]

/-! ### Characters as they are read -/

/-- The characters that extend the one before, with the tones of skin. -/
def clusterExtend : CharSet :=
  graphemeExtend.union (ofRanges Text.skinToneRanges)

/-- The controls and other characters that are never part of another one. -/
def clusterControl : CharSet :=
  (unions [ofCategories [.lineSeparator, .paragraphSeparator, .control, .format],
    unassigned.inter ignorable]).diff
    (unions [carriageReturn, lineFeed, joiners, prepended, graphemeExtend])

/-- The marks that take space and belong to the character before. -/
def clusterSpacing : CharSet :=
  ((ofCategory .spacingMark).diff (graphemeExtend.union (ofRanges Text.freeMarkRanges))).union
    (ofPoints [0xE33, 0xEB3])

/-- The Korean syllables. -/
def syllables : CharSet :=
  ofRanges [(0xAC00, 0xD7A3)]

/-- The Korean syllables without a last consonant. -/
def openSyllables : CharSet :=
  ofPoints ((List.range 399).map fun i => 0xAC00 + 28 * i)

/-! ### Words -/

/-- The characters that words take in without a change. -/
def wordExtend : CharSet :=
  (unions [graphemeExtend, ofCategory .spacingMark, ofRanges Text.skinToneRanges]).diff joiner

/-- The characters that say how to set a word. -/
def wordFormat : CharSet :=
  (ofCategory .format).diff (unions [ofRanges [(0x200B, 0x200D)], prepended, wordExtend])

/-- The characters of the script with the given name. -/
def ofScript (name : String) : CharSet :=
  unions ((Text.scripts.filter fun s => s.names.contains name).map fun s => ofRanges s.ranges)

/-- The letters of the scripts that write words without blanks between them, which only a list of
words can find. -/
def unspaced : CharSet :=
  unions (["Hiragana", "Thai", "Lao", "Myanmar", "Khmer", "Tai_Le", "New_Tai_Lue", "Tai_Tham",
    "Tai_Viet", "Ahom"].map ofScript)

/-- The characters of words in Katakana. -/
def wordKatakana : CharSet :=
  ((ofScript "Katakana").union (ofRanges Text.otherKatakanaRanges)).diff wordExtend

/-- The Hebrew letters, between which quotes do not end a word. -/
def wordHebrew : CharSet :=
  (ofScript "Hebrew").inter (ofCategory .otherLetter)

/-- The letters of words in all other scripts. -/
def wordLetter : CharSet :=
  (alphabetic.union (ofRanges Text.otherWordLetterRanges)).diff
    (unions [ofRanges Text.ideographicRanges, wordKatakana, wordExtend, wordHebrew, unspaced])

/-- The characters of numbers. -/
def wordNumeric : CharSet :=
  digit.union (ofRanges Text.otherNumericRanges)

/-- The characters that join parts of a word. -/
def wordConnector : CharSet :=
  (ofCategory .connector).union (ofPoints [0x202F])

/-- The line breaks other than the two halves of one. -/
def wordNewline : CharSet :=
  ofRanges [(0x0B, 0x0C), (0x85, 0x85), (0x2028, 0x2029)]

/-- The blanks that allow a break. -/
def wordSpace : CharSet :=
  (ofCategory .space).diff (ofPoints [0xA0, 0x2007, 0x202F])

/-! ### Sentences -/

/-- The characters that sentences take in without a change. -/
def sentenceExtend : CharSet :=
  unions [graphemeExtend, ofCategory .spacingMark, joiner]

/-- The characters of numbers, with a separator of thousands. -/
def sentenceNumeric : CharSet :=
  wordNumeric.union (ofPoints [0x66C])

/-- The line breaks that end a sentence, other than the two halves of one. -/
def sentenceSeparator : CharSet :=
  ofPoints [0x85, 0x2028, 0x2029]

/-- The points, which may but need not end a sentence. -/
def sentencePoint : CharSet :=
  ofPoints [0x2E, 0x2024, 0xFE52, 0xFF0E]

/-- The capitals of the script that writes whole words in capitals only. -/
def georgianCapitals : CharSet :=
  ofRanges [(0x1C90, 0x1CBA), (0x1CBD, 0x1CBF)]

/-- The small letters. -/
def sentenceLower : CharSet :=
  lowercase.diff (sentenceExtend.union georgianSmall)

/-- The capitals. -/
def sentenceUpper : CharSet :=
  (uppercase.union (ofCategory .titlecaseLetter)).diff georgianCapitals

/-- The letters without case. -/
def sentenceLetter : CharSet :=
  (alphabetic.union (ofPoints [0x5F3])).diff
    (unions [sentenceLower, sentenceUpper, sentenceExtend])

/-- The brackets and quotes. -/
def sentenceClose : CharSet :=
  (ofCategories [.opening, .closing, .initialQuote, .finalQuote]).union
    (ofRanges Text.otherCloseRanges)

end CharSet

open CharSet

/-- The values of the property for characters as they are read. -/
def clusterBreaks : List Named := [
  ⟨["control", "cn"], clusterControl⟩,
  ⟨["cr"], carriageReturn⟩,
  ⟨["extend", "ex"], clusterExtend⟩,
  ⟨["l"], ofRanges Text.leadingJamoRanges⟩,
  ⟨["lf"], lineFeed⟩,
  ⟨["lv"], openSyllables⟩,
  ⟨["lvt"], syllables.diff openSyllables⟩,
  ⟨["prepend", "pp"], ofRanges Text.prefixRanges⟩,
  ⟨["regionalindicator", "ri"], regional⟩,
  ⟨["spacingmark", "sm"], clusterSpacing⟩,
  ⟨["t"], ofRanges Text.trailingJamoRanges⟩,
  ⟨["v"], ofRanges Text.vowelJamoRanges⟩,
  ⟨["zwj"], joiner⟩]

/-- The values of the property for words. -/
def wordBreaks : List Named := [
  ⟨["aletter", "le"], wordLetter⟩,
  ⟨["cr"], carriageReturn⟩,
  ⟨["doublequote", "dq"], only '"'⟩,
  ⟨["extend"], wordExtend⟩,
  ⟨["extendnumlet", "ex"], wordConnector⟩,
  ⟨["format", "fo"], wordFormat⟩,
  ⟨["hebrewletter", "hl"], wordHebrew⟩,
  ⟨["katakana", "ka"], wordKatakana⟩,
  ⟨["lf"], lineFeed⟩,
  ⟨["midletter", "ml"], ofRanges Text.midWordRanges⟩,
  ⟨["midnum", "mn"], ofRanges Text.midNumberRanges⟩,
  ⟨["midnumlet", "mb"], ofRanges Text.midWordOrNumberRanges⟩,
  ⟨["newline", "nl"], wordNewline⟩,
  ⟨["numeric", "nu"], wordNumeric⟩,
  ⟨["regionalindicator", "ri"], regional⟩,
  ⟨["singlequote", "sq"], only '\''⟩,
  ⟨["wsegspace"], wordSpace⟩,
  ⟨["zwj"], joiner⟩]

/-- The values of the property for sentences. -/
def sentenceBreaks : List Named := [
  ⟨["aterm", "at"], sentencePoint⟩,
  ⟨["close", "cl"], sentenceClose⟩,
  ⟨["cr"], carriageReturn⟩,
  ⟨["extend", "ex"], sentenceExtend⟩,
  ⟨["format", "fo"],
    (ofCategory .format).diff (sentenceExtend.union sentenceNumeric)⟩,
  ⟨["lf"], lineFeed⟩,
  ⟨["lower", "lo"], sentenceLower⟩,
  ⟨["numeric", "nu"], sentenceNumeric⟩,
  ⟨["oletter", "le"], sentenceLetter⟩,
  ⟨["scontinue", "sc"], ofRanges Text.continueRanges⟩,
  ⟨["sep", "se"], sentenceSeparator⟩,
  ⟨["sp"], blank.diff (unions [sentenceSeparator, carriageReturn, lineFeed])⟩,
  ⟨["sterm", "st"], (ofRanges Text.sentenceEndRanges).diff sentencePoint⟩,
  ⟨["upper", "up"], sentenceUpper⟩]

end DocQuery.Regex
