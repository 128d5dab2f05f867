import DocQuery.Regex.Category
import DocQuery.Text.Printable
import DocQuery.Text.Property.Break
import DocQuery.Text.Property.Emoji
import DocQuery.Text.Property.Letter
import DocQuery.Text.Property.Sign

/-!
# Properties with the values yes and no

The properties of the Unicode standard that a character has or has not, as sets.  Those that the
standard derives from others are derived here as well, so that only the rest are tables.

## Main definitions

* `CharSet.lowercase`, `CharSet.uppercase`, `CharSet.cased` — the properties of case.
* `CharSet.graphemeExtend`, `CharSet.ignorable`, `CharSet.idStart` — further derived properties.
* `binaryProperties` — the sets with their names.
-/

namespace DocQuery.Regex

open Text (Category Ranges)

namespace CharSet

/-! ### Case -/

/-- Small letters, and what counts as such. -/
def lowercase : CharSet :=
  (ofCategory .lowercaseLetter).union (ofRanges Text.otherLowercaseRanges)

/-- Capitals, and what counts as such. -/
def uppercase : CharSet :=
  (ofCategory .uppercaseLetter).union (ofRanges Text.otherUppercaseRanges)

/-- Everything that has a case. -/
def cased : CharSet :=
  unions [lowercase, uppercase, ofCategory .titlecaseLetter]

/-- What stands between letters of a word without a case of its own. -/
def caseIgnorable : CharSet :=
  known Text.caseIgnorableRanges

/-- A code point of a character that patterns know. -/
def isKnownPoint (n : Nat) : Bool :=
  !holds n Text.newestRanges

/-- The code points that runs of a case mapping move to characters that patterns know. -/
def movedPoints (runs : List Text.CaseRun) : List Nat :=
  runs.flatMap fun run =>
    run.points.filter fun n => isKnownPoint n && isKnownPoint (n + run.shift).toNat

/-- What has another small form.  The dotted capital I has one of two characters. -/
def changesLowercased : CharSet :=
  unions [range 'A' 'Z', ofPoints [0x130], ofPoints (movedPoints Text.lowerRuns)]

/-- What has another capital form, of one character or several. -/
def changesUppercased : CharSet :=
  unions [range 'a' 'z', ofPoints (Text.upperExpansions.map fun (n, _) => n),
    ofPoints (movedPoints Text.upperRuns)]

/-- The capital forms of pairs of letters. -/
def capitalPairs : CharSet :=
  ofPoints [0x1C4, 0x1C7, 0x1CA, 0x1F1]

/-- The small letters of a script that writes no word with a capital first letter. -/
def georgianSmall : CharSet :=
  ofRanges [(0x10D0, 0x10FA), (0x10FD, 0x10FF)]

/-- What has another form at the beginning of a word with a capital first letter. -/
def changesTitlecased : CharSet :=
  (changesUppercased.union capitalPairs).diff ((ofCategory .titlecaseLetter).union georgianSmall)

/-- The capitals of a script that is folded to capitals. -/
def cherokeeCapitals : CharSet :=
  ofRanges [(0x13A0, 0x13F5)]

/-- What changes when case is folded. -/
def changesFolded : CharSet :=
  (changesLowercased.diff cherokeeCapitals).union (ofRanges Text.foldedRanges)

/-! ### Joined and ignored characters -/

/-- The characters that extend the one before, other than marks that take no space. -/
def otherGraphemeExtend : CharSet :=
  ofRanges (Text.otherExtenderRanges ++ [(0xFF9E, 0xFF9F)])

/-- The characters that extend the one before. -/
def graphemeExtend : CharSet :=
  unions [ofCategory .nonspacingMark, ofCategory .enclosingMark, otherGraphemeExtend]

/-- The characters to which others can be attached. -/
def graphemeBase : CharSet :=
  (unions [ofCategories Category.visible, ofCategory .space]).diff graphemeExtend

/-- The characters that are to be ignored where they cannot be shown, without those of categories
that are. -/
def otherIgnorable : CharSet :=
  ofRanges [(0x034F, 0x034F), (0x115F, 0x1160), (0x17B4, 0x17B5), (0x2065, 0x2065),
    (0x3164, 0x3164), (0xFFA0, 0xFFA0), (0xFFF0, 0xFFF8), (0xE0000, 0xE0000), (0xE0002, 0xE001F),
    (0xE0080, 0xE00FF), (0xE01F0, 0xE0FFF)]

/-- The characters that choose a form of the one before. -/
def variationSelector : CharSet :=
  ofRanges [(0x180B, 0x180D), (0x180F, 0x180F), (0xFE00, 0xFE0F), (0xE0100, 0xE01EF)]

/-- The marks that enclose the numbers after them. -/
def prepended : CharSet :=
  ofRanges Text.prependedRanges

/-- The characters that are to be ignored where they cannot be shown. -/
def ignorable : CharSet :=
  (unions [otherIgnorable, variationSelector, ofCategory .format]).diff
    (prepended.union (ofRanges [(0xFFF9, 0xFFFB), (0x13430, 0x13440)]))

/-! ### Identifiers -/

/-- The characters with a meaning of their own in notations of patterns. -/
def patternSyntax : CharSet :=
  ofRanges Text.patternSyntaxRanges

/-- Blanks in notations of patterns. -/
def patternBlank : CharSet :=
  ofRanges [(0x09, 0x0D), (0x20, 0x20), (0x85, 0x85), (0x200E, 0x200F), (0x2028, 0x2029)]

/-- The characters that can begin a name though they are not letters. -/
def otherIdStart : CharSet :=
  ofRanges [(0x1885, 0x1886), (0x2118, 0x2118), (0x212E, 0x212E), (0x309B, 0x309C)]

/-- The characters that can continue a name though they are not letters, marks or digits. -/
def otherIdContinue : CharSet :=
  (ofRanges [(0xB7, 0xB7), (0x387, 0x387), (0x1369, 0x1371), (0x19DA, 0x19DA), (0x30FB, 0x30FB),
    (0xFF65, 0xFF65)]).union joiners

/-- The characters that can begin a name. -/
def idStart : CharSet :=
  (unions [ofCategories Category.letters, ofCategory .letterNumber, otherIdStart]).diff
    patternSyntax

/-- The characters that can continue a name. -/
def idContinue : CharSet :=
  unions [idStart, ofCategories [.nonspacingMark, .spacingMark, .decimalNumber, .connector],
    otherIdContinue]

/-- The characters of names that become something else when a text is normalized. -/
def unstable : CharSet :=
  ofRanges [(0x37A, 0x37A), (0x309B, 0x309C), (0xFC5E, 0xFC63), (0xFDFA, 0xFDFB), (0xFE70, 0xFE70),
    (0xFE72, 0xFE72), (0xFE74, 0xFE74), (0xFE76, 0xFE76), (0xFE78, 0xFE78), (0xFE7A, 0xFE7A),
    (0xFE7C, 0xFE7C), (0xFE7E, 0xFE7E)]

/-- The characters that begin a name only until a text is normalized. -/
def unstableStart : CharSet :=
  unstable.union (ofRanges [(0xE33, 0xE33), (0xEB3, 0xEB3), (0xFF9E, 0xFF9F)])

/-! ### Mathematics and hexadecimal digits -/

/-- The signs of mathematics whose form varies with the style. -/
def mathStart : CharSet :=
  ofPoints [0x2202, 0x2207, 0x221E, 0x1D6C1, 0x1D6DB, 0x1D6FB, 0x1D715, 0x1D735, 0x1D74F, 0x1D76F,
    0x1D789, 0x1D7A9, 0x1D7C3]

/-- Superscripts and subscripts. -/
def mathScripts : CharSet :=
  ofRanges [(0xB2, 0xB3), (0xB9, 0xB9), (0x2070, 0x2070), (0x2074, 0x207E), (0x2080, 0x208E)]

/-- The hexadecimal digits. -/
def asciiHexDigit : CharSet :=
  ofRanges [(0x30, 0x39), (0x41, 0x46), (0x61, 0x66)]

/-- The hexadecimal digits of full width. -/
def wideHexDigit : CharSet :=
  ofRanges [(0xFF10, 0xFF19), (0xFF21, 0xFF26), (0xFF41, 0xFF46)]

/-! ### Other properties -/

/-- The code points that are never to be characters. -/
def noncharacter : CharSet :=
  ofRanges ((0xFDD0, 0xFDEF) ::
    (List.range 17).map fun i => (0x10000 * i + 0xFFFE, 0x10000 * i + 0xFFFF))

/-- The characters that set the direction of text. -/
def directing : CharSet :=
  ofRanges [(0x61C, 0x61C), (0x200E, 0x200F), (0x202A, 0x202E), (0x2066, 0x2069)]

/-- The letters of flags. -/
def regional : CharSet :=
  ofRanges [(0x1F1E6, 0x1F1FF)]

/-- The characters that describe an ideograph by two parts. -/
def joinsTwo : CharSet :=
  ofRanges [(0x2FF0, 0x2FF1), (0x2FF4, 0x2FFD), (0x31EF, 0x31EF)]

/-- The characters that describe an ideograph by three parts. -/
def joinsThree : CharSet :=
  ofRanges [(0x2FF2, 0x2FF3)]

/-- The characters that describe an ideograph by another one. -/
def changesOne : CharSet :=
  ofRanges [(0x2FFE, 0x2FFF)]

end CharSet

/-! ### Names -/

/-- A set with its names, as far as they count. -/
structure Named where
  names : List String
  set : CharSet

open CharSet in
/-- The properties of letters. -/
def letterProperties : List Named := [
  ⟨["alphabetic", "alpha"], alphabetic⟩,
  ⟨["caseignorable", "ci"], caseIgnorable⟩,
  ⟨["cased"], cased⟩,
  ⟨["changeswhencasefolded", "cwcf"], changesFolded⟩,
  ⟨["changeswhencasemapped", "cwcm"],
    unions [changesLowercased, changesUppercased, changesTitlecased]⟩,
  ⟨["changeswhenlowercased", "cwl"], changesLowercased⟩,
  ⟨["changeswhentitlecased", "cwt"], changesTitlecased⟩,
  ⟨["changeswhenuppercased", "cwu"], changesUppercased⟩,
  ⟨["diacritic", "dia"], ofRanges Text.diacriticRanges⟩,
  ⟨["extender", "ext"], ofRanges Text.lengthenerRanges⟩,
  ⟨["ideographic", "ideo"], ofRanges Text.ideographicRanges⟩,
  ⟨["logicalorderexception", "loe"], ofRanges Text.reorderedRanges⟩,
  ⟨["lowercase", "lower"], lowercase⟩,
  ⟨["otheralphabetic", "oalpha"],
    alphabetic.diff (unions [ofCategories Category.letters, ofCategory .letterNumber])⟩,
  ⟨["otherlowercase", "olower"], ofRanges Text.otherLowercaseRanges⟩,
  ⟨["otheruppercase", "oupper"], ofRanges Text.otherUppercaseRanges⟩,
  ⟨["radical"], ofRanges Text.radicalRanges⟩,
  ⟨["softdotted", "sd"], ofRanges Text.softDottedRanges⟩,
  ⟨["unifiedideograph", "uideo"], ofRanges Text.unifiedIdeographRanges⟩,
  ⟨["uppercase", "upper"], uppercase⟩]

open CharSet in
/-- The properties of punctuation marks and other signs. -/
def signProperties : List Named := [
  ⟨["bidimirrored", "bidim"], ofRanges Text.mirroredRanges⟩,
  ⟨["dash"], ofRanges Text.dashLikeRanges⟩,
  ⟨["emoji"], ofRanges Text.emojiRanges⟩,
  ⟨["emojicomponent", "ecomp"], ofRanges Text.emojiPartRanges⟩,
  ⟨["emojimodifier", "emod"], ofRanges Text.skinToneRanges⟩,
  ⟨["emojimodifierbase", "ebase"], ofRanges Text.emojiBaseRanges⟩,
  ⟨["emojipresentation", "epres"], ofRanges Text.shownEmojiRanges⟩,
  ⟨["extendedpictographic", "extpict"], ofRanges Text.pictographRanges⟩,
  ⟨["hyphen"], ofRanges Text.hyphenRanges⟩,
  ⟨["idsbinaryoperator", "idsb"], joinsTwo⟩,
  ⟨["idstrinaryoperator", "idst"], joinsThree⟩,
  ⟨["idsunaryoperator", "idsu"], changesOne⟩,
  ⟨["idcompatmathcontinue"], mathStart.union mathScripts⟩,
  ⟨["idcompatmathstart"], mathStart⟩,
  ⟨["math"], (ofCategory .mathSymbol).union (ofRanges Text.otherMathRanges)⟩,
  ⟨["othermath", "omath"], ofRanges Text.otherMathRanges⟩,
  ⟨["quotationmark", "qmark"], ofRanges Text.quotationRanges⟩,
  ⟨["regionalindicator", "ri"], regional⟩,
  ⟨["sentenceterminal", "sterm"], ofRanges Text.sentenceEndRanges⟩,
  ⟨["terminalpunctuation", "term"], ofRanges Text.terminalRanges⟩]

open CharSet in
/-- The properties of marks and of characters that are not to be seen. -/
def markProperties : List Named := [
  ⟨["bidicontrol", "bidic"], directing⟩,
  ⟨["defaultignorablecodepoint", "di"], ignorable⟩,
  ⟨["deprecated", "dep"], ofRanges Text.deprecatedRanges⟩,
  ⟨["graphemebase", "grbase"], graphemeBase⟩,
  ⟨["graphemeextend", "grext"], graphemeExtend⟩,
  ⟨["graphemelink", "grlink"], ofRanges Text.linkRanges⟩,
  ⟨["joincontrol", "joinc"], joiners⟩,
  ⟨["modifiercombiningmark", "mcm"], ofRanges Text.modifierMarkRanges⟩,
  ⟨["noncharactercodepoint", "nchar"], noncharacter⟩,
  ⟨["otherdefaultignorablecodepoint", "odi"], otherIgnorable⟩,
  ⟨["othergraphemeextend", "ogrext"], otherGraphemeExtend⟩,
  ⟨["prependedconcatenationmark", "pcm"], prepended⟩,
  ⟨["variationselector", "vs"], variationSelector⟩,
  ⟨["whitespace", "wspace", "space"], blank⟩]

open CharSet in
/-- The properties of characters in names and numbers. -/
def nameProperties : List Named := [
  ⟨["asciihexdigit", "ahex"], asciiHexDigit⟩,
  ⟨["hexdigit", "hex"], asciiHexDigit.union wideHexDigit⟩,
  ⟨["idcontinue", "idc"], idContinue⟩,
  ⟨["idstart", "ids"], idStart⟩,
  ⟨["otheridcontinue", "oidc"], otherIdContinue⟩,
  ⟨["otheridstart", "oids"], otherIdStart⟩,
  ⟨["patternsyntax", "patsyn"], patternSyntax⟩,
  ⟨["patternwhitespace", "patws"], patternBlank⟩,
  ⟨["xidcontinue", "xidc"], idContinue.diff unstable⟩,
  ⟨["xidstart", "xids"], idStart.diff unstableStart⟩]

/-- The properties with the values yes and no. -/
def binaryProperties : List Named :=
  letterProperties ++ signProperties ++ markProperties ++ nameProperties

end DocQuery.Regex
