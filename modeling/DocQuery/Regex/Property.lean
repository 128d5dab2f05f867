import DocQuery.Regex.Property.Break
import DocQuery.Text.Edition

/-!
# Sets named by a property

The sets of characters that a pattern names by a property of the Unicode standard.  Names match
loosely, so that case, blanks, underscores and dashes in them do not count.  A name alone is that of
a property with the values yes and no, a category or a script; other properties are written with a
value.

## Main definitions

* `looseName` — what counts in a name.
* `script?`, `usedWith?`, `age?` — the sets of scripts and editions.
* `CharSet.named?` — the set with a name alone.
* `CharSet.ofProperty?` — the set where a property has a value.
-/

namespace DocQuery.Regex

/-! ### Names -/

/-- The ASCII characters of a name in lower case, without blanks, underscores and dashes. -/
def plainName (cs : List Char) : List Char :=
  (cs.filter fun c => c.toNat < 0x80 && c != ' ' && c != '_' && c != '-').map Char.toLower

/-- What counts in a name.  A prefix `is` does not count, except where only a `c` follows, which
makes it no prefix. -/
def looseName (name : List Char) : String :=
  match name with
  | i :: s :: rest =>
    if i.toLower = 'i' ∧ s.toLower = 's' then
      if plainName rest = ['c'] then "isc" else String.ofList (plainName rest)
    else String.ofList (plainName name)
  | name => String.ofList (plainName name)

/-- The set with a name in a list. -/
def find? (sets : List Named) (name : String) : Option CharSet :=
  (sets.find? fun named => named.names.contains name).map (·.set)

/-! ### Scripts and editions -/

/-- The script with the given name. -/
def scriptNamed? (name : String) : Option Text.Script :=
  Text.scripts.find? fun s => s.names.any fun other => looseName other.toList = name

/-- The characters of a script. -/
def script? (name : String) : Option CharSet :=
  (scriptNamed? name).map fun s => .ofRanges s.ranges

/-- The characters of which the scripts are known that use them. -/
def sharedChars : CharSet :=
  .ofRanges (Text.scripts.flatMap (·.shared))

/-- The scripts of characters that several scripts have in common. -/
def isCommonScript (s : Text.Script) : Bool :=
  s.names.contains "Common" || s.names.contains "Inherited"

/-- The characters used with a script.  What is used with certain scripts is common no more. -/
def usedWith? (name : String) : Option CharSet :=
  (scriptNamed? name).map fun s =>
    if isCommonScript s then (CharSet.ofRanges s.ranges).diff sharedChars
    else .ofRanges (s.ranges ++ s.shared)

/-- The edition has the given name: both numbers with a point between them, or after a `v`. -/
def isNamedEdition (name : String) (edition : Text.Edition) : Bool :=
  let major := toString edition.major
  let minor := toString edition.minor
  name = major ++ "." ++ minor || name = "v" ++ major ++ minor

/-- The characters that were there in the edition with the given name. -/
def age? (name : String) : Option CharSet :=
  match Text.editions.findIdx? (isNamedEdition name) with
  | some i => some (.ofRanges ((Text.editions.take (i + 1)).flatMap (·.added)))
  | none => none

/-! ### Lookup -/

/-- The set with a name alone.  `sc` and `lc` are the short names of categories. -/
def CharSet.named? (name : List Char) : Option CharSet :=
  let name := looseName name
  find? binaryProperties name <|> category? name <|> script? name

/-- The set of characters for which a property has the given value. -/
def CharSet.ofProperty? (property value : List Char) : Option CharSet :=
  let value := looseName value
  match looseName property with
  | "generalcategory" | "gc" => category? value
  | "script" | "sc" => script? value
  | "scriptextensions" | "scx" => usedWith? value
  | "age" => age? value
  | "graphemeclusterbreak" | "gcb" => find? clusterBreaks value
  | "wordbreak" | "wb" => find? wordBreaks value
  | "sentencebreak" | "sb" => find? sentenceBreaks value
  | _ => none

end DocQuery.Regex
