import DocQuery.Value.Basic

/-!
# Writing values

One printer for all notations of values.  A notation is a choice of spellings; every value can be
written on one line, or with each entry of an array or object on a line of its own.

## Main definitions

* `Dialect` — the choices of a notation.
* `Dialect.line` — a value on one line.
* `Dialect.lines` — a value over several lines, indented by two spaces a level.
-/

namespace DocQuery

/-- The choices of a notation for values. -/
structure Dialect where
  /-- The spelling of a string. -/
  string : String → List Char
  /-- The spelling of a key. -/
  key : String → List Char
  /-- What stands between a key and its value. -/
  colon : List Char
  /-- What stands between two entries on one line. -/
  comma : List Char
  /-- What stands inside the braces of an object on one line. -/
  pad : List Char
  /-- An object without entries. -/
  emptyObject : List Char

/-- The spelling of a number: an integer in decimal digits, or floating point as in documents. -/
def Number.print : Number → List Char
  | .int n => (toString n.toInt).toList
  | .large n _ => (toString n.toNat).toList
  | .real x => (x.print documentLayout).toList

namespace Dialect

/-- The start of a line at a level. -/
def indent (level : Nat) : List Char :=
  List.replicate (2 * level) ' '

mutual

/-- A value on one line. -/
def line (d : Dialect) : Value → List Char
  | .null => ['n', 'u', 'l', 'l']
  | .bool true => ['t', 'r', 'u', 'e']
  | .bool false => ['f', 'a', 'l', 's', 'e']
  | .number n => n.print
  | .string s => d.string s
  | .array items => '[' :: d.lineItems items ++ [']']
  | .object [] => d.emptyObject
  | .object (field :: fields) =>
    '\x7b' :: d.pad ++ d.lineFields (field :: fields) ++ d.pad ++ ['\x7d']

/-- The items of an array on one line. -/
def lineItems (d : Dialect) : List Value → List Char
  | [] => []
  | [item] => d.line item
  | item :: items => d.line item ++ d.comma ++ d.lineItems items

/-- The entries of an object on one line. -/
def lineFields (d : Dialect) : List (String × Value) → List Char
  | [] => []
  | [(key, value)] => d.key key ++ d.colon ++ d.line value
  | (key, value) :: fields =>
    d.key key ++ d.colon ++ d.line value ++ d.comma ++ d.lineFields fields

end

mutual

/-- A value over several lines, the first of which is already indented. -/
def lines (d : Dialect) (level : Nat) : Value → List Char
  | .array [] => ['[', ']']
  | .array (item :: items) =>
    ['[', '\n'] ++ d.linesItems (level + 1) (item :: items) ++ ['\n'] ++ indent level ++ [']']
  | .object [] => d.emptyObject
  | .object (field :: fields) =>
    ['\x7b', '\n'] ++ d.linesFields (level + 1) (field :: fields) ++ ['\n'] ++ indent level
      ++ ['\x7d']
  | .null => d.line .null
  | .bool b => d.line (.bool b)
  | .number n => d.line (.number n)
  | .string s => d.line (.string s)

/-- The items of an array, each on its own line. -/
def linesItems (d : Dialect) (level : Nat) : List Value → List Char
  | [] => []
  | [item] => indent level ++ d.lines level item
  | item :: items =>
    indent level ++ d.lines level item ++ [',', '\n'] ++ d.linesItems level items

/-- The entries of an object, each on its own line. -/
def linesFields (d : Dialect) (level : Nat) : List (String × Value) → List Char
  | [] => []
  | [(key, value)] => indent level ++ d.key key ++ d.colon ++ d.lines level value
  | (key, value) :: fields =>
    indent level ++ d.key key ++ d.colon ++ d.lines level value ++ [',', '\n']
      ++ d.linesFields level fields

end

end Dialect

end DocQuery
