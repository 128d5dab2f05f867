/-!
# Finding and splitting

Cutting a text at a character or at another text, and asking whether a text occurs in another.

## Main definitions

* `splitAtChar` — the pieces between the occurrences of a character.
* `splitOnce` — what stands before and after its first occurrence.
* `splitAtText`, `splitOnceAtText` — the same for the occurrences of a text.
* `occursIn` — a text occurs in another.
-/

namespace DocQuery.Text

/-- The pieces between the occurrences of `sep`; a text without any is one piece. -/
def splitAtChar (sep : Char) : List Char → List (List Char)
  | [] => [[]]
  | c :: rest =>
    if c = sep then [] :: splitAtChar sep rest
    else match splitAtChar sep rest with
      | [] => [[c]]
      | piece :: pieces => (c :: piece) :: pieces

/-- What stands before and after the first `sep`. -/
def splitOnce (sep : Char) : List Char → Option (List Char × List Char)
  | [] => none
  | c :: rest =>
    if c = sep then some ([], rest)
    else (splitOnce sep rest).map fun (before, after) => (c :: before, after)

/-- The pieces of `cs` around the occurrences of `sep`, found from the left without overlap.
`skip` characters of an occurrence are still to be passed over. -/
def splitSkipping (sep : List Char) (skip : Nat) : List Char → List (List Char)
  | [] => [[]]
  | c :: rest =>
    match skip with
    | n + 1 => splitSkipping sep n rest
    | 0 =>
      if sep.isPrefixOf (c :: rest) then [] :: splitSkipping sep (sep.length - 1) rest
      else match splitSkipping sep 0 rest with
        | [] => [[c]]
        | piece :: pieces => (c :: piece) :: pieces

/-- The pieces between the occurrences of a text that is not empty. -/
def splitAtText (sep : List Char) (cs : List Char) : List (List Char) :=
  splitSkipping sep 0 cs

/-- What stands before and after the first occurrence of a text. -/
def splitOnceAtText (sep : List Char) : List Char → Option (List Char × List Char)
  | [] => none
  | c :: rest =>
    if sep.isPrefixOf (c :: rest) then some ([], (c :: rest).drop sep.length)
    else (splitOnceAtText sep rest).map fun (before, after) => (c :: before, after)

/-- `needle` occurs in the characters. -/
def occursIn (needle : List Char) : List Char → Bool
  | [] => needle.isEmpty
  | c :: rest => needle.isPrefixOf (c :: rest) || occursIn needle rest

end DocQuery.Text
