import DocQuery.Number.Shortest

/-!
# Layouts of floating-point numbers

How the shortest digits of a number are laid out as text: positionally between two powers of ten,
with an exponent elsewhere.  Two layouts are in use, one for documents and one for messages.

## Main definitions

* `FloatLayout` — the choices that a layout makes.
* `documentLayout`, `messageLayout` — the two layouts.
* `Binary64.print` — a number in a layout.
-/

namespace DocQuery

/-- The choices of a layout of floating-point numbers. -/
structure FloatLayout where
  /-- The least power of ten of the first digit that is written positionally. -/
  lowest : Int
  /-- The greatest power of ten of the first digit that is written positionally. -/
  highest : Int
  /-- A plus sign stands before an exponent that is not negative. -/
  plusSign : Bool
  /-- Which of two equally near decimals is written. -/
  tie : Tie

/-- In documents a number from `1e-5` to below `1e16` is positional, and an exponent always has
its sign. -/
def documentLayout : FloatLayout := ⟨-5, 15, true, .even⟩

/-- In messages a number from `1e-4` to below `1e16` is positional, and only a negative exponent
has a sign. -/
def messageLayout : FloatLayout := ⟨-4, 15, false, .up⟩

/-- Digits with the decimal point after the first `point` of them; zeros fill the places that the
digits do not reach, and at least one digit stands on either side. -/
def positional (digits : List Char) (point : Int) : List Char :=
  if point ≤ 0 then
    ['0', '.'] ++ List.replicate (-point).toNat '0' ++ digits
  else if digits.length ≤ point then
    digits ++ List.replicate (point.toNat - digits.length) '0' ++ ['.', '0']
  else
    digits.take point.toNat ++ ['.'] ++ digits.drop point.toNat

/-- Digits with the decimal point after the first one, followed by the power of ten. -/
def scientific (plusSign : Bool) (digits : List Char) (exponent : Int) : List Char :=
  let fraction := if digits.length ≤ 1 then [] else '.' :: digits.drop 1
  let sign := if exponent < 0 then ['-'] else if plusSign then ['+'] else []
  digits.take 1 ++ fraction ++ ['e'] ++ sign ++ Nat.toDigits 10 exponent.natAbs

/-- A number in a layout. -/
def Binary64.print (layout : FloatLayout) (x : Binary64) : String :=
  let sign := if x.negative then ['-'] else []
  if x.isZero then String.ofList (sign ++ ['0', '.', '0'])
  else
    let (d, k) := x.shortestDigits layout.tie
    let digits := Nat.toDigits 10 d
    let leading := k + digits.length - 1
    String.ofList <| sign ++
      if layout.lowest ≤ leading ∧ leading ≤ layout.highest then positional digits (leading + 1)
      else scientific layout.plusSign digits leading

end DocQuery
