import DocQuery.Number.Decimal
import DocQuery.Number.Numeral

/-!
# Values

Documents and what they are made of: null, booleans, numbers, strings, arrays and objects.  The
entries of an object keep the order in which they were written.

A number is an integer or a floating-point number, and the two stay apart.  Integers reach from
`-2 ^ 63` to below `2 ^ 64`; those from `2 ^ 63` on have a constructor of their own, because
operations on signed integers leave them out.

## Main definitions

* `Number`, `Value` — the types.
* `Value.typeName`, `Value.hasType` — the names of types.
* `Value.integer?` — the value as a signed integer, if it is a number without a fraction.
* `Value.isTruthy` — what counts as true in a condition.
* `Number.toDecimal?`, `Value.ofDecimal` — the way into and out of decimal arithmetic.
-/

namespace DocQuery

/-- A number of a document. -/
inductive Number where
  /-- An integer that fits 64 bits with a sign. -/
  | int (n : Int64)
  /-- An integer that fits 64 bits only without a sign. -/
  | large (n : UInt64) (beyond : pow2 63 ≤ n.toNat)
  /-- A floating-point number. -/
  | real (x : Binary64)
  deriving DecidableEq

namespace Number

/-- The number of a document for an integer: a floating-point number if it is beyond 64 bits. -/
def ofInt (n : Int) : Number :=
  match signed64? n with
  | some i => .int i
  | none =>
    if h : pow2 63 ≤ (UInt64.ofNat n.toNat).toNat ∧ ((UInt64.ofNat n.toNat).toNat : Int) = n then
      .large (UInt64.ofNat n.toNat) h.1
    else
      .real (.ofInt n)

/-- The signed integer, if it is one. -/
def signed? : Number → Option Int64
  | .int n => some n
  | .large _ _ => none
  | .real _ => none

/-- The value of an integer, large ones included. -/
def integer? : Number → Option Int
  | .int n => some n.toInt
  | .large n _ => some n.toNat
  | .real _ => none

/-- The number as a floating-point number; a large integer is rounded. -/
def toBinary64 : Number → Binary64
  | .int n => .ofInt n.toInt
  | .large n _ => .ofInt n.toNat
  | .real x => x

/-- The number as a decimal.  Signed integers are exact, all others go through floating point, and
there is none for a number that is too large. -/
def toDecimal? : Number → Option Decimal
  | .int n => Decimal.ofInt? n.toInt
  | .large n _ => Decimal.ofBinary64? (.ofInt n.toNat)
  | .real x => Decimal.ofBinary64? x

end Number

/-- A document or a part of one. -/
inductive Value where
  | null
  | bool (b : Bool)
  | number (n : Number)
  | string (s : String)
  | array (items : List Value)
  /-- The entries in written order. -/
  | object (fields : List (String × Value))

namespace Value

instance : Inhabited Value := ⟨.null⟩

/-- A signed integer. -/
def int (n : Int64) : Value :=
  .number (.int n)

/-- A count. -/
def ofNat (n : Nat) : Value :=
  .number (.ofInt n)

/-- An object with one entry. -/
def entry (key : String) (value : Value) : Value :=
  .object [(key, value)]

/-! ### Types -/

/-- The name of a value's type.  An integer of 32 bits is an `int`, any other a `long`. -/
def typeName : Value → String
  | .null => "null"
  | .bool _ => "bool"
  | .number (.int n) => if -pow2 31 ≤ n.toInt ∧ n.toInt < pow2 31 then "int" else "long"
  | .number (.large _ _) => "long"
  | .number (.real _) => "double"
  | .string _ => "string"
  | .array _ => "array"
  | .object _ => "object"

/-- The value is a number. -/
def isNumber : Value → Bool
  | .number _ => true
  | _ => false

/-- The value is null. -/
def isNull : Value → Bool
  | .null => true
  | _ => false

/-- The value has the named type; `number` names all types of numbers. -/
def hasType (value : Value) (name : String) : Bool :=
  if name = "number" then value.isNumber else value.typeName == name

/-! ### Numbers -/

/-- The value of a decimal: an integer if it has no fraction and fits, a floating-point number
otherwise. -/
def ofDecimal (d : Decimal) : Value :=
  match d.integer?.bind signed64? with
  | some n => .int n
  | none =>
    match d.toBinary64? with
    | some x => .number (.real x)
    | none => .null

/-- The value as a signed integer, if it is a number without a fraction and in range. -/
def integer? : Value → Option Int64
  | .number (.int n) => some n
  | .number (.real x) => if x.isIntegral then signed64? x.truncated else none
  | _ => none

/-- The number is zero. -/
def isZero : Value → Bool
  | .number n => n.toBinary64.isZero
  | _ => false

/-- False are null, `false` and zero; everything else is true. -/
def isTruthy : Value → Bool
  | .null => false
  | .bool b => b
  | .number n => !n.toBinary64.isZero
  | .string _ => true
  | .array _ => true
  | .object _ => true

end Value

end DocQuery
