import DocQuery.Compile.Basic
import DocQuery.Compile.Digest

/-!
# Fingerprints

A number for everything that decides what a text is compiled to: the text, the constants, the
parameters and the passes.  It is the digest of these written out as bytes.

## Main definitions

* `Value.bytes`, `Context.bytes`, `fingerprintBytes` — what is written out.
* `fingerprint` — its digest.
-/

namespace DocQuery

/-- The bytes of a text in UTF-8. -/
def textBytes (s : String) : List UInt8 :=
  s.toList.flatMap String.utf8EncodeChar

/-- Eight bytes for a number. -/
def wordBytes (n : Nat) : List UInt8 :=
  littleEndian 8 n

/-- One byte for a flag. -/
def flagByte (b : Bool) : UInt8 :=
  if b then 1 else 0

mutual

/-- A value written out, with a byte for its type in front. -/
def Value.bytes : Value → List UInt8
  | .null => [0]
  | .bool b => [1, flagByte b]
  | .number n => 2 :: textBytes (toJson (.number n))
  | .string s => 3 :: wordBytes s.utf8ByteSize ++ textBytes s
  | .array items => 4 :: wordBytes items.length ++ bytesOfAll items
  | .object fields => 5 :: wordBytes fields.length ++ bytesOfFields fields

/-- Values written out one after the other. -/
def Value.bytesOfAll : List Value → List UInt8
  | [] => []
  | v :: vs => v.bytes ++ bytesOfAll vs

/-- Entries written out one after the other, each key in front of its value. -/
def Value.bytesOfFields : List (String × Value) → List UInt8
  | [] => []
  | (key, v) :: fields => textBytes key ++ v.bytes ++ bytesOfFields fields

end

/-- A constant written out. -/
def constantBytes (constant : ConstantName × Int64) : List UInt8 :=
  textBytes constant.1.type ++ textBytes "." ++ textBytes constant.1.member
    ++ wordBytes constant.2.toUInt64.toNat

/-- A parameter written out. -/
def parameterBytes (parameter : String × Value) : List UInt8 :=
  textBytes parameter.1 ++ textBytes "=" ++ parameter.2.bytes

/-- The constants and the parameters written out, each list after its length. -/
def Context.bytes (context : Context) : List UInt8 :=
  wordBytes context.constants.entries.length ++ context.constants.entries.flatMap constantBytes
    ++ wordBytes context.parameters.entries.length
    ++ context.parameters.entries.flatMap parameterBytes

/-- All that a compilation depends on, written out. -/
def fingerprintBytes (source : String) (context : Context) (options : CompileOptions) :
    List UInt8 :=
  textBytes source ++ 0xFF :: context.bytes
    ++ [flagByte options.simplify, flagByte options.coalesce]

/-- A number for all that a compilation depends on. -/
def fingerprint (source : String) (context : Context) (options : CompileOptions) : UInt64 :=
  digest (fingerprintBytes source context options)

end DocQuery
