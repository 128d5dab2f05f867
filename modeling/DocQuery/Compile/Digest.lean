/-!
# Digests

The 64-bit digest XXH64 of a list of bytes, with seed zero.  Stripes of 32 bytes go through four
accumulators, each of which takes eight bytes; what is left of the bytes is mixed into their
combination eight, four and one at a time, and the result is scrambled in the end.

## Main definitions

* `littleEndian` — the bytes of a number, the lowest first.
* `digest` — the digest.
-/

namespace DocQuery

/-- The lowest bytes of a number, as many as given, the lowest first. -/
def littleEndian : Nat → Nat → List UInt8
  | 0, _ => []
  | width + 1, n => UInt8.ofNat (n % 256) :: littleEndian width (n / 256)

/-- The number with the given bytes, the lowest first. -/
def ofLittleEndian (bytes : List UInt8) : Nat :=
  bytes.foldr (fun b n => b.toNat + 256 * n) 0

namespace Digest

/-- The word with the given bytes. -/
def word (bytes : List UInt8) : UInt64 :=
  UInt64.ofNat (ofLittleEndian bytes)

def prime1 : UInt64 := 0x9E3779B185EBCA87
def prime2 : UInt64 := 0xC2B2AE3D27D4EB4F
def prime3 : UInt64 := 0x165667B19E3779F9
def prime4 : UInt64 := 0x85EBCA77C2B2AE63
def prime5 : UInt64 := 0x27D4EB2F165667C5

/-- The word turned to the left. -/
def rotate (x : UInt64) (n : UInt64) : UInt64 :=
  (x <<< n) ||| (x >>> (64 - n))

/-- An accumulator after eight bytes. -/
def round (acc lane : UInt64) : UInt64 :=
  rotate (acc + lane * prime2) 31 * prime1

/-- The four accumulators. -/
structure Lanes where
  a : UInt64
  b : UInt64
  c : UInt64
  d : UInt64

/-- The accumulators before any bytes. -/
def Lanes.start : Lanes :=
  ⟨prime1 + prime2, prime2, 0, 0 - prime1⟩

/-- The accumulators after a stripe. -/
def Lanes.absorb (l : Lanes) (stripe : List UInt8) : Lanes :=
  let lane (i : Nat) : UInt64 := word ((stripe.drop (8 * i)).take 8)
  ⟨round l.a (lane 0), round l.b (lane 1), round l.c (lane 2), round l.d (lane 3)⟩

/-- The accumulators after all whole stripes, and the bytes that are left. -/
def absorbAll : Nat → Lanes → List UInt8 → Lanes × List UInt8
  | 0, l, bytes => (l, bytes)
  | n + 1, l, bytes => absorbAll n (l.absorb (bytes.take 32)) (bytes.drop 32)

/-- Mixes an accumulator into the result. -/
def merge (h acc : UInt64) : UInt64 :=
  (h ^^^ round 0 acc) * prime1 + prime4

/-- The accumulators combined. -/
def Lanes.combine (l : Lanes) : UInt64 :=
  let h := rotate l.a 1 + rotate l.b 7 + rotate l.c 12 + rotate l.d 18
  merge (merge (merge (merge h l.a) l.b) l.c) l.d

/-- Mixes single bytes in. -/
def mixBytes (h : UInt64) (bytes : List UInt8) : UInt64 :=
  bytes.foldl (fun h b => rotate (h ^^^ (b.toUInt64 * prime5)) 11 * prime1) h

/-- Mixes four bytes in, if there are so many, and the rest one by one. -/
def mixHalf (h : UInt64) (bytes : List UInt8) : UInt64 :=
  if 4 ≤ bytes.length then
    mixBytes (rotate (h ^^^ (word (bytes.take 4) * prime1)) 23 * prime2 + prime3) (bytes.drop 4)
  else mixBytes h bytes

/-- Mixes eight bytes at a time in, so many times, and then the rest. -/
def mixRest : Nat → UInt64 → List UInt8 → UInt64
  | 0, h, bytes => mixHalf h bytes
  | n + 1, h, bytes =>
    mixRest n (rotate (h ^^^ round 0 (word (bytes.take 8))) 27 * prime1 + prime4) (bytes.drop 8)

/-- Scrambles the result. -/
def scramble (h : UInt64) : UInt64 :=
  let h := (h ^^^ (h >>> 33)) * prime2
  let h := (h ^^^ (h >>> 29)) * prime3
  h ^^^ (h >>> 32)

end Digest

open Digest in
/-- The digest of bytes. -/
def digest (bytes : List UInt8) : UInt64 :=
  let (lanes, rest) := absorbAll (bytes.length / 32) .start bytes
  let h := if 32 ≤ bytes.length then lanes.combine else prime5
  scramble (mixRest (rest.length / 8) (h + UInt64.ofNat bytes.length) rest)

end DocQuery
