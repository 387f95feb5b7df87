/-
A 64-bit digest of bytes, by the xxHash64 rule with seed zero: four lanes
take eight bytes each of every 32, and the remaining bytes and the length
are mixed in at the end.

* `Digest.ofBytes`: the digest;
* `Digest.ofWriting`: the digest of a text or of its bytes;
* `Digest.hex`: the digest as sixteen hexadecimal digits.
-/
import LivePage.Text.Raw

namespace LivePage.Digest

def prime1 : UInt64 := 0x9E3779B185EBCA87

def prime2 : UInt64 := 0xC2B2AE3D27D4EB4F

def prime3 : UInt64 := 0x165667B19E3779F9

def prime4 : UInt64 := 0x85EBCA77C2B2AE63

def prime5 : UInt64 := 0x27D4EB2F165667C5

def rotate (x : UInt64) (count : UInt64) : UInt64 := x <<< count ||| x >>> (64 - count)

/-- The number whose bytes are given, the least first. -/
def word (bytes : List UInt8) : UInt64 :=
  bytes.foldr (fun b n => n <<< 8 ||| b.toUInt64) 0

/-- Takes a word into a lane. -/
def mix (lane input : UInt64) : UInt64 := rotate (lane + input * prime2) 31 * prime1

/-- The four lanes. -/
structure Lanes where
  a : UInt64
  b : UInt64
  c : UInt64
  d : UInt64

def Lanes.initial : Lanes := ⟨prime1 + prime2, prime2, 0, 0 - prime1⟩

/-- Takes 32 bytes into the lanes. -/
def Lanes.take (lanes : Lanes) (bytes : List UInt8) : Lanes :=
  ⟨mix lanes.a (word (bytes.take 8)), mix lanes.b (word ((bytes.drop 8).take 8)),
    mix lanes.c (word ((bytes.drop 16).take 8)), mix lanes.d (word ((bytes.drop 24).take 8))⟩

def merge (digest lane : UInt64) : UInt64 := (digest ^^^ mix 0 lane) * prime1 + prime4

/-- The digest of the lanes. -/
def Lanes.digest (lanes : Lanes) : UInt64 :=
  let sum := rotate lanes.a 1 + rotate lanes.b 7 + rotate lanes.c 12 + rotate lanes.d 18
  merge (merge (merge (merge sum lanes.a) lanes.b) lanes.c) lanes.d

/-- Takes every full 32 bytes into the lanes, and gives the bytes that are left. -/
def stripes (fuel : Nat) (lanes : Lanes) (bytes : List UInt8) : Lanes × List UInt8 :=
  match fuel with
  | 0 => (lanes, bytes)
  | fuel + 1 =>
    if (bytes.drop 31).isEmpty then (lanes, bytes)
    else stripes fuel (lanes.take bytes) (bytes.drop 32)

/-- Takes the remaining bytes into a digest: eight, four or one at a time. -/
def tail (fuel : Nat) (digest : UInt64) (bytes : List UInt8) : UInt64 :=
  match fuel, bytes with
  | 0, _ | _, [] => digest
  | fuel + 1, b :: rest =>
    if bytes.length ≥ 8 then
      let next := rotate (digest ^^^ mix 0 (word (bytes.take 8))) 27 * prime1 + prime4
      tail fuel next (bytes.drop 8)
    else if bytes.length ≥ 4 then
      let next := rotate (digest ^^^ word (bytes.take 4) * prime1) 23 * prime2 + prime3
      tail fuel next (bytes.drop 4)
    else tail fuel (rotate (digest ^^^ b.toUInt64 * prime5) 11 * prime1) rest

/-- Spreads every bit of a digest over all bits. -/
def avalanche (h : UInt64) : UInt64 :=
  let h := (h ^^^ h >>> 33) * prime2
  let h := (h ^^^ h >>> 29) * prime3
  h ^^^ h >>> 32

/-- The digest of some bytes. -/
def ofBytes (bytes : List UInt8) : UInt64 :=
  let (lanes, rest) := stripes (bytes.length / 32) .initial bytes
  let base := if bytes.length ≥ 32 then lanes.digest else prime5
  avalanche (tail 32 (base + bytes.length.toUInt64) rest)

/-- The digest of a text, by its bytes. -/
def ofWriting (w : Writing) : Except Utf8.Unencodable UInt64 := w.encode.map ofBytes

/-- A digest as sixteen hexadecimal digits. -/
def hex (digest : UInt64) : String :=
  String.ofList ((List.range 16).reverse.map fun place =>
    Nat.digitChar (digest.toNat / Nat.pow 16 place % 16))

end LivePage.Digest
