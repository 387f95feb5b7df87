/-
UTF-8, one byte at a time. A character in progress knows how many bytes it
still needs and between which bounds the next one must lie; a byte outside
these bounds ends the ill-formed part, which is therefore as long as it
can be.

* `Utf8.encode`: the bytes of a text;
* `Utf8.decode`: the text of some bytes, or where they are ill-formed;
* `Utf8.decodeLossy`: the text with one replacement character for each
  ill-formed part.
-/

namespace LivePage.Utf8

/-- The bytes of a text. -/
def encode (text : String) : List UInt8 := text.toList.flatMap String.utf8EncodeChar

/-- Why bytes are not UTF-8. -/
inductive Fault
  | invalidStart
  | invalidContinuation
  | unexpectedEnd
deriving DecidableEq

/-- The first ill-formed part of a byte sequence. -/
structure Malformed where
  fault : Fault
  /-- The position of its first byte. -/
  position : Nat
  length : Nat
  /-- Its first byte. -/
  lead : UInt8
deriving DecidableEq

def Fault.text : Fault → String
  | .invalidStart => "invalid start byte"
  | .invalidContinuation => "invalid continuation byte"
  | .unexpectedEnd => "unexpected end of data"

/-- A byte as two hexadecimal digits. -/
def hexByte (b : UInt8) : String :=
  String.ofList [Nat.digitChar (b.toNat / 16), Nat.digitChar (b.toNat % 16)]

def Malformed.message (m : Malformed) : String :=
  let part :=
    if m.length = 1 then s!"byte 0x{hexByte m.lead} in position {m.position}"
    else s!"bytes in position {m.position}-{m.position + m.length - 1}"
  s!"'utf-8' codec can't decode {part}: {m.fault.text}"

/-- A character of which some bytes have been read. -/
structure Pending where
  lead : UInt8
  /-- The number of bytes read. -/
  taken : Nat
  /-- The number of bytes missing, less one. -/
  moreAfter : Nat
  /-- The bounds of the next byte. -/
  low : UInt8
  high : UInt8
  /-- The bits read. -/
  bits : Nat

/-- What a byte makes of the character in progress. -/
inductive Advance
  | complete (c : Char)
  | incomplete (next : Pending)
  | refused

/-- A first byte that opens a character of several bytes. -/
def opening (lead : UInt8) (moreAfter : Nat) (low high : UInt8) (bits : Nat) : Advance :=
  .incomplete ⟨lead, 1, moreAfter, low, high, bits⟩

/-- The first byte of a character. -/
def start (b : UInt8) : Advance :=
  if b < 0x80 then .complete (Char.ofNat b.toNat)
  else if b < 0xC2 then .refused
  else if b < 0xE0 then opening b 0 0x80 0xBF (b.toNat - 0xC0)
  else if b == 0xE0 then opening b 1 0xA0 0xBF 0
  else if b == 0xED then opening b 1 0x80 0x9F 0xD
  else if b < 0xF0 then opening b 1 0x80 0xBF (b.toNat - 0xE0)
  else if b == 0xF0 then opening b 2 0x90 0xBF 0
  else if b < 0xF4 then opening b 2 0x80 0xBF (b.toNat - 0xF0)
  else if b == 0xF4 then opening b 2 0x80 0x8F 4
  else .refused

/-- A further byte of a character in progress. -/
def Pending.advance (p : Pending) (b : UInt8) : Advance :=
  if p.low ≤ b && b ≤ p.high then
    let bits := p.bits * 64 + (b.toNat - 0x80)
    match p.moreAfter with
    | 0 => .complete (Char.ofNat bits)
    | more + 1 => .incomplete ⟨p.lead, p.taken + 1, more, 0x80, 0xBF, bits⟩
  else .refused

/-- The ill-formed part that a character in progress becomes when it breaks off at
`position`. -/
def Pending.malformed (p : Pending) (fault : Fault) (position : Nat) : Malformed :=
  ⟨fault, position - p.taken, p.taken, p.lead⟩

/-- Decodes from `position` on, behind the characters `done` (the last one first). -/
def decodeFrom (position : Nat) (done : List Char) :
    Option Pending → List UInt8 → Except Malformed (List Char)
  | none, [] => .ok done.reverse
  | some p, [] => .error (p.malformed .unexpectedEnd position)
  | none, b :: rest =>
    match start b with
    | .complete c => decodeFrom (position + 1) (c :: done) none rest
    | .incomplete next => decodeFrom (position + 1) done (some next) rest
    | .refused => .error ⟨.invalidStart, position, 1, b⟩
  | some p, b :: rest =>
    match p.advance b with
    | .complete c => decodeFrom (position + 1) (c :: done) none rest
    | .incomplete next => decodeFrom (position + 1) done (some next) rest
    | .refused => .error (p.malformed .invalidContinuation position)

/-- The text of some bytes. -/
def decode (bytes : List UInt8) : Except Malformed String :=
  (decodeFrom 0 [] none bytes).map String.ofList

/-- The character that stands for an ill-formed part. -/
def replacement : Char := '\uFFFD'

/-- Decodes behind the characters `done` (the last one first), replacing what is
ill-formed. -/
def decodeLossyFrom (done : List Char) : Option Pending → List UInt8 → List Char
  | none, [] => done.reverse
  | some _, [] => (replacement :: done).reverse
  | none, b :: rest =>
    match start b with
    | .complete c => decodeLossyFrom (c :: done) none rest
    | .incomplete next => decodeLossyFrom done (some next) rest
    | .refused => decodeLossyFrom (replacement :: done) none rest
  | some p, b :: rest =>
    match p.advance b with
    | .complete c => decodeLossyFrom (c :: done) none rest
    | .incomplete next => decodeLossyFrom done (some next) rest
    | .refused =>
      match start b with
      | .complete c => decodeLossyFrom (c :: replacement :: done) none rest
      | .incomplete next => decodeLossyFrom (replacement :: done) (some next) rest
      | .refused => decodeLossyFrom (replacement :: replacement :: done) none rest

/-- The text of some bytes, in which each ill-formed part is one replacement character. -/
def decodeLossy (bytes : List UInt8) : String := String.ofList (decodeLossyFrom [] none bytes)

end LivePage.Utf8
