/-
The encodings of all characters beside UTF-8: UTF-16 and UTF-32 in either
order of bytes, and UTF-7.

* `utf16`, `utf32`, `utf7`: the scans of some bytes;
* `ByteOrder.ofMark16?`, `ByteOrder.ofMark32?`: the order that a mark at
  the front tells.
-/
import LivePage.Text.Charset.Scan
import LivePage.Text.Surrogate

namespace LivePage

/-- Whether the last or the first byte of a number comes first. -/
inductive ByteOrder
  | little
  | big
deriving DecidableEq

/-- The number that some bytes are. -/
def ByteOrder.number (order : ByteOrder) (bytes : List UInt8) : Nat :=
  let digits := match order with
    | .little => bytes.reverse
    | .big => bytes
  digits.foldl (fun n b => 256 * n + b.toNat) 0

/-! ### UTF-16 -/

/-- The group at the front of UTF-16. Half a pair at the end is one group with what is left. -/
def utf16Group (order : ByteOrder) (a : UInt8) : List UInt8 → ByteGroup
  | [] => .meaningless 0
  | b :: rest =>
    let unit := order.number [a, b]
    if isLowSurrogate unit then .meaningless 1
    else if !isHighSurrogate unit then .means [Char.ofNat unit] 1
    else match rest with
      | c :: d :: _ =>
        let next := order.number [c, d]
        if isLowSurrogate next then .means [surrogatePair unit next] 3 else .meaningless 1
      | rest => .meaningless (1 + rest.length)

/-- The scan of UTF-16. -/
def utf16 (order : ByteOrder) (bytes : List UInt8) : Scanned := scan (utf16Group order) bytes

/-- The order of UTF-16 with a mark at the front. -/
def ByteOrder.ofMark16? : List UInt8 → Option ByteOrder
  | 0xFF :: 0xFE :: _ => some .little
  | 0xFE :: 0xFF :: _ => some .big
  | _ => none

/-! ### UTF-32 -/

/-- The group at the front of UTF-32. -/
def utf32Group (order : ByteOrder) (a : UInt8) : List UInt8 → ByteGroup
  | b :: c :: d :: _ =>
    let code := order.number [a, b, c, d]
    if code.isValidChar then .means [Char.ofNat code] 3 else .meaningless 3
  | rest => .meaningless rest.length

/-- The scan of UTF-32. -/
def utf32 (order : ByteOrder) (bytes : List UInt8) : Scanned := scan (utf32Group order) bytes

/-- The order of UTF-32 with a mark at the front. -/
def ByteOrder.ofMark32? : List UInt8 → Option ByteOrder
  | 0xFF :: 0xFE :: 0x00 :: 0x00 :: _ => some .little
  | 0x00 :: 0x00 :: 0xFE :: 0xFF :: _ => some .big
  | _ => none

/-! ### UTF-7 -/

/-- A digit to the base 64. -/
def base64Digit? (b : UInt8) : Option Nat :=
  let c := Char.ofNat b.toNat
  if c.isUpper then some (b.toNat - 65)
  else if c.isLower then some (b.toNat - 71)
  else if c.isDigit then some (b.toNat + 4)
  else if c == '+' then some 62
  else if c == '/' then some 63
  else none

/-- What has been read of a section in base 64. -/
structure Section64 where
  /-- The bits that make no unit yet. -/
  count : Nat
  bits : Nat
  /-- The first unit of a pair. -/
  high : Option Nat

/-- A section with one more digit, and what the digit completes. -/
def Section64.digit (s : Section64) (d : Nat) : Scanned × Section64 :=
  let count := s.count + 6
  let bits := 64 * s.bits + d
  if count < 16 then ([], ⟨count, bits, s.high⟩)
  else
    let count := count - 16
    let unit := bits / Nat.pow 2 count
    let bits := bits % Nat.pow 2 count
    let alone (done : Scanned) : Scanned × Section64 :=
      if isHighSurrogate unit then (done, ⟨count, bits, some unit⟩)
      else (done ++ [if isLowSurrogate unit then none else some (Char.ofNat unit)],
        ⟨count, bits, none⟩)
    match s.high with
    | none => alone []
    | some high =>
      if isLowSurrogate unit then ([some (surrogatePair high unit)], ⟨count, bits, none⟩)
      else alone [none]

/-- Whether a section may not end here: a digit or a bit is left over. -/
def Section64.isOpen (s : Section64) : Bool := s.count ≥ 6 || s.bits != 0

/-- A byte outside a section. -/
def utf7Direct (b : UInt8) : Option Char :=
  if b < 0x80 then some (Char.ofNat b.toNat) else none

/-- The scan of UTF-7 from within a section or outside of one. -/
def utf7From : Option Section64 → List UInt8 → Scanned
  | none, [] => []
  | some s, [] => if s.isOpen || s.high.isSome then [none] else []
  | none, b :: rest =>
    if b != 0x2B then utf7Direct b :: utf7From none rest
    else match rest with
      | [] => []
      | c :: after =>
        if c == 0x2D then some '+' :: utf7From none after
        else match base64Digit? c with
          | none => none :: utf7From none after
          | some d =>
            let (done, s) := Section64.digit ⟨0, 0, none⟩ d
            done ++ utf7From (some s) after
  | some s, b :: rest =>
    match base64Digit? b with
    | some d =>
      let (done, s) := s.digit d
      done ++ utf7From (some s) rest
    | none =>
      if s.isOpen then none :: utf7From none rest
      else
        let lone := if s.high.isSome && b < 0x80 then [none] else []
        lone ++ (if b == 0x2D then [] else [utf7Direct b]) ++ utf7From none rest

/-- The scan of UTF-7. -/
def utf7 (bytes : List UInt8) : Scanned := utf7From none bytes

end LivePage
