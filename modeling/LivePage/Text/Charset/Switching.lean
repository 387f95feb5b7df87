/-
Encodings that switch between character grids. Escape sequences designate
the grids; shifts and line ends choose among those that are designated.

* `Switching.front`: the group at the front, and what it switches to;
* `hzFront`: the same for the encoding of GB 2312 in ASCII.
-/
import LivePage.Text.Charset.Chinese
import LivePage.Text.Charset.Korean
import LivePage.Text.CodePage.Graphic

namespace LivePage

/-! ### What can be designated -/

/-- What the bytes of ASCII can mean instead. -/
inductive Repertoire
  | ascii
  /-- ASCII with a yen sign and an overline. -/
  | roman
  | katakana
  /-- The upper half of latin-1. -/
  | latin
  /-- The upper half of ISO 8859-7. -/
  | greek
  | kanji
  | supplementaryKanji
  | hanzi
  | hangul
deriving DecidableEq

namespace Repertoire

/-- The repertoire that the last byte of an escape sequence names. -/
def ofFinal? (isWide : Bool) (final : UInt8) : Option Repertoire :=
  match isWide, Char.ofNat final.toNat with
  | false, 'B' => some .ascii
  | false, 'J' => some .roman
  | false, 'I' => some .katakana
  | false, 'A' => some .latin
  | false, 'F' => some .greek
  | true, 'B' | true, '@' => some .kanji
  | true, 'D' => some .supplementaryKanji
  | true, 'A' => some .hanzi
  | true, 'C' => some .hangul
  | _, _ => none

/-- The grid of a repertoire in which two bytes are a character. -/
def grid? : Repertoire → Option Grid
  | .kanji => some LivePage.kanji
  | .supplementaryKanji => some LivePage.supplementaryKanji
  | .hanzi => some simplifiedHanzi
  | .hangul => some LivePage.hangul
  | _ => none

/-- The character of a byte in a repertoire in which one byte is a character. Upper halves are
reached one character at a time only. -/
def char? (r : Repertoire) (b : UInt8) : Option Char :=
  match r with
  | .ascii => some (Char.ofNat b.toNat)
  | .roman =>
    some (if b == 0x5C then '¥' else if b == 0x7E then '‾' else Char.ofNat b.toNat)
  | .katakana => narrowKatakana? (b ^^^ 0x80)
  | _ => none

/-- The character that a byte is when it stands alone behind its own shift. -/
def single? (r : Repertoire) (b : UInt8) : Option Char :=
  match r with
  | .ascii => if b < 0x80 then some (Char.ofNat b.toNat) else none
  | .latin => if b < 0x80 then some (Char.ofNat (b.toNat + 0x80)) else none
  | .greek =>
    let page := CodePage.graphic.find? (·.name == "iso8859_7")
    (page.bind (·.char? (b ^^^ 0x80))).filter fun c => c != '€' && c != '₯' && c != 'ͺ'
  | _ => none

end Repertoire

/-- The character of a grid in the cell of two bytes of ASCII. -/
def Grid.low? (grid : Grid) (lead trail : UInt8) : Option Char :=
  (cellOf? [(0x21, 0x7E)] [(0x21, 0x7E)] 94 lead trail).bind (grid.numbered? 94)

/-! ### Escape sequences -/

/-- An encoding that switches. -/
structure Switching where
  /-- What may be designated beside ASCII. -/
  repertoires : List Repertoire
  /-- Whether there are shifts to the second designation. -/
  hasShifts : Bool
  /-- Whether there is a third designation, for single characters. -/
  hasSingles : Bool
  /-- Whether kanji can be announced in a longer sequence. -/
  hasAnnouncement : Bool

/-- Where an escape sequence ends. -/
inductive EscapeEnd
  | length (n : Nat)
  | endless
  | incomplete

/-- The end of an escape sequence of which `taken` bytes have been seen, with room for `left`
more. -/
def EscapeEnd.find (hasAnnouncement : Bool) (taken : Nat) : Nat → List UInt8 → EscapeEnd
  | 0, _ => .endless
  | _ + 1, [] => .incomplete
  | left + 1, b :: rest =>
    if 0x40 ≤ b && b ≤ 0x5A then .length (taken + 1)
    else if hasAnnouncement && b == 0x26 && rest.head? == some 0x40 then
      EscapeEnd.find hasAnnouncement (taken + 3) (left - 2) (rest.drop 2)
    else EscapeEnd.find hasAnnouncement (taken + 1) left rest
  termination_by left => left

/-- One of the places that repertoires are designated to. -/
inductive Place
  | first
  | second
  | third
deriving DecidableEq

/-- The place and the repertoire that an escape sequence designates, given without its first
byte. -/
def Switching.designation? (set : Switching) (sequence : List UInt8) :
    Option (Place × Repertoire) := do
  let (place, isWide) ← match sequence.map fun b => Char.ofNat b.toNat with
    | ['$', _] | ['$', '(', _] => some (Place.first, true)
    | ['$', ')', _] => some (.second, true)
    | ['(', _] => some (.first, false)
    | [')', _] => some (.second, false)
    | ['.', _] => if set.hasSingles then some (.third, false) else none
    | [_, _, '\x1b', '$', 'B'] => if set.hasAnnouncement then some (.first, true) else none
    | _ => none
  let r ← Repertoire.ofFinal? isWide (← sequence.getLast?)
  if r == .ascii || set.repertoires.contains r then some (place, r) else none

/-! ### Scanning -/

/-- What is designated, and which of it is chosen. -/
structure Switches where
  first : Repertoire
  second : Repertoire
  third : Repertoire
  isShifted : Bool
  /-- Whether a foreign escape sequence is being passed on. -/
  passesEscape : Bool

namespace Switches

def initial : Switches := ⟨.ascii, .ascii, .ascii, false, false⟩

def designate (s : Switches) (place : Place) (r : Repertoire) : Switches :=
  match place with
  | .first => { s with first := r }
  | .second => { s with second := r }
  | .third => { s with third := r }

end Switches

namespace Switching

/-- The group of an escape sequence, given the bytes behind its first one. -/
def escapeGroup (set : Switching) (s : Switches) (rest : List UInt8) : ByteGroup × Switches :=
  match EscapeEnd.find set.hasAnnouncement 1 15 rest with
  | .incomplete => (.meaningless rest.length, s)
  | .endless => (.meaningless 0, s)
  | .length n =>
    match set.designation? (rest.take (n - 1)) with
    | some (place, r) => (.means [] (n - 1), s.designate place r)
    | none => (.meaningless (n - 1), s)

/-- The group of a single character of the third designation. -/
def singleGroup (s : Switches) (rest : List UInt8) : ByteGroup :=
  match rest with
  | _ :: b :: _ => match s.third.single? b with
    | some c => .means [c] 2
    | none => .meaningless 2
  | _ => .meaningless rest.length

/-- The group of a character in the repertoire that is chosen. -/
def charGroup (r : Repertoire) (b : UInt8) (rest : List UInt8) : ByteGroup :=
  match r.grid?, rest with
  | none, _ => .ofChar? (r.char? b) 0
  | some _, [] => .meaningless 0
  | some grid, c :: _ => match grid.low? b c with
    | some c => .means [c] 1
    | none => .meaningless 1

/-- The group at the front, and the switches behind it. -/
def front (set : Switching) (s : Switches) (b : UInt8) (rest : List UInt8) : ByteGroup × Switches :=
  let itself : ByteGroup := .means [Char.ofNat b.toNat] 0
  if s.passesEscape then (itself, { s with passesEscape := !(0x40 ≤ b && b ≤ 0x5A) })
  else if b == 0x1B then
    match rest.head? with
    | none => (.meaningless 0, s)
    | some c =>
      if "()$.&".toList.contains (Char.ofNat c.toNat) then set.escapeGroup s rest
      else if set.hasSingles && c == 0x4E then (singleGroup s rest, s)
      else (itself, { s with passesEscape := true })
  else if set.hasShifts && b == 0x0F then (.means [] 0, { s with isShifted := false })
  else if set.hasShifts && b == 0x0E then (.means [] 0, { s with isShifted := true })
  else if b == 0x0A then (itself, { s with isShifted := false })
  else if b < 0x20 then (itself, s)
  else if 0x80 ≤ b then (.meaningless 0, s)
  else (charGroup (if s.isShifted then s.second else s.first) b rest, s)

/-- The scan of some bytes. -/
def scan (set : Switching) (bytes : List UInt8) : Scanned := scanFrom set.front .initial bytes

end Switching

/-! ### GB 2312 in ASCII -/

/-- The group at the front, inside GB 2312 or outside, and where the bytes behind it are. -/
def hzFront (inside : Bool) (b : UInt8) (rest : List UInt8) : ByteGroup × Bool :=
  if b == 0x7E then
    match inside, rest.head?.map fun c => Char.ofNat c.toNat with
    | _, none => (.meaningless 0, inside)
    | false, some '~' => (.means ['~'] 1, false)
    | false, some '\x7b' => (.means [] 1, true)
    | false, some '\n' => (.means [] 1, false)
    | true, some '\x7d' => (.means [] 1, false)
    | _, some _ => (.meaningless 0, inside)
  else if 0x80 ≤ b then (.meaningless 0, inside)
  else if !inside then (.means [Char.ofNat b.toNat] 0, inside)
  else match rest with
    | [] => (.meaningless 0, inside)
    | c :: _ => (.ofChar? (simplifiedHanzi.low? b c) 1, inside)

/-- The scan of GB 2312 in ASCII. -/
def hz (bytes : List UInt8) : Scanned := scanFrom hzFront false bytes

end LivePage
