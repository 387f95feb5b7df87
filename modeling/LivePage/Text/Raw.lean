/-
Texts as sequences of code points. A surrogate may stand by itself among them,
and then the text is made of more than characters and has no bytes.

* `RawText.plain`: the text in characters, or the surrogates that are in the
  way;
* `Writing`: a text, or the bytes of one;
* `Writing.encode`: the bytes in which both come to the same.
-/
import LivePage.Text.Utf8

namespace LivePage

/-- A code point of a text: a character, or a surrogate by itself. -/
inductive CodePoint
  | char (c : Char)
  /-- The surrogate that lies so far behind U+D800. -/
  | surrogate (offset : Fin 0x800)
deriving DecidableEq

def CodePoint.char? : CodePoint → Option Char
  | .char c => some c
  | .surrogate _ => none

def CodePoint.isChar (p : CodePoint) : Bool := p.char?.isSome

/-- A text that may hold surrogates by themselves. -/
abbrev RawText := List CodePoint

namespace Utf8

/-- Surrogates in a row, for which there are no bytes. -/
structure Unencodable where
  /-- How far the first of them lies behind U+D800. -/
  offset : Fin 0x800
  /-- The position of the first of them. -/
  position : Nat
  length : Nat
deriving DecidableEq

def Unencodable.message (u : Unencodable) : String :=
  let part :=
    if u.length = 1 then
      let digits := String.ofList (Nat.toDigits 16 (0xD800 + u.offset))
      s!"character '\\u{digits}' in position {u.position}"
    else s!"characters in position {u.position}-{u.position + u.length - 1}"
  s!"'utf-8' codec can't encode {part}: surrogates not allowed"

end Utf8

namespace RawText

def ofString (s : String) : RawText := s.toList.map .char

instance : Coe String RawText := ⟨ofString⟩

/-- The text in characters, or the first surrogates in it. -/
def plain (text : RawText) : Except Utf8.Unencodable String :=
  match text.dropWhile CodePoint.isChar with
  | .surrogate offset :: rest =>
    let more := rest.takeWhile (!·.isChar)
    .error ⟨offset, (text.takeWhile CodePoint.isChar).length, more.length + 1⟩
  | _ => .ok (String.ofList (text.filterMap CodePoint.char?))

/-- The bytes of a text, or why it has none. -/
def encode (text : RawText) : Except Utf8.Unencodable (List UInt8) := text.plain.map Utf8.encode

end RawText

/-- What is written in some text: the text itself, or its bytes. -/
inductive Writing
  | text (text : RawText)
  | bytes (bytes : List UInt8)

/-- The bytes, which a text has in UTF-8. -/
def Writing.encode : Writing → Except Utf8.Unencodable (List UInt8)
  | .text characters => characters.encode
  | .bytes whole => .ok whole

end LivePage
