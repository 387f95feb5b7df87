/-
Code pages: character sets in which every byte is one character.

* `CodePage.char?`: the character of a byte;
* `CodePage.scan`: the scan of some bytes.
-/
import LivePage.Text.Charset.Scan

namespace LivePage

structure CodePage where
  name : String
  /-- Other names. -/
  aliases : List String
  /-- The characters of the last bytes. A replacement character stands for none. -/
  chars : Array Char

namespace CodePage

/-- The code page whose characters stand in rows. -/
def ofRows (name : String) (aliases rows : List String) : CodePage :=
  ⟨name, aliases, (rows.flatMap String.toList).toArray⟩

/-- The character of a byte: that of the table, or before the table that of the same code. -/
def char? (page : CodePage) (b : UInt8) : Option Char :=
  let first := 256 - page.chars.size
  if b.toNat < first then some (Char.ofNat b.toNat)
  else page.chars[b.toNat - first]?.filter (· != Utf8.replacement)

/-- The scan of some bytes. -/
def scan (page : CodePage) (bytes : List UInt8) : Scanned := bytes.map page.char?

end CodePage

end LivePage
