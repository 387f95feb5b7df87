/-
Characters in a grid of rows and cells, both numbered from 0 on.

* `Grid.char?`: the character in a cell;
* `Strip.find?`: the character in a cell, given some strips of cells;
* `indexIn?`: the number of a byte among those of some ranges;
* `pairGroup`: groups in which one byte is ASCII and two are a cell.
-/
import LivePage.Text.Charset.Scan

namespace LivePage

/-- Rows of cells. A replacement character stands for an empty cell. -/
abbrev Grid := Array (Array Char)

/-- The grid with some rows. -/
def Grid.ofRows (rows : List String) : Grid := (rows.map fun row => row.toList.toArray).toArray

/-- The character in a cell. -/
def Grid.char? (grid : Grid) (row cell : Nat) : Option Char :=
  (grid[row]?.bind (·[cell]?)).filter (· != Utf8.replacement)

/-- Characters in cells that are numbered through all rows, from one of them on. -/
structure Strip where
  first : Nat
  chars : Array Char

namespace Strip

/-- The strip that holds the characters of a text. -/
def ofText (first : Nat) (text : String) : Strip := ⟨first, text.toList.toArray⟩

/-- The character of a strip in a cell. -/
def char? (strip : Strip) (cell : Nat) : Option Char :=
  if cell < strip.first then none
  else strip.chars[cell - strip.first]?.filter (· != Utf8.replacement)

/-- The character in a cell, if it is in one of some strips. -/
def find? (strips : List Strip) (cell : Nat) : Option Char :=
  strips.findSome? fun strip => strip.char? cell

end Strip

/-- The number of a byte among those of some ranges, which are given by their ends. -/
def indexIn? (b : UInt8) : List (UInt8 × UInt8) → Option Nat
  | [] => none
  | (first, last) :: rest =>
    if first ≤ b && b ≤ last then some (b - first).toNat
    else (indexIn? b rest).map (· + (last - first).toNat + 1)

/-- The number of the cell of two bytes, in rows of as many cells as there are second bytes. -/
def cellOf? (leads trails : List (UInt8 × UInt8)) (width : Nat) (lead trail : UInt8) :
    Option Nat := do
  let row ← indexIn? lead leads
  let cell ← indexIn? trail trails
  return width * row + cell

/-- The character in a numbered cell. -/
def Grid.numbered? (grid : Grid) (width cell : Nat) : Option Char :=
  grid.char? (cell / width) (cell % width)

/-- The group at the front of bytes of which one is ASCII, and two are a character otherwise. -/
def pairGroup (char? : UInt8 → UInt8 → Option Char) (lead : UInt8)
    (rest : List UInt8) : ByteGroup :=
  if lead < 0x80 then .means [Char.ofNat lead.toNat] 0
  else match rest with
    | [] => .meaningless 0
    | trail :: _ => .ofChar? (char? lead trail) 1

end LivePage
