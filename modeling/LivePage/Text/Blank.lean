/-
Blank characters at the ends of a text.

* `isWhite`: the white space property;
* `trim`, `trimWhite`: a text without the blanks at its ends, separator
  control characters counted as blanks or not.
-/

namespace LivePage

/-- The white space property. -/
def isWhite (c : Char) : Bool :=
  let n := c.toNat
  (0x09 ≤ n && n ≤ 0x0D) || n == 0x20 || n == 0x85 || n == 0xA0 || n == 0x1680 ||
    (0x2000 ≤ n && n ≤ 0x200A) || n == 0x2028 || n == 0x2029 || n == 0x202F || n == 0x205F ||
    n == 0x3000

/-- White space, or one of the four control characters that separate files, groups, records
and units. -/
def isWhiteOrSeparator (c : Char) : Bool := isWhite c || (0x1C ≤ c.toNat && c.toNat ≤ 0x1F)

/-- A list without the leading and trailing elements of which `drops` holds. -/
def trimmed {α : Type} (drops : α → Bool) (xs : List α) : List α :=
  ((xs.dropWhile drops).reverse.dropWhile drops).reverse

/-- A text without white space at its ends. -/
def trimWhite (s : String) : String := String.ofList (trimmed isWhite s.toList)

/-- A text without white space and separators at its ends. -/
def trim (s : String) : String := String.ofList (trimmed isWhiteOrSeparator s.toList)

end LivePage
