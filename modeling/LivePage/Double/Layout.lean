/-
How a double is laid out as text. The digits are always the shortest that
read back; a layout fixes where positional notation ends, how wide an
exponent is written, and the words for the numbers that have no digits.

* `Double.write`: the text of a double in a layout;
* `NumberLayout.plain`, `NumberLayout.compact`, `NumberLayout.pretty`: the
  three layouts in use.
-/
import LivePage.Double.Shortest

namespace LivePage

/-- The choices that turn the digits of a double into text. -/
structure NumberLayout where
  /-- The least decimal exponent written positionally. -/
  least : Int
  /-- The greatest decimal exponent written positionally. -/
  greatest : Int
  /-- The least number of digits of an exponent. -/
  exponentWidth : Nat
  nan : String
  infinity : String
  negativeInfinity : String

/-- The layout of a number in running text: `1.5`, `1e-07`, `inf`. -/
def NumberLayout.plain : NumberLayout where
  least := -4
  greatest := 15
  exponentWidth := 2
  nan := "nan"
  infinity := "inf"
  negativeInfinity := "-inf"

/-- The layout of a number in compact text: `0.00001`, `1e-6`, and `null` for what has no
digits. -/
def NumberLayout.compact : NumberLayout where
  least := -5
  greatest := 15
  exponentWidth := 1
  nan := "null"
  infinity := "null"
  negativeInfinity := "null"

/-- The layout of a number in indented text, which names the numbers without digits. -/
def NumberLayout.pretty : NumberLayout where
  least := -4
  greatest := 15
  exponentWidth := 2
  nan := "NaN"
  infinity := "Infinity"
  negativeInfinity := "-Infinity"

namespace NumberLayout

/-- Zeros in front of `digits` up to `width`. -/
def padded (width : Nat) (digits : List Char) : List Char :=
  List.replicate (width - digits.length) '0' ++ digits

/-- A whole part and a fraction, of which an empty one is written `0`. -/
def positional (whole fraction : List Char) : List Char :=
  let part (digits : List Char) := if digits.isEmpty then ['0'] else digits
  part whole ++ '.' :: part fraction

/-- One digit, the others behind a point, and a signed exponent. -/
def scientific (layout : NumberLayout) (digits : List Char) (exponent : Int) : List Char :=
  let mantissa := match digits with
    | lead :: rest => if rest.isEmpty then [lead] else lead :: '.' :: rest
    | [] => ['0']
  let sign := if exponent < 0 then '-' else '+'
  mantissa ++ 'e' :: sign :: padded layout.exponentWidth (Nat.toDigits 10 exponent.natAbs)

/-- The text of a decimal whose digits do not end in zero. -/
def writeDecimal (layout : NumberLayout) (d : Decimal) : List Char :=
  let digits := Nat.toDigits 10 d.digits
  let exponent : Int := d.exponent + digits.length - 1
  if exponent < layout.least || layout.greatest < exponent then
    layout.scientific digits exponent
  else if exponent < 0 then
    positional [] (List.replicate (exponent.natAbs - 1) '0' ++ digits)
  else
    let wholeLength := exponent.toNat + 1
    positional (digits.take wholeLength ++ List.replicate (wholeLength - digits.length) '0')
      (digits.drop wholeLength)

end NumberLayout

/-- The text of a double in a layout. -/
def Double.write (layout : NumberLayout) : Double → String
  | .nan _ => layout.nan
  | .signed negative size =>
    if size.isInfinite then
      if negative then layout.negativeInfinity else layout.infinity
    else
      let digits := if size.rank = 0 then ['0', '.', '0'] else layout.writeDecimal size.shortest
      String.ofList (if negative then '-' :: digits else digits)

end LivePage
