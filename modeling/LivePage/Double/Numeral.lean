/-
Decimal numerals of doubles: digits with perhaps a sign, a point and an
exponent, and words for the doubles without digits.

* `Double.ofChars?`: the double that a numeral spells.
-/
import LivePage.Double.Basic
import LivePage.Text.Digit

namespace LivePage.Double

/-- A sign, and what stands behind it. -/
def splitSign : List Char → Bool × List Char
  | '-' :: rest => (true, rest)
  | '+' :: rest => (false, rest)
  | cs => (false, cs)

/-- The exponent that a text ends in, zero when there is none. -/
def exponentOf? : List Char → Option Int
  | [] => some 0
  | mark :: rest =>
    let (negative, digits) := splitSign rest
    if (mark == 'e' || mark == 'E') && !digits.isEmpty && digits.all Char.isDigit then
      some (if negative then -(decimalValue digits : Int) else decimalValue digits)
    else none

/-- The double that an unsigned decimal spells. -/
def decimalOf? (negative : Bool) (cs : List Char) : Option Double :=
  let whole := cs.takeWhile Char.isDigit
  let (places, rest) := match cs.dropWhile Char.isDigit with
    | '.' :: rest => (rest.takeWhile Char.isDigit, rest.dropWhile Char.isDigit)
    | rest => ([], rest)
  if whole.isEmpty && places.isEmpty then none
  else (exponentOf? rest).map fun exponent =>
    .ofDecimal negative (decimalValue (whole ++ places)) (exponent - places.length)

/-- The double that a text without blanks spells, in digits or in words. -/
def ofChars? (cs : List Char) : Option Double :=
  let (negative, rest) := splitSign cs
  let word := String.ofList (rest.map Char.toLower)
  if word == "inf" || word == "infinity" then some (.infinity negative)
  else if word == "nan" then some (.nan 0)
  else decimalOf? negative rest

end LivePage.Double
