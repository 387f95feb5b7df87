/-
Double precision numbers, exactly: a number is not-a-number, or a sign
and a magnitude, and a magnitude is its rank among the nonnegative
doubles. Neighbouring doubles have neighbouring ranks, so rounding is
arithmetic on natural numbers.

* `Magnitude.units`: the exact value of a magnitude, counted in
  multiples of the least positive double `2⁻¹⁰⁷⁴`;
* `Magnitude.ofRatio`: the magnitude nearest to a fraction, a tie going
  to the even rank;
* `Double.ofDecimal`: the double nearest to a decimal numeral;
* `Double.toInt?`: the integer that a double is, if it is one.
-/

namespace LivePage

/-- The rank of infinity, which is the number of finite magnitudes. -/
def Magnitude.top : Nat := 2047 * Nat.pow 2 52

/-- A nonnegative double, given by its rank in increasing order: rank `0` is zero,
rank `1` the least positive double, and the last rank infinity. -/
structure Magnitude where
  /-- The number of magnitudes below this one. -/
  rank : Nat
  rank_le : rank ≤ Magnitude.top
deriving DecidableEq

namespace Magnitude

/-- The value of the magnitude of rank `r`, in multiples of `2⁻¹⁰⁷⁴`. Each binade holds
`2⁵²` magnitudes, and the spacing doubles from one to the next. At the rank of infinity it
is the value at which the next binade would start. -/
def unitsAt (r : Nat) : Nat :=
  if r < Nat.pow 2 52 then r
  else (Nat.pow 2 52 + r % Nat.pow 2 52) * Nat.pow 2 (r / Nat.pow 2 52 - 1)

/-- The value of a magnitude, in multiples of `2⁻¹⁰⁷⁴`. -/
def units (m : Magnitude) : Nat := unitsAt m.rank

/-- The magnitude of a rank, ranks above the last one counting as infinity. -/
def ofRank (r : Nat) : Magnitude := ⟨min r top, Nat.min_le_right r top⟩

def zero : Magnitude := ofRank 0

def infinity : Magnitude := ofRank top

def isInfinite (m : Magnitude) : Bool := m.rank == top

/-- The magnitude nearest to `num / den` in multiples of `2⁻¹⁰⁷⁴`; a value half way between
two magnitudes goes to the one of even rank. -/
def ofUnitRatio (num den : Nat) : Magnitude :=
  let whole := num / den
  let shift := whole.log2 - 52
  let rank := shift * Nat.pow 2 52 + whole / Nat.pow 2 shift
  let rest := num - whole / Nat.pow 2 shift * Nat.pow 2 shift * den
  let step := Nat.pow 2 shift * den
  if 2 * rest > step || (2 * rest == step && rank % 2 == 1) then ofRank (rank + 1)
  else ofRank rank

/-- The magnitude nearest to `num / den`. -/
def ofRatio (num den : Nat) : Magnitude := ofUnitRatio (num * Nat.pow 2 1074) den

/-- The magnitude nearest to `digits · 10 ^ exponent`. Exponents so large that the value
leaves the range of doubles on either side are decided without computing the power. -/
def ofDecimal (digits : Nat) (exponent : Int) : Magnitude :=
  if digits == 0 then zero
  else match exponent with
    | .ofNat up => if up > 400 then infinity else ofRatio (digits * Nat.pow 10 up) 1
    | .negSucc down =>
      if 3 * (down + 1) > digits.log2 + 1 + 1080 then zero
      else ofRatio digits (Nat.pow 10 (down + 1))

/-- The natural number that a finite magnitude is, if it is one. -/
def toNat? (m : Magnitude) : Option Nat :=
  if m.isInfinite then none
  else if m.units % Nat.pow 2 1074 == 0 then some (m.units / Nat.pow 2 1074)
  else none

end Magnitude

/-- A double precision number. Zero and infinity carry a sign, and a not-a-number carries a
payload, which only tells it from others of its kind. -/
inductive Double
  | nan (payload : Nat)
  | signed (negative : Bool) (size : Magnitude)
deriving DecidableEq

namespace Double

def infinity (negative : Bool) : Double := .signed negative .infinity

/-- The double nearest to `± digits · 10 ^ exponent`. -/
def ofDecimal (negative : Bool) (digits : Nat) (exponent : Int) : Double :=
  .signed negative (.ofDecimal digits exponent)

/-- The double nearest to an integer, which is infinite when the integer is too large. -/
def ofInt (n : Int) : Double := .signed (n < 0) (.ofRatio n.natAbs 1)

def isInfinite : Double → Bool
  | .nan _ => false
  | .signed _ size => size.isInfinite

def isFinite : Double → Bool
  | .nan _ => false
  | .signed _ size => !size.isInfinite

def isZero : Double → Bool
  | .nan _ => false
  | .signed _ size => size.rank == 0

/-- Whether the number is below zero; negative zero is not. -/
def isNegative : Double → Bool
  | .nan _ => false
  | .signed negative size => negative && size.rank != 0

/-- Whether the number is above zero. -/
def isPositive : Double → Bool
  | .nan _ => false
  | .signed negative size => !negative && size.rank != 0

/-- The integer that a finite double is, if it is one. Both zeros are `0`. -/
def toInt? : Double → Option Int
  | .nan _ => none
  | .signed negative size =>
    size.toNat?.map fun n => if negative then -(n : Int) else (n : Int)

/-- Numerical equality, under which the two zeros agree. A not-a-number agrees with itself and
with no other. -/
def sameNumber : Double → Double → Bool
  | .nan payload, .nan other => payload == other
  | .signed n r, .signed m s => r == s && (n == m || r.rank == 0)
  | _, _ => false

end Double

end LivePage
