/-
The shortest decimal that reads back as a given double. The reals that
round to a double form an interval around it, and the coarsest decimal
grid with a point in that interval has the shortest numeral. A grid with
any point in the interval has one next to the double itself, so two
candidates a grid are enough.

* `Magnitude.readsBack`: the decimals that read back as a magnitude;
* `Magnitude.shortest`: the shortest of them, and the nearest of those.
-/
import LivePage.Double.Basic

namespace LivePage

/-- The number `digits · 10 ^ exponent`. -/
structure Decimal where
  digits : Nat
  exponent : Int
deriving DecidableEq, Repr

namespace Magnitude

/-- A multiple of `10 ^ exponent` and a multiple of `2⁻¹⁰⁷⁵`, scaled to a common unit:
`scaleUp` for the first and `scaleDown` for the second. -/
def decimalScale (exponent : Int) : Nat × Nat :=
  match exponent with
  | .ofNat up => (Nat.pow 10 up * Nat.pow 2 1075, 1)
  | .negSucc down => (Nat.pow 2 1075, Nat.pow 10 (down + 1))

/-- The bounds of the interval of reals that round to the magnitude, in multiples of
`2⁻¹⁰⁷⁵`: the midpoints to its two neighbours. -/
def bounds (m : Magnitude) : Nat × Nat :=
  (unitsAt (m.rank - 1) + m.units, m.units + unitsAt (m.rank + 1))

/-- Whether a decimal reads back as the magnitude: it lies between the midpoints, which
themselves round to the magnitude exactly when its rank is even. -/
def readsBack (m : Magnitude) (d : Decimal) : Bool :=
  let (up, down) := decimalScale d.exponent
  let (low, high) := m.bounds
  let point := d.digits * up
  if m.rank % 2 == 0 then low * down ≤ point && point ≤ high * down
  else low * down < point && point < high * down

/-- The neighbour of the magnitude on the grid of `10 ^ exponent` that reads back. When both
do it is the nearer one, and the even one of two that are equally near. -/
def onGrid? (m : Magnitude) (exponent : Int) : Option Decimal :=
  let (up, down) := decimalScale exponent
  let exact := 2 * m.units * down
  let below := exact / up
  let lower : Decimal := ⟨below, exponent⟩
  let upper : Decimal := ⟨below + 1, exponent⟩
  match m.readsBack lower, m.readsBack upper with
  | true, false => some lower
  | false, true => some upper
  | true, true =>
    let down := exact - below * up
    let up := (below + 1) * up - exact
    if down < up || (down == up && below % 2 == 0) then some lower else some upper
  | false, false => none

/-- The first grid at or below `10 ^ exponent` with a decimal that reads back. -/
def searchGrids (m : Magnitude) : Nat → Int → Decimal
  | 0, exponent => ⟨0, exponent⟩
  | fuel + 1, exponent =>
    match m.onGrid? exponent with
    | some d => d
    | none => searchGrids m fuel (exponent - 1)

/-- An exponent whose power of ten exceeds the magnitude. -/
def coarsest (m : Magnitude) : Int :=
  let bits : Int := m.units.log2 + 1 - 1074
  if bits ≥ 0 then bits / 3 + 1 else bits / 4 + 1

/-- The shortest decimal that reads back as a positive finite magnitude. No grid finer than
`10⁻³²⁵` is needed. -/
def shortest (m : Magnitude) : Decimal :=
  m.searchGrids (m.coarsest + 326).toNat m.coarsest

end Magnitude

end LivePage
