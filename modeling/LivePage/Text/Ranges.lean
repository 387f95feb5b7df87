/-
Sets of characters given by ranges of code points, the form in which the
character properties of the other modules are tabulated.

* `CodeRanges.holds`: membership in a table of ranges.
-/

namespace LivePage

/-- A set of code points, as the first and last member of each of its ranges. -/
abbrev CodeRanges := List (Nat × Nat)

/-- Whether a character lies in one of the ranges. -/
def CodeRanges.holds (ranges : CodeRanges) (c : Char) : Bool :=
  ranges.any fun (first, last) => first ≤ c.toNat && c.toNat ≤ last

end LivePage
