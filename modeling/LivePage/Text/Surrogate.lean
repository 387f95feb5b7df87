/-
Surrogates: the two halves in which sixteen-bit text writes a character
beyond the first plane.

* `surrogatePair`: the character of two halves.
-/

namespace LivePage

def isHighSurrogate (n : Nat) : Bool := 0xD800 ≤ n && n < 0xDC00

def isLowSurrogate (n : Nat) : Bool := 0xDC00 ≤ n && n < 0xE000

/-- The character of a high and a low surrogate. -/
def surrogatePair (high low : Nat) : Char :=
  Char.ofNat (0x10000 + (high - 0xD800) * 0x400 + (low - 0xDC00))

end LivePage
