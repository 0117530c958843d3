-- SUMMARY: Sets of characters as ranges of code points.

/-! # Ranges

A property of characters is given as the ranges of code points that have it, ends included. -/

namespace SipDialogs.Text

abbrev Ranges := List (Nat × Nat)

/-- Whether one of the ranges takes a character in. -/
def Ranges.takes (ranges : Ranges) (c : Char) : Bool :=
  ranges.any fun r => r.1 ≤ c.toNat && c.toNat ≤ r.2

end SipDialogs.Text
