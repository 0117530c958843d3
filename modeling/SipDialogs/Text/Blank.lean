-- SUMMARY: White space as Unicode defines it, and trimming by it.

/-! # Blanks

The White_Space property of Unicode, wider than `Char.isWhitespace`, and the two trims built on
it. -/

namespace SipDialogs.Text

/-- The characters of the White_Space property. -/
def isBlank (c : Char) : Bool :=
  let n := c.toNat
  (9 ≤ n && n ≤ 13) || n == 0x20 || n == 0x85 || n == 0xA0 || n == 0x1680
    || (0x2000 ≤ n && n ≤ 0x200A) || n == 0x2028 || n == 0x2029 || n == 0x202F
    || n == 0x205F || n == 0x3000

/-- Drops the blanks a text starts with. -/
def trimStart (cs : List Char) : List Char := cs.dropWhile isBlank

/-- Drops the blanks a text starts and ends with. -/
def trim (cs : List Char) : List Char := (trimStart (trimStart cs).reverse).reverse

end SipDialogs.Text
