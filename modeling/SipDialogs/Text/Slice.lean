-- SUMMARY: Parts of a text between two places that are counted in bytes.

/-! # Slices

A place in a text is the number of bytes before it in UTF-8. Of a character that a place cuts
through, nothing is left on either side. -/

namespace SipDialogs.Text

/-- What follows the first `n` bytes. -/
def dropBytes : Nat → List Char → List Char
  | 0, cs => cs
  | _ + 1, [] => []
  | n + 1, c :: cs => dropBytes (n + 1 - c.utf8Size) cs

/-- What lies within the first `n` bytes. -/
def takeBytes : Nat → List Char → List Char
  | _, [] => []
  | n, c :: cs => if c.utf8Size ≤ n then c :: takeBytes (n - c.utf8Size) cs else []

/-- What lies between two places. -/
def slice (first last : Nat) (cs : List Char) : List Char :=
  takeBytes (last - first) (dropBytes first cs)

end SipDialogs.Text
