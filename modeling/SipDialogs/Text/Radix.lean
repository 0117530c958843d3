-- SUMMARY: Numbers written in bases up to 16.

/-! # Digits in any base -/

namespace SipDialogs.Text

/-- The value of a digit in a base up to 16, with letters of either case. -/
def digitIn? (base : Nat) (c : Char) : Option Nat :=
  let value : Option Nat :=
    if '0' ≤ c ∧ c ≤ '9' then some (c.toNat - '0'.toNat)
    else if 'a' ≤ c ∧ c ≤ 'f' then some (c.toNat - 'a'.toNat + 10)
    else if 'A' ≤ c ∧ c ≤ 'F' then some (c.toNat - 'A'.toNat + 10)
    else none
  value.filter (· < base)

/-- Exactly `count` digits, appended to `acc`. -/
def digitsIn? (base : Nat) : Nat → Nat → List Char → Option (Nat × List Char)
  | 0, acc, cs => some (acc, cs)
  | _ + 1, _, [] => none
  | count + 1, acc, c :: cs =>
    (digitIn? base c).bind fun d => digitsIn? base count (acc * base + d) cs

/-- The number that a list of digits denotes. -/
def numberIn? (base : Nat) (cs : List Char) : Option Nat :=
  if cs.isEmpty then none else (digitsIn? base cs.length 0 cs).map (·.1)

end SipDialogs.Text
