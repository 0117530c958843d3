-- SUMMARY: Decimal numbers as texts: bounded unsigned reading, their form, and zero padding.

/-! # Decimal numbers

An unsigned number is read from one or more ASCII digits with at most one `+` before them; leading
zeros are fine, and a number that does not fit its width is refused. -/

namespace SipDialogs.Text

/-- The value of an ASCII digit. -/
def digit? (c : Char) : Option Nat :=
  if '0' ≤ c ∧ c ≤ '9' then some (c.toNat - '0'.toNat) else none

/-- The number that follows `acc` when the digits `cs` are appended to it. -/
def appendDigits? (acc : Nat) : List Char → Option Nat
  | [] => some acc
  | c :: cs => (digit? c).bind fun d => appendDigits? (acc * 10 + d) cs

/-- One or more digits as a number. -/
def digits? : List Char → Option Nat
  | [] => none
  | cs => appendDigits? 0 cs

/-- Drops one leading plus sign. -/
def dropPlus : List Char → List Char
  | '+' :: cs => cs
  | cs => cs

/-- An unsigned number below `limit`. -/
def natBelow? (limit : Nat) (cs : List Char) : Option Nat :=
  (digits? (dropPlus cs)).bind fun n => if n < limit then some n else none

/-! ## Signs, fractions and exponents -/

/-- Drops one leading sign. -/
def dropSign : List Char → List Char
  | '+' :: cs | '-' :: cs => cs
  | cs => cs

def isDigit (c : Char) : Bool := (digit? c).isSome

/-- Whether a text is empty or an exponent. -/
def isExponent : List Char → Bool
  | [] => true
  | c :: cs => (c == 'e' || c == 'E') && !(dropSign cs).isEmpty && (dropSign cs).all isDigit

/-- Whether a text is a number that may have a point and an exponent: it has a digit before or after
the point. -/
def isDecimal (cs : List Char) : Bool :=
  let whole := cs.takeWhile isDigit
  match cs.dropWhile isDigit with
  | '.' :: cs => !(whole ++ cs.takeWhile isDigit).isEmpty && isExponent (cs.dropWhile isDigit)
  | cs => !whole.isEmpty && isExponent cs

/-- Whether a text is a number with or without a sign; infinity and what is not a number are
numbers too. -/
def isNumber (cs : List Char) : Bool :=
  isDecimal (dropSign cs) || ["inf", "infinity", "nan"].any fun name =>
    name.toList == (dropSign cs).map Char.toLower

/-! ## Writing -/

/-- Zeros in front of the digits of `n`, up to `width` characters in all. -/
def padded (width n : Nat) : String :=
  let digits := toString n
  String.ofList (List.replicate (width - digits.length) '0') ++ digits

end SipDialogs.Text
