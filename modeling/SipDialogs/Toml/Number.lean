-- SUMMARY: Numbers, dates and times of TOML.
import SipDialogs.Timestamp.Calendar
import SipDialogs.Toml.Text
import SipDialogs.Value

/-! # Numbers, dates and times in TOML

Underscores stand between digits only. Integers have 64 bits. Floating-point numbers, dates and
times are checked and kept as they are written. -/

namespace SipDialogs.Toml

/-- One or more digits with single underscores between them, without the underscores. -/
def digitRun? (base : Nat) : List Char → Option (List Char × List Char)
  | [] => none
  | c :: cs =>
    if (Text.digitIn? base c).isSome then
      match cs with
      | '_' :: cs => (digitRun? base cs).map fun r => (c :: r.1, r.2)
      | cs => some ((digitRun? base cs).elim ([c], cs) fun r => (c :: r.1, r.2))
    else none

/-- Digits of a decimal integer: a zero stands alone. -/
def wholeRun? (cs : List Char) : Option (List Char × List Char) :=
  match cs with
  | '0' :: rest => some (['0'], rest)
  | cs => digitRun? 10 cs

/-- Skips a sign, if there is one. -/
def sign : List Char → Bool × List Char
  | '-' :: cs => (true, cs)
  | '+' :: cs => (false, cs)
  | cs => (false, cs)

/-- An integer of 64 bits. -/
def word64? (n : Int) : Option Value :=
  if Value.least64 ≤ n ∧ n ≤ Value.greatest64 then some (.int n) else none

def integer? (cs : List Char) : Option (Value × List Char) :=
  let based (base : Nat) (cs : List Char) : Option (Value × List Char) := do
    let (digits, rest) ← digitRun? base cs
    let n ← Text.numberIn? base digits
    return (← word64? n, rest)
  match cs with
  | '0' :: 'x' :: cs => based 16 cs
  | '0' :: 'o' :: cs => based 8 cs
  | '0' :: 'b' :: cs => based 2 cs
  | cs => do
    let (negative, cs) := sign cs
    let (digits, rest) ← wholeRun? cs
    let n ← Text.numberIn? 10 digits
    return (← word64? (if negative then -(n : Int) else n), rest)

/-! ## Floating-point numbers -/

/-- Whether `m · 10 ^ e` rounds to something beyond the numbers of 64 bits. -/
def overflows (m : Nat) (e : Int) : Bool :=
  let size : Int := (toString m).length + e
  if m = 0 ∨ size < 300 then false
  else if 320 < size then true
  else
    let bound := Nat.pow 2 1024 - Nat.pow 2 970
    if 0 ≤ e then bound ≤ m * Nat.pow 10 e.toNat else bound * Nat.pow 10 e.natAbs ≤ m

/-- A fraction: a point and digits. -/
def fraction? : List Char → Option (List Char × List Char)
  | '.' :: cs => digitRun? 10 cs
  | _ => none

/-- An exponent. -/
def exponent? : List Char → Option (Int × List Char)
  | c :: cs =>
    if c = 'e' ∨ c = 'E' then do
      let (negative, cs) := sign cs
      let (digits, rest) ← digitRun? 10 cs
      let n ← Text.numberIn? 10 digits
      return (if negative then -(n : Int) else n, rest)
    else none
  | [] => none

/-- An infinity or no number at all. -/
def special? (cs : List Char) : Option (Value × List Char) :=
  match (sign cs).2 with
  | 'i' :: 'n' :: 'f' :: rest => some (.real "inf", rest)
  | 'n' :: 'a' :: 'n' :: rest => some (.real "nan", rest)
  | _ => none

/-- A number with a fraction, an exponent or both. One that is too great is refused. -/
def float? (cs : List Char) : Option (Value × List Char) :=
  let (negative, digits) := sign cs
  let finite : Option (Value × List Char) := do
    let (whole, rest) ← wholeRun? digits
    let (decimals, exponent, rest) ←
      match fraction? rest with
      | some (decimals, rest) =>
        match exponent? rest with
        | some (e, rest) => some (decimals, e, rest)
        | none => some (decimals, 0, rest)
      | none => (exponent? rest).map fun r => ([], r.1, r.2)
    let m ← Text.numberIn? 10 (whole ++ decimals)
    if !negative && overflows m (exponent - decimals.length) then none
    else some (.real (String.ofList (cs.take (cs.length - rest.length))), rest)
  match finite with
  | some found => some found
  | none => special? cs

/-! ## Dates and times -/

/-- A number of exactly `count` digits. -/
def fixed? (count : Nat) (cs : List Char) : Option (Nat × List Char) :=
  Text.digitsIn? 10 count 0 cs

def expect? (c : Char) : List Char → Option (List Char)
  | d :: cs => if d = c then some cs else none
  | [] => none

/-- Skips a date. -/
def date? (cs : List Char) : Option (List Char) := do
  let (year, cs) ← fixed? 4 cs
  let cs ← expect? '-' cs
  let (month, cs) ← fixed? 2 cs
  let cs ← expect? '-' cs
  let (day, cs) ← fixed? 2 cs
  if Date.isValid ⟨year, month, day⟩ then some cs else none

/-- Skips a time of day. A leap second may be the sixtieth. -/
def time? (cs : List Char) : Option (List Char) := do
  let (hour, cs) ← fixed? 2 cs
  let cs ← expect? ':' cs
  let (minute, cs) ← fixed? 2 cs
  let cs ← expect? ':' cs
  let (second, cs) ← fixed? 2 cs
  if hour ≤ 23 ∧ minute ≤ 59 ∧ second ≤ 60 then
    match cs with
    | '.' :: rest =>
      let after := rest.dropWhile Char.isDigit
      some (if after.length < rest.length then after else cs)
    | cs => some cs
  else none

/-- Skips an offset from UTC. -/
def offset? (cs : List Char) : Option (List Char) :=
  match cs with
  | 'Z' :: cs | 'z' :: cs => some cs
  | c :: cs =>
    if c = '+' ∨ c = '-' then do
      let (hour, cs) ← fixed? 2 cs
      let cs ← expect? ':' cs
      let (minute, cs) ← fixed? 2 cs
      if hour ≤ 23 ∧ minute ≤ 59 then some cs else none
    else none
  | [] => none

/-- A date, a time of day or both; a date with a time may have an offset. -/
def moment? (cs : List Char) : Option (Value × List Char) :=
  let rest? : Option (List Char) :=
    match date? cs with
    | some rest =>
      match rest with
      | c :: more =>
        if c = 'T' ∨ c = 't' ∨ c = ' ' then
          match time? more with
          | some after => some ((offset? after).getD after)
          | none => some rest
        else some rest
      | [] => some []
    | none => time? cs
  rest?.map fun rest => (.moment (String.ofList (cs.take (cs.length - rest.length))), rest)

/-- A number, a date or a time. -/
def number? (cs : List Char) : Option (Value × List Char) :=
  match moment? cs with
  | some found => some found
  | none =>
    match float? cs with
    | some found => some found
    | none => integer? cs

end SipDialogs.Toml
