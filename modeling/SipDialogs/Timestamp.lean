-- SUMMARY: Instants, their RFC 3339 text and its lenient reading.
import SipDialogs.Text.Blank
import SipDialogs.Text.Decimal
import SipDialogs.Timestamp.Calendar

/-! # Timestamps

An instant is a count of whole seconds from 1970-01-01T00:00:00Z, rounded down, and nanoseconds
past it. A leap second is kept as the second before it with a billion nanoseconds or more. The
years run from -262143 to 262142.

The text is RFC 3339 in UTC. Reading is lenient: blanks may stand before a field, a field may be
shorter than it should be, and any offset is taken. -/

namespace SipDialogs

structure Timestamp where
  seconds : Int
  nanos : Nat
  inRange : -8334601228800 ≤ seconds ∧ seconds ≤ 8210266876799
  nanos_lt : nanos < 2000000000
  deriving DecidableEq, Repr

namespace Timestamp

/-- The instant of so many seconds and nanoseconds, if it is in range. -/
def ofParts? (seconds : Int) (nanos : Nat) : Option Timestamp :=
  if h : (-8334601228800 ≤ seconds ∧ seconds ≤ 8210266876799) ∧ nanos < 2000000000 then
    some ⟨seconds, nanos, h.1, h.2⟩
  else none

/-- The instant of a whole second, if it is in range. -/
def ofSeconds? (seconds : Int) : Option Timestamp := ofParts? seconds 0

def epoch : Timestamp := ⟨0, 0, by decide, by decide⟩

instance : Inhabited Timestamp := ⟨epoch⟩

/-! ## Writing -/

/-- Four digits for the years 0 to 9999, and a sign before all others. -/
def renderYear (year : Int) : String :=
  if 0 ≤ year ∧ year ≤ 9999 then Text.padded 4 year.toNat
  else (if year < 0 then "-" else "+") ++ Text.padded 4 year.natAbs

/-- The fewest of 0, 3, 6 and 9 digits that are exact. -/
def renderFraction (nanos : Nat) : String :=
  if nanos = 0 then ""
  else if nanos % 1000000 = 0 then "." ++ Text.padded 3 (nanos / 1000000)
  else if nanos % 1000 = 0 then "." ++ Text.padded 6 (nanos / 1000)
  else "." ++ Text.padded 9 nanos

def render (t : Timestamp) : String :=
  let date := Date.ofDays (t.seconds / 86400)
  let second := (t.seconds % 86400).toNat
  let leap := t.nanos / 1000000000
  renderYear date.year ++ "-" ++ Text.padded 2 date.month ++ "-" ++ Text.padded 2 date.day
    ++ "T" ++ Text.padded 2 (second / 3600) ++ ":" ++ Text.padded 2 (second / 60 % 60)
    ++ ":" ++ Text.padded 2 (second % 60 + leap) ++ renderFraction (t.nanos % 1000000000) ++ "Z"

/-! ## Reading -/

/-- One to `most` digits, and what follows them. -/
def number? (most : Nat) (cs : List Char) : Option (Nat × List Char) :=
  let digits := (cs.take most).takeWhile Char.isDigit
  (Text.digits? digits).map fun n => (n, cs.drop digits.length)

/-- A field of one or two digits after any blanks. -/
def field? (cs : List Char) : Option (Nat × List Char) := number? 2 (Text.trimStart cs)

/-- Skips a mark after any blanks. -/
def mark? (c : Char) (cs : List Char) : Option (List Char) :=
  match Text.trimStart cs with
  | c' :: rest => if c' = c then some rest else none
  | [] => none

/-- A year: up to four digits, or a sign and any number of them. -/
def year? (cs : List Char) : Option (Int × List Char) :=
  match Text.trimStart cs with
  | '-' :: cs => (number? cs.length cs).map fun r => (-(r.1 : Int), r.2)
  | '+' :: cs => (number? cs.length cs).map fun r => ((r.1 : Int), r.2)
  | cs => (number? 4 cs).map fun r => ((r.1 : Int), r.2)

/-- Nanoseconds after a point; digits beyond the ninth are passed over. -/
def fraction? : List Char → Option (Nat × List Char)
  | '.' :: cs =>
    (number? 9 cs).map fun r =>
      (r.1 * Nat.pow 10 (9 - (cs.length - r.2.length)), r.2.dropWhile Char.isDigit)
  | cs => some (0, cs)

/-- Two digits, as they are. -/
def twoDigits? : List Char → Option (Nat × List Char)
  | a :: b :: cs => (Text.digits? [a, b]).map fun n => (n, cs)
  | _ => none

/-- The seconds that local time is ahead of UTC. -/
def offset? (cs : List Char) : Option (Int × List Char) :=
  match cs with
  | 'Z' :: cs | 'z' :: cs => some (0, cs)
  | sign :: rest =>
    if (cs.take 3).map Char.toLower == ['u', 't', 'c'] then some (0, cs.drop 3)
    else if sign = '+' ∨ sign = '-' ∨ sign = '−' then do
      let (hours, rest) ← twoDigits? rest
      let (minutes, rest) ← twoDigits? (rest.dropWhile fun c => c == ':' || Text.isBlank c)
      if hours ≤ 23 ∧ minutes ≤ 59 then
        let ahead : Int := hours * 3600 + minutes * 60
        some (if sign = '+' then ahead else -ahead, rest)
      else none
    else none
  | [] => none

/-- The instant a text names. -/
def parse? (s : String) : Option Timestamp := do
  let (year, cs) ← year? s.toList
  let (month, cs) ← (mark? '-' cs).bind field?
  let (day, cs) ← (mark? '-' cs).bind field?
  let cs ← match cs with
    | c :: cs => if c = 'T' ∨ c = 't' ∨ c = ' ' then some cs else none
    | [] => none
  let (hour, cs) ← field? cs
  let (minute, cs) ← (mark? ':' cs).bind field?
  let (second, cs) ← (mark? ':' cs).bind field?
  let (nanos, cs) ← fraction? cs
  let (ahead, cs) ← offset? (Text.trimStart cs)
  let date : Date := ⟨year, month, day⟩
  if (Text.trimStart cs).isEmpty && date.isValid && hour ≤ 23 && minute ≤ 59 && second ≤ 60 then do
    let (second, nanos) := if second = 60 then (59, nanos + 1000000000) else (second, nanos)
    let here ← ofParts? (date.toDays * 86400 + hour * 3600 + minute * 60 + second) nanos
    ofParts? (here.seconds - ahead) nanos
  else none

end Timestamp

end SipDialogs
