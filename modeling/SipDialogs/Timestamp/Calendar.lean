-- SUMMARY: The proleptic Gregorian calendar, counted in days from 1970-01-01.

/-! # Calendar

A date is a year, a month and a day; day 0 is 1970-01-01. The count works on years that start in
March, so that the leap day is the last day of its year, and on eras of 400 years, which all have
the same number of days. -/

namespace SipDialogs

structure Date where
  year : Int
  month : Nat
  day : Nat
  deriving DecidableEq, Repr

namespace Date

def isLeapYear (year : Int) : Bool :=
  year % 4 == 0 && (year % 100 != 0 || year % 400 == 0)

def daysInMonth (year : Int) (month : Nat) : Nat :=
  if month = 2 then (if isLeapYear year then 29 else 28)
  else if month = 4 ∨ month = 6 ∨ month = 9 ∨ month = 11 then 30
  else 31

/-- A date that the calendar has. -/
def isValid (d : Date) : Bool :=
  1 ≤ d.month && d.month ≤ 12 && 1 ≤ d.day && d.day ≤ daysInMonth d.year d.month

/-- Days in 400 years. -/
def eraDays : Int := 146097

/-- Days from 0000-03-01 to 1970-01-01. -/
def epochShift : Int := 719468

/-- The day number of a date. -/
def toDays (d : Date) : Int :=
  let year := if d.month ≤ 2 then d.year - 1 else d.year
  let era := year / 400
  let yearOfEra := year % 400
  let month : Int := (d.month + 9) % 12
  let dayOfYear := (153 * month + 2) / 5 + d.day - 1
  let dayOfEra := yearOfEra * 365 + yearOfEra / 4 - yearOfEra / 100 + dayOfYear
  era * eraDays + dayOfEra - epochShift

/-- The date of a day number. -/
def ofDays (n : Int) : Date :=
  let shifted := n + epochShift
  let era := shifted / eraDays
  let dayOfEra := shifted % eraDays
  let yearOfEra :=
    (dayOfEra - dayOfEra / 1460 + dayOfEra / 36524 - dayOfEra / 146096) / 365
  let dayOfYear := dayOfEra - (365 * yearOfEra + yearOfEra / 4 - yearOfEra / 100)
  let month := (5 * dayOfYear + 2) / 153
  let day := dayOfYear - (153 * month + 2) / 5 + 1
  let civilMonth := if month < 10 then month + 3 else month - 9
  let year := yearOfEra + era * 400
  { year := if civilMonth ≤ 2 then year + 1 else year
    month := civilMonth.toNat
    day := day.toNat }

end Date

end SipDialogs
