-- SUMMARY: Every day number has a date that the calendar has, and the date has the day number.
import SipDialogs.Timestamp.Calendar

/-! # Calendar

The date of a day number is found by divisions that are right only because leap days stand where
they do. The proofs put a day in its place first: its century in the era, its four years in the
century, its year and its day there. In places everything is linear. -/

namespace SipDialogs.Date

/-! ## Places of days -/

/-- Day `d` of an era is day `j` of year `y` of four years `q` of century `c`. The last century has
a day more than the others, and so has the last year of four, but not at the end of a century,
unless it is the last. -/
structure Place (d c q y j : Int) : Prop where
  century : 0 ≤ c ∧ c ≤ 3
  quad : 0 ≤ q ∧ q ≤ 24
  year : 0 ≤ y ∧ y ≤ 3
  day : 0 ≤ j ∧ j ≤ 365
  leap : j = 365 → y = 3 ∧ (q < 24 ∨ c = 3)
  sum : d = 36524 * c + 1461 * q + 365 * y + j

theorem exists_place {d : Int} (hleast : 0 ≤ d) (hmost : d < 146097) :
    ∃ c q y j, Place d c q y j := by
  obtain ⟨c, r, hc, hc', hr, hr', hlast, rfl⟩ : ∃ c r, 0 ≤ c ∧ c ≤ 3 ∧ 0 ≤ r ∧ r ≤ 36524 ∧
      (r = 36524 → c = 3) ∧ d = 36524 * c + r := by
    refine ⟨min (d / 36524) 3, d - 36524 * min (d / 36524) 3, ?_, ?_, ?_, ?_, ?_, ?_⟩ <;> omega
  obtain ⟨q, s, hq, hq', hs, hs', hlast', rfl⟩ : ∃ q s, 0 ≤ q ∧ q ≤ 24 ∧ 0 ≤ s ∧ s ≤ 1460 ∧
      (s = 1460 → q < 24 ∨ c = 3) ∧ r = 1461 * q + s := by
    refine ⟨r / 1461, r % 1461, ?_, ?_, ?_, ?_, ?_, ?_⟩ <;> omega
  refine ⟨c, q, min (s / 365) 3, s - 365 * min (s / 365) 3, ?_, ?_, ?_, ?_, ?_, ?_⟩ <;> omega

namespace Place

variable {d c q y j : Int}

/-- The divisions find the year. -/
theorem yearOfEra_eq (h : Place d c q y j) :
    (d - d / 1460 + d / 36524 - d / 146096) / 365 = 100 * c + 4 * q + y := by
  obtain ⟨hc, hq, hy, hj, hleap, rfl⟩ := h
  have hcenturies : (36524 * c + 1461 * q + 365 * y + j) / 36524
      - (36524 * c + 1461 * q + 365 * y + j) / 146096 = c := by
    -- Only the last day of the era is counted to a century too many, and taken off again.
    rcases Int.lt_or_le (1461 * q + 365 * y + j) 36524 with hinside | hlast
    · have hdiv : (36524 * c + 1461 * q + 365 * y + j) / 36524 = c := by omega
      omega
    · have hthree : c = 3 := by omega
      omega
  have hleast : 25 * c + q ≤ (36524 * c + 1461 * q + 365 * y + j) / 1460 := by omega
  have hmost : (36524 * c + 1461 * q + 365 * y + j) / 1460 ≤ 25 * c + q + 1 := by omega
  have hfirst : j = 0 → (36524 * c + 1461 * q + 365 * y + j) / 1460 = 25 * c + q := by omega
  have hlast : j = 365 → (36524 * c + 1461 * q + 365 * y + j) / 1460 = 25 * c + q + 1 := by omega
  omega

/-- What is left of the era after whole years is the day. -/
theorem dayOfYear_eq (h : Place d c q y j) :
    d - (365 * (100 * c + 4 * q + y) + (100 * c + 4 * q + y) / 4 - (100 * c + 4 * q + y) / 100)
      = j := by
  obtain ⟨hc, hq, hy, hj, -, rfl⟩ := h
  omega

end Place

/-! ## Dates of days -/

/-- The date of day `j`, counted from March, of a year that began in March. -/
def ofYearDay (year j : Int) : Date :=
  let month := (5 * j + 2) / 153
  { year := if month < 10 then year else year + 1
    month := (if month < 10 then month + 3 else month - 9).toNat
    day := (j - (153 * month + 2) / 5 + 1).toNat }

theorem ofDays_eq (n : Int) : ∃ era d c q y j, Place d c q y j ∧
    n = era * eraDays + d - epochShift ∧
    ofDays n = ofYearDay (100 * c + 4 * q + y + era * 400) j := by
  have hera : (0 : Int) < eraDays := by decide
  obtain ⟨c, q, y, j, hplace⟩ := exists_place (Int.emod_nonneg (n + epochShift) (Int.ne_of_gt hera))
    (Int.emod_lt_of_pos (n + epochShift) hera)
  refine ⟨(n + epochShift) / eraDays, _, c, q, y, j, hplace, ?_, ?_⟩
  · rw [Int.ediv_mul_add_emod]
    omega
  · unfold ofDays ofYearDay
    dsimp only
    obtain ⟨hleast, hmost⟩ := hplace.day
    rw [hplace.yearOfEra_eq, hplace.dayOfYear_eq]
    by_cases hmonth : (5 * j + 2) / 153 < 10
    · have hcivil : ¬(5 * j + 2) / 153 + 3 ≤ 2 := by omega
      simp only [hmonth, if_true, hcivil, if_false]
    · have hcivil : (5 * j + 2) / 153 - 9 ≤ 2 := by omega
      simp only [hmonth, if_true, hcivil, if_false]

/-! ## There and back -/

/-- The month of a day and the day of that month, counted from March. -/
theorem month_bounds {j : Int} (hleast : 0 ≤ j) (hmost : j ≤ 365) :
    0 ≤ (5 * j + 2) / 153 ∧ (5 * j + 2) / 153 ≤ 11 ∧ (153 * ((5 * j + 2) / 153) + 2) / 5 ≤ j := by
  omega

/-- The years of an era are numbered like those of every other. -/
theorem Place.year_eq {d c q y j : Int} (h : Place d c q y j) (era : Int) :
    (100 * c + 4 * q + y + era * 400) / 400 = era ∧
      (100 * c + 4 * q + y + era * 400) % 400 = 100 * c + 4 * q + y ∧
      (100 * c + 4 * q + y) / 4 = 25 * c + q ∧ (100 * c + 4 * q + y) / 100 = c := by
  obtain ⟨hc, hq, hy, -, -, -⟩ := h
  omega

theorem toDays_ofYearDay {era d c q y j : Int} (h : Place d c q y j) :
    (ofYearDay (100 * c + 4 * q + y + era * 400) j).toDays = era * eraDays + d - epochShift := by
  obtain ⟨hera, hyear, hfours, hcenturies⟩ := h.year_eq era
  obtain ⟨-, -, -, ⟨hleast, hmost⟩, -, rfl⟩ := h
  obtain ⟨hm, hm', hday⟩ := month_bounds hleast hmost
  unfold ofYearDay toDays
  dsimp only
  generalize (5 * j + 2) / 153 = m at hm hm' hday
  have hdays : ((j - (153 * m + 2) / 5 + 1).toNat : Int) = j - (153 * m + 2) / 5 + 1 :=
    Int.toNat_of_nonneg (by omega)
  by_cases hmonth : m < 10
  · have hcivil : ¬(m + 3).toNat ≤ 2 := by omega
    have hmarch : (((m + 3).toNat : Int) + 9) % 12 = m := by omega
    simp only [hmonth, if_true, hcivil, if_false]
    rw [hera, hyear, hfours, hcenturies, hmarch, hdays]
    omega
  · have hcivil : (m - 9).toNat ≤ 2 := by omega
    have hmarch : (((m - 9).toNat : Int) + 9) % 12 = m := by omega
    simp only [hmonth, hcivil, if_true, if_false]
    rw [Int.add_sub_cancel, hera, hyear, hfours, hcenturies, hmarch, hdays]
    omega

theorem toDays_ofDays (n : Int) : (ofDays n).toDays = n := by
  obtain ⟨era, d, c, q, y, j, hplace, hn, hdate⟩ := ofDays_eq n
  rw [hdate, toDays_ofYearDay hplace, ← hn]

/-- The years that end with the 366th day after a first of March are leap years. -/
theorem Place.isLeapYear {d c q y j : Int} (h : Place d c q y j) (hlast : j = 365) (era : Int) :
    Date.isLeapYear (100 * c + 4 * q + y + era * 400 + 1) = true := by
  obtain ⟨hc, hq, -, -, hleap, -⟩ := h
  obtain ⟨hyear, hquad⟩ := hleap hlast
  have hfour : (100 * c + 4 * q + y + era * 400 + 1) % 4 = 0 := by omega
  have hcentury : (100 * c + 4 * q + y + era * 400 + 1) % 100 ≠ 0 ∨
      (100 * c + 4 * q + y + era * 400 + 1) % 400 = 0 := by
    omega
  simpa [Date.isLeapYear, hfour] using hcentury

/-- Months have the days that the count gives them. -/
theorem isValid_ofYearDay {year j : Int} (hleast : 0 ≤ j) (hmost : j ≤ 365)
    (hleap : j = 365 → Date.isLeapYear (year + 1) = true) : (ofYearDay year j).isValid = true := by
  obtain ⟨hm, hm', hday⟩ := month_bounds hleast hmost
  have hmonths : (5 * j + 2) / 153 = 11 ∨ (5 * j + 2) / 153 = 10 ∨ (5 * j + 2) / 153 < 10 := by
    omega
  rcases hmonths with hfebruary | hjanuary | hothers
  · have hdate : ofYearDay year j = ⟨year + 1, 2, (j - 336).toNat⟩ := by
      simp [ofYearDay, hfebruary]
      omega
    have hlast : (j - 336).toNat ≤ if Date.isLeapYear (year + 1) = true then 29 else 28 := by
      split
      · omega
      next hcommon =>
        have hne : j ≠ 365 := fun h => hcommon (hleap h)
        omega
    have hfirst : 1 ≤ (j - 336).toNat := by omega
    simp [hdate, isValid, daysInMonth, hlast, hfirst]
  · have hdate : ofYearDay year j = ⟨year + 1, 1, (j - 305).toNat⟩ := by
      simp [ofYearDay, hjanuary]
      omega
    have hfirst : 1 ≤ (j - 305).toNat := by omega
    have hlast : (j - 305).toNat ≤ 31 := by omega
    simp [hdate, isValid, daysInMonth, hlast, hfirst]
  · unfold ofYearDay isValid daysInMonth
    simp only [hothers, if_true, Bool.and_eq_true, decide_eq_true_eq]
    refine ⟨⟨⟨by omega, by omega⟩, by omega⟩, ?_⟩
    have hmonth : ((5 * j + 2) / 153 + 3).toNat ≠ 2 := by omega
    rw [if_neg hmonth]
    split <;> omega

theorem isValid_ofDays (n : Int) : (ofDays n).isValid = true := by
  obtain ⟨era, d, c, q, y, j, hplace, -, hdate⟩ := ofDays_eq n
  rw [hdate]
  exact isValid_ofYearDay hplace.day.1 hplace.day.2 fun hlast => hplace.isLeapYear hlast era

end SipDialogs.Date
