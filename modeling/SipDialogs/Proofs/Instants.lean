-- SUMMARY: The RFC 3339 text of an instant is read back as that instant.
import SipDialogs.Timestamp
import SipDialogs.Proofs.Calendar
import SipDialogs.Proofs.Decimals

/-! # Texts of instants

Reading is lenient, so there is something to show: no field of a text that was written takes in what
belongs to the next, and none loses a digit. A leap second is written as the sixtieth of its minute,
which only the last second of a minute can be. -/

namespace SipDialogs.Timestamp

/-- An instant as clocks have them: a leap second is the last of its minute. -/
def Regular (t : Timestamp) : Prop := t.nanos < 1000000000 ∨ t.seconds % 60 = 59

/-! ## Fields -/

theorem isBlank_of_isDigit {c : Char} (h : c.isDigit = true) : Text.isBlank c = false := by
  obtain ⟨hleast, hmost⟩ := Char.isDigit_iff_toNat.1 h
  have hzero : '0'.toNat = 48 := rfl
  have hnine : '9'.toNat = 57 := rfl
  unfold Text.isBlank
  simp only [Bool.or_eq_false_iff, Bool.and_eq_false_iff, decide_eq_false_iff_not,
    beq_eq_false_iff_ne]
  omega

theorem trimStart_of_not_blank {c : Char} (h : Text.isBlank c = false) (cs : List Char) :
    Text.trimStart (c :: cs) = c :: cs := by
  unfold Text.trimStart
  rw [List.dropWhile_cons_of_neg (by simp [h])]

/-- Digits are not passed over. -/
theorem trimStart_digits {digits : List Char} (hsome : digits ≠ [])
    (hall : ∀ c ∈ digits, c.isDigit = true) (rest : List Char) :
    Text.trimStart (digits ++ rest) = digits ++ rest := by
  cases digits with
  | nil => exact absurd rfl hsome
  | cons c cs => exact trimStart_of_not_blank (isBlank_of_isDigit (hall c List.mem_cons_self)) _

/-- Nothing more is read where no more may be, or where no digit comes. -/
theorem takeWhile_take_eq_nil {left : Nat} {rest : List Char}
    (hend : left = 0 ∨ ∀ c ∈ rest.head?, c.isDigit = false) :
    (rest.take left).takeWhile Char.isDigit = [] := by
  cases left with
  | zero => rfl
  | succ left =>
    have hnone := hend.resolve_left (Nat.succ_ne_zero left)
    cases rest with
    | nil => rfl
    | cons c cs => rw [List.take_succ_cons, List.takeWhile_cons_of_neg (by simp [hnone c rfl])]

/-- A number ends where it has to, or where the digits do. -/
theorem number?_digits {most n : Nat} {digits rest : List Char}
    (hread : Text.digits? digits = some n) (hfits : digits.length ≤ most)
    (hend : digits.length = most ∨ ∀ c ∈ rest.head?, c.isDigit = false) :
    number? most (digits ++ rest) = some (n, rest) := by
  obtain ⟨-, hall, -⟩ := Text.digits?_eq_some_iff.1 hread
  have hstop : (rest.take (most - digits.length)).takeWhile Char.isDigit = [] := by
    apply takeWhile_take_eq_nil
    exact hend.imp_left fun hfull => by rw [hfull, Nat.sub_self]
  have hdigits : ((digits ++ rest).take most).takeWhile Char.isDigit = digits := by
    rw [List.take_append, List.take_of_length_le hfits, List.takeWhile_append_of_pos hall, hstop,
      List.append_nil]
  unfold number?
  rw [hdigits]
  dsimp only
  rw [hread, Option.map_some, List.drop_left]

theorem field?_padded {n : Nat} (hn : n < 100) (rest : List Char) :
    field? ((Text.padded 2 n).toList ++ rest) = some (n, rest) := by
  have hlength : (Text.padded 2 n).toList.length = 2 := Text.length_padded (by decide) hn
  have hsome : (Text.padded 2 n).toList ≠ [] := by
    intro hnil
    simp [hnil] at hlength
  unfold field?
  rw [trimStart_digits hsome Text.isDigit_padded]
  exact number?_digits (Text.digits?_padded 2 n) (Nat.le_of_eq hlength) (.inl hlength)

theorem mark?_self {c : Char} (h : Text.isBlank c = false) (rest : List Char) :
    mark? c (c :: rest) = some rest := by
  unfold mark?
  rw [trimStart_of_not_blank h]
  exact if_pos rfl

theorem padded_ne_nil (width n : Nat) : (Text.padded width n).toList ≠ [] := by
  have hread := Text.digits?_padded width n
  exact (Text.digits?_eq_some_iff.1 hread).1

theorem number?_padded {most width n : Nat} {rest : List Char}
    (hfits : (Text.padded width n).toList.length ≤ most)
    (hend : ∀ c ∈ rest.head?, c.isDigit = false) :
    number? most ((Text.padded width n).toList ++ rest) = some (n, rest) :=
  number?_digits (Text.digits?_padded width n) hfits (.inr hend)

/-- A year without a sign starts with a digit. -/
theorem year?_unsigned {digits : List Char} (hsome : digits ≠ [])
    (hall : ∀ c ∈ digits, c.isDigit = true) (rest : List Char) :
    year? (digits ++ rest) = (number? 4 (digits ++ rest)).map fun r => ((r.1 : Int), r.2) := by
  have hfirst : ∀ c cs, digits ++ rest = c :: cs → c.isDigit = true := by
    intro c cs heq
    cases digits with
    | nil => exact absurd rfl hsome
    | cons d ds =>
      obtain rfl : d = c := (List.cons.inj heq).1
      exact hall d List.mem_cons_self
  unfold year?
  rw [trimStart_digits hsome hall]
  split
  next cs heq => exact absurd (hfirst _ _ heq) (by decide)
  next cs heq => exact absurd (hfirst _ _ heq) (by decide)
  next => rfl

theorem year?_minus (cs : List Char) :
    year? ('-' :: cs) = (number? cs.length cs).map fun r => (-(r.1 : Int), r.2) := by
  unfold year?
  rw [trimStart_of_not_blank (by decide)]
  rfl

theorem year?_plus (cs : List Char) :
    year? ('+' :: cs) = (number? cs.length cs).map fun r => ((r.1 : Int), r.2) := by
  unfold year?
  rw [trimStart_of_not_blank (by decide)]
  rfl

/-- A year ends at the dash after it. -/
theorem year?_renderYear (year : Int) (rest : List Char) :
    year? ((renderYear year).toList ++ '-' :: rest) = some (year, '-' :: rest) := by
  have hdash : ∀ c ∈ ('-' :: rest).head?, c.isDigit = false := by
    rintro c ⟨⟩
    rfl
  unfold renderYear
  by_cases hplain : 0 ≤ year ∧ year ≤ 9999
  · have hlength : (Text.padded 4 year.toNat).toList.length = 4 :=
      Text.length_padded (by decide) (by omega)
    rw [if_pos hplain, year?_unsigned (padded_ne_nil _ _) Text.isDigit_padded,
      number?_padded (Nat.le_of_eq hlength) hdash]
    simp [Int.toNat_of_nonneg hplain.1]
  · have hfits : (Text.padded 4 year.natAbs).toList.length
        ≤ ((Text.padded 4 year.natAbs).toList ++ '-' :: rest).length := by
      simp
    have hnumber := number?_padded hfits hdash
    rw [if_neg hplain, String.toList_append, List.append_assoc]
    split
    next hnegative =>
      have hminus : ("-".toList : List Char) = ['-'] := rfl
      have hyear : -(year.natAbs : Int) = year := by omega
      rw [hminus, List.singleton_append, year?_minus, hnumber, Option.map_some, hyear]
    next hpositive =>
      have hplus : ("+".toList : List Char) = ['+'] := rfl
      have hyear : (year.natAbs : Int) = year := by omega
      rw [hplus, List.singleton_append, year?_plus, hnumber, Option.map_some, hyear]

theorem fraction?_point (cs : List Char) :
    fraction? ('.' :: cs) = (number? 9 cs).map fun r =>
      (r.1 * Nat.pow 10 (9 - (cs.length - r.2.length)), r.2.dropWhile Char.isDigit) := rfl

/-- The digits that a fraction leaves out are zeros. -/
theorem fraction?_padded {width n nanos : Nat} (hpos : 0 < width) (hwidth : width ≤ 9)
    (hn : n < 10 ^ width) (hnanos : n * 10 ^ (9 - width) = nanos) :
    fraction? (("." ++ Text.padded width n).toList ++ ['Z']) = some (nanos, ['Z']) := by
  have hlength : (Text.padded width n).toList.length = width := Text.length_padded hpos hn
  have hfits : (Text.padded width n).toList.length ≤ 9 :=
    Nat.le_trans (Nat.le_of_eq hlength) hwidth
  have hpoint : ".".toList = ['.'] := rfl
  have hrest : ['Z'].dropWhile Char.isDigit = ['Z'] := rfl
  have hzone : ∀ c ∈ ['Z'].head?, c.isDigit = false := by
    rintro c ⟨⟩
    rfl
  have hlong : ((Text.padded width n).toList ++ ['Z']).length - ['Z'].length = width := by
    rw [List.length_append, hlength, Nat.add_sub_cancel]
  rw [String.toList_append, hpoint, List.append_assoc, List.singleton_append, fraction?_point,
    number?_padded hfits hzone, Option.map_some, ← hnanos]
  dsimp only
  rw [hlong, hrest]
  rfl

theorem fraction?_renderFraction {nanos : Nat} (h : nanos < 1000000000) :
    fraction? ((renderFraction nanos).toList ++ ['Z']) = some (nanos, ['Z']) := by
  unfold renderFraction
  split
  next hzero =>
    rw [hzero]
    rfl
  next =>
    split
    next hmillis =>
      apply fraction?_padded (by decide) (by decide) (by omega)
      exact Nat.div_mul_cancel (Nat.dvd_of_mod_eq_zero hmillis)
    next =>
      split
      next hmicros =>
        apply fraction?_padded (by decide) (by decide) (by omega)
        exact Nat.div_mul_cancel (Nat.dvd_of_mod_eq_zero hmicros)
      next => exact fraction?_padded (by decide) (by decide) h (Nat.mul_one nanos)

theorem offset?_utc : offset? (Text.trimStart ['Z']) = some (0, []) := by decide

/-! ## Texts -/

theorem toList_render (t : Timestamp) :
    t.render.toList =
      let date := Date.ofDays (t.seconds / 86400)
      let second := (t.seconds % 86400).toNat
      (renderYear date.year).toList ++ '-' :: ((Text.padded 2 date.month).toList ++
        '-' :: ((Text.padded 2 date.day).toList ++
        'T' :: ((Text.padded 2 (second / 3600)).toList ++
        ':' :: ((Text.padded 2 (second / 60 % 60)).toList ++
        ':' :: ((Text.padded 2 (second % 60 + t.nanos / 1000000000)).toList ++
        ((renderFraction (t.nanos % 1000000000)).toList ++ ['Z'])))))) := by
  have hdash : "-".toList = ['-'] := rfl
  have hcolon : ":".toList = [':'] := rfl
  have htime : "T".toList = ['T'] := rfl
  have hzone : "Z".toList = ['Z'] := rfl
  simp only [render, String.toList_append, List.append_assoc, hdash, hcolon, htime, hzone,
    List.cons_append, List.nil_append]

theorem month_lt (n : Int) : (Date.ofDays n).month < 100 := by
  have hvalid := Date.isValid_ofDays n
  simp only [Date.isValid, Bool.and_eq_true, decide_eq_true_eq] at hvalid
  omega

theorem day_lt (n : Int) : (Date.ofDays n).day < 100 := by
  have hvalid := Date.isValid_ofDays n
  have hmost : ∀ year month, Date.daysInMonth year month ≤ 31 := by
    intro year month
    unfold Date.daysInMonth
    split
    · split <;> decide
    · split <;> decide
  have hday := hmost (Date.ofDays n).year (Date.ofDays n).month
  simp only [Date.isValid, Bool.and_eq_true, decide_eq_true_eq] at hvalid
  omega

/-- What is in range stays as it is when it is looked at again. -/
theorem ofParts?_bind_self (seconds : Int) (nanos : Nat) :
    ((ofParts? seconds nanos).bind fun here => ofParts? (here.seconds - 0) nanos)
      = ofParts? seconds nanos := by
  unfold ofParts?
  split
  next h => simp [h]
  next => rfl

/-- The second within its minute and the nanoseconds that a written instant is read with. -/
def clock (t : Timestamp) : Nat × Nat :=
  let second := (t.seconds % 60).toNat + t.nanos / 1000000000
  if second = 60 then (59, t.nanos % 1000000000 + 1000000000)
  else (second, t.nanos % 1000000000)

theorem clock_eq (t : Timestamp) {second : Nat} (h : (t.seconds % 86400).toNat = second) :
    (if second % 60 + t.nanos / 1000000000 = 60 then (59, t.nanos % 1000000000 + 1000000000)
      else (second % 60 + t.nanos / 1000000000, t.nanos % 1000000000)) = t.clock := by
  have hwithin : (t.seconds % 60).toNat = second % 60 := by omega
  rw [clock, hwithin]

/-- Day, hour and minute make up all of an instant but the second in its minute. -/
theorem wholeMinutes_eq (t : Timestamp) {second : Nat} (h : (t.seconds % 86400).toNat = second) :
    t.seconds / 86400 * 86400 + ((second / 3600 : Nat) : Int) * 3600
      + ((second / 60 % 60 : Nat) : Int) * 60 = t.seconds - t.seconds % 60 := by
  omega

/-- No field of a written instant is out of its range, a leap second being the sixtieth. -/
theorem checks_of_lt {date : Date} (hvalid : date.isValid = true) {second leap : Nat}
    (hsecond : second < 86400) (hleap : leap ≤ 1) :
    ((Text.trimStart []).isEmpty && date.isValid && decide (second / 3600 ≤ 23)
      && decide (second / 60 % 60 ≤ 59) && decide (second % 60 + leap ≤ 60)) = true := by
  simp only [Bool.and_eq_true, decide_eq_true_eq]
  exact ⟨⟨⟨⟨rfl, hvalid⟩, by omega⟩, by omega⟩, by omega⟩

theorem parse?_render_eq (t : Timestamp) :
    parse? t.render = ofParts? (t.seconds - t.seconds % 60 + t.clock.1) t.clock.2 := by
  have hdash : ∀ rest, mark? '-' ('-' :: rest) = some rest := mark?_self (by decide)
  have hcolon : ∀ rest, mark? ':' (':' :: rest) = some rest := mark?_self (by decide)
  have hmonth := field?_padded (month_lt (t.seconds / 86400))
  have hday := field?_padded (day_lt (t.seconds / 86400))
  have hvalid := Date.isValid_ofDays (t.seconds / 86400)
  have hdays := Date.toDays_ofDays (t.seconds / 86400)
  generalize hdate : Date.ofDays (t.seconds / 86400) = date at hmonth hday hvalid hdays
  generalize hsecond : (t.seconds % 86400).toNat = second
  have hlt : second < 86400 := by omega
  have hleap : t.nanos / 1000000000 ≤ 1 := Nat.le_of_lt_succ (Nat.div_lt_of_lt_mul t.nanos_lt)
  have hhour := field?_padded (show second / 3600 < 100 by omega)
  have hminute := field?_padded (show second / 60 % 60 < 100 by omega)
  have hsixty := field?_padded (show second % 60 + t.nanos / 1000000000 < 100 by omega)
  have hfraction := fraction?_renderFraction (Nat.mod_lt t.nanos (by decide : 0 < 1000000000))
  unfold parse?
  rw [toList_render]
  dsimp only
  rw [hdate, hsecond]
  simp only [year?_renderYear, Option.bind_eq_bind, Option.bind_some, hdash, hcolon, hmonth, hday,
    hhour, hminute, hsixty, hfraction, offset?_utc, true_or, if_true, checks_of_lt hvalid hlt hleap,
    t.clock_eq hsecond, hdays, t.wholeMinutes_eq hsecond, ofParts?_bind_self]

theorem clock_eq_iff (t : Timestamp) : t.clock.2 = t.nanos ↔ t.Regular := by
  have hnanos : t.nanos < 2000000000 := t.nanos_lt
  unfold clock Regular
  dsimp only
  split
  next hleap =>
    have hwithin : t.seconds % 60 < 60 := Int.emod_lt_of_pos _ (by decide)
    dsimp only
    omega
  next hplain =>
    dsimp only
    omega

theorem nanos_of_ofParts? {seconds : Int} {nanos : Nat} {t : Timestamp}
    (h : ofParts? seconds nanos = some t) : t.nanos = nanos := by
  unfold ofParts? at h
  split at h
  · cases h
    rfl
  · cases h

/-- The instants that are read back from their texts are those that clocks have. -/
theorem parse?_render_iff {t : Timestamp} : parse? t.render = some t ↔ t.Regular := by
  rw [parse?_render_eq, ← clock_eq_iff]
  constructor
  · intro h
    exact (nanos_of_ofParts? h).symm
  · intro h
    have hnanos : t.nanos < 2000000000 := t.nanos_lt
    have hsecond : t.seconds - t.seconds % 60 + (t.clock.1 : Int) = t.seconds := by
      unfold clock at h ⊢
      dsimp only at h ⊢
      split at h
      next hleap =>
        rw [if_pos hleap]
        dsimp only at h ⊢
        omega
      next hplain =>
        rw [if_neg hplain]
        dsimp only at h ⊢
        omega
    rw [hsecond, h]
    exact dif_pos ⟨t.inRange, hnanos⟩

end SipDialogs.Timestamp
