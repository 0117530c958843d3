-- SUMMARY: Which texts are read as decimal numbers, and how they differ from the ones written.
import SipDialogs.Text.Decimal
import Mathlib.Algebra.Group.Nat.Defs
import Mathlib.Data.List.Basic

/-! # Decimal numbers

A number has many texts that are read as it, and one that it is written as. They have the same
digits from the first that is not zero on. -/

namespace SipDialogs.Text

/-! ## Reading -/

theorem digit?_eq_some_iff {c : Char} {d : Nat} :
    digit? c = some d ↔ c.isDigit = true ∧ d = c.toNat - '0'.toNat := by
  have hdigit : c.isDigit = true ↔ '0' ≤ c ∧ c ≤ '9' := Char.isDigit_iff_toNat
  rw [hdigit]
  unfold digit?
  split
  next h => simp [h, eq_comm]
  next h => simp [h]

theorem appendDigits?_eq_some_iff {acc n : Nat} {cs : List Char} :
    appendDigits? acc cs = some n ↔
      (∀ c ∈ cs, c.isDigit = true) ∧ n = Nat.ofDigitChars 10 cs acc := by
  induction cs generalizing acc with
  | nil =>
    rw [appendDigits?, Nat.ofDigitChars_nil, Option.some.injEq, eq_comm]
    exact (and_iff_right nofun).symm
  | cons c cs ih =>
    unfold appendDigits?
    rw [Option.bind_eq_some_iff, List.forall_mem_cons, Nat.ofDigitChars_cons, Nat.mul_comm]
    constructor
    · rintro ⟨d, hd, hcs⟩
      obtain ⟨hc, rfl⟩ := digit?_eq_some_iff.1 hd
      obtain ⟨hcs, hn⟩ := ih.1 hcs
      exact ⟨⟨hc, hcs⟩, hn⟩
    · rintro ⟨⟨hc, hcs⟩, hn⟩
      exact ⟨_, digit?_eq_some_iff.2 ⟨hc, rfl⟩, ih.2 ⟨hcs, hn⟩⟩

theorem digits?_eq_some_iff {n : Nat} {cs : List Char} :
    digits? cs = some n ↔
      cs ≠ [] ∧ (∀ c ∈ cs, c.isDigit = true) ∧ n = Nat.ofDigitChars 10 cs 0 := by
  cases cs with
  | nil => simp [digits?]
  | cons c cs =>
    rw [digits?, appendDigits?_eq_some_iff]
    · exact (and_iff_right (List.cons_ne_nil c cs)).symm
    · exact nofun

/-- One or more digits, with one plus sign before them or without, and the number they denote. -/
inductive Numeral : List Char → Nat → Prop where
  | bare {digits : List Char} (hsome : digits ≠ []) (hall : ∀ c ∈ digits, c.isDigit = true) :
      Numeral digits (Nat.ofDigitChars 10 digits 0)
  | signed {digits : List Char} (hsome : digits ≠ []) (hall : ∀ c ∈ digits, c.isDigit = true) :
      Numeral ('+' :: digits) (Nat.ofDigitChars 10 digits 0)

theorem dropPlus_eq_self {cs : List Char} (h : ∀ c ∈ cs, c.isDigit = true) :
    dropPlus cs = cs := by
  unfold dropPlus
  split
  · exact absurd (h '+' List.mem_cons_self) (by decide)
  · rfl

theorem eq_or_eq_cons_dropPlus (cs : List Char) : cs = dropPlus cs ∨ cs = '+' :: dropPlus cs := by
  unfold dropPlus
  split
  · exact .inr rfl
  · exact .inl rfl

theorem digits?_dropPlus_eq_some_iff {n : Nat} {cs : List Char} :
    digits? (dropPlus cs) = some n ↔ Numeral cs n := by
  rw [digits?_eq_some_iff]
  constructor
  · rintro ⟨hsome, hall, rfl⟩
    rcases eq_or_eq_cons_dropPlus cs with hbare | hsigned
    · rw [← hbare] at hsome hall ⊢
      exact .bare hsome hall
    · generalize dropPlus cs = digits at *
      subst hsigned
      exact .signed hsome hall
  · intro h
    cases h with
    | bare hsome hall =>
      rw [dropPlus_eq_self hall]
      exact ⟨hsome, hall, rfl⟩
    | signed hsome hall => exact ⟨hsome, hall, rfl⟩

theorem natBelow?_eq_some_iff {limit n : Nat} {cs : List Char} :
    natBelow? limit cs = some n ↔ Numeral cs n ∧ n < limit := by
  unfold natBelow?
  rw [Option.bind_eq_some_iff]
  constructor
  · rintro ⟨m, hm, hlt⟩
    split at hlt
    next hbelow =>
      cases hlt
      exact ⟨digits?_dropPlus_eq_some_iff.1 hm, hbelow⟩
    · cases hlt
  · rintro ⟨hn, hbelow⟩
    exact ⟨n, digits?_dropPlus_eq_some_iff.2 hn, if_pos hbelow⟩

/-! ## Writing -/

theorem toList_toString (n : Nat) : (toString n).toList = Nat.toDigits 10 n := by
  rw [Nat.toString_eq_repr, Nat.toList_repr]

theorem numeral_toDigits (n : Nat) : Numeral (Nat.toDigits 10 n) n := by
  have hbare : Numeral (Nat.toDigits 10 n) (Nat.ofDigitChars 10 (Nat.toDigits 10 n) 0) :=
    .bare Nat.toDigits_ne_nil fun _ hc =>
      Nat.isDigit_of_mem_toDigits (by decide) (by decide) hc
  rwa [Nat.ofDigitChars_ten_toDigits] at hbare

theorem digitValue_lt {c : Char} (h : c.isDigit = true) : c.toNat - '0'.toNat < 10 := by
  obtain ⟨-, hmost⟩ := Char.isDigit_iff_toNat.1 h
  have hnine : '9'.toNat = '0'.toNat + 9 := rfl
  omega

theorem digitValue_pos {c : Char} (h : c.isDigit = true) (hne : c ≠ '0') :
    0 < c.toNat - '0'.toNat := by
  obtain ⟨hleast, -⟩ := Char.isDigit_iff_toNat.1 h
  have hne' : c.toNat ≠ '0'.toNat := fun heq => hne (Char.toNat_inj.1 heq)
  omega

theorem digitChar_toNat {c : Char} (h : c.isDigit = true) :
    Nat.digitChar (c.toNat - '0'.toNat) = c := by
  obtain ⟨hleast, -⟩ := Char.isDigit_iff_toNat.1 h
  apply Char.toNat_inj.1
  rw [Nat.toNat_digitChar_of_lt_ten (digitValue_lt h)]
  exact Nat.add_sub_of_le hleast

/-- To append digits to a number that is written already is to write the longer number. -/
theorem toDigits_append {acc : Nat} (hacc : 0 < acc) {cs : List Char}
    (h : ∀ c ∈ cs, c.isDigit = true) :
    Nat.toDigits 10 acc ++ cs = Nat.toDigits 10 (Nat.ofDigitChars 10 cs acc) := by
  induction cs generalizing acc with
  | nil => rw [List.append_nil, Nat.ofDigitChars_nil]
  | cons c cs ih =>
    obtain ⟨hc, hcs⟩ := List.forall_mem_cons.1 h
    have hlt : c.toNat - '0'.toNat < 10 := digitValue_lt hc
    have hone : Nat.toDigits 10 acc ++ [c]
        = Nat.toDigits 10 (10 * acc + (c.toNat - '0'.toNat)) := by
      rw [← Nat.toDigits_append_toDigits (by decide) hacc hlt, Nat.toDigits_of_lt_base hlt,
        digitChar_toNat hc]
    calc Nat.toDigits 10 acc ++ c :: cs = (Nat.toDigits 10 acc ++ [c]) ++ cs := by simp
      _ = Nat.toDigits 10 (10 * acc + (c.toNat - '0'.toNat)) ++ cs := by rw [hone]
      _ = Nat.toDigits 10 (Nat.ofDigitChars 10 (c :: cs) acc) := by
        rw [ih (by omega) hcs, Nat.ofDigitChars_cons]

/-- A numeral without plus signs and leading zeros; a lone zero is kept. -/
def stripped (cs : List Char) : List Char :=
  let digits := (cs.filter (· ≠ '+')).dropWhile (· = '0')
  if digits = [] then ['0'] else digits

/-- Leading zeros say nothing. -/
theorem toDigits_ofDigitChars {cs : List Char} (h : ∀ c ∈ cs, c.isDigit = true) :
    Nat.toDigits 10 (Nat.ofDigitChars 10 cs 0) = stripped cs := by
  have hplain : cs.filter (· ≠ '+') = cs := by
    have hplus : '+' ∉ cs := fun hmem => absurd (h '+' hmem) (by decide)
    apply List.filter_eq_self.2
    exact fun c hc => decide_eq_true (ne_of_mem_of_not_mem hc hplus)
  unfold stripped
  rw [hplain]
  clear hplain
  induction cs with
  | nil => rfl
  | cons c cs ih =>
    obtain ⟨hc, hcs⟩ := List.forall_mem_cons.1 h
    rw [Nat.ofDigitChars_cons, Nat.mul_zero, Nat.zero_add]
    rcases eq_or_ne c '0' with rfl | hne
    · exact ih hcs
    · rw [← toDigits_append (digitValue_pos hc hne) hcs, Nat.toDigits_of_lt_base (digitValue_lt hc),
        digitChar_toNat hc]
      simp [hne]

/-- Whatever a number is read from, it is written without what was too much. -/
theorem Numeral.stripped_eq {cs : List Char} {n : Nat} (h : Numeral cs n) :
    stripped cs = Nat.toDigits 10 n := by
  cases h with
  | bare hsome hall => exact (toDigits_ofDigitChars hall).symm
  | signed hsome hall => exact (toDigits_ofDigitChars hall).symm

/-! ## Padding -/

theorem toList_padded (width n : Nat) :
    (padded width n).toList
      = List.replicate (width - (Nat.toDigits 10 n).length) '0' ++ Nat.toDigits 10 n := by
  unfold padded
  rw [String.toList_append, String.toList_ofList, toList_toString, ← String.length_toList,
    toList_toString]

theorem isDigit_padded {width n : Nat} : ∀ c ∈ (padded width n).toList, c.isDigit = true := by
  intro c hc
  rw [toList_padded] at hc
  rcases List.mem_append.1 hc with hzero | hdigit
  · rw [List.eq_of_mem_replicate hzero]
    rfl
  · exact Nat.isDigit_of_mem_toDigits (by decide) (by decide) hdigit

theorem digits?_padded (width n : Nat) : digits? (padded width n).toList = some n := by
  apply digits?_eq_some_iff.2
  refine ⟨?_, isDigit_padded, ?_⟩
  · rw [toList_padded]
    exact List.append_ne_nil_of_right_ne_nil _ Nat.toDigits_ne_nil
  · rw [toList_padded, Nat.ofDigitChars_append, Nat.ofDigitChars_replicate_zero, Nat.mul_zero,
      Nat.ofDigitChars_ten_toDigits]

theorem length_padded {width n : Nat} (hpos : 0 < width) (hn : n < 10 ^ width) :
    (padded width n).toList.length = width := by
  have hfits : (Nat.toDigits 10 n).length ≤ width :=
    (Nat.length_toDigits_le_iff (by decide) hpos).2 hn
  rw [toList_padded, List.length_append, List.length_replicate]
  exact Nat.sub_add_cancel hfits

end SipDialogs.Text
