-- SUMMARY: The texts that name keys, and the one among them that each key is written as.
import SipDialogs.Fault
import SipDialogs.Proofs.Decimals
import Mathlib.Data.List.TakeDrop
import Mathlib.Data.List.TakeWhile

/-! # Texts of keys

A key is written as two numbers with a point between them. It is read from more texts than that:
each number may have a plus sign and leading zeros. There is no point in a number, so the first
point of a text is the only place to split it at. -/

namespace SipDialogs

namespace Text

theorem Numeral.point_notMem {cs : List Char} {n : Nat} (h : Numeral cs n) : '.' ∉ cs := by
  intro hmem
  cases h with
  | bare hsome hall => exact absurd (hall '.' hmem) (by decide)
  | signed hsome hall =>
    rcases List.mem_cons.1 hmem with heq | hmem
    · exact absurd heq (by decide)
    · exact absurd (hall '.' hmem) (by decide)

/-- A text is split at its first point, which is not kept. -/
theorem split_at_point {front : List Char} (h : '.' ∉ front) (back : List Char) :
    (front ++ '.' :: back).takeWhile (· ≠ '.') = front ∧
      (front ++ '.' :: back).dropWhile (· ≠ '.') = '.' :: back := by
  have hfront : ∀ c ∈ front, decide (c ≠ '.') = true :=
    fun c hc => decide_eq_true (ne_of_mem_of_not_mem hc h)
  constructor
  · rw [List.takeWhile_append_of_pos hfront, List.takeWhile_cons_of_neg (by simp),
      List.append_nil]
  · rw [List.dropWhile_append_of_pos hfront, List.dropWhile_cons_of_neg (by simp)]

end Text

namespace Key

/-! ## Reading -/

/-- A text of two numerals, with a point between them, and what they denote. -/
def Spelled (s : String) (bucket localId : Nat) : Prop :=
  ∃ front back, s.toList = front ++ '.' :: back ∧
    Text.Numeral front bucket ∧ Text.Numeral back localId

theorem part?_eq_some_iff {cs : List Char} {w : UInt32} :
    part? cs = some w ↔ Text.Numeral cs w.toNat := by
  unfold part?
  rw [Option.map_eq_some_iff]
  constructor
  · rintro ⟨n, hn, rfl⟩
    obtain ⟨hnumeral, hlt⟩ := Text.natBelow?_eq_some_iff.1 hn
    rwa [UInt32.toNat_ofNat_of_lt' hlt]
  · intro h
    exact ⟨w.toNat, Text.natBelow?_eq_some_iff.2 ⟨h, w.toNat_lt⟩, UInt32.ofNat_toNat⟩

theorem parse?_of_point {s : String} {front back : List Char}
    (hs : s.toList = front ++ '.' :: back) (h : '.' ∉ front) :
    parse? s = (part? front).bind fun bucket => (part? back).map (Key.mk bucket) := by
  obtain ⟨htake, hdrop⟩ := Text.split_at_point h back
  unfold parse?
  rw [List.span_eq_takeWhile_dropWhile, hs, htake, hdrop]
  cases hfront : part? front with
  | none => simp [hfront]
  | some bucket => cases hback : part? back <;> simp [hfront, hback]

theorem parse?_of_no_point {s : String} (h : '.' ∉ s.toList) : parse? s = none := by
  have hdrop : s.toList.dropWhile (· ≠ '.') = [] := by
    apply List.dropWhile_eq_nil_iff.2
    exact fun c hc => decide_eq_true (ne_of_mem_of_not_mem hc h)
  unfold parse?
  rw [List.span_eq_takeWhile_dropWhile, hdrop]

theorem parse?_eq_some_iff {s : String} {k : Key} :
    parse? s = some k ↔ Spelled s k.bucket.toNat k.localId.toNat := by
  constructor
  · intro h
    by_cases hpoint : '.' ∈ s.toList
    · obtain ⟨front, back, hs, hfront⟩ := List.eq_append_cons_of_mem hpoint
      rw [parse?_of_point hs hfront] at h
      obtain ⟨bucket, hbucket, h⟩ := Option.bind_eq_some_iff.1 h
      obtain ⟨localId, hlocal, rfl⟩ := Option.map_eq_some_iff.1 h
      exact ⟨front, back, hs, part?_eq_some_iff.1 hbucket, part?_eq_some_iff.1 hlocal⟩
    · cases (parse?_of_no_point hpoint).symm.trans h
  · rintro ⟨front, back, hs, hfront, hback⟩
    rw [parse?_of_point hs hfront.point_notMem, part?_eq_some_iff.2 hfront,
      part?_eq_some_iff.2 hback]
    rfl

theorem parse_eq_ok_iff {s : String} {k : Key} :
    parse s = .ok k ↔ Spelled s k.bucket.toNat k.localId.toNat := by
  rw [← parse?_eq_some_iff]
  unfold parse
  cases parse? s with
  | none => simp
  | some k' => simp

/-! ## Writing -/

theorem toList_render (k : Key) :
    k.render.toList = Nat.toDigits 10 k.bucket.toNat ++ '.' :: Nat.toDigits 10 k.localId.toNat := by
  unfold render
  rw [String.toList_append, String.toList_append, Text.toList_toString, Text.toList_toString,
    List.append_assoc]
  rfl

theorem render_spelled (k : Key) : Spelled k.render k.bucket.toNat k.localId.toNat :=
  ⟨_, _, k.toList_render, Text.numeral_toDigits _, Text.numeral_toDigits _⟩

theorem parse_render (k : Key) : parse k.render = .ok k := parse_eq_ok_iff.2 k.render_spelled

theorem render_injective {k k' : Key} (h : k.render = k'.render) : k = k' := by
  have hparse : parse k.render = .ok k' := by rw [h, parse_render]
  exact Except.ok.inj ((parse_render k).symm.trans hparse)

/-- The text with its plus signs and leading zeros removed, on both sides of its point. -/
def normalized (s : String) : String :=
  String.ofList (Text.stripped (s.toList.takeWhile (· ≠ '.')) ++
    '.' :: Text.stripped ((s.toList.dropWhile (· ≠ '.')).drop 1))

theorem render_eq_normalized {s : String} {k : Key} (h : parse s = .ok k) :
    k.render = normalized s := by
  obtain ⟨front, back, hs, hfront, hback⟩ := parse_eq_ok_iff.1 h
  obtain ⟨htake, hdrop⟩ := Text.split_at_point hfront.point_notMem back
  apply String.toList_injective
  rw [toList_render, normalized, String.toList_ofList, hs, htake, hdrop, hfront.stripped_eq,
    List.drop_one, List.tail_cons, hback.stripped_eq]

/-- A key is read from the texts that spell two words, and refused with its text otherwise. It is
written as the shortest of them, and all others are that text but for what is too much in them. -/
theorem parse_exact :
    (∀ s, (∃ k, parse s = .ok k) ↔ ∃ m n, Spelled s m n ∧ m < 2 ^ 32 ∧ n < 2 ^ 32) ∧
    (∀ s k, parse s = .ok k ↔ Spelled s k.bucket.toNat k.localId.toNat) ∧
    (∀ s, (¬∃ k, parse s = .ok k) → parse s = .error (.invalidKey s)) ∧
    (∀ k : Key, parse k.render = .ok k) ∧
    (∀ s k, parse s = .ok k → k.render = normalized s) ∧
    ∀ s s' k k', parse s = .ok k → parse s' = .ok k' → (k = k' ↔ normalized s = normalized s') := by
  refine ⟨fun s => ?_, fun s k => parse_eq_ok_iff, fun s hnone => ?_, parse_render,
    fun s k => render_eq_normalized, fun s s' k k' hk hk' => ?_⟩
  · constructor
    · rintro ⟨k, hk⟩
      exact ⟨_, _, parse_eq_ok_iff.1 hk, k.bucket.toNat_lt, k.localId.toNat_lt⟩
    · rintro ⟨m, n, hspelled, hm, hn⟩
      refine ⟨⟨UInt32.ofNat m, UInt32.ofNat n⟩, parse_eq_ok_iff.2 ?_⟩
      rwa [UInt32.toNat_ofNat_of_lt' hm, UInt32.toNat_ofNat_of_lt' hn]
  · unfold parse at hnone ⊢
    cases hparse : parse? s with
    | none => rfl
    | some k => exact absurd ⟨k, by rw [hparse]⟩ hnone
  · rw [← render_eq_normalized hk, ← render_eq_normalized hk']
    exact ⟨congrArg render, render_injective⟩

example : (parse "+007.0").toOption = some ⟨7, 0⟩ ∧ normalized "+007.0" = "7.0" := by decide

end Key

end SipDialogs
