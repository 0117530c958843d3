-- SUMMARY: Laws of insertion into an ascending list: what is found then, and that it stays so.
import SipDialogs.Ordered
import SipDialogs.Key

/-! # Laws of ordered insertion

Lists are ordered by a key of their items. Searching by key sees an inserted item and nothing else
that is new, whether or not the list was ascending; an ascending list stays so. -/

namespace SipDialogs.Ordered

/-- A strict order that tells any two distinct keys apart. -/
structure IsStrict (lt : κ → κ → Bool) : Prop where
  irrefl : ∀ a, lt a a = false
  trans : ∀ {a b c}, lt a b = true → lt b c = true → lt a c = true
  connected : ∀ {a b}, lt a b = false → lt b a = false → a = b

/-- Inserting goes along with a map that keeps the order. -/
theorem map_insert {α β : Type} {before : α → α → Bool} {before' : β → β → Bool} {f : α → β}
    (hf : ∀ a b, before' (f a) (f b) = before a b) (a : α) (l : List α) :
    (insert before a l).map f = insert before' (f a) (l.map f) := by
  induction l with
  | nil => rfl
  | cons b bs ih =>
    rw [insert, apply_ite (List.map f), apply_ite (List.map f)]
    simp only [List.map_cons, insert, hf, ih]

section

variable {α κ : Type} {lt : κ → κ → Bool} (key : α → κ)

/-- A search by key after an insertion finds the new item at its key, and at every other key what
it found before. -/
theorem find?_insert [DecidableEq κ] (hlt : IsStrict lt) (a : α) (l : List α) (k : κ) :
    (insert (fun a b => lt (key a) (key b)) a l).find? (fun b => key b == k)
      = if k = key a then some a else l.find? (fun b => key b == k) := by
  induction l with
  | nil =>
    by_cases hk : k = key a
    · simp [insert, hk]
    · simp [insert, hk, Ne.symm hk]
  | cons b bs ih =>
    rw [insert]
    split
    · by_cases hk : k = key a
      · simp [hk]
      · simp [hk, Ne.symm hk]
    next hab =>
      split
      next hba =>
        have hne : (key b == key a) = false := by
          apply beq_false_of_ne
          intro heq
          rw [heq, hlt.irrefl] at hba
          cases hba
        rw [List.find?_cons, List.find?_cons, ih]
        by_cases hk : k = key a
        · subst hk
          simp [hne]
        · simp [hk]
      next hba =>
        have heq : key a = key b := hlt.connected (by simpa using hab) (by simpa using hba)
        by_cases hk : k = key a
        · simp [hk]
        · simp [hk, Ne.symm hk, ← heq]

theorem mem_insert (lt : κ → κ → Bool) {a x : α} {l : List α}
    (h : x ∈ insert (fun a b => lt (key a) (key b)) a l) : x = a ∨ x ∈ l := by
  induction l with
  | nil => simpa [insert] using h
  | cons b bs ih =>
    rw [insert] at h
    split at h
    · simpa using h
    · split at h
      · rcases List.mem_cons.1 h with rfl | h
        · simp
        · rcases ih h with h | h <;> simp [h]
      · rcases List.mem_cons.1 h with rfl | h <;> simp [*]

theorem pairwise_insert (hlt : IsStrict lt) {a : α} {l : List α}
    (h : l.Pairwise fun a b => lt (key a) (key b) = true) :
    (insert (fun a b => lt (key a) (key b)) a l).Pairwise
      fun a b => lt (key a) (key b) = true := by
  induction l with
  | nil => simp [insert]
  | cons b bs ih =>
    obtain ⟨hb, hbs⟩ := List.pairwise_cons.1 h
    rw [insert]
    split
    next hab =>
      refine List.pairwise_cons.2 ⟨fun c hc => ?_, h⟩
      rcases List.mem_cons.1 hc with rfl | hc
      · exact hab
      · exact hlt.trans hab (hb c hc)
    next hab =>
      split
      next hba =>
        refine List.pairwise_cons.2 ⟨fun c hc => ?_, ih hbs⟩
        rcases mem_insert key lt hc with rfl | hc
        · exact hba
        · exact hb c hc
      next hba =>
        have heq : key a = key b := hlt.connected (by simpa using hab) (by simpa using hba)
        exact List.pairwise_cons.2 ⟨fun c hc => heq ▸ hb c hc, hbs⟩

/-- In an ascending list there is one item for each key. -/
theorem find?_eq_some_iff [DecidableEq κ] (hlt : IsStrict lt) {l : List α}
    (h : l.Pairwise fun a b => lt (key a) (key b) = true) {k : κ} {a : α} :
    l.find? (fun b => key b == k) = some a ↔ a ∈ l ∧ key a = k := by
  constructor
  · intro hfind
    exact ⟨List.mem_of_find?_eq_some hfind, by simpa using List.find?_some hfind⟩
  · rintro ⟨ha, rfl⟩
    induction l with
    | nil => cases ha
    | cons b bs ih =>
      obtain ⟨hb, hbs⟩ := List.pairwise_cons.1 h
      rcases List.mem_cons.1 ha with rfl | ha
      · simp
      · have hne : (key b == key a) = false := by
          apply beq_false_of_ne
          intro heq
          have := hb a ha
          rw [heq, hlt.irrefl] at this
          cases this
        rw [List.find?_cons, hne]
        exact ih hbs ha

end

/-! ## The orders in use -/

theorem isStrict_word : IsStrict fun a b : UInt32 => decide (a < b) where
  irrefl a := by simp
  trans hab hbc := by
    simp only [decide_eq_true_eq] at hab hbc ⊢
    exact UInt32.lt_trans hab hbc
  connected hab hba := by
    simp only [decide_eq_false_iff_not, UInt32.not_lt] at hab hba
    exact UInt32.le_antisymm hba hab

theorem isStrict_key : IsStrict Key.lt where
  irrefl a := by simp [Key.lt]
  trans := by
    intro a b c hab hbc
    simp only [Key.lt, Bool.or_eq_true, Bool.and_eq_true, decide_eq_true_eq, beq_iff_eq,
      UInt32.lt_iff_toNat_lt, ← UInt32.toNat_inj] at hab hbc ⊢
    omega
  connected := by
    intro a b hab hba
    obtain ⟨ab, ai⟩ := a
    obtain ⟨bb, bi⟩ := b
    simp only [Key.lt, Bool.or_eq_false_iff, Bool.and_eq_false_iff, decide_eq_false_iff_not,
      beq_eq_false_iff_ne, ne_eq, UInt32.lt_iff_toNat_lt, ← UInt32.toNat_inj, Key.mk.injEq]
      at hab hba ⊢
    omega

end SipDialogs.Ordered
