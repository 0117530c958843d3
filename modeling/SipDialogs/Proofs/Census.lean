-- SUMMARY: Numbers that are never given out again, and how many dialogs a table has.
import SipDialogs.Proofs.Effects

/-! # Numbers and counts

A bucket never gives a number to two dialogs, so a dialog that was unlinked stays unlinked until it
is restored. The counters of a table agree with how many dialogs it has. -/

namespace SipDialogs

/-! ## Spent numbers -/

namespace Bucket

/-- No new dialog of the bucket gets this number. -/
def Spends (b : Bucket) (id : UInt32) : Prop := id < b.nextId ∨ b.nextId.toNat + 1 = UInt32.size

theorem not_spends_of_freshId? {b : Bucket} {id : UInt32} (h : b.freshId? = some id) :
    ¬b.Spends id := by
  unfold freshId? at h
  split at h
  next hnext =>
    cases h
    rintro (hlt | hlast)
    · exact UInt32.lt_irrefl _ hlt
    · omega
  · cases h

/-- Passing a number spends it, and all that were spent before. -/
theorem spends_passId (b : Bucket) (id : UInt32) : (b.passId id).Spends id := by
  have hid := id.toNat_lt
  have hnext := b.nextId.toNat_lt
  unfold Spends passId
  dsimp only
  simp only [UInt32.lt_iff_toNat_lt, UInt32.size]
  by_cases hlast : id.toNat + 1 < 4294967296
  · have hpast : (id + 1).toNat = id.toNat + 1 := by
      rw [UInt32.toNat_add]
      exact Nat.mod_eq_of_lt hlast
    rw [if_pos hlast, hpast]
    split <;> omega
  · rw [if_neg hlast]
    split <;> omega

theorem Spends.passId {b : Bucket} {id : UInt32} (h : b.Spends id) (id' : UInt32) :
    (b.passId id').Spends id := by
  have hnext := b.nextId.toNat_lt
  unfold Spends at h
  unfold Spends Bucket.passId
  dsimp only
  generalize (if id'.toNat + 1 < UInt32.size then id' + 1 else id') = past
  have hpast := past.toNat_lt
  simp only [UInt32.lt_iff_toNat_lt, UInt32.size] at h ⊢
  split <;> omega

end Bucket

namespace Table

/-- No new dialog of the table gets this key. -/
def Spent (t : Table) (key : Key) : Prop :=
  ∃ b, t.bucket? key.bucket = some b ∧ b.Spends key.localId

variable {t t' : Table} {key : Key}

theorem Spent.modifyBucket (h : t.Spent key) {n : UInt32} {f : Bucket → Bucket}
    (hf : ∀ b : Bucket, b.Spends key.localId → (f b).Spends key.localId) :
    (t.modifyBucket n f).Spent key := by
  obtain ⟨b, hb, hspends⟩ := h
  unfold Spent
  rw [bucket?_modifyBucket]
  split
  next hn =>
    rw [hn, hb]
    exact ⟨f b, rfl, hf b hspends⟩
  next => exact ⟨b, hb, hspends⟩

theorem Spent.put (h : t.Spent key) (d : Dialog) : (t.put d).Spent key :=
  h.modifyBucket fun _ hspends => hspends

theorem Spent.erase (h : t.Spent key) (key' : Key) : (t.erase key').Spent key :=
  h.modifyBucket fun _ hspends => hspends

theorem Spent.count (h : t.Spent key) (f : Counters → Counters) : (t.count f).Spent key := h

@[simp] theorem size_modifyBucket (t : Table) (n : UInt32) (f : Bucket → Bucket) :
    (t.modifyBucket n f).size = t.size := by
  unfold modifyBucket
  split <;> rfl

@[simp] theorem size_put (t : Table) (d : Dialog) : (t.put d).size = t.size :=
  size_modifyBucket ..

@[simp] theorem size_erase (t : Table) (key : Key) : (t.erase key).size = t.size :=
  size_modifyBucket ..

@[simp] theorem size_count (t : Table) (f : Counters → Counters) : (t.count f).size = t.size := rfl

@[simp] theorem counters_modifyBucket (t : Table) (n : UInt32) (f : Bucket → Bucket) :
    (t.modifyBucket n f).counters = t.counters := by
  unfold modifyBucket
  split <;> rfl

@[simp] theorem counters_put (t : Table) (d : Dialog) : (t.put d).counters = t.counters :=
  counters_modifyBucket ..

@[simp] theorem counters_erase (t : Table) (key : Key) : (t.erase key).counters = t.counters :=
  counters_modifyBucket ..

@[simp] theorem counters_count (t : Table) (f : Counters → Counters) :
    (t.count f).counters = f t.counters := rfl

/-! ## Linking -/

/-- What linking a dialog does to the numbers and the counters of its table. -/
structure Enters (t : Table) (d : Dialog) (t' : Table) : Prop where
  links : t.Links d t'
  size : t'.size = t.size
  counters : t'.counters = { t.counters with created := t.counters.created + 1 }
  spent : ∀ key, t.Spent key → t'.Spent key
  spends : t'.Spent d.key

theorem enters_modifyBucket {d : Dialog} {b : Bucket} (hb : t.bucket? d.key.bucket = some b)
    (hfresh : b.contains d.key.localId = false) :
    t.Enters d
      (t.modifyBucket d.key.bucket fun b => (b.put d).passId d.key.localId).countCreated where
  links := links_modifyBucket hb hfresh
  size := by
    unfold countCreated
    rw [size_count, size_modifyBucket]
  counters := by
    unfold countCreated
    rw [counters_count, counters_modifyBucket]
  spent := by
    intro key hspent
    refine Spent.count (Spent.modifyBucket hspent ?_) _
    intro c hspends
    have hput : (c.put d).Spends key.localId := hspends
    exact hput.passId d.key.localId
  spends := by
    refine Spent.count ?_ _
    refine ⟨(b.put d).passId d.key.localId, ?_, Bucket.spends_passId _ _⟩
    rw [bucket?_modifyBucket, if_pos rfl, hb, Option.map_some]

/-- A new dialog goes to its home bucket, under a number that was never given out. -/
theorem insert_enters {identity : Identity} {holders : Nat} {start : Timestamp} {d : Dialog}
    (h : t.insert identity holders start = .ok (d, t')) :
    t.Enters d t' ∧ ¬t.Spent d.key ∧ d.key.bucket = t.home identity.callId identity.fromTag := by
  unfold insert at h
  dsimp only at h
  split at h
  · cases h
  next id hid =>
    cases h
    obtain ⟨b, hb, hfresh⟩ := Option.bind_eq_some_iff.1 hid
    refine ⟨?_, ?_, rfl⟩
    · have hfree : b.contains id = false := by
        unfold Bucket.freshId? at hfresh
        split at hfresh
        next hnext =>
          cases hfresh
          simpa using hnext.2
        · cases hfresh
      exact enters_modifyBucket (d := Dialog.create ⟨_, id⟩ _ _ _ _) hb hfree
    · rintro ⟨c, hc, hspends⟩
      obtain rfl : b = c := Option.some.inj (hb.symm.trans hc)
      exact Bucket.not_spends_of_freshId? hfresh hspends

theorem restore_enters {s : Snapshot} {d : Dialog} (h : t.restore s = .ok (d, t')) :
    t.Enters d t' := by
  unfold restore at h
  split at h
  · cases h
  next b hb =>
    split at h
    · cases h
    next hfresh =>
      cases h
      have hfree : b.contains s.key.localId = false := by simpa using hfresh
      exact enters_modifyBucket (d := Dialog.ofSnapshot s) hb hfree

/-! ## How many dialogs there are -/

/-- One more dialog under a key where there was none is one more in all. -/
theorem Wf.length_dialogs_of_added (h : t.Wf) (h' : t'.Wf) {d : Dialog}
    (hfresh : t.find? d.key = none)
    (hfind : ∀ key, t'.find? key = if key = d.key then some d else t.find? key) :
    t'.dialogs.length = t.dialogs.length + 1 := by
  have hothers : t.dialogs.filter (·.key ≠ d.key) = t.dialogs := by
    refine List.filter_eq_self.2 fun e he => ?_
    have hfound : t.find? e.key = some e := h.mem_dialogs.1 he
    simp only [decide_eq_true_eq]
    intro hkey
    rw [hkey, hfresh] at hfound
    cases hfound
  have hperm := h.dialogs_perm_of_find?_eq h' hfind
  rw [hothers] at hperm
  exact hperm.length_eq

@[simp] theorem dialogs_count (t : Table) (f : Counters → Counters) :
    (t.count f).dialogs = t.dialogs := rfl

theorem counters_create {size timeout : UInt32} (h : create size timeout = .ok t) :
    t.counters = {} := by
  unfold create at h
  split at h
  · cases h
  · generalize LockSet.build _ _ = built at h
    cases built with
    | error e => cases h
    | ok stripes =>
      cases h
      rfl

end Table

end SipDialogs
