-- SUMMARY: What a table holds: how each operation changes what is found under each key.
import SipDialogs.Proofs.Ordered
import SipDialogs.Table.Lookup
import Mathlib.Data.List.Basic
import Mathlib.Data.List.Nodup

/-! # Contents of a table

A table is looked at through `find?`: which dialog stands under which key. The operations put,
unlink and link single dialogs, and leave everything under the other keys as it was. -/

namespace SipDialogs

/-! ## Stripes -/

namespace LockSet

variable {β : Type}

/-- What stands in the place of a bucket. -/
def slot? (s : LockSet (Array β)) (bucket : Nat) : Option β :=
  (s.stripe? bucket).bind fun stripe => stripe[s.slotIndex bucket]?

/-- Two buckets behind one lock have different places. -/
theorem slotIndex_ne (s : LockSet (Array β)) {b c : Nat} (hne : b ≠ c)
    (hlock : s.lockIndex b = s.lockIndex c) : s.slotIndex b ≠ s.slotIndex c := by
  intro hslot
  simp only [lockIndex, slotIndex] at hlock hslot
  refine hne ?_
  calc b = s.size * (b / s.size) + b % s.size := (Nat.div_add_mod b s.size).symm
    _ = s.size * (c / s.size) + c % s.size := by rw [hlock, hslot]
    _ = c := Nat.div_add_mod c s.size

theorem slot?_modify (s : LockSet (Array β)) (b c : Nat) (f : β → β) :
    (s.modify b (·.modify (s.slotIndex b) f)).slot? c
      = if b = c then (s.slot? b).map f else s.slot? c := by
  simp only [slot?, stripe?, modify, lockIndex, slotIndex, size, Array.size_modify,
    Array.getElem?_modify]
  by_cases hlock : s.lockIndex b = s.lockIndex c
  · simp only [lockIndex, size] at hlock
    simp only [hlock, if_true]
    cases s.stripes[c % s.stripes.size]? with
    | none => simp
    | some stripe =>
      by_cases hbc : b = c
      · simp [hbc, Array.getElem?_modify]
      · have hslot : b / s.stripes.size ≠ c / s.stripes.size := slotIndex_ne s hbc hlock
        simp [hbc, hslot, Array.getElem?_modify]
  · have hbc : b ≠ c := fun h => hlock (h ▸ rfl)
    simp only [lockIndex, size] at hlock
    simp [hlock, hbc]

/-- The lengths of the stripes, lock by lock. -/
def shape (s : LockSet (Array β)) : List Nat := s.stripes.toList.map Array.size

theorem shape_modify (s : LockSet (Array β)) (b slot : Nat) (f : β → β) :
    (s.modify b (·.modify slot f)).shape = s.shape := by
  unfold shape modify
  refine List.ext_getElem? fun lock => ?_
  simp only [Array.toList_modify, List.getElem?_map, List.getElem?_modify]
  cases s.stripes.toList[lock]? with
  | none => rfl
  | some stripe => split <;> simp

end LockSet

/-! ## Buckets -/

namespace Bucket

theorem find?_put (b : Bucket) (d : Dialog) (id : UInt32) :
    (b.put d).find? id = if id = d.key.localId then some d else b.find? id :=
  Ordered.find?_insert (fun d : Dialog => d.key.localId) Ordered.isStrict_word d b.dialogs id

theorem find?_erase (b : Bucket) (id id' : UInt32) :
    (b.erase id).find? id' = if id' = id then none else b.find? id' := by
  simp only [find?, erase, List.find?_filter]
  by_cases h : id' = id
  · simp [h]
  · rw [if_neg h]
    congr 1
    funext d
    by_cases hd : d.key.localId = id'
    · simp [hd, h]
    · simp [hd]

@[simp] theorem find?_passId (b : Bucket) (id id' : UInt32) :
    (b.passId id).find? id' = b.find? id' := rfl

@[simp] theorem dialogs_passId (b : Bucket) (id : UInt32) :
    (b.passId id).dialogs = b.dialogs := rfl

/-- Bucket `n` of a table holds dialogs of bucket `n`, in ascending order of their numbers. -/
structure Wf (n : UInt32) (b : Bucket) : Prop where
  bucket : ∀ d ∈ b.dialogs, d.key.bucket = n
  sorted : b.dialogs.Pairwise fun d e => decide (d.key.localId < e.key.localId) = true

theorem wf_empty (n : UInt32) : Wf n {} where
  bucket := by simp
  sorted := by simp

theorem Wf.put {n : UInt32} {b : Bucket} {d : Dialog} (h : b.Wf n) (hd : d.key.bucket = n) :
    (b.put d).Wf n where
  bucket := by
    intro e he
    rcases Ordered.mem_insert (fun d : Dialog => d.key.localId)
      (fun a b : UInt32 => decide (a < b)) he with rfl | he
    · exact hd
    · exact h.bucket e he
  sorted := Ordered.pairwise_insert (fun d : Dialog => d.key.localId)
    Ordered.isStrict_word h.sorted

theorem Wf.erase {n : UInt32} {b : Bucket} (h : b.Wf n) (id : UInt32) : (b.erase id).Wf n where
  bucket := fun d hd => h.bucket d (List.mem_filter.1 hd).1
  sorted := h.sorted.filter _

theorem Wf.passId {n : UInt32} {b : Bucket} (h : b.Wf n) (id : UInt32) : (b.passId id).Wf n where
  bucket := h.bucket
  sorted := h.sorted

theorem Wf.find?_eq_some_iff {n : UInt32} {b : Bucket} (h : b.Wf n) {id : UInt32} {d : Dialog} :
    b.find? id = some d ↔ d ∈ b.dialogs ∧ d.key.localId = id :=
  Ordered.find?_eq_some_iff (fun d : Dialog => d.key.localId) Ordered.isStrict_word h.sorted

end Bucket

/-! ## Tables -/

namespace Table

theorem bucket?_modifyBucket (t : Table) (b c : UInt32) (f : Bucket → Bucket) :
    (t.modifyBucket b f).bucket? c = if b = c then (t.bucket? b).map f else t.bucket? c := by
  unfold modifyBucket
  split
  next hb =>
    have hslot := LockSet.slot?_modify t.stripes b.toNat c.toNat f
    simp only [UInt32.toNat_inj] at hslot
    simp only [LockSet.slot?] at hslot
    simp only [bucket?, hslot]
    by_cases hbc : b = c
    · subst hbc
      simp [hb]
    · simp [hbc]
  next hb =>
    by_cases hbc : b = c
    · subst hbc
      simp [bucket?, hb]
    · simp [hbc]

theorem find?_modifyBucket (t : Table) (n : UInt32) (f : Bucket → Bucket) (key : Key) :
    (t.modifyBucket n f).find? key
      = if n = key.bucket then (t.bucket? n).bind fun b => (f b).find? key.localId
        else t.find? key := by
  simp only [find?, bucket?_modifyBucket]
  split
  · rw [Option.bind_map]
    rfl
  · rfl

/-- In a bucket of its own, a dialog is told by its number. -/
theorem localId_eq_iff {key key' : Key} (h : key.bucket = key'.bucket) :
    key'.localId = key.localId ↔ key' = key := by
  obtain ⟨b, i⟩ := key
  obtain ⟨b', i'⟩ := key'
  obtain rfl : b = b' := h
  simp

/-- A dialog that is put under a key of an existing bucket is found there, and nothing else
changes. -/
theorem find?_put {t : Table} {d : Dialog} (h : (t.bucket? d.key.bucket).isSome) (key : Key) :
    (t.put d).find? key = if key = d.key then some d else t.find? key := by
  obtain ⟨b, hb⟩ := Option.isSome_iff_exists.1 h
  rw [put, find?_modifyBucket]
  split
  next hbucket =>
    rw [hbucket] at hb
    simp only [find?, hbucket, hb, Option.bind_some, Bucket.find?_put, localId_eq_iff hbucket]
  next hbucket =>
    have hne : key ≠ d.key := fun heq => hbucket (heq ▸ rfl)
    simp [if_neg hne]

theorem bucket?_isSome_of_find? {t : Table} {key : Key} {d : Dialog} (h : t.find? key = some d) :
    (t.bucket? key.bucket).isSome := by
  cases hb : t.bucket? key.bucket with
  | none => simp [find?, hb] at h
  | some b => rfl

theorem find?_put_of_linked {t : Table} {d e : Dialog} (h : t.find? d.key = some e) (key : Key) :
    (t.put d).find? key = if key = d.key then some d else t.find? key :=
  find?_put (bucket?_isSome_of_find? h) key

theorem find?_erase (t : Table) (key key' : Key) :
    (t.erase key).find? key' = if key' = key then none else t.find? key' := by
  rw [erase, find?_modifyBucket]
  split
  next hbucket =>
    simp only [find?, hbucket, Bucket.find?_erase, localId_eq_iff hbucket]
    cases t.bucket? key'.bucket with
    | none => simp
    | some b => rfl
  next hbucket =>
    have hne : key' ≠ key := fun heq => hbucket (heq ▸ rfl)
    simp [if_neg hne]

/-! Counters are not contents. -/

@[simp] theorem find?_countCreated (t : Table) : t.countCreated.find? = t.find? := rfl

@[simp] theorem find?_countDestroyed (t : Table) : t.countDestroyed.find? = t.find? := rfl

@[simp] theorem find?_countInvalid (t : Table) : t.countInvalid.find? = t.find? := rfl

@[simp] theorem find?_countAnomaly (t : Table) : t.countAnomaly.find? = t.find? := rfl

/-- The anomalies counted so far. -/
def anomalies (t : Table) : Nat := t.counters.refAnomalies

@[simp] theorem anomalies_modifyBucket (t : Table) (b : UInt32) (f : Bucket → Bucket) :
    (t.modifyBucket b f).anomalies = t.anomalies := by
  unfold modifyBucket
  split <;> rfl

@[simp] theorem anomalies_put (t : Table) (d : Dialog) : (t.put d).anomalies = t.anomalies :=
  anomalies_modifyBucket ..

@[simp] theorem anomalies_erase (t : Table) (key : Key) :
    (t.erase key).anomalies = t.anomalies :=
  anomalies_modifyBucket ..

@[simp] theorem anomalies_countCreated (t : Table) : t.countCreated.anomalies = t.anomalies := rfl

@[simp] theorem anomalies_countDestroyed (t : Table) :
    t.countDestroyed.anomalies = t.anomalies := rfl

@[simp] theorem anomalies_countInvalid (t : Table) : t.countInvalid.anomalies = t.anomalies := rfl

@[simp] theorem anomalies_countAnomaly (t : Table) :
    t.countAnomaly.anomalies = t.anomalies + 1 := rfl

/-- The number of buckets, and how many of them each lock guards. -/
def shape (t : Table) : UInt32 × List Nat := (t.size, t.stripes.shape)

@[simp] theorem shape_modifyBucket (t : Table) (b : UInt32) (f : Bucket → Bucket) :
    (t.modifyBucket b f).shape = t.shape := by
  unfold modifyBucket
  split
  · exact congrArg (Prod.mk t.size) (LockSet.shape_modify ..)
  · rfl

@[simp] theorem shape_put (t : Table) (d : Dialog) : (t.put d).shape = t.shape :=
  shape_modifyBucket ..

@[simp] theorem shape_erase (t : Table) (key : Key) : (t.erase key).shape = t.shape :=
  shape_modifyBucket ..

@[simp] theorem shape_count (t : Table) (f : Counters → Counters) : (t.count f).shape = t.shape :=
  rfl

/-! ### Well-formed tables -/

/-- Every bucket holds its own dialogs, in order. -/
def Wf (t : Table) : Prop := ∀ n b, t.bucket? n = some b → b.Wf n

theorem Wf.modifyBucket {t : Table} (h : t.Wf) {n : UInt32} {f : Bucket → Bucket}
    (hf : ∀ b : Bucket, b.Wf n → (f b).Wf n) : (t.modifyBucket n f).Wf := by
  intro m b hb
  rw [bucket?_modifyBucket] at hb
  split at hb
  next hnm =>
    subst hnm
    obtain ⟨c, hc, rfl⟩ := Option.map_eq_some_iff.1 hb
    exact hf c (h n c hc)
  next => exact h m b hb

theorem Wf.put {t : Table} (h : t.Wf) (d : Dialog) : (t.put d).Wf :=
  h.modifyBucket fun _ hb => hb.put rfl

theorem Wf.erase {t : Table} (h : t.Wf) (key : Key) : (t.erase key).Wf :=
  h.modifyBucket fun _ hb => hb.erase _

theorem Wf.count {t : Table} (h : t.Wf) (f : Counters → Counters) : (t.count f).Wf := h

theorem Wf.key_of_find? {t : Table} (h : t.Wf) {key : Key} {d : Dialog}
    (hd : t.find? key = some d) : d.key = key := by
  obtain ⟨b, hb, hfind⟩ := Option.bind_eq_some_iff.1 hd
  obtain ⟨hmem, hid⟩ := (h _ b hb).find?_eq_some_iff.1 hfind
  obtain ⟨kb, ki⟩ := key
  have hbucket : d.key.bucket = kb := (h _ b hb).bucket d hmem
  have hlocal : d.key.localId = ki := hid
  simp [← hbucket, ← hlocal]

/-! ### All dialogs -/

theorem mem_buckets {t : Table} {b : Bucket} :
    b ∈ t.buckets ↔ ∃ n, t.bucket? n = some b := by
  simp only [buckets, List.mem_filterMap, List.mem_range]
  constructor
  · rintro ⟨n, -, hb⟩
    exact ⟨_, hb⟩
  · rintro ⟨n, hb⟩
    have hn : n < t.size := by
      by_contra hn
      simp [bucket?, hn] at hb
    exact ⟨n.toNat, UInt32.lt_iff_toNat_lt.1 hn, by simpa using hb⟩

/-- The list of all dialogs and the search by key show the same dialogs. -/
theorem Wf.mem_dialogs {t : Table} (h : t.Wf) {d : Dialog} :
    d ∈ t.dialogs ↔ t.find? d.key = some d := by
  simp only [dialogs, List.mem_flatMap, mem_buckets]
  constructor
  · rintro ⟨b, ⟨n, hb⟩, hd⟩
    have hn : d.key.bucket = n := (h n b hb).bucket d hd
    rw [find?, hn, hb]
    exact (h n b hb).find?_eq_some_iff.2 ⟨hd, rfl⟩
  · intro hfind
    obtain ⟨b, hb, hfind⟩ := Option.bind_eq_some_iff.1 hfind
    exact ⟨b, ⟨_, hb⟩, List.mem_of_find?_eq_some hfind⟩

theorem Wf.dialogs_pairwise {t : Table} (h : t.Wf) :
    t.dialogs.Pairwise fun d e => d.key ≠ e.key := by
  simp only [dialogs, List.pairwise_flatMap]
  constructor
  · intro b hb
    obtain ⟨n, hb⟩ := mem_buckets.1 hb
    refine (h n b hb).sorted.imp fun hlt heq => ?_
    simp [heq] at hlt
  · rw [buckets, List.pairwise_filterMap]
    refine List.nodup_range.imp_of_mem fun hm hn hne => ?_
    intro b hb c hc d hd e he heq
    have hbm := (h _ b hb).bucket d hd
    have hcn := (h _ c hc).bucket e he
    refine hne ?_
    rw [heq, hcn] at hbm
    rw [List.mem_range] at hm hn
    have := congrArg UInt32.toNat hbm
    simp only [UInt32.toNat_ofNat'] at this
    have := t.size.toNat_lt
    omega

theorem Wf.nodup_dialogs {t : Table} (h : t.Wf) : t.dialogs.Nodup := by
  refine h.dialogs_pairwise.imp ?_
  rintro d e hne rfl
  exact hne rfl

/-- The other dialogs of a table stay when one of them is put. -/
theorem Wf.dialogs_perm_of_find?_eq {t t' : Table} (h : t.Wf) (h' : t'.Wf) {d : Dialog}
    (hfind : ∀ key, t'.find? key = if key = d.key then some d else t.find? key) :
    t'.dialogs.Perm (d :: t.dialogs.filter (·.key ≠ d.key)) := by
  refine (List.perm_ext_iff_of_nodup h'.nodup_dialogs ?_).2 fun e => ?_
  · refine List.nodup_cons.2 ⟨fun hd => ?_, h.nodup_dialogs.filter _⟩
    simpa using (List.mem_filter.1 hd).2
  · rw [h'.mem_dialogs, hfind, List.mem_cons, List.mem_filter, h.mem_dialogs]
    by_cases he : e.key = d.key
    · simp only [he, if_true, Option.some.injEq, ne_eq, not_true, decide_false, and_false,
        or_false, Bool.false_eq_true]
      exact eq_comm
    · have hne : e ≠ d := fun heq => he (heq ▸ rfl)
      simp [he, hne]

end Table

end SipDialogs
