-- SUMMARY: The numbers that buckets give to dialogs, and the order in which dialogs are visited.
import SipDialogs.Proofs.Runs
import SipDialogs.Proofs.Striping

/-! # Numbers

A bucket does not remember which numbers its dialogs had. It remembers the number that comes next,
and that is enough: along every run, this number stays past all those that were ever linked in the
bucket, whether they were new or restored, and it is no further past them than it has to be. -/

namespace SipDialogs

/-! ## The buckets of a table -/

namespace Table

variable {t t' : Table}

theorem home_lt (callId tag : String) (h : 0 < t.size) : t.home callId tag < t.size :=
  Hash.texts_lt h callId (some tag)

/-- The number that comes next in a bucket. -/
def nextId? (t : Table) (n : UInt32) : Option UInt32 := (t.bucket? n).map (·.nextId)

theorem nextId?_modifyBucket (t : Table) {f : Bucket → Bucket} {g : UInt32 → UInt32}
    (hf : ∀ b : Bucket, (f b).nextId = g b.nextId) (n m : UInt32) :
    (t.modifyBucket n f).nextId? m
      = if n = m then (t.nextId? m).map g else t.nextId? m := by
  unfold nextId?
  rw [bucket?_modifyBucket]
  split
  next hnm =>
    rw [hnm, Option.map_map, Option.map_map]
    exact congrArg (Option.map · _) (funext hf)
  next => rfl

@[simp] theorem nextId?_put (t : Table) (d : Dialog) : (t.put d).nextId? = t.nextId? := by
  funext n
  have hkept : ∀ b : Bucket, (b.put d).nextId = id b.nextId := fun _ => rfl
  rw [put, nextId?_modifyBucket t hkept, Option.map_id, id, ite_self]

@[simp] theorem nextId?_erase (t : Table) (key : Key) : (t.erase key).nextId? = t.nextId? := by
  funext n
  have hkept : ∀ b : Bucket, (b.erase key.localId).nextId = id b.nextId := fun _ => rfl
  rw [erase, nextId?_modifyBucket t hkept, Option.map_id, id, ite_self]

end Table

namespace Bucket

/-- The number that comes next once `id` has been passed, if it was `next` before. -/
def passed (id next : UInt32) : UInt32 := (passId { nextId := next } id).nextId

theorem passed_cases (id next : UInt32) :
    passed id next = next ∨ (passed id next).toNat ≤ id.toNat + 1 := by
  have hpast : (if id.toNat + 1 < UInt32.size then id + 1 else id).toNat ≤ id.toNat + 1 := by
    split
    · exact Nat.mod_le _ _
    · exact Nat.le_succ _
  unfold passed passId
  dsimp only
  generalize (if id.toNat + 1 < UInt32.size then id + 1 else id) = past at hpast ⊢
  split
  · exact .inr hpast
  · exact .inl rfl

end Bucket

namespace Table

variable {t t' : Table}

/-- The table with a dialog linked, and the numbers of its bucket past the dialog's. -/
def linking (t : Table) (d : Dialog) : Table :=
  (t.modifyBucket d.key.bucket fun b => (b.put d).passId d.key.localId).countCreated

theorem insert_eq_ok {identity : Identity} {holders : Nat} {start : Timestamp} {d : Dialog}
    (h : t.insert identity holders start = .ok (d, t')) : t' = t.linking d := by
  unfold insert at h
  dsimp only at h
  split at h
  · cases h
  · cases h
    rfl

theorem restore_eq_ok {s : Snapshot} {d : Dialog} (h : t.restore s = .ok (d, t')) :
    t' = t.linking d := by
  unfold restore at h
  split at h
  · cases h
  · split at h
    · cases h
    · cases h
      rfl

theorem nextId?_linking (t : Table) (d : Dialog) (n : UInt32) :
    (t.linking d).nextId? n
      = if d.key.bucket = n then (t.nextId? n).map (Bucket.passed d.key.localId)
        else t.nextId? n :=
  have hpassed : ∀ b : Bucket,
      ((b.put d).passId d.key.localId).nextId = Bucket.passed d.key.localId b.nextId := fun _ => rfl
  nextId?_modifyBucket t hpassed d.key.bucket n

end Table

namespace Step

variable {c c' : Scene ε} {m : Moment}

/-- The numbers of a bucket move on only when a dialog is linked there. -/
theorem nextId? (h : Step c m c') (n : UInt32) :
    c'.registry.table.nextId? n = match m.linked? with
      | some d => if d.key.bucket = n then
          (c.registry.table.nextId? n).map (Bucket.passed d.key.localId)
        else c.registry.table.nextId? n
      | none => c.registry.table.nextId? n := by
  cases h with
  | idle h => exact congrArg (·.nextId? n) h.table
  | insert h =>
    rw [Table.insert_eq_ok h]
    exact Table.nextId?_linking ..
  | restore h =>
    rw [Table.restore_eq_ok h]
    exact Table.nextId?_linking ..
  | count | file | enlist | bury => rfl
  | revise | hand | attend | move | giveBack => exact congrFun (Table.nextId?_put ..) n
  | unlink => exact congrFun (Table.nextId?_erase ..) n
  | hear => exact congrArg (·.nextId? n) (Registry.hear_table ..)

/-- Whenever a dialog is linked, it is counted. -/
theorem created (h : Step c m c') :
    c'.registry.table.counters.created
      = c.registry.table.counters.created + m.linked?.toList.length := by
  cases h with
  | idle h => rw [h.table]; rfl
  | insert h => rw [(Table.insert_enters h).1.counters]; rfl
  | restore h => rw [(Table.restore_enters h).counters]; rfl
  | count r hf => exact (hf r.table.counters).1
  | file | enlist | bury => rfl
  | revise | hand | attend | move | giveBack => rw [Table.counters_put]; rfl
  | unlink => rw [Table.counters_erase]; rfl
  | hear => rw [Registry.hear_table]; rfl

end Step

/-! ## The numbers that were linked -/

namespace Table

/-- How the buckets of a table stand to the dialogs that were ever linked in it. -/
structure Numbers (t : Table) (linked : List Dialog) : Prop where
  exist : ∀ n, n < t.size → (t.nextId? n).isSome
  /-- What comes next in a bucket is past all that was linked there. -/
  past : ∀ d ∈ linked, t.Spent d.key
  /-- It comes right after one of them, unless nothing was ever linked there. -/
  snug : ∀ n next, t.nextId? n = some next →
    next = 0 ∨ ∃ d ∈ linked, d.key.bucket = n ∧ next.toNat ≤ d.key.localId.toNat + 1

theorem numbers_create {size timeout : UInt32} {t : Table} (h : create size timeout = .ok t) :
    t.Numbers [] where
  exist n hn := by
    rw [nextId?, Option.isSome_map]
    exact isSome_bucket?_create h hn
  past := List.forall_mem_nil _
  snug n next hnext := by
    obtain ⟨b, hb, rfl⟩ := Option.map_eq_some_iff.1 hnext
    obtain rfl := bucket?_create h hb
    exact .inl rfl

end Table

theorem Step.numbers {c c' : Scene ε} {m : Moment} (h : Step c m c') {linked : List Dialog}
    (hnumbers : c.registry.table.Numbers linked) :
    c'.registry.table.Numbers (linked ++ m.linked?.toList) where
  exist n hn := by
    rw [h.size] at hn
    have hbefore := hnumbers.exist n hn
    rw [h.nextId?]
    split
    · split
      · rwa [Option.isSome_map]
      · exact hbefore
    · exact hbefore
  past d hd := by
    rcases List.mem_append.1 hd with hd | hd
    · exact h.spent (hnumbers.past d hd)
    · exact (h.of_linked (Option.mem_toList.1 hd)).2.1
  snug n next hnext := by
    have hkept : c.registry.table.nextId? n = some next → next = 0 ∨
        ∃ d ∈ linked ++ m.linked?.toList, d.key.bucket = n ∧
          next.toNat ≤ d.key.localId.toNat + 1 := by
      intro hbefore
      refine (hnumbers.snug n next hbefore).imp_right ?_
      rintro ⟨d, hd, hlast⟩
      exact ⟨d, List.mem_append_left _ hd, hlast⟩
    rw [h.nextId?] at hnext
    cases hlinked : m.linked? with
    | none =>
      rw [hlinked] at hnext hkept
      exact hkept hnext
    | some d =>
      rw [hlinked] at hnext hkept
      dsimp only at hnext
      split at hnext
      next hbucket =>
        obtain ⟨before, hbefore, rfl⟩ := Option.map_eq_some_iff.1 hnext
        rcases Bucket.passed_cases d.key.localId before with hsame | hpast
        · rw [hsame] at hkept ⊢
          exact hkept hbefore
        · exact .inr ⟨d, List.mem_append_right _ (by simp), hbucket, hpast⟩
      next => exact hkept hnext

theorem Path.numbers {c c' : Scene ε} {ms : List Moment} (h : Path c ms c')
    {linked : List Dialog} (hnumbers : c.registry.table.Numbers linked) :
    c'.registry.table.Numbers (linked ++ ms.filterMap (·.linked?)) := by
  induction h generalizing linked with
  | nil => simpa using hnumbers
  | @cons c₀ c₁ c₂ m ms hstep _ ih =>
    have hrest := ih (hstep.numbers hnumbers)
    rw [List.append_assoc] at hrest
    cases hlinked : m.linked? with
    | none => simpa [hlinked] using hrest
    | some d => simpa [hlinked] using hrest

theorem Path.created {c c' : Scene ε} {ms : List Moment} (h : Path c ms c') :
    c'.registry.table.counters.created
      = c.registry.table.counters.created + (ms.filterMap (·.linked?)).length := by
  induction h with
  | nil => rfl
  | @cons c₀ c₁ c₂ m ms hstep _ ih =>
    have hfirst := hstep.created
    rw [ih, hfirst]
    cases hlinked : m.linked? with
    | none => simp [hlinked]
    | some d =>
      simp [hlinked]
      omega

/-! ## New dialogs -/

namespace Bucket

/-- The two highest numbers. Once one of them was linked in a bucket, there is no number left. -/
def isLast (id : UInt32) : Bool := id == 4294967294 || id == 4294967295

theorem isLast_iff (id : UInt32) : isLast id = true ↔ UInt32.size ≤ id.toNat + 2 := by
  have hid := id.toNat_lt
  simp only [isLast, Bool.or_eq_true, beq_iff_eq, ← UInt32.toNat_inj, UInt32.size]
  simp only [UInt32.reduceToNat]
  omega

/-- A number is spent in a bucket that has one left exactly if it is below that one. -/
theorem lt_of_spends {b : Bucket} {id fresh : UInt32} (hspends : b.Spends id)
    (hfresh : ¬b.Spends fresh) : id < fresh := by
  obtain ⟨hahead, hleft⟩ := not_or.1 hfresh
  have hbelow : id < b.nextId := hspends.resolve_right hleft
  exact UInt32.lt_of_lt_of_le hbelow (UInt32.not_lt.1 hahead)

end Bucket

namespace Table

variable {t t' : Table} {linked : List Dialog}

/-- A number that was given out is below one that was not, in the same bucket. -/
theorem Spent.lt {key key' : Key} (h : t.Spent key) (h' : ¬t.Spent key')
    (hbucket : key.bucket = key'.bucket) : key.localId < key'.localId := by
  obtain ⟨b, hb, hspends⟩ := h
  refine Bucket.lt_of_spends hspends fun hspent => h' ⟨b, ?_, hspent⟩
  rwa [← hbucket]

namespace Numbers

/-- A bucket has no number left exactly if one of the two highest was linked there. -/
theorem freshId?_eq_none_iff (h : t.Numbers linked)
    (hspent : ∀ key d, t.find? key = some d → t.Spent key) {n : UInt32} {b : Bucket}
    (hb : t.bucket? n = some b) :
    b.freshId? = none ↔ ∃ d ∈ linked, d.key.bucket = n ∧ Bucket.isLast d.key.localId = true := by
  constructor
  · intro hnone
    have hlast : b.nextId.toNat + 1 = UInt32.size := by
      have hbelow := b.nextId.toNat_lt
      cases hfind : b.find? b.nextId with
      | none =>
        have hfree : b.contains b.nextId = false := by simp [Bucket.contains, hfind]
        have hno : ¬b.nextId.toNat + 1 < UInt32.size := by
          intro hleft
          rw [Bucket.freshId?, if_pos ⟨hleft, by simp [hfree]⟩] at hnone
          cases hnone
        exact Nat.le_antisymm hbelow (Nat.not_lt.1 hno)
      | some d =>
        -- what comes next is linked, so it is spent, and that is so of the highest number only
        have hfound : t.find? ⟨n, b.nextId⟩ = some d := by simp [find?, hb, hfind]
        obtain ⟨c, hc, hspends⟩ := hspent _ d hfound
        obtain rfl : b = c := Option.some.inj (hb.symm.trans hc)
        exact hspends.resolve_left (UInt32.lt_irrefl _)
    have hnext : t.nextId? n = some b.nextId := by simp [nextId?, hb]
    rcases h.snug n b.nextId hnext with hzero | ⟨d, hd, hbucket, hpast⟩
    · rw [hzero] at hlast
      cases hlast
    · exact ⟨d, hd, hbucket, (Bucket.isLast_iff _).2 (by omega)⟩
  · rintro ⟨d, hd, rfl, hlast⟩
    obtain ⟨c, hc, hspends⟩ := h.past d hd
    obtain rfl : b = c := Option.some.inj (hb.symm.trans hc)
    have htop := (Bucket.isLast_iff _).1 hlast
    have hnone : ¬b.nextId.toNat + 1 < UInt32.size := by
      rcases hspends with hbelow | hnext
      · have hlt := UInt32.lt_iff_toNat_lt.1 hbelow
        omega
      · omega
    rw [Bucket.freshId?, if_neg fun hfresh => hnone hfresh.1]

/-- A new dialog is refused exactly if its bucket has no number left. -/
theorem insert_eq_error_iff (h : t.Numbers linked) (hpos : 0 < t.size)
    (hspent : ∀ key d, t.find? key = some d → t.Spent key) (identity : Identity) (holders : Nat)
    (start : Timestamp) :
    (∃ e, t.insert identity holders start = .error e) ↔
      ∃ d ∈ linked, d.key.bucket = t.home identity.callId identity.fromTag ∧
        Bucket.isLast d.key.localId = true := by
  have hexist := h.exist _ (home_lt identity.callId identity.fromTag hpos)
  rw [nextId?, Option.isSome_map] at hexist
  obtain ⟨b, hb⟩ := Option.isSome_iff_exists.1 hexist
  rw [← h.freshId?_eq_none_iff hspent hb]
  unfold Table.insert
  dsimp only
  rw [hb, Option.bind_some]
  cases b.freshId? with
  | none => simp
  | some id => simp

end Numbers

theorem insert_eq_error {identity : Identity} {holders : Nat} {start : Timestamp} {e : Fault}
    (h : t.insert identity holders start = .error e) :
    e = .resourceExhausted
      ("dialog ids of bucket " ++ toString (t.home identity.callId identity.fromTag).toNat) := by
  unfold Table.insert at h
  dsimp only at h
  split at h
  · cases h
    rfl
  · cases h

/-! ## Visiting all dialogs -/

/-- All dialogs stand in ascending order of their keys. -/
theorem Wf.dialogs_ascending (h : t.Wf) :
    (t.dialogs.map (·.key)).Pairwise fun a b => a.lt b = true := by
  rw [List.pairwise_map, dialogs, List.pairwise_flatMap]
  constructor
  · intro b hb
    obtain ⟨n, hb⟩ := mem_buckets.1 hb
    refine (h n b hb).sorted.imp_of_mem fun {d e} hd he hlt => ?_
    have hsame : d.key.bucket = e.key.bucket :=
      ((h n b hb).bucket d hd).trans ((h n b hb).bucket e he).symm
    simpa [Key.lt, hsame] using hlt
  · rw [buckets, List.pairwise_filterMap]
    refine List.pairwise_lt_range.imp_of_mem fun {m n} hm hn hlt => ?_
    intro b hb c hc d hd e he
    have hdn := (h _ b hb).bucket d hd
    have hen := (h _ c hc).bucket e he
    rw [List.mem_range] at hm hn
    have hsize := t.size.toNat_lt
    have hbelow : UInt32.ofNat m < UInt32.ofNat n := by
      rw [UInt32.lt_iff_toNat_lt, UInt32.toNat_ofNat', UInt32.toNat_ofNat']
      rw [Nat.mod_eq_of_lt (by omega), Nat.mod_eq_of_lt (by omega)]
      exact hlt
    simp [Key.lt, hdn, hen, hbelow]

/-- Each linked dialog stands there once. -/
theorem Wf.count_dialogs (h : t.Wf) (key : Key) :
    (t.dialogs.map (·.key)).count key = if t.isLinked key then 1 else 0 := by
  have hnodup : (t.dialogs.map (·.key)).Nodup := by
    rw [List.Nodup, List.pairwise_map]
    exact h.dialogs_pairwise
  have hmem : key ∈ t.dialogs.map (·.key) ↔ t.isLinked key = true := by
    rw [List.mem_map, isLinked, Option.isSome_iff_exists]
    constructor
    · rintro ⟨d, hd, rfl⟩
      exact ⟨d, h.mem_dialogs.1 hd⟩
    · rintro ⟨d, hd⟩
      obtain rfl := h.key_of_find? hd
      exact ⟨d, h.mem_dialogs.2 hd, rfl⟩
  split
  next hlinked => exact List.count_eq_one_of_mem hnodup (hmem.2 hlinked)
  next hlinked => exact List.count_eq_zero_of_not_mem fun hin => hlinked (hmem.1 hin)

end Table

namespace Registry

variable {r r' : Registry ε}

theorem keys_withContexts (env : Environment ε) (ds : List Dialog) (r : Registry ε) :
    (withContexts env ds r).1.map (·.key) = ds.map (·.key) := by
  induction ds generalizing r with
  | nil => rfl
  | cons d ds ih =>
    have hrest := ih (r.withContext env d).2
    exact congrArg (d.key :: ·) hrest

theorem keys_snapshotAll (env : Environment ε) (r : Registry ε) (context : Bool) :
    (r.snapshotAll env context).1.map (·.key) = r.table.dialogs.map (·.key) := by
  unfold snapshotAll
  split
  · exact keys_withContexts env _ r
  · exact List.map_map

/-- How the dialogs of a registry are keyed, and in which order they are visited. -/
structure Visits (r : Registry ε) : Prop where
  /-- Each dialog of a bucket carries the number of the bucket and is found under its own key. -/
  stored : ∀ n b, r.table.bucket? n = some b → ∀ d ∈ b.dialogs,
    d.key.bucket = n ∧ r.table.find? d.key = some d
  keyed : ∀ key d, r.table.find? key = some d → d.key = key
  ascending : (r.table.dialogs.map (·.key)).Pairwise fun a b => a.lt b = true
  once : ∀ key, (r.table.dialogs.map (·.key)).count key = if r.table.isLinked key then 1 else 0
  /-- Copies of all dialogs are made in the same order, whatever the observers do meanwhile. -/
  copies : ∀ (env : Environment ε) context,
    (r.snapshotAll env context).1.map (·.key) = r.table.dialogs.map (·.key)
  /-- Those that need to be stored are taken in the same order. -/
  dirty : (r.takeDirty.1.map (·.key)).Sublist (r.table.dialogs.map (·.key)) ∧
    (r.takeDirty.1.map (·.key)).Pairwise fun a b => a.lt b = true

theorem Sound.visits (h : r.Sound) : r.Visits := by
  have hdirty : (r.takeDirty.1.map (·.key)).Sublist (r.table.dialogs.map (·.key)) := by
    have hkeys : r.takeDirty.1.map (·.key) = (r.table.dialogs.filter (·.isDirty)).map (·.key) :=
      List.map_map
    rw [hkeys]
    exact List.filter_sublist.map _
  refine ⟨?_, fun _ _ => h.wf.key_of_find?, h.wf.dialogs_ascending, h.wf.count_dialogs,
    fun env => keys_snapshotAll env r, hdirty, h.wf.dialogs_ascending.sublist hdirty⟩
  intro n b hb d hd
  refine ⟨(h.wf n b hb).bucket d hd, h.wf.mem_dialogs.1 ?_⟩
  exact List.mem_flatMap.2 ⟨b, Table.mem_buckets.2 ⟨n, hb⟩, hd⟩

theorem insert_eq_ok {env : Environment ε} {identity : Identity} {holders : Nat} {key : Key}
    (h : (r.insert env identity holders).1 = .ok key) :
    ∃ d t, r.table.insert identity holders r.clock = .ok (d, t) ∧ d.key = key := by
  unfold insert at h
  cases hinsert : r.table.insert identity holders r.clock with
  | error e =>
    rw [hinsert] at h
    cases h
  | ok linked =>
    rw [hinsert] at h
    cases h
    exact ⟨linked.1, linked.2, rfl, rfl⟩

theorem insert_eq_error {env : Environment ε} {identity : Identity} {holders : Nat} {e : Fault}
    (h : (r.insert env identity holders).1 = .error e) :
    r.table.insert identity holders r.clock = .error e ∧
      r.insert env identity holders = (.error e, r) := by
  unfold insert at h ⊢
  cases hinsert : r.table.insert identity holders r.clock with
  | error e' =>
    rw [hinsert] at h
    cases h
    exact ⟨rfl, rfl⟩
  | ok linked =>
    rw [hinsert] at h
    cases h

/-- How the numbers of a registry stand to the dialogs that were ever linked in it, new or
restored. -/
structure Numbered (r : Registry ε) (linked : List Dialog) : Prop where
  counted : r.table.counters.created = linked.length
  /-- A new dialog goes to the bucket that its Call-ID and its tag pick, with a number above all
  that were linked there. -/
  inserts : ∀ (env : Environment ε) identity holders key,
    (r.insert env identity holders).1 = .ok key →
      key.bucket = r.table.home identity.callId identity.fromTag ∧
        ∀ d ∈ linked, d.key.bucket = key.bucket → d.key.localId < key.localId
  /-- It is refused exactly if one of the two highest numbers was linked there. -/
  refuses : ∀ (env : Environment ε) identity holders,
    (∃ e, (r.insert env identity holders).1 = .error e) ↔
      ∃ d ∈ linked, d.key.bucket = r.table.home identity.callId identity.fromTag ∧
        Bucket.isLast d.key.localId = true
  /-- Then nothing is changed. -/
  unchanged : ∀ (env : Environment ε) identity holders e,
    (r.insert env identity holders).1 = .error e →
      r.insert env identity holders = (.error (.resourceExhausted ("dialog ids of bucket "
        ++ toString (r.table.home identity.callId identity.fromTag).toNat)), r)
  visits : r.Visits

theorem Sound.numbered (h : r.Sound) (hpos : 0 < r.table.size) {linked : List Dialog}
    (hnumbers : r.table.Numbers linked) (hcounted : r.table.counters.created = linked.length) :
    r.Numbered linked where
  counted := hcounted
  inserts env identity holders key hkey := by
    obtain ⟨d, t, hinsert, rfl⟩ := insert_eq_ok hkey
    obtain ⟨-, hfresh, hhome⟩ := Table.insert_enters hinsert
    exact ⟨hhome, fun e he => (hnumbers.past e he).lt hfresh⟩
  refuses env identity holders := by
    have hspent : ∀ key d, r.table.find? key = some d → r.table.Spent key := fun _ _ => h.spent
    rw [← hnumbers.insert_eq_error_iff hpos hspent identity holders r.clock]
    refine exists_congr fun e => ⟨fun herror => (insert_eq_error herror).1, fun herror => ?_⟩
    rw [insert, herror]
  unchanged env identity holders e herror := by
    obtain ⟨htable, hsame⟩ := insert_eq_error herror
    rw [hsame, Table.insert_eq_error htable]
  visits := h.visits

/-! ## Runs -/

/-- What the moments of a run say about the numbers of dialogs. -/
structure Numbering (r : Registry ε) (ms : List Moment) (r' : Registry ε) : Prop where
  path : Path ⟨r, []⟩ ms ⟨r', []⟩
  /-- At every moment, the numbers are past those of the dialogs that were linked up to it. -/
  numbered : ∀ before c, before <+: ms → Path ⟨r, []⟩ before c →
    c.registry.Numbered (before.filterMap (·.linked?))
  /-- The dialogs that were inserted in the run had such numbers. -/
  above : ∀ before d after, ms = before ++ .inserted d :: after →
    ∀ e ∈ before.filterMap (·.linked?), e.key.bucket = d.key.bucket → e.key.localId < d.key.localId

/-- Along every run from a new registry, whatever is restored and released on the way, each new
dialog of a bucket has a number above all that were linked there before, until one of the two
highest was; and the dialogs are visited in the order of their keys. -/
theorem create_numbering {config : Config} {clock : Timestamp} {hasTimer : Bool} {e : ε}
    (hcreate : create config clock hasTimer e = .ok r) (hruns : RunsIn .free r r') :
    ∃ ms, Numbering r ms r' := by
  have hsound := create_sound hcreate
  obtain ⟨htable, -⟩ := create_eq_ok hcreate
  have hmoments : ∃ ms, Course .free [] r ms r' := hruns.course hsound
  obtain ⟨ms, hcourse⟩ := hmoments
  have hnumbers : ∀ before c, Path ⟨r, []⟩ before c →
      c.registry.table.Numbers (before.filterMap (·.linked?)) := by
    intro before c hbefore
    simpa using hbefore.numbers (Table.numbers_create htable)
  refine ⟨ms, hcourse.path, ?_, ?_⟩
  · intro before c _ hbefore
    refine (hbefore.sound hsound).numbered ?_ (hnumbers before c hbefore) ?_
    · obtain ⟨hsize, hpos⟩ := Table.size_create htable
      rw [hbefore.size, hsize]
      exact hpos
    · rw [hbefore.created, Table.counters_create htable, Nat.zero_add]
  · rintro before d after rfl
    obtain ⟨c, hbefore, hrest⟩ := hcourse.path.split
    cases hrest with
    | cons hstep _ =>
      obtain ⟨-, -, hfresh, -⟩ := hstep.of_linked rfl
      exact fun e he => ((hnumbers before c hbefore).past e he).lt (hfresh rfl)

/-- A dialog at the last number but one of its bucket, and released at once. Before it, one was
inserted that is still linked. -/
def passing : Registry Unit :=
  blank.performAll .quiet
    [.insert { callId := "abc", fromUri := "sip:a", toUri := "sip:b", fromTag := "t1" } 0,
      .restore { (Dialog.create ⟨0, 4294967294⟩
        { callId := "def", fromUri := "sip:a", toUri := "sip:b", fromTag := "t2" }
        0 .epoch 43200).snapshot with phase := .confirmed },
      .release ⟨0, 4294967294⟩ 1]

/-- The bucket has one dialog and no number left for another. -/
theorem create_numbering_passing :
    (∃ ms, Numbering blank ms passing) ∧ passing.table.dialogs.map (·.key) = [⟨0, 0⟩] ∧
      (passing.insert .quiet
        { callId := "ghi", fromUri := "sip:a", toUri := "sip:b", fromTag := "t3" } 0).1
        = .error (.resourceExhausted "dialog ids of bucket 0") := by
  have hruns : RunsIn .free blank passing :=
    runsIn_performAll (Environment.quiet_honest _) blank (by decide)
  refine ⟨create_numbering create_blank hruns, by decide +kernel, ?_⟩
  decide +kernel

end Registry

end SipDialogs
