-- SUMMARY: What each operation on a table does to its contents.
import SipDialogs.Proofs.Contents
import SipDialogs.Registry.Timers

/-! # Effects of table operations

One law for each change of a dialog, and for each operation that links, releases or looks at
dialogs. Later modules use these laws and never look into the operations again. -/

namespace SipDialogs

/-! ## Changes of one dialog -/

namespace Dialog

/-- A change of a dialog that keeps it where it is found, and its memberships. -/
structure Revises (d e : Dialog) : Prop where
  key : e.key = d.key
  callId : e.callId = d.callId
  callerTag : e.caller.tag = d.caller.tag
  links : e.links = d.links

theorem revises_addRefs (d : Dialog) (count : Nat) : d.Revises (d.addRefs count) :=
  ⟨rfl, rfl, rfl, rfl⟩

/-- A count starts over past the greatest one, and only there. -/
theorem nextRefs_eq (d : Dialog) (h : d.refs ≤ maxRefs) :
    d.nextRefs = if d.refs < maxRefs then d.refs + 1 else 0 := by
  unfold nextRefs
  split
  next hlt => exact Nat.mod_eq_of_lt (Nat.add_lt_of_lt_sub hlt)
  next hge =>
    rw [Nat.le_antisymm h (Nat.not_lt.1 hge)]
    exact Nat.mod_self _

theorem nextRefs_of_lt {d : Dialog} (h : d.refs < maxRefs) : d.nextRefs = d.refs + 1 :=
  (d.nextRefs_eq (Nat.le_of_lt h)).trans (if_pos h)

theorem revises_retain (d : Dialog) : d.Revises d.retain := ⟨rfl, rfl, rfl, rfl⟩

theorem revises_clean (d : Dialog) : d.Revises d.clean := ⟨rfl, rfl, rfl, rfl⟩

theorem revises_updateCseq (d : Dialog) (side : Leg) (cseq : String) :
    d.Revises (d.updateCseq side cseq) := by
  cases side <;> exact ⟨rfl, rfl, rfl, rfl⟩

/-- A transition moves a dialog to its phase and takes one reference at most. -/
theorem move_eq (d : Dialog) (m : Transition) :
    d.Revises (d.move m) ∧ (d.move m).refs = (if m.reclaim then d.nextRefs else d.refs) ∧
      (d.move m).timer = d.timer ∧ (d.move m).phase = m.phase := by
  unfold move
  dsimp only
  split <;> exact ⟨⟨rfl, rfl, rfl, rfl⟩, rfl, rfl, rfl⟩

/-- What is known about one side is replaced, but for the caller's tag. -/
theorem setLegInfo_cases {d e : Dialog} {side : Leg} {info : LegInfo}
    (h : d.setLegInfo side info = .ok e) :
    ∃ info', e = (d.setLeg side info').touch ∧ (side = .caller → info'.tag = d.caller.tag) := by
  unfold setLegInfo at h
  split at h
  · cases h
    exact ⟨info, rfl, fun hside => by cases hside⟩
  · split at h
    · cases h
      exact ⟨{ info with tag := d.caller.tag }, rfl, fun _ => rfl⟩
    · split at h
      next htag =>
        cases h
        exact ⟨info, rfl, fun _ => htag⟩
      · cases h

theorem setLegInfo_eq_ok {d e : Dialog} {side : Leg} {info : LegInfo}
    (h : d.setLegInfo side info = .ok e) :
    d.Revises e ∧ e.refs = d.refs ∧ e.timer = d.timer ∧ e.phase = d.phase := by
  obtain ⟨info', rfl, htag⟩ := setLegInfo_cases h
  cases side with
  | caller => exact ⟨⟨rfl, rfl, htag rfl, rfl⟩, rfl, rfl, rfl⟩
  | callee => exact ⟨⟨rfl, rfl, rfl, rfl⟩, rfl, rfl, rfl⟩

/-- The slot is marked and a reference taken; an explicit lifetime is a change that others see. -/
theorem prepareTimer_cases {d e : Dialog} {milliseconds : Option Nat}
    (h : Registry.prepareTimer d milliseconds = .ok e) :
    d.timer = none ∧
      (e = { d.retain with timer := some .arming } ∨
        ∃ timeout,
          e = { ({ d with timeout } : Dialog).touch.retain with timer := some .arming }) := by
  unfold Registry.prepareTimer at h
  split at h
  · cases h
  · split at h
    · cases h
    next htimer =>
      have hnone : d.timer = none := by simpa using htimer
      cases milliseconds with
      | none =>
        cases h
        exact ⟨hnone, .inl rfl⟩
      | some ms =>
        cases h
        exact ⟨hnone, .inr ⟨_, rfl⟩⟩

/-- A timer is armed where there is none, with a reference of its own. -/
theorem prepareTimer_eq_ok {d e : Dialog} {milliseconds : Option Nat}
    (h : Registry.prepareTimer d milliseconds = .ok e) :
    d.Revises e ∧ d.timer = none ∧ e.timer = some .arming ∧ e.refs = d.nextRefs ∧
      e.phase = d.phase := by
  obtain ⟨hnone, rfl | ⟨timeout, rfl⟩⟩ := prepareTimer_cases h
  · exact ⟨⟨rfl, rfl, rfl, rfl⟩, hnone, rfl, rfl, rfl⟩
  · exact ⟨⟨rfl, rfl, rfl, rfl⟩, hnone, rfl, rfl, rfl⟩

end Dialog

/-! ## Empty tables -/

/-- A lock guards what was made for some lock. -/
theorem LockSet.mem_fill {α : Type} {init : Nat → Nat → Except Fault α} {count left index : Nat}
    {done filled : Array α} (h : fill init count left index done = .ok filled) {a : α}
    (ha : a ∈ filled) : a ∈ done ∨ ∃ i, init i count = .ok a := by
  induction left generalizing index done with
  | zero =>
    cases h
    exact .inl ha
  | succ left ih =>
    unfold fill at h
    split at h
    · cases h
    next b hb =>
      rcases ih h with hmem | hinit
      · rcases Array.mem_push.1 hmem with hmem | rfl
        · exact .inl hmem
        · exact .inr ⟨index, hb⟩
      · exact .inr hinit

namespace Table

theorem bucket?_create {size timeout : UInt32} {t : Table} (h : create size timeout = .ok t)
    {n : UInt32} {b : Bucket} (hb : t.bucket? n = some b) : b = {} := by
  unfold create LockSet.build at h
  split at h
  · cases h
  split at h
  · cases h
  generalize hfill : LockSet.fill _ _ _ _ _ = filled at h
  cases filled with
  | error e => cases h
  | ok stripes =>
    cases h
    unfold bucket? at hb
    split at hb
    · obtain ⟨stripe, hstripe, hslot⟩ := Option.bind_eq_some_iff.1 hb
      rcases LockSet.mem_fill hfill (Array.mem_of_getElem? hstripe) with hmem | ⟨i, hinit⟩
      · simp at hmem
      · cases hinit
        exact (Array.mem_replicate.1 (Array.mem_of_getElem? hslot)).2
    · cases hb

theorem find?_create {size timeout : UInt32} {t : Table} (h : create size timeout = .ok t)
    (key : Key) : t.find? key = none := by
  unfold find?
  cases hb : t.bucket? key.bucket with
  | none => rfl
  | some b =>
    obtain rfl := bucket?_create h hb
    rfl

theorem wf_create {size timeout : UInt32} {t : Table} (h : create size timeout = .ok t) : t.Wf :=
  fun n _ hb => bucket?_create h hb ▸ Bucket.wf_empty n

/-! ## Linking -/

/-- Table `t'` has one more dialog than `t`, under a key where there was none. -/
structure Links (t : Table) (d : Dialog) (t' : Table) : Prop where
  fresh : t.find? d.key = none
  find? : ∀ key, t'.find? key = if key = d.key then some d else t.find? key
  wf : t.Wf → t'.Wf
  anomalies : t'.anomalies = t.anomalies
  shape : t'.shape = t.shape

/-- What both ways of linking a dialog come down to. -/
theorem links_modifyBucket {t : Table} {d : Dialog} {b : Bucket}
    (hb : t.bucket? d.key.bucket = some b) (hfresh : b.contains d.key.localId = false) :
    t.Links d
      (t.modifyBucket d.key.bucket fun b => (b.put d).passId d.key.localId).countCreated where
  fresh := by
    rw [find?, hb]
    simpa [Bucket.contains] using hfresh
  find? := by
    intro key
    rw [← find?_put (t := t) (by simp [hb])]
    simp [put, find?_modifyBucket]
  wf := fun h => (h.modifyBucket fun _ hb => (hb.put rfl).passId _).count _
  anomalies := by simp
  shape := by
    unfold countCreated
    rw [shape_count, shape_modifyBucket]

theorem insert_links {t t' : Table} {identity : Identity} {holders : Nat} {start : Timestamp}
    {d : Dialog} (h : t.insert identity holders start = .ok (d, t')) :
    t.Links d t' ∧ d = Dialog.create d.key identity holders start t.defaultTimeout := by
  unfold insert at h
  dsimp only at h
  split at h
  · cases h
  next id hid =>
    cases h
    refine ⟨?_, rfl⟩
    obtain ⟨b, hb, hfresh⟩ := Option.bind_eq_some_iff.1 hid
    unfold Bucket.freshId? at hfresh
    split at hfresh
    next hnext =>
      cases hfresh
      have hfree : b.contains b.nextId = false := by simpa using hnext.2
      exact links_modifyBucket (d := Dialog.create ⟨_, b.nextId⟩ _ _ _ _) hb hfree
    · cases hfresh

theorem restore_links {t t' : Table} {s : Snapshot} {d : Dialog}
    (h : t.restore s = .ok (d, t')) : t.Links d t' ∧ d = Dialog.ofSnapshot s := by
  unfold restore at h
  split at h
  · cases h
  next b hb =>
    split at h
    · cases h
    next hfresh =>
      cases h
      have hfree : b.contains s.key.localId = false := by simpa using hfresh
      exact ⟨links_modifyBucket (d := Dialog.ofSnapshot s) hb hfree, rfl⟩

/-! ## Releasing -/

@[simp] theorem release_zero (t : Table) (key : Key) : t.release key 0 = (none, t) := rfl

theorem release_of_unlinked {t : Table} {key : Key} {count : Nat} (h : t.find? key = none)
    (hpos : 0 < count) : t.release key count = (none, t.countAnomaly) := by
  simp [release, h, Nat.ne_of_gt hpos]

/-- A linked dialog stays if it has more references than are given back. -/
theorem release_of_lt {t : Table} {key : Key} {count : Nat} {d : Dialog}
    (h : t.find? key = some d) (hlt : count < d.refs) :
    t.release key count
      = (none, if count = 0 then t else t.put { d with refs := d.refs - count }) := by
  by_cases hzero : count = 0
  · simp [hzero]
  · have hle : ¬d.refs < count := by omega
    unfold release
    rw [if_neg hzero, if_neg hzero, h]
    dsimp only
    rw [if_neg hle, if_pos (Nat.sub_pos_of_lt hlt)]

/-- A dialog is unlinked with its last reference; giving back more than it has is an anomaly. -/
theorem release_of_le {t : Table} {key : Key} {count : Nat} {d : Dialog}
    (h : t.find? key = some d) (hpos : 0 < count) (hle : d.refs ≤ count) :
    t.release key count
      = (some { d with refs := 0 }, (if d.refs < count then t.countAnomaly else t).erase key) := by
  simp [release, h, Nat.ne_of_gt hpos, Nat.sub_eq_zero_of_le hle]

/-- What a release unlinks was linked, and nothing else is unlinked with it. -/
theorem of_release {t : Table} {key : Key} {count : Nat} {e : Dialog}
    (h : (t.release key count).1 = some e) :
    (∃ d, t.find? key = some d ∧ e = { d with refs := 0 }) ∧
    (∀ k, (t.release key count).2.find? k = if k = key then none else t.find? k) ∧
    (t.Wf → (t.release key count).2.Wf) := by
  rcases Nat.eq_zero_or_pos count with rfl | hpos
  · cases h
  cases hfind : t.find? key with
  | none =>
    rw [release_of_unlinked hfind hpos] at h
    cases h
  | some d =>
    rcases Nat.lt_or_ge count d.refs with hlt | hle
    · rw [release_of_lt hfind hlt] at h
      cases h
    · rw [release_of_le hfind hpos hle] at h ⊢
      cases h
      refine ⟨⟨d, rfl, rfl⟩, fun k => ?_, fun hwf => ?_⟩
      · rw [find?_erase]
        split
        · rfl
        · split <;> rfl
      · split
        · exact (hwf.count _).erase key
        · exact hwf.erase key

/-! ## Events -/

/-- An event finds no dialog, is invalid in its phase, or moves it. -/
theorem applyEvent_cases (t : Table) (key : Key) (e : Event) :
    (t.find? key = none ∧ t.applyEvent key e = (none, t)) ∨
    ∃ d, t.find? key = some d ∧
      (d.phase.next? d.flags e = none ∧
          t.applyEvent key e = (some (⟨d.phase, d.phase, 0⟩, d), t.countInvalid) ∨
        ∃ m, d.phase.next? d.flags e = some m ∧
          t.applyEvent key e
            = (some (⟨d.phase, m.phase, m.unref⟩, d.move m), t.put (d.move m))) := by
  unfold applyEvent
  cases hfind : t.find? key with
  | none => exact .inl ⟨rfl, rfl⟩
  | some d =>
    refine .inr ⟨d, rfl, ?_⟩
    cases hnext : d.phase.next? d.flags e with
    | none => exact .inl ⟨rfl, by simp [hnext]⟩
    | some m => exact .inr ⟨m, rfl, by simp [hnext]⟩

/-! ## Looking up

Whatever a lookup finds is linked and live. -/

theorem of_lookup {t : Table} {key : Key} {d : Dialog} (h : t.lookup key = some d) :
    t.find? key = some d ∧ d.phase.isDeleted = false := by
  obtain ⟨hfind, hlive⟩ := Option.filter_eq_some_iff.1 h
  exact ⟨hfind, by simpa using hlive⟩

theorem Wf.find?_of_mem_bucket {t : Table} (h : t.Wf) {n : UInt32} {b : Bucket} {d : Dialog}
    (hb : t.bucket? n = some b) (hd : d ∈ b.dialogs) : t.find? d.key = some d :=
  h.mem_dialogs.1 (List.mem_flatMap.2 ⟨b, mem_buckets.2 ⟨n, hb⟩, hd⟩)

theorem Wf.of_liveMatch? {t : Table} (h : t.Wf) {n : UInt32} {callId fromTag toTag : String}
    {d : Dialog} {way : Direction} (hd : t.liveMatch? n callId fromTag toTag = some (d, way)) :
    t.find? d.key = some d ∧ d.phase.isDeleted = false := by
  obtain ⟨hfirst, hlive⟩ := Option.filter_eq_some_iff.1 hd
  obtain ⟨b, hb, hfound⟩ := Option.bind_eq_some_iff.1 hfirst
  obtain ⟨e, he, hway⟩ := List.exists_of_findSome?_eq_some hfound
  obtain ⟨w, -, heq⟩ := Option.map_eq_some_iff.1 hway
  cases heq
  exact ⟨h.find?_of_mem_bucket hb he, by simpa using hlive⟩

theorem Wf.of_lookupIdentity {t : Table} (h : t.Wf) {callId fromTag toTag : String} {d : Dialog}
    {way : Direction} (hd : t.lookupIdentity callId fromTag toTag = some (d, way)) :
    t.find? d.key = some d ∧ d.phase.isDeleted = false := by
  unfold lookupIdentity at hd
  split at hd
  next found hfound =>
    cases hd
    exact h.of_liveMatch? hfound
  next =>
    split at hd
    · cases hd
    · exact h.of_liveMatch? hd

theorem direction?_of_liveMatch? {t : Table} {n : UInt32} {callId fromTag toTag : String}
    {d : Dialog} {way : Direction} (h : t.liveMatch? n callId fromTag toTag = some (d, way)) :
    d.direction? callId fromTag toTag = some way := by
  obtain ⟨hfirst, -⟩ := Option.filter_eq_some_iff.1 h
  obtain ⟨b, -, hfound⟩ := Option.bind_eq_some_iff.1 hfirst
  obtain ⟨e, -, he⟩ := List.exists_of_findSome?_eq_some hfound
  obtain ⟨way', hway, heq⟩ := Option.map_eq_some_iff.1 he
  cases heq
  exact hway

theorem direction?_of_lookupIdentity {t : Table} {callId fromTag toTag : String} {d : Dialog}
    {way : Direction} (h : t.lookupIdentity callId fromTag toTag = some (d, way)) :
    d.direction? callId fromTag toTag = some way := by
  unfold lookupIdentity at h
  split at h
  next found hfound =>
    cases h
    exact direction?_of_liveMatch? hfound
  next =>
    split at h
    · cases h
    · exact direction?_of_liveMatch? h

theorem isDownstream_of_lookupDownstream {t : Table} {callId : String} {fromTag : Option String}
    {d : Dialog} (h : t.lookupDownstream callId fromTag = some d) :
    d.isDownstream callId fromTag = true := by
  obtain ⟨hfirst, -⟩ := Option.filter_eq_some_iff.1 h
  have hmatches : ∀ b : Bucket, firstDownstream? b callId fromTag = some d →
      d.isDownstream callId fromTag = true := by
    intro b hfound
    unfold firstDownstream? at hfound
    simpa using List.find?_some hfound
  cases fromTag with
  | none =>
    obtain ⟨b, -, hfound⟩ := List.exists_of_findSome?_eq_some hfirst
    exact hmatches b hfound
  | some tag =>
    obtain ⟨b, -, hfound⟩ := Option.bind_eq_some_iff.1 hfirst
    exact hmatches b hfound

theorem Wf.of_lookupDownstream {t : Table} (h : t.Wf) {callId : String}
    {fromTag : Option String} {d : Dialog} (hd : t.lookupDownstream callId fromTag = some d) :
    t.find? d.key = some d ∧ d.phase.isDeleted = false := by
  obtain ⟨hfirst, hlive⟩ := Option.filter_eq_some_iff.1 hd
  refine ⟨?_, by simpa using hlive⟩
  cases fromTag with
  | none =>
    obtain ⟨b, hb, hfound⟩ := List.exists_of_findSome?_eq_some hfirst
    obtain ⟨n, hb⟩ := mem_buckets.1 hb
    exact h.find?_of_mem_bucket hb (List.mem_of_find?_eq_some hfound)
  | some tag =>
    obtain ⟨b, hb, hfound⟩ := Option.bind_eq_some_iff.1 hfirst
    exact h.find?_of_mem_bucket hb (List.mem_of_find?_eq_some hfound)

/-! ## Dirty dialogs -/

/-- Cleaning distinct dialogs one after another keeps what cleaning one of them keeps. -/
theorem Wf.clean_each {P : Table → Table → Prop} (hrefl : ∀ t, P t t)
    (htrans : ∀ {t t' t''}, P t t' → P t' t'' → P t t'')
    (hclean : ∀ {t d}, t.Wf → t.find? d.key = some d → d.isDirty = true → P t (t.put d.clean))
    {t : Table} (h : t.Wf) {ds : List Dialog} (hfind : ∀ d ∈ ds, t.find? d.key = some d)
    (hdirty : ∀ d ∈ ds, d.isDirty = true) (hne : ds.Pairwise fun d e => d.key ≠ e.key) :
    P t (ds.foldl (fun t d => t.put d.clean) t) := by
  induction ds generalizing t with
  | nil => exact hrefl t
  | cons d ds ih =>
    obtain ⟨hd, hds⟩ := List.pairwise_cons.1 hne
    have hfirst : t.find? d.key = some d := hfind d (by simp)
    obtain ⟨hmarked, hrest⟩ := List.forall_mem_cons.1 hdirty
    refine htrans (hclean h hfirst hmarked) (ih (h.put d.clean) (fun e he => ?_) hrest hds)
    have hfound := find?_put_of_linked (d := d.clean) hfirst e.key
    have hother : e.key ≠ d.clean.key := (hd e he).symm
    rw [hfound, if_neg hother]
    exact hfind e (by simp [he])

theorem Wf.of_takeDirty {P : Table → Table → Prop} (hrefl : ∀ t, P t t)
    (htrans : ∀ {t t' t''}, P t t' → P t' t'' → P t t'')
    (hclean : ∀ {t d}, t.Wf → t.find? d.key = some d → d.isDirty = true → P t (t.put d.clean))
    {t : Table} (h : t.Wf) : P t t.takeDirty.2 := by
  refine h.clean_each hrefl htrans hclean (fun d hd => ?_) (fun d hd => ?_)
    (h.dialogs_pairwise.filter _)
  · exact h.mem_dialogs.1 (List.mem_filter.1 hd).1
  · exact (List.mem_filter.1 hd).2

/-! ## Links -/

theorem takeLink_eq_some {t t' : Table} {key : Key} {chosen : Link → Bool} {l : Link}
    (h : t.takeLink key chosen = some (l, t')) :
    ∃ d, t.find? key = some d ∧ d.links.find? chosen = some l ∧
      t' = t.put { d with links := d.links.eraseP chosen } := by
  unfold takeLink at h
  obtain ⟨d, hfind, h⟩ := Option.bind_eq_some_iff.1 h
  obtain ⟨l', hl, h⟩ := Option.bind_eq_some_iff.1 h
  cases h
  exact ⟨d, hfind, hl, rfl⟩

end Table

end SipDialogs
