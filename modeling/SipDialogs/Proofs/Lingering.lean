-- SUMMARY: What a deleted dialog that lingers keeps lookups from finding.
import SipDialogs.Proofs.Edits

/-! # Lingering dialogs

A deleted dialog may stay linked for as long as somebody has a reference on it. A lookup passes
over it only if it is not the first to match: where it is, the lookup stops there, and the live
dialogs behind it are hidden. -/

namespace SipDialogs

/-! ## Tables without deleted dialogs -/

abbrev Dialog.isLive (d : Dialog) : Bool := !d.phase.isDeleted

/-- The bucket with its deleted dialogs taken out. -/
def Bucket.live (b : Bucket) : Bucket := { b with dialogs := b.dialogs.filter (·.isLive) }

namespace Table

/-- The table with all deleted dialogs taken out. -/
def live (t : Table) : Table :=
  { t with stripes := ⟨t.stripes.stripes.map fun stripe => stripe.map Bucket.live⟩ }

/-- The dialogs of one bucket. -/
def dialogsAt (t : Table) (n : UInt32) : List Dialog := (t.bucket? n).elim [] (·.dialogs)

theorem bucket?_live (t : Table) (n : UInt32) : t.live.bucket? n = (t.bucket? n).map .live := by
  simp only [bucket?, live, LockSet.stripe?, LockSet.lockIndex, LockSet.slotIndex, LockSet.size,
    Array.size_map, Array.getElem?_map]
  split
  · cases t.stripes.stripes[n.toNat % t.stripes.stripes.size]? with
    | none => rfl
    | some stripe => simp
  · rfl

theorem dialogsAt_live (t : Table) (n : UInt32) :
    t.live.dialogsAt n = (t.dialogsAt n).filter (·.isLive) := by
  unfold dialogsAt
  rw [bucket?_live]
  cases t.bucket? n with
  | none => rfl
  | some b => rfl

theorem buckets_live (t : Table) : t.live.buckets = t.buckets.map .live := by
  unfold buckets
  rw [List.map_filterMap]
  apply List.filterMap_congr
  intro n _
  exact t.bucket?_live _

theorem dialogs_live (t : Table) : t.live.dialogs = t.dialogs.filter (·.isLive) := by
  unfold dialogs
  rw [buckets_live, List.filter_flatMap, List.flatMap_map]
  rfl

@[simp] theorem home_live (t : Table) (callId tag : String) :
    t.live.home callId tag = t.home callId tag := rfl

end Table

/-! ## Hidden dialogs -/

/-- Where one element only is looked for, it is found if it is there. -/
theorem find?_of_only {α : Type} {chosen : α → Bool} {l : List α} {a : α} (ha : chosen a = true)
    (honly : ∀ b ∈ l, chosen b = true → b = a) {c : Prop} [Decidable c] (hmem : a ∈ l ↔ c) :
    l.find? chosen = if c then some a else none := by
  cases hfind : l.find? chosen with
  | some b =>
    obtain rfl := honly b (List.mem_of_find?_eq_some hfind) (List.find?_some hfind)
    rw [if_pos (hmem.1 (List.mem_of_find?_eq_some hfind))]
  | none =>
    rw [if_neg fun hc => List.find?_eq_none.1 hfind a (hmem.2 hc) ha]

/-- A deleted dialog is the first to be chosen, although a live one could be. -/
def Hidden (chosen : Dialog → Bool) (ds : List Dialog) : Prop :=
  ∃ d, ds.find? chosen = some d ∧ d.isLive = false ∧ ∃ e ∈ ds, chosen e = true ∧ e.isLive = true

instance (chosen : Dialog → Bool) (ds : List Dialog) : Decidable (Hidden chosen ds) :=
  decidable_of_iff
    ((ds.find? chosen).any (fun d => !d.isLive) = true ∧
      ds.any (fun e => chosen e && e.isLive) = true) <| by
    simp only [Option.any_eq_true, List.any_eq_true, Bool.and_eq_true, Bool.not_eq_true', Hidden]
    constructor
    · rintro ⟨⟨d, hfind, hd⟩, hlive⟩
      exact ⟨d, hfind, hd, hlive⟩
    · rintro ⟨d, hfind, hd, hlive⟩
      exact ⟨⟨d, hfind, hd⟩, hlive⟩

/-- Looking for the first dialog and asking whether it is live comes to the same as looking among
the live ones, unless some are hidden. -/
theorem find?_live_of_not_hidden {chosen : Dialog → Bool} {ds : List Dialog}
    (h : ¬Hidden chosen ds) :
    (ds.find? chosen).filter (·.isLive) = (ds.filter (·.isLive)).find? chosen := by
  cases hfind : ds.find? chosen with
  | none =>
    rw [Option.filter_none, eq_comm, List.find?_eq_none]
    intro e he
    exact List.find?_eq_none.1 hfind e (List.mem_filter.1 he).1
  | some d =>
    cases hlive : d.isLive with
    | true =>
      obtain ⟨hd, before, after, rfl, hbefore⟩ := List.find?_eq_some_iff_append.1 hfind
      have hnone : (before.filter (·.isLive)).find? chosen = none := by
        rw [List.find?_eq_none]
        intro e he
        simpa using hbefore e (List.mem_filter.1 he).1
      rw [Option.filter_some, if_pos hlive, List.filter_append, List.find?_append, hnone]
      simp [hlive, hd]
    | false =>
      rw [Option.filter_some, hlive, if_neg (by decide), eq_comm, List.find?_eq_none]
      intro e he hchosen
      obtain ⟨hmem, helive⟩ := List.mem_filter.1 he
      exact h ⟨d, hfind, hlive, e, hmem, hchosen, helive⟩

theorem find?_live_of_hidden {chosen : Dialog → Bool} {ds : List Dialog} (h : Hidden chosen ds) :
    (ds.find? chosen).filter (·.isLive) = none ∧
      ∃ e ∈ ds, (ds.filter (·.isLive)).find? chosen = some e := by
  obtain ⟨d, hfind, hlive, e, he, hchosen, helive⟩ := h
  refine ⟨by rw [hfind, Option.filter_some, hlive, if_neg (by decide)], ?_⟩
  have hsome : ((ds.filter (·.isLive)).find? chosen).isSome = true :=
    List.find?_isSome.2 ⟨e, List.mem_filter.2 ⟨he, helive⟩, hchosen⟩
  obtain ⟨f, hf⟩ := Option.isSome_iff_exists.1 hsome
  exact ⟨f, (List.mem_filter.1 (List.mem_of_find?_eq_some hf)).1, hf⟩

/-- What is found among live dialogs is live. -/
theorem filter_find?_live (chosen : Dialog → Bool) (ds : List Dialog) :
    ((ds.filter (·.isLive)).find? chosen).filter (·.isLive)
      = (ds.filter (·.isLive)).find? chosen := by
  cases hfind : (ds.filter (·.isLive)).find? chosen with
  | none => rfl
  | some d =>
    have hlive : d.isLive = true := (List.mem_filter.1 (List.mem_of_find?_eq_some hfind)).2
    rw [Option.filter_some, if_pos hlive]

theorem find?_live_iff {chosen : Dialog → Bool} {ds : List Dialog} :
    (ds.find? chosen).filter (·.isLive)
        = ((ds.filter (·.isLive)).find? chosen).filter (·.isLive) ↔ ¬Hidden chosen ds := by
  rw [filter_find?_live]
  constructor
  · intro heq hhidden
    obtain ⟨hnone, d, -, hd⟩ := find?_live_of_hidden hhidden
    rw [hnone, hd] at heq
    cases heq
  · exact find?_live_of_not_hidden

/-! ## Matching by identity -/

/-- Whether a dialog matches in either orientation. -/
def Dialog.isMatch (callId fromTag toTag : String) (d : Dialog) : Bool :=
  (d.direction? callId fromTag toTag).isSome

/-- A dialog with its orientation, if it matches. -/
def Dialog.match? (callId fromTag toTag : String) (d : Dialog) : Option (Dialog × Direction) :=
  (d.direction? callId fromTag toTag).map fun way => (d, way)

theorem Dialog.match?_of_isMatch {callId fromTag toTag : String} {d : Dialog}
    (h : d.isMatch callId fromTag toTag = true) :
    ∃ way, d.match? callId fromTag toTag = some (d, way) := by
  obtain ⟨way, hway⟩ := Option.isSome_iff_exists.1 h
  exact ⟨way, by rw [match?, hway, Option.map_some]⟩

theorem findSome?_match? (callId fromTag toTag : String) (ds : List Dialog) :
    ds.findSome? (·.match? callId fromTag toTag)
      = (ds.find? (·.isMatch callId fromTag toTag)).bind (·.match? callId fromTag toTag) := by
  induction ds with
  | nil => rfl
  | cons d ds ih =>
    rw [List.findSome?_cons, List.find?_cons]
    cases hway : d.direction? callId fromTag toTag with
    | none => simp [Dialog.match?, Dialog.isMatch, hway] at ih ⊢; exact ih
    | some way => simp [Dialog.match?, Dialog.isMatch, hway]

namespace Table

variable {t : Table} {n : UInt32} {callId fromTag toTag : String}

theorem liveMatch?_eq (t : Table) (n : UInt32) (callId fromTag toTag : String) :
    t.liveMatch? n callId fromTag toTag
      = (((t.dialogsAt n).find? (·.isMatch callId fromTag toTag)).filter (·.isLive)).bind
          (·.match? callId fromTag toTag) := by
  unfold liveMatch? firstMatch? dialogsAt
  cases t.bucket? n with
  | none => rfl
  | some b =>
    have hfirst := findSome?_match? callId fromTag toTag b.dialogs
    simp only [Dialog.match?] at hfirst
    simp only [Option.bind_some, Option.elim_some, Dialog.match?, hfirst]
    cases b.dialogs.find? (·.isMatch callId fromTag toTag) with
    | none => rfl
    | some d =>
      cases hway : d.direction? callId fromTag toTag with
      | none =>
        cases hlive : d.phase.isDeleted with
        | false => simp [Option.filter_some, hway, hlive]
        | true => simp [Option.filter_some, hway, hlive]
      | some way =>
        cases hlive : d.phase.isDeleted with
        | false => simp [Option.filter_some, hway, hlive]
        | true => simp [Option.filter_some, hway, hlive]

theorem liveMatch?_live (t : Table) (n : UInt32) (callId fromTag toTag : String) :
    t.live.liveMatch? n callId fromTag toTag
      = (((t.dialogsAt n).filter (·.isLive)).find? (·.isMatch callId fromTag toTag)).bind
          (·.match? callId fromTag toTag) := by
  rw [liveMatch?_eq, dialogsAt_live, filter_find?_live]

theorem liveMatch?_of_not_hidden
    (h : ¬Hidden (·.isMatch callId fromTag toTag) (t.dialogsAt n)) :
    t.liveMatch? n callId fromTag toTag = t.live.liveMatch? n callId fromTag toTag := by
  rw [liveMatch?_eq, liveMatch?_live, find?_live_of_not_hidden h]

theorem liveMatch?_of_hidden (h : Hidden (·.isMatch callId fromTag toTag) (t.dialogsAt n)) :
    t.liveMatch? n callId fromTag toTag = none ∧
      ∃ d ∈ t.dialogsAt n, ∃ way, t.live.liveMatch? n callId fromTag toTag = some (d, way) := by
  obtain ⟨hnone, d, hmem, hd⟩ := find?_live_of_hidden h
  obtain ⟨way, hway⟩ := Dialog.match?_of_isMatch (List.find?_some hd)
  refine ⟨by rw [liveMatch?_eq, hnone, Option.bind_none], d, hmem, way, ?_⟩
  simp [liveMatch?_live, hd, Option.bind_some, hway]

theorem mem_of_liveMatch? {d : Dialog} {way : Direction}
    (h : t.liveMatch? n callId fromTag toTag = some (d, way)) : d ∈ t.dialogsAt n := by
  rw [liveMatch?_eq] at h
  obtain ⟨e, he, hway⟩ := Option.bind_eq_some_iff.1 h
  obtain ⟨way', -, heq⟩ := Option.map_eq_some_iff.1 hway
  cases heq
  exact List.mem_of_find?_eq_some (Option.filter_eq_some_iff.1 he).1

/-- Nothing live matches in a bucket. -/
theorem liveMatch?_live_eq_none_iff :
    t.live.liveMatch? n callId fromTag toTag = none ↔
      ∀ d ∈ t.dialogsAt n, d.isMatch callId fromTag toTag = true → d.isLive = false := by
  rw [liveMatch?_live]
  constructor
  · intro hnone d hd hmatch
    by_contra hlive
    have hsome : (((t.dialogsAt n).filter (·.isLive)).find?
        (·.isMatch callId fromTag toTag)).isSome = true :=
      List.find?_isSome.2 ⟨d, List.mem_filter.2 ⟨hd, by simpa using hlive⟩, hmatch⟩
    obtain ⟨e, he⟩ := Option.isSome_iff_exists.1 hsome
    obtain ⟨way, hway⟩ := Dialog.match?_of_isMatch (List.find?_some he)
    rw [he, Option.bind_some, hway] at hnone
    cases hnone
  · intro hall
    have hnone : ((t.dialogsAt n).filter (·.isLive)).find? (·.isMatch callId fromTag toTag)
        = none := by
      rw [List.find?_eq_none]
      intro d hd hmatch
      obtain ⟨hmem, hlive⟩ := List.mem_filter.1 hd
      rw [hall d hmem hmatch] at hlive
      cases hlive
    simp [hnone, Option.bind_none]

theorem Wf.bucket_of_mem_dialogsAt (h : t.Wf) {d : Dialog} (hd : d ∈ t.dialogsAt n) :
    d.key.bucket = n := by
  unfold dialogsAt at hd
  cases hb : t.bucket? n with
  | none =>
    rw [hb] at hd
    cases hd
  | some b =>
    rw [hb] at hd
    exact (h n b hb).bucket d hd

/-! ## Lookups and hidden dialogs -/

/-- A lookup by identity with these arguments stops at a deleted dialog before a live one: in the
first bucket it searches, or in the second when nothing live matches in the first. -/
def HidesIdentity (t : Table) (callId fromTag toTag : String) : Prop :=
  Hidden (·.isMatch callId fromTag toTag) (t.dialogsAt (t.home callId fromTag)) ∨
  t.home callId toTag ≠ t.home callId fromTag ∧
    (∀ d ∈ t.dialogsAt (t.home callId fromTag),
      d.isMatch callId fromTag toTag = true → d.isLive = false) ∧
    Hidden (·.isMatch callId fromTag toTag) (t.dialogsAt (t.home callId toTag))

instance (t : Table) (callId fromTag toTag : String) :
    Decidable (t.HidesIdentity callId fromTag toTag) :=
  inferInstanceAs (Decidable (_ ∨ _ ∧ _ ∧ _))

theorem Wf.lookupIdentity_live_iff (h : t.Wf) (callId fromTag toTag : String) :
    t.lookupIdentity callId fromTag toTag = t.live.lookupIdentity callId fromTag toTag ↔
      ¬t.HidesIdentity callId fromTag toTag := by
  unfold lookupIdentity HidesIdentity
  simp only [home_live, ← liveMatch?_live_eq_none_iff]
  by_cases hfirst : Hidden (·.isMatch callId fromTag toTag) (t.dialogsAt (t.home callId fromTag))
  · obtain ⟨hnone, d, hd, way, hlive⟩ := liveMatch?_of_hidden hfirst
    rw [hnone, hlive]
    simp only [hfirst, true_or, not_true_eq_false, iff_false]
    split
    · simp
    next hhome =>
      -- what the second bucket holds is not what the first holds
      intro heq
      have hd' := h.bucket_of_mem_dialogsAt (mem_of_liveMatch? heq)
      exact hhome (hd'.symm.trans (h.bucket_of_mem_dialogsAt hd))
  · rw [liveMatch?_of_not_hidden hfirst]
    cases hlive : t.live.liveMatch? (t.home callId fromTag) callId fromTag toTag with
    | some found => simp [hfirst]
    | none =>
      by_cases hhome : t.home callId toTag = t.home callId fromTag
      · simp [hhome, hfirst]
      · simp only [hhome, if_false, hfirst, false_or, ne_eq, not_false_eq_true, true_and]
        by_cases hsecond :
            Hidden (·.isMatch callId fromTag toTag) (t.dialogsAt (t.home callId toTag))
        · obtain ⟨hnone, d, -, way, hlive'⟩ := liveMatch?_of_hidden hsecond
          simp [hnone, hlive', hsecond]
        · simp [liveMatch?_of_not_hidden hsecond, hsecond]

/-- The dialogs that a downstream lookup searches: one bucket if there is a tag, else all. -/
def searched (t : Table) (callId : String) : Option String → List Dialog
  | some tag => t.dialogsAt (t.home callId tag)
  | none => t.dialogs

theorem searched_live (t : Table) (callId : String) (fromTag : Option String) :
    t.live.searched callId fromTag = (t.searched callId fromTag).filter (·.isLive) := by
  cases fromTag with
  | none => exact t.dialogs_live
  | some tag => exact t.dialogsAt_live _

theorem lookupDownstream_eq (t : Table) (callId : String) (fromTag : Option String) :
    t.lookupDownstream callId fromTag
      = ((t.searched callId fromTag).find? (·.isDownstream callId fromTag)).filter
          (·.isLive) := by
  unfold lookupDownstream searched
  cases fromTag with
  | none =>
    dsimp only
    rw [dialogs, List.find?_flatMap]
    rfl
  | some tag =>
    dsimp only
    unfold dialogsAt
    cases t.bucket? (t.home callId tag) with
    | none => rfl
    | some b => rfl

/-- A downstream lookup with these arguments stops at a deleted dialog before a live one. -/
def HidesDownstream (t : Table) (callId : String) (fromTag : Option String) : Prop :=
  Hidden (·.isDownstream callId fromTag) (t.searched callId fromTag)

instance (t : Table) (callId : String) (fromTag : Option String) :
    Decidable (t.HidesDownstream callId fromTag) :=
  inferInstanceAs (Decidable (Hidden _ _))

theorem lookupDownstream_live_iff (t : Table) (callId : String) (fromTag : Option String) :
    t.lookupDownstream callId fromTag = t.live.lookupDownstream callId fromTag ↔
      ¬t.HidesDownstream callId fromTag := by
  rw [lookupDownstream_eq, lookupDownstream_eq, searched_live]
  exact find?_live_iff

end Table

/-- In every reachable table a lookup finds what it would find without the deleted dialogs, with the
same orientation, exactly when no deleted dialog stands before a live one that it could find. -/
theorem Registry.Reachable.lookup_live_iff {r : Registry ε} (h : r.Reachable) (callId : String) :
    (∀ fromTag toTag,
      r.table.lookupIdentity callId fromTag toTag
          = r.table.live.lookupIdentity callId fromTag toTag ↔
        ¬r.table.HidesIdentity callId fromTag toTag) ∧
    ∀ fromTag,
      r.table.lookupDownstream callId fromTag = r.table.live.lookupDownstream callId fromTag ↔
        ¬r.table.HidesDownstream callId fromTag :=
  ⟨h.wf.lookupIdentity_live_iff callId, r.table.lookupDownstream_live_iff callId⟩

/-! A call that is answered and hung up while somebody keeps a reference, and then a second one. -/

/-- A run that leaves a deleted dialog behind and then has a live one with the same Call-ID, for
this caller tag. -/
def redialed (tag : String) : Registry Unit :=
  let identity (tag : String) : Identity :=
    { callId := "abc", fromUri := "sip:a", toUri := "sip:b", fromTag := tag }
  Registry.blank.performAll .quiet
    [.insert (identity "t1") 0, .setLegInfo ⟨0, 0⟩ .callee { tag := "t2" },
      .processEvent ⟨0, 0⟩ .successResponse, .addRefs ⟨0, 0⟩ 1, .processEvent ⟨0, 0⟩ .requestBye,
      .insert (identity tag) 0, .setLegInfo ⟨0, 1⟩ .callee { tag := "t2" },
      .processEvent ⟨0, 1⟩ .successResponse]

theorem redialed_reachable (tag : String) : (redialed tag).Reachable :=
  Registry.blank_reachable.performAll Environment.quiet_lawful _

/-- With a tag of its own, the second dialog is found. -/
theorem redialed_lookup_live :
    (redialed "t3").table.lookupIdentity "abc" "t3" "t2"
        = (redialed "t3").table.live.lookupIdentity "abc" "t3" "t2" ∧
      (redialed "t3").table.lookupDownstream "abc" (some "t3")
        = (redialed "t3").table.live.lookupDownstream "abc" (some "t3") := by
  obtain ⟨hidentity, hdownstream⟩ :=
    Registry.Reachable.lookup_live_iff (redialed_reachable "t3") "abc"
  exact ⟨(hidentity "t3" "t2").2 (by decide +kernel),
    (hdownstream (some "t3")).2 (by decide +kernel)⟩

/-- With the tag of the first, it is hidden from every lookup. -/
theorem redialed_hidden :
    (redialed "t1").Reachable ∧
      ((redialed "t1").table.lookupIdentity "abc" "t1" "t2").map (·.1.key) = none ∧
      ((redialed "t1").table.live.lookupIdentity "abc" "t1" "t2").map (·.1.key)
        = some ⟨0, 1⟩ ∧
      ((redialed "t1").table.lookupDownstream "abc" (some "t1")).map (·.key) = none ∧
      ((redialed "t1").table.live.lookupDownstream "abc" (some "t1")).map (·.key)
        = some ⟨0, 1⟩ ∧
      ((redialed "t1").table.lookupDownstream "abc" none).map (·.key) = none ∧
      ((redialed "t1").table.live.lookupDownstream "abc" none).map (·.key) = some ⟨0, 1⟩ := by
  refine ⟨redialed_reachable "t1", ?_⟩
  decide +kernel

end SipDialogs
