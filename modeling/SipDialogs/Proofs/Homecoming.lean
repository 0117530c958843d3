-- SUMMARY: Which of the dialogs that were loaded from records a lookup can find.
import SipDialogs.Proofs.Identity
import SipDialogs.Proofs.Restarts

/-! # Restored dialogs and lookups

A restored dialog is linked in the bucket that its record names. Loading checks that the table has
this bucket, and no more. Lookups search the buckets that the Call-ID and the tags pick for the
present size of the table, so they find a restored dialog exactly when its record names one of
these: a record of a process whose table had another size need not. -/

namespace SipDialogs

/-! ## The only dialog of its kind -/

namespace Table

variable {t : Table} {d : Dialog}

/-- No other linked dialog has the Call-ID and the tags of this one. -/
def OnlyPair (t : Table) (d : Dialog) : Prop :=
  ∀ key e, t.find? key = some e → e.Matches d.callId d.caller.tag d.callee.tag → e = d

/-- No other linked dialog has the Call-ID and the caller tag of this one. -/
def OnlyCaller (t : Table) (d : Dialog) : Prop :=
  ∀ key e, t.find? key = some e → e.callId = d.callId → e.caller.tag = d.caller.tag → e = d

/-- The dialog is in the bucket that its Call-ID and its caller's tag pick. -/
def AtHome (t : Table) (d : Dialog) : Prop := d.key.bucket = t.home d.callId d.caller.tag

/-- It is in one of the buckets that its Call-ID and its tags pick. -/
def NearHome (t : Table) (d : Dialog) : Prop :=
  t.AtHome d ∨ d.key.bucket = t.home d.callId d.callee.tag

instance (t : Table) (d : Dialog) : Decidable (t.AtHome d) := inferInstanceAs (Decidable (_ = _))

instance (t : Table) (d : Dialog) : Decidable (t.NearHome d) :=
  inferInstanceAs (Decidable (_ ∨ _))

theorem Wf.mem_dialogsAt_of_linked (h : t.Wf) (hfind : t.find? d.key = some d) {n : UInt32} :
    d ∈ t.dialogsAt n ↔ d.key.bucket = n := by
  rw [h.mem_dialogsAt]
  exact and_iff_right hfind

/-- A live dialog that alone matches is the match of its own bucket. -/
theorem Wf.liveMatch?_of_only (h : t.Wf) (hfind : t.find? d.key = some d)
    (hlive : d.phase ≠ .deleted) {callId fromTag toTag : String} {way : Direction}
    (hway : d.direction? callId fromTag toTag = some way)
    (honly : ∀ key e, t.find? key = some e → e.Matches callId fromTag toTag → e = d)
    (n : UInt32) :
    t.liveMatch? n callId fromTag toTag = if d.key.bucket = n then some (d, way) else none := by
  have hmatch : d.isMatch callId fromTag toTag = true := by simp [Dialog.isMatch, hway]
  have hfirst : (t.dialogsAt n).find? (·.isMatch callId fromTag toTag)
      = if d.key.bucket = n then some d else none := by
    refine find?_of_only hmatch (fun e he hematch => ?_) (h.mem_dialogsAt_of_linked hfind)
    exact honly e.key e (h.mem_dialogsAt.1 he).1 (Dialog.isMatch_iff.1 hematch)
  have hisLive : d.isLive = true := by simpa [Dialog.isLive, Phase.isDeleted] using hlive
  rw [liveMatch?_eq, hfirst]
  split
  · rw [Option.filter_some, if_pos hisLive, Option.bind_some, Dialog.match?, hway]
    rfl
  · rfl

/-- A lookup by identity searches two buckets, and finds the dialog if it is in one of them. -/
theorem Wf.lookupIdentity_of_only (h : t.Wf) (hfind : t.find? d.key = some d)
    (hlive : d.phase ≠ .deleted) {callId fromTag toTag : String} {way : Direction}
    (hway : d.direction? callId fromTag toTag = some way)
    (honly : ∀ key e, t.find? key = some e → e.Matches callId fromTag toTag → e = d) :
    t.lookupIdentity callId fromTag toTag
      = if d.key.bucket = t.home callId fromTag ∨ d.key.bucket = t.home callId toTag then
          some (d, way)
        else none := by
  have hmatch := h.liveMatch?_of_only hfind hlive hway honly
  unfold lookupIdentity
  rw [hmatch]
  by_cases hfrom : d.key.bucket = t.home callId fromTag
  · rw [if_pos hfrom, if_pos (Or.inl hfrom)]
  · rw [if_neg hfrom]
    dsimp only
    by_cases hsame : t.home callId toTag = t.home callId fromTag
    · rw [if_pos hsame, hsame, if_neg (by simpa using hfrom)]
    · rw [if_neg hsame, hmatch]
      simp only [hfrom, false_or]

/-- A downstream lookup with a tag searches one bucket. -/
theorem Wf.lookupDownstream_of_only (h : t.Wf) (hfind : t.find? d.key = some d)
    (hlive : d.phase ≠ .deleted) (honly : t.OnlyCaller d) :
    t.lookupDownstream d.callId (some d.caller.tag) = if t.AtHome d then some d else none := by
  have hfirst : (t.dialogsAt (t.home d.callId d.caller.tag)).find?
      (·.isDownstream d.callId (some d.caller.tag)) = if t.AtHome d then some d else none := by
    refine find?_of_only (by simp [Dialog.isDownstream]) (fun e he hchosen => ?_)
      (h.mem_dialogsAt_of_linked hfind)
    have hsame : e.callId = d.callId ∧ d.caller.tag = e.caller.tag := by
      simpa [Dialog.isDownstream] using hchosen
    exact honly e.key e (h.mem_dialogsAt.1 he).1 hsame.1 hsame.2.symm
  have hisLive : d.isLive = true := by simpa [Dialog.isLive, Phase.isDeleted] using hlive
  rw [lookupDownstream_eq, searched, hfirst]
  split
  · rw [Option.filter_some, if_pos hisLive]
  · rfl

end Table

namespace Dialog

/-- With its own tags in its own order, a dialog is asked for by its caller. -/
theorem direction?_caller (d : Dialog) :
    d.direction? d.callId d.caller.tag d.callee.tag = some .fromCaller := by
  simp [direction?]

/-- In the other order it is asked for by its callee, unless there is no telling the tags apart. -/
theorem direction?_callee (d : Dialog) :
    d.direction? d.callId d.callee.tag d.caller.tag
      = some (if d.callee.tag = d.caller.tag then .fromCaller else .fromCallee) := by
  by_cases htags : d.callee.tag = d.caller.tag
  · simp [direction?, htags]
  · simp [direction?, htags]

end Dialog

/-! ## Restored dialogs -/

namespace Registry

/-- What lookups make of a dialog that is the only one of its kind: they find it, and take a
reference on it, exactly if it is in a bucket that they search. -/
structure Answers (r : Registry ε) (d : Dialog) : Prop where
  caller : r.table.OnlyPair d → r.lookupIdentity d.callId d.caller.tag d.callee.tag
    = if r.table.NearHome d then (some (d.key, .fromCaller), r.retain d) else (none, r)
  callee : r.table.OnlyPair d → r.lookupIdentity d.callId d.callee.tag d.caller.tag
    = if r.table.NearHome d then
        (some (d.key, if d.callee.tag = d.caller.tag then .fromCaller else .fromCallee), r.retain d)
      else (none, r)
  downstream : r.table.OnlyCaller d → r.lookupDownstream d.callId (some d.caller.tag)
    = if r.table.AtHome d then (some d.key, r.retain d) else (none, r)

theorem Sound.answers {r : Registry ε} (h : r.Sound) {d : Dialog}
    (hfind : r.table.find? d.key = some d) (hlive : d.phase ≠ .deleted) : r.Answers d where
  caller honly := by
    have hfound : r.table.lookupIdentity d.callId d.caller.tag d.callee.tag
        = if r.table.NearHome d then some (d, .fromCaller) else none :=
      h.wf.lookupIdentity_of_only hfind hlive d.direction?_caller honly
    unfold lookupIdentity
    rw [hfound]
    by_cases hnear : r.table.NearHome d
    · rw [if_pos hnear, if_pos hnear]
    · rw [if_neg hnear, if_neg hnear]
  callee honly := by
    have hfound := h.wf.lookupIdentity_of_only hfind hlive d.direction?_callee
      fun key e he hmatch => honly key e he hmatch.symm
    unfold lookupIdentity
    rw [hfound]
    by_cases hnear : r.table.NearHome d
    · have hswapped : d.key.bucket = r.table.home d.callId d.callee.tag ∨
          d.key.bucket = r.table.home d.callId d.caller.tag := hnear.symm
      rw [if_pos hnear, if_pos hswapped]
    · rw [if_neg hnear, if_neg fun hswapped => hnear hswapped.symm]
  downstream honly := by
    have hfound := h.wf.lookupDownstream_of_only hfind hlive honly
    unfold lookupDownstream
    rw [hfound]
    by_cases hhome : r.table.AtHome d
    · rw [if_pos hhome, if_pos hhome]
    · rw [if_neg hhome, if_neg hhome]

end Registry

/-- A table that has the bucket of a snapshot refuses it only if its key is taken. -/
theorem Table.isLinked_of_restore {t : Table} {s : Snapshot} {e : Fault}
    (h : t.restore s = .error e) (hbucket : (t.bucket? s.key.bucket).isSome) :
    t.isLinked s.key = true := by
  obtain ⟨b, hb⟩ := Option.isSome_iff_exists.1 hbucket
  unfold restore at h
  rw [hb] at h
  dsimp only at h
  split at h
  next htaken =>
    rw [isLinked, find?, hb]
    simpa [Bucket.contains] using htaken
  next => cases h

theorem Table.isSome_bucket?_restore {t t' : Table} {s : Snapshot} {d : Dialog}
    (h : t.restore s = .ok (d, t')) (n : UInt32) :
    (t'.bucket? n).isSome = (t.bucket? n).isSome := by
  unfold restore at h
  split at h
  · cases h
  · split at h
    · cases h
    · cases h
      have hcounted : ∀ t : Table, t.countCreated.bucket? n = t.bucket? n := fun _ => rfl
      rw [hcounted, bucket?_modifyBucket]
      split
      next hsame => rw [hsame, Option.isSome_map]
      next => rfl

namespace Node

/-- A live record is passed over only if its key is taken. -/
theorem isLinked_of_passed {r : Registry ε} {record : Record} {d : Dialog}
    (h : restoreRecord r record = (false, r)) (hd : record.dialog? = some d)
    (hbucket : (r.table.bucket? record.key.bucket).isSome) :
    r.table.isLinked record.key = true := by
  obtain ⟨hkey, -⟩ := Record.of_dialog? hd
  obtain ⟨hlive, s, hsnapshot, rfl⟩ := Record.dialog?_eq_some.1 hd
  rw [← hkey] at hbucket ⊢
  unfold restoreRecord Registry.restore at h
  rw [if_neg hlive, hsnapshot] at h
  cases hrestore : r.table.restore s with
  | error e => exact Table.isLinked_of_restore hrestore hbucket
  | ok linked => simp [hrestore] at h

/-- The dialogs that are counted are linked, and no others. A live record whose bucket the table has
is passed over only if its key is taken, wherever the lookups would search for its dialog. -/
theorem restoreAll_counts (records : List Record) {r : Registry ε} (hsound : r.Sound) :
    (restoreAll records r).2.table.dialogs.length
        = r.table.dialogs.length + (restoreAll records r).1 ∧
      ∀ record ∈ records, ∀ d, record.dialog? = some d →
        (r.table.bucket? record.key.bucket).isSome →
        (restoreAll records r).2.table.isLinked record.key = true := by
  induction records generalizing r with
  | nil => exact ⟨rfl, List.forall_mem_nil _⟩
  | cons record records ih =>
    unfold restoreAll
    rcases restoreRecord_cases r record with hpassed | ⟨s, d, t, hd, hrestore, hlinked⟩
    · rw [hpassed]
      dsimp only
      obtain ⟨hlength, hrest⟩ := ih hsound
      refine ⟨hlength, List.forall_mem_cons.2 ⟨fun d hd hbucket => ?_, hrest⟩⟩
      obtain ⟨e, he⟩ := Option.isSome_iff_exists.1 (isLinked_of_passed hpassed hd hbucket)
      have hkept := (restoreAll_loads records r).kept record.key e he
      simp [Table.isLinked, hkept]
    · rw [hlinked]
      dsimp only
      have hstep := Step.restore hrestore []
      obtain ⟨hlinks, -⟩ := Table.restore_links hrestore
      have hlength := hsound.wf.length_dialogs_of_added (hlinks.wf hsound.wf) hlinks.fresh
        hlinks.find?
      have hrestored := ih (hstep.sound hsound)
      dsimp only at hrestored
      obtain ⟨hcount, hrest⟩ := hrestored
      refine ⟨by rw [if_pos rfl, hcount, hlength]; omega, List.forall_mem_cons.2 ⟨?_, ?_⟩⟩
      · intro e he _
        obtain ⟨hkey, -⟩ := Record.of_dialog? hd
        have hfound : t.find? record.key = some d := by rw [hlinks.find?, if_pos hkey.symm]
        have hkept := (restoreAll_loads records { r with table := t }).kept record.key d hfound
        simp [Table.isLinked, hkept]
      · intro other hother e he hbucket
        rw [← Table.isSome_bucket?_restore hrestore] at hbucket
        exact hrest other hother e he hbucket

theorem load_ok {env : Environment ε} (henv : env.Serves) (n : Node ε) :
    ∃ count n', load n env = (.ok count, n') := by
  have hdone : (n.callStore env .loaded).1 = .done := henv.stores ..
  unfold load
  generalize n.callStore env .loaded = called at hdone ⊢
  obtain ⟨outcome, m⟩ := called
  obtain rfl : outcome = .done := hdone
  exact ⟨_, _, rfl⟩

/-- Loading counts the dialogs that it links. Each of them is live, stands under the key of
a record that describes it, and is found by the lookups with its Call-ID and tags exactly if
that record names a bucket that they search. No record is passed over because they would not
search its bucket. -/
theorem load_answers {n : Node ε} (hgrown : n.registry.Grown .free) {env : Environment ε}
    (henv : env.Serves) :
    ∃ count n', load n env = (.ok count, n') ∧
      n'.registry.table.dialogs.length = n.registry.table.dialogs.length + count ∧
      (∀ record ∈ n.store.records, ∀ d, record.dialog? = some d →
        (n.registry.table.bucket? record.key.bucket).isSome →
        n'.registry.table.isLinked record.key = true) ∧
      ∀ d, n'.registry.table.find? d.key = some d → n.registry.table.find? d.key = none →
        (∃ record ∈ n.store.records, record.key = d.key ∧ record.dialog? = some d) ∧
        d.phase ≠ .deleted ∧ n'.registry.Answers d := by
  obtain ⟨count, n', hload⟩ := load_ok henv n
  obtain ⟨r, hidle, hrestored, -⟩ := load_eq_ok henv hload
  have hsound : r.Sound := hgrown.sound.congr hidle.table hidle.observers hidle.nextSerial
  have hcounts := restoreAll_counts n.store.records hsound
  have hloads := restoreAll_loads n.store.records r
  rw [hrestored, hidle.table] at hcounts
  rw [hrestored] at hloads
  refine ⟨count, n', hload, hcounts.1, hcounts.2, fun d hd hnew => ?_⟩
  rcases hloads.source d.key d hd with hold | ⟨record, hrecord, hkey, hdescribes⟩
  · rw [hidle.table, hnew] at hold
    cases hold
  · obtain ⟨-, -, hlive⟩ := Record.of_dialog? hdescribes
    exact ⟨⟨record, hrecord, hkey, hdescribes⟩, hlive, (hloads.sound hsound).answers hd hlive⟩

/-! A call that a process with one bucket has stored, and processes with one and two that
load it. -/

/-- A new registry of two buckets. -/
def twoBuckets : Registry Unit :=
  (Registry.create { hashSize := 2 } .epoch false ()).toOption.getD .blank

/-- What a process with one bucket has stored of an answered call. -/
def narrowStore : Store :=
  (shutdownAfter {}
    [.insert { callId := "abc", fromUri := "sip:a", toUri := "sip:b", fromTag := "t2" } 0,
      .setLegInfo ⟨0, 0⟩ .callee { tag := "t4" }, .processEvent ⟨0, 0⟩ .successResponse]).store

/-- A process that has loaded it. -/
def narrowLoaded (r : Registry Unit) : Node Unit :=
  (load { registry := r, store := narrowStore } .quiet).2

/-- In a table of one bucket the call is found with its tags in either order. -/
theorem load_answers_narrow :
    ((narrowLoaded .blank).registry.lookupIdentity "abc" "t2" "t4").1
        = some (⟨0, 0⟩, .fromCaller) ∧
      ((narrowLoaded .blank).registry.lookupIdentity "abc" "t4" "t2").1
        = some (⟨0, 0⟩, .fromCallee) ∧
      ((narrowLoaded .blank).registry.lookupDownstream "abc" (some "t2")).1 = some ⟨0, 0⟩ := by
  obtain ⟨count, n', hload, -, -, hanswers⟩ := load_answers
    (n := { registry := .blank, store := narrowStore }) (Registry.blank_grown _)
    Environment.quiet_serves
  obtain rfl : narrowLoaded .blank = n' := congrArg Prod.snd hload
  obtain ⟨r, hidle, hloads, -⟩ := load_loads Environment.quiet_serves hload
  have hsound := hloads.sound ((Registry.blank_grown .free).sound.congr hidle.table
    hidle.observers hidle.nextSerial)
  have hlinked : ∃ d, (narrowLoaded .blank).registry.table.dialogs = [d] ∧ d.key = ⟨0, 0⟩ ∧
      d.callId = "abc" ∧ d.caller.tag = "t2" ∧ d.callee.tag = "t4" ∧
      (narrowLoaded .blank).registry.table.AtHome d :=
    ⟨_, rfl, by decide +kernel⟩
  obtain ⟨d, hdialogs, hkey, hcallId, hcaller, hcallee, hhome⟩ := hlinked
  have hnear : (narrowLoaded .blank).registry.table.NearHome d := .inl hhome
  have hd := hsound.wf.mem_dialogs.1 (hdialogs ▸ List.mem_cons_self)
  have hsingle : ∀ key e, (narrowLoaded .blank).registry.table.find? key = some e → e = d := by
    intro key e he
    obtain rfl := hsound.wf.key_of_find? he
    have hmem := hsound.wf.mem_dialogs.2 he
    rw [hdialogs] at hmem
    exact List.mem_singleton.1 hmem
  obtain ⟨-, -, hanswer⟩ := hanswers d hd
    (Table.find?_create (Registry.create_eq_ok Registry.create_blank).1 _)
  have hfrom := hanswer.caller fun key e he _ => hsingle key e he
  have hto := hanswer.callee fun key e he _ => hsingle key e he
  have hdownstream := hanswer.downstream fun key e he _ _ => hsingle key e he
  rw [if_pos hnear, hcallId, hcaller, hcallee, hkey] at hfrom
  rw [if_pos hnear, hcallId, hcaller, hcallee, hkey] at hto
  rw [if_pos hhome, hcallId, hcaller, hkey] at hdownstream
  rw [hfrom, hto, hdownstream]
  exact ⟨rfl, rfl, rfl⟩

/-- In a table of two buckets it is counted as restored, and never found. -/
theorem load_misses :
    Registry.create { hashSize := 2 } .epoch false () = .ok twoBuckets ∧
      (load { registry := twoBuckets, store := narrowStore } .quiet).1.toOption = some 1 ∧
      (narrowLoaded twoBuckets).registry.table.dialogs.map
          (fun d => (d.key, d.callId, d.caller.tag, d.callee.tag))
        = [(⟨0, 0⟩, "abc", "t2", "t4")] ∧
      ((narrowLoaded twoBuckets).registry.lookupIdentity "abc" "t2" "t4").1 = none ∧
      ((narrowLoaded twoBuckets).registry.lookupIdentity "abc" "t4" "t2").1 = none ∧
      ((narrowLoaded twoBuckets).registry.lookupDownstream "abc" (some "t2")).1 = none :=
  ⟨rfl, by decide +kernel⟩

end Node

end SipDialogs
