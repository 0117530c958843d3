-- SUMMARY: Loading is exact, is done after the first time, and does not depend on the order.
import SipDialogs.Proofs.Commuting
import SipDialogs.Proofs.Survival

/-! # Loading

Every record of a list is judged against what has been linked before it. Still, what is linked in
the end can be said at once: under each key that was free, the dialog of the first record of the
list that can be used. So a second loading finds nothing to do, and records under different keys may
come in any order. -/

namespace SipDialogs

/-! ## Linking one dialog -/

namespace Bucket

theorem toNat_passed (id next : UInt32) : (passed id next).toNat
    = max next.toNat (if id.toNat + 1 < UInt32.size then id + 1 else id).toNat := by
  unfold passed passId
  dsimp only
  generalize (if id.toNat + 1 < UInt32.size then id + 1 else id) = past
  split
  next hlt => exact (Nat.max_eq_right (Nat.le_of_lt (UInt32.lt_iff_toNat_lt.1 hlt))).symm
  next hle => exact (Nat.max_eq_left (UInt32.not_lt.1 hle)).symm

/-- The numbers of a bucket are past two dialogs, whichever of them is linked first. -/
theorem passed_comm (id id' next : UInt32) :
    passed id (passed id' next) = passed id' (passed id next) := by
  refine UInt32.toNat_inj.1 ?_
  simp only [toNat_passed]
  exact max_right_comm ..

/-- The bucket with a dialog linked. -/
def enter (b : Bucket) (d : Dialog) : Bucket := (b.put d).passId d.key.localId

theorem nextId_enter (b : Bucket) (d : Dialog) :
    (b.enter d).nextId = passed d.key.localId b.nextId := rfl

theorem find?_enter (b : Bucket) (d : Dialog) (id : UInt32) :
    (b.enter d).find? id = if id = d.key.localId then some d else b.find? id :=
  b.find?_put d id

theorem Wf.enter {n : UInt32} {b : Bucket} (h : b.Wf n) {d : Dialog} (hd : d.key.bucket = n) :
    (b.enter d).Wf n :=
  (h.put hd).passId _

theorem Wf.enter_comm {n : UInt32} {b : Bucket} (h : b.Wf n) {d e : Dialog}
    (hd : d.key.bucket = n) (he : e.key.bucket = n) (hne : d.key.localId ≠ e.key.localId) :
    (b.enter d).enter e = (b.enter e).enter d := by
  refine ((h.enter hd).enter he).ext ((h.enter he).enter hd) ?_ fun id => ?_
  · simp only [nextId_enter, passed_comm]
  · simp only [find?_enter]
    by_cases hid : id = d.key.localId
    · simp [hid, hne]
    · simp [hid]

end Bucket

namespace Table

variable {t t' : Table} {d e : Dialog}

theorem linking_eq (t : Table) (d : Dialog) :
    t.linking d = (t.modifyBucket d.key.bucket (·.enter d)).tally { created := 1 } := rfl

/-- Dialogs under different keys may be linked in either order. -/
theorem Wf.linking_comm (h : t.Wf) (hne : d.key ≠ e.key) :
    (t.linking d).linking e = (t.linking e).linking d := by
  simp only [linking_eq, modifyBucket_tally]
  refine congrArg (fun t : Table => (t.tally _).tally _) (modifyBucket_comm fun hbucket b hb => ?_)
  have hid : d.key.localId ≠ e.key.localId := fun heq => hne ((localId_eq_iff hbucket.symm).1 heq)
  exact (h _ b hb).enter_comm rfl hbucket.symm hid

end Table

namespace Table

/-- The dialog that a table may take from a record. -/
def accepts? (t : Table) (record : Record) : Option Dialog :=
  if (t.bucket? record.key.bucket).isSome then record.dialog? else none

theorem key_of_accepts? {t : Table} {record : Record} {d : Dialog}
    (h : t.accepts? record = some d) : d.key = record.key := by
  unfold accepts? at h
  split at h
  · exact (Record.of_dialog? h).1
  · cases h

theorem accepts?_linking (t : Table) (d : Dialog) : (t.linking d).accepts? = t.accepts? := by
  funext record
  have hsome : ((t.linking d).bucket? record.key.bucket).isSome
      = (t.bucket? record.key.bucket).isSome := by
    have hnext := congrArg Option.isSome (t.nextId?_linking d record.key.bucket)
    unfold nextId? at hnext
    rw [apply_ite Option.isSome, Option.isSome_map, Option.isSome_map, Option.isSome_map,
      ite_self] at hnext
    exact hnext
  unfold accepts?
  rw [hsome]

/-- The dialog that is linked for a record, if its key is free. -/
def links? (t : Table) (record : Record) : Option Dialog :=
  if t.isLinked record.key then none else t.accepts? record

variable {t : Table} {record : Record} {d : Dialog}

theorem of_links? (h : t.links? record = some d) :
    t.find? record.key = none ∧ t.accepts? record = some d ∧ d.key = record.key := by
  unfold links? at h
  split at h
  · cases h
  next hfree => exact ⟨by simpa [isLinked] using hfree, h, key_of_accepts? h⟩

theorem find?_linking (h : t.accepts? record = some d) (key : Key) :
    (t.linking d).find? key = if key = d.key then some d else t.find? key := by
  have hbucket : (t.bucket? d.key.bucket).isSome := by
    rw [key_of_accepts? h]
    unfold accepts? at h
    split at h
    next hbucket => exact hbucket
    · cases h
  rw [← find?_put hbucket]
  simp [linking, put, find?_modifyBucket]

theorem Wf.linking (h : t.Wf) (d : Dialog) : (t.linking d).Wf :=
  (h.modifyBucket fun _ hb => (hb.put rfl).passId _).count _

/-- The dialog that a table may take from a list of records under a key: that of the first record
that can be used. -/
def firstAccepted? (t : Table) (records : List Record) (key : Key) : Option Dialog :=
  records.findSome? fun record => if record.key = key then t.accepts? record else none

theorem isSome_firstAccepted? {records : List Record} (hrecord : record ∈ records)
    (h : t.accepts? record = some d) : (t.firstAccepted? records record.key).isSome := by
  unfold firstAccepted?
  rw [List.findSome?_isSome_iff]
  exact ⟨record, hrecord, by rw [if_pos rfl, h]; rfl⟩

/-- What is linked for one record makes no difference to records under other keys. -/
theorem links?_linking (h : t.accepts? record = some d) {other : Record}
    (hne : other.key ≠ record.key) : (t.linking d).links? other = t.links? other := by
  unfold links? isLinked
  rw [accepts?_linking, find?_linking h, key_of_accepts? h, if_neg hne]

end Table

namespace Node

variable {r : Registry ε} {record other : Record} {records records' : List Record} {d : Dialog}

theorem restoreRecord_eq (r : Registry ε) (record : Record) :
    restoreRecord r record = match r.table.links? record with
      | some d => (true, { r with table := r.table.linking d })
      | none => (false, r) := by
  unfold Table.links? Table.accepts?
  rcases restoreRecord_cases r record with hpassed | ⟨s, d, t, hd, hrestore, hlinked⟩
  · rw [hpassed]
    split
    next d hlinks =>
      split at hlinks
      · cases hlinks
      next hfree =>
        split at hlinks
        next hbucket => exact absurd (isLinked_of_passed hpassed hlinks hbucket) hfree
        · cases hlinks
    · rfl
  · obtain ⟨hlinks, -⟩ := Table.restore_links hrestore
    have hkey := (Record.of_dialog? hd).1
    have hfree : r.table.isLinked record.key = false := by
      rw [Table.isLinked, ← hkey, hlinks.fresh]
      rfl
    have hbucket : (r.table.bucket? record.key.bucket).isSome := by
      have hfound : t.find? record.key = some d := by rw [hlinks.find?, if_pos hkey.symm]
      rw [← Table.isSome_bucket?_restore hrestore]
      exact Table.bucket?_isSome_of_find? hfound
    rw [hlinked, hfree, if_neg Bool.false_ne_true, if_pos hbucket, hd, Table.restore_eq_ok hrestore]

theorem restoreRecord_of_some (h : r.table.links? record = some d) :
    restoreRecord r record = (true, { r with table := r.table.linking d }) := by
  rw [restoreRecord_eq, h]

theorem restoreRecord_of_none (h : r.table.links? record = none) :
    restoreRecord r record = (false, r) := by
  rw [restoreRecord_eq, h]

/-! ## Linking all of them -/

theorem restoreAll_cons_of_some (h : r.table.links? record = some d) :
    restoreAll (record :: records) r
      = ((restoreAll records { r with table := r.table.linking d }).1 + 1,
        (restoreAll records { r with table := r.table.linking d }).2) := by
  rw [restoreAll, restoreRecord_of_some h]
  rfl

theorem restoreAll_cons_of_none (h : r.table.links? record = none) :
    restoreAll (record :: records) r = restoreAll records r := by
  rw [restoreAll, restoreRecord_of_none h]
  rfl

/-- Nothing happens if there is nothing to link. -/
theorem restoreAll_of_none (h : ∀ record ∈ records, r.table.links? record = none) :
    restoreAll records r = (0, r) := by
  induction records with
  | nil => rfl
  | cons record records ih =>
    rw [restoreAll_cons_of_none (h record List.mem_cons_self)]
    exact ih fun other hother => h other (List.mem_cons_of_mem _ hother)

/-- What stands under a key in the end stood there before, or comes from the first record that can
be used. -/
theorem restoreAll_find?_eq (records : List Record) (r : Registry ε) (key : Key) :
    (restoreAll records r).2.table.find? key
      = (r.table.find? key).or (r.table.firstAccepted? records key) := by
  induction records generalizing r with
  | nil => exact (Option.or_none).symm
  | cons record records ih =>
    have hfirst : r.table.firstAccepted? (record :: records) key
        = (if record.key = key then r.table.accepts? record else none).or
          (r.table.firstAccepted? records key) := by
      unfold Table.firstAccepted?
      rw [List.findSome?_cons]
      cases (if record.key = key then r.table.accepts? record else none) <;> rfl
    rw [hfirst, ← Option.or_assoc]
    cases hlinks : r.table.links? record with
    | some d =>
      obtain ⟨hfree, haccepts, hkey⟩ := Table.of_links? hlinks
      rw [restoreAll_cons_of_some hlinks, ih]
      dsimp only
      rw [Table.find?_linking haccepts, hkey]
      have hsame : (r.table.linking d).firstAccepted? records key
          = r.table.firstAccepted? records key := by
        unfold Table.firstAccepted?
        rw [Table.accepts?_linking]
      rw [hsame]
      by_cases hk : key = record.key
      · rw [if_pos hk, if_pos hk.symm, hk, hfree, haccepts]
        rfl
      · rw [if_neg hk, if_neg (Ne.symm hk), Option.or_none]
    | none =>
      rw [restoreAll_cons_of_none hlinks, ih]
      -- The record is of no use, or its key is taken.
      congr 1
      split
      next hk =>
        subst hk
        unfold Table.links? at hlinks
        split at hlinks
        next htaken =>
          obtain ⟨d, hd⟩ := Option.isSome_iff_exists.1 htaken
          rw [hd]
          rfl
        next => rw [hlinks, Option.or_none]
      next => rw [Option.or_none]

theorem restoreAll_accepts? (records : List Record) (r : Registry ε) :
    (restoreAll records r).2.table.accepts? = r.table.accepts? := by
  induction records generalizing r with
  | nil => rfl
  | cons record records ih =>
    cases hlinks : r.table.links? record with
    | none => rw [restoreAll_cons_of_none hlinks, ih]
    | some d =>
      rw [restoreAll_cons_of_some hlinks, ih]
      exact Table.accepts?_linking ..

/-- Loading a list leaves nothing of it to be linked. -/
theorem restoreAll_links? (r : Registry ε) (hrecord : record ∈ records) :
    (restoreAll records r).2.table.links? record = none := by
  unfold Table.links? Table.isLinked
  rw [restoreAll_find?_eq, restoreAll_accepts?]
  cases haccepts : r.table.accepts? record with
  | none => exact ite_self _
  | some d =>
    have hfirst := Table.isSome_firstAccepted? hrecord haccepts
    rw [if_pos]
    rw [Option.isSome_or, hfirst, Bool.or_true]

theorem restoreAll_length (hwf : r.table.Wf) (records : List Record) :
    (restoreAll records r).2.table.Wf ∧ (restoreAll records r).2.table.dialogs.length
      = r.table.dialogs.length + (restoreAll records r).1 := by
  induction records generalizing r with
  | nil => exact ⟨hwf, rfl⟩
  | cons record records ih =>
    cases hlinks : r.table.links? record with
    | none =>
      rw [restoreAll_cons_of_none hlinks]
      exact ih hwf
    | some d =>
      obtain ⟨hfree, haccepts, hkey⟩ := Table.of_links? hlinks
      rw [restoreAll_cons_of_some hlinks]
      obtain ⟨hwf', hlength⟩ := ih (r := { r with table := r.table.linking d }) (hwf.linking d)
      have hmore := hwf.length_dialogs_of_added (hwf.linking d) (hkey ▸ hfree)
        (Table.find?_linking haccepts)
      refine ⟨hwf', ?_⟩
      dsimp only at hlength ⊢
      rw [hlength, hmore]
      omega

/-- The dialogs that are counted are those that were not linked before. -/
theorem restoreAll_count (hwf : r.table.Wf) (records : List Record) :
    (restoreAll records r).1 = ((restoreAll records r).2.table.dialogs.filter
      fun d => !r.table.isLinked d.key).length := by
  obtain ⟨hwf', hlength⟩ := restoreAll_length hwf records
  have hold : ((restoreAll records r).2.table.dialogs.filter
      fun d => r.table.isLinked d.key).Perm r.table.dialogs := by
    refine (List.perm_ext_iff_of_nodup (hwf'.nodup_dialogs.filter _) hwf.nodup_dialogs).2 ?_
    intro d
    rw [List.mem_filter, hwf'.mem_dialogs, hwf.mem_dialogs, restoreAll_find?_eq, Table.isLinked]
    cases r.table.find? d.key <;> simp
  have hparts := List.length_eq_length_filter_add (l := (restoreAll records r).2.table.dialogs)
    (fun d => r.table.isLinked d.key)
  rw [hlength, hold.length_eq] at hparts
  omega

/-- Two records under different keys may be loaded in either order. -/
theorem restoreAll_swap (hwf : r.table.Wf) (hne : record.key ≠ other.key) (records : List Record) :
    restoreAll (record :: other :: records) r = restoreAll (other :: record :: records) r := by
  cases hd : r.table.links? record with
  | none =>
    cases he : r.table.links? other with
    | none => rw [restoreAll_cons_of_none hd, restoreAll_cons_of_none he,
        restoreAll_cons_of_none he, restoreAll_cons_of_none hd]
    | some e =>
      have hd' : (r.table.linking e).links? record = none := by
        rw [Table.links?_linking (Table.of_links? he).2.1 hne, hd]
      rw [restoreAll_cons_of_none hd, restoreAll_cons_of_some he, restoreAll_cons_of_some he,
        restoreAll_cons_of_none (r := { r with table := r.table.linking e }) hd']
  | some d =>
    have haccepts := (Table.of_links? hd).2.1
    cases he : r.table.links? other with
    | none =>
      have he' : (r.table.linking d).links? other = none := by
        rw [Table.links?_linking haccepts hne.symm, he]
      rw [restoreAll_cons_of_some hd, restoreAll_cons_of_none he, restoreAll_cons_of_some hd,
        restoreAll_cons_of_none (r := { r with table := r.table.linking d }) he']
    | some e =>
      have hd' : (r.table.linking e).links? record = some d := by
        rw [Table.links?_linking (Table.of_links? he).2.1 hne, hd]
      have he' : (r.table.linking d).links? other = some e := by
        rw [Table.links?_linking haccepts hne.symm, he]
      have hkeys : d.key ≠ e.key := by
        rw [(Table.of_links? hd).2.2, (Table.of_links? he).2.2]
        exact hne
      rw [restoreAll_cons_of_some hd, restoreAll_cons_of_some he,
        restoreAll_cons_of_some (r := { r with table := r.table.linking d }) he',
        restoreAll_cons_of_some (r := { r with table := r.table.linking e }) hd']
      dsimp only
      rw [hwf.linking_comm hkeys]

/-- Records under different keys may be loaded in any order. -/
theorem restoreAll_perm (hwf : r.table.Wf) (hperm : records.Perm records')
    (hdistinct : (records.map Record.key).Nodup) :
    restoreAll records r = restoreAll records' r := by
  induction hperm generalizing r with
  | nil => rfl
  | cons record _ ih =>
    rw [List.map_cons, List.nodup_cons] at hdistinct
    cases hd : r.table.links? record with
    | none => rw [restoreAll_cons_of_none hd, restoreAll_cons_of_none hd, ih hwf hdistinct.2]
    | some d =>
      rw [restoreAll_cons_of_some hd, restoreAll_cons_of_some hd,
        ih (r := { r with table := r.table.linking d }) (hwf.linking d) hdistinct.2]
  | swap record other records =>
    refine restoreAll_swap hwf (fun heq => ?_) records
    simp [heq] at hdistinct
  | trans hperm _ ih ih' =>
    exact (ih hwf hdistinct).trans (ih' hwf ((hperm.map Record.key).nodup_iff.1 hdistinct))

/-- The dialogs that are counted have been counted as created, and nothing else has been. -/
theorem restoreAll_counters (records : List Record) (r : Registry ε) :
    (restoreAll records r).2.table.counters
      = r.table.counters.add { created := (restoreAll records r).1 } := by
  induction records generalizing r with
  | nil => rfl
  | cons record records ih =>
    cases hlinks : r.table.links? record with
    | none => rw [restoreAll_cons_of_none hlinks, ih]
    | some d =>
      have hlinked : (r.table.linking d).counters = r.table.counters.add { created := 1 } := by
        rw [Table.linking_eq]
        exact congrArg (Counters.add · _) (Table.counters_modifyBucket ..)
      rw [restoreAll_cons_of_some hlinks, ih]
      dsimp only
      rw [hlinked, Counters.add_assoc]
      simp [Counters.add, Nat.add_comm]

/-! ## Loading a store -/

/-- What loading records does to a table, and what it counts. -/
structure Loading (t : Table) (records : List Record) (count : Nat) (t' : Table) : Prop where
  /-- Dialogs that were linked stay as they are. Under any other key, the first record that can be
  used is linked. -/
  find? : ∀ key, t'.find? key = (t.find? key).or (t.firstAccepted? records key)
  counted : count = (t'.dialogs.filter fun d => !t.isLinked d.key).length
  counters : t'.counters = t.counters.add { created := count }

/-- Loading links the dialogs of the first usable records under the keys that were free, counts them
and does nothing else. Done again, it does nothing. If no two records have the same key, their
order makes no difference to anything. -/
theorem load_exact {n : Node ε} (h : n.registry.Reachable) {env : Environment ε}
    (henv : env.Serves) :
    ∃ count n', load n env = (.ok count, n') ∧
      n' = { n with registry := n'.registry } ∧
      Loading n.registry.table n.store.records count n'.registry.table ∧
      (∃ n'', load n' env = (.ok 0, n'') ∧ n'' = { n' with registry := n''.registry } ∧
        n'.registry.Idle n''.registry) ∧
      ∀ store : Store, store.records.Perm n.store.records →
        (n.store.records.map Record.key).Nodup →
        load { n with store } env = (.ok count, { n' with store }) := by
  have hidle := callStore_idle henv.steady n (c := .loaded) fun _ _ _ => by simp
  have hload := load_of_serves henv n
  generalize hr : (n.callStore env .loaded).2.registry = r at hidle hload
  have hwf : r.table.Wf := hidle.table ▸ h.wf
  refine ⟨_, _, hload, rfl, ?_, ?_, fun store hperm hdistinct => ?_⟩
  · rw [← hidle.table]
    exact ⟨restoreAll_find?_eq _ r, restoreAll_count hwf _, restoreAll_counters _ r⟩
  · obtain ⟨r', hidle', hagain⟩ :=
      load_eq henv { n with registry := (restoreAll n.store.records r).2 }
    have hnothing : restoreAll n.store.records r' = (0, r') := by
      refine restoreAll_of_none fun record hrecord => ?_
      rw [hidle'.table]
      exact restoreAll_links? r hrecord
    rw [hnothing] at hagain
    exact ⟨_, hagain, rfl, hidle'⟩
  · have hcalled : (Node.callStore { n with store } env .loaded).2.registry = r := hr
    rw [load_of_serves henv, hcalled]
    dsimp only
    rw [restoreAll_perm hwf hperm ((hperm.map Record.key).nodup_iff.2 hdistinct)]

/-- A record of a bucket, a number, a Call-ID and a phase. -/
def row (bucket localId : UInt32) (callId : String) (phaseCode : UInt8) : Record :=
  { (default : Record) with bucket, localId, callId, phaseCode }

/-- A registry with one call, and a store with some records. -/
def calledNode (records : List Record) : Node Unit where
  registry := Registry.blank.performAll .quiet
    [.insert { callId := "abc", fromUri := "sip:a", toUri := "sip:b", fromTag := "t1" } 0]
  store := { records }

/-- Of these only the second is of use: the others are under a key that is taken, deleted, of an
unknown phase, or of a bucket that there is not. -/
def strewn : List Record :=
  [row 0 0 "taken" 3, row 0 4 "first" 3, row 0 4 "second" 3, row 0 5 "gone" 5, row 0 6 "odd" 9,
    row 7 0 "far" 3]

def tidy : List Record := [row 0 9 "late" 4, row 0 4 "first" 3, row 7 0 "far" 3]

theorem load_exact_strewn :
    (load (calledNode strewn) .quiet).1.toOption = some 1 ∧
      (load (calledNode strewn) .quiet).2.registry.table.dialogs.map (fun d => (d.key, d.callId))
        = [(⟨0, 0⟩, "abc"), (⟨0, 4⟩, "first")] ∧
      (∃ n', load (calledNode strewn) .quiet = (.ok 1, n') ∧
        Loading (calledNode strewn).registry.table strewn 1 n'.registry.table ∧
        ∃ n'', load n' .quiet = (.ok 0, n'') ∧ n'.registry.Idle n''.registry) ∧
      ∃ n', load (calledNode tidy) .quiet = (.ok 2, n') ∧
        load (calledNode tidy.reverse) .quiet
          = (.ok 2, { n' with store := { records := tidy.reverse } }) := by
  have hreachable : (calledNode []).registry.Reachable :=
    Registry.blank_reachable.performAll Environment.quiet_lawful _
  have hcount : (load (calledNode strewn) .quiet).1.toOption = some 1 := by decide +kernel
  have htidy : (load (calledNode tidy) .quiet).1.toOption = some 2 := by decide +kernel
  refine ⟨hcount, by decide +kernel, ?_, ?_⟩
  · obtain ⟨count, n', hload, -, hexact, ⟨n'', hagain, -, hidle⟩, -⟩ :=
      Node.load_exact (n := calledNode strewn) hreachable Environment.quiet_serves
    rw [hload] at hcount
    cases hcount
    exact ⟨n', hload, hexact, n'', hagain, hidle⟩
  · obtain ⟨count, n', hload, -, -, -, horder⟩ :=
      Node.load_exact (n := calledNode tidy) hreachable Environment.quiet_serves
    rw [hload] at htidy
    cases htidy
    exact ⟨n', hload, horder _ tidy.reverse_perm (by decide)⟩

end Node

end SipDialogs
