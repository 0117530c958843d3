-- SUMMARY: No timer slot stays marked once the operation that marked it is over.
import SipDialogs.Proofs.Accounts

/-! # Timer slots

A slot is marked while the service is being asked for a timer, and by the time that the operation is
over the mark is gone. So between operations no slot is marked, whatever is called back into the
registry meanwhile. -/

namespace SipDialogs

/-! ## Relations that operations keep to -/

namespace Table

/-- A relation between tables before and after that holds as long as nothing is done but to count,
and to give back the references of timers. -/
structure Lasting (R : Table → Table → Prop) : Prop where
  refl : ∀ t, R t t
  trans : ∀ {t t' t''}, R t t' → R t' t'' → R t t''
  count : ∀ t f, R t (t.count f)
  disarm : ∀ {t key d}, t.find? key = some d → d.timer.isSome = true →
    R t ((t.put { d with timer := none }).release key 1).2

namespace Lasting

variable {R : Table → Table → Prop}

theorem countAnomaly (h : Lasting R) (t : Table) : R t t.countAnomaly := h.count t _

theorem countDestroyed (h : Lasting R) (t : Table) : R t t.countDestroyed := h.count t _

end Lasting

end Table

/-- Surroundings that keep to a relation when they are called. -/
structure Environment.Preserves (R : Table → Table → Prop) (env : Environment ε) : Prop where
  observe : ∀ o s n r, R r.table (env.observe o s n r).2.table
  schedule : ∀ key ms r, R r.table (env.schedule key ms r).2.table
  cancel : ∀ handle r, R r.table (env.cancel handle r).2.table

namespace Registry

variable {R : Table → Table → Prop} {env : Environment ε}

theorem notify_preserves (hR : Table.Lasting R) (henv : env.Preserves R) (r : Registry ε)
    (own : List Observer) (s : Snapshot) (n : Notice) :
    R r.table (r.notify env own s n).2.table := by
  unfold notify
  generalize (r.observers ++ own).filter (·.wants [n.topic]) = observers
  induction observers generalizing n r with
  | nil => exact hR.refl _
  | cons o observers ih =>
    have htell : R r.table (tell env s (n, r) o).2.table := by
      unfold tell
      dsimp only
      split
      · split <;> exact hR.refl _
      · exact henv.observe o s n (r.record (.observed o s n))
    exact hR.trans htell (ih _ _)

theorem destroy_preserves (hR : Table.Lasting R) (henv : env.Preserves R) (r : Registry ε)
    (d : Dialog) : R r.table (r.destroy env d).table := by
  have hcancel : ∀ d : Dialog, R r.table (r.cancelTimer env d).table := by
    intro d
    unfold cancelTimer
    split
    · exact henv.cancel _ (r.record _)
    · exact hR.refl _
  unfold destroy
  dsimp only
  refine hR.trans ?_ (hR.countDestroyed _)
  split
  · exact hR.trans (hcancel _) (notify_preserves hR henv _ _ _ _)
  · exact hcancel _

theorem disarm_preserves (hR : Table.Lasting R) (henv : env.Preserves R) (r : Registry ε)
    {key : Key} {d : Dialog} (hfind : r.table.find? key = some d) (htimer : d.timer.isSome = true) :
    R r.table
      ({ r with table := r.table.put { d with timer := none } }.release env key 1).table := by
  have hdisarm := hR.disarm hfind htimer
  unfold release
  dsimp only
  generalize (r.table.put { d with timer := none }).release key 1 = released at hdisarm ⊢
  obtain ⟨_ | d, t⟩ := released
  · exact hdisarm
  · exact hR.trans hdisarm (destroy_preserves hR henv { r with table := t } d)

theorem stopTimer_preserves (hR : Table.Lasting R) (henv : env.Preserves R) (r : Registry ε)
    (key : Key) : R r.table (r.stopTimer env key).2.table := by
  cases harmed : r.armed? key with
  | none =>
    rw [Ledger.stopTimer_of_none harmed]
    exact hR.refl _
  | some handle =>
    have hcancel := henv.cancel handle (r.record (.cancelled handle))
    rw [Ledger.stopTimer_of_some harmed]
    refine hR.trans hcancel ?_
    generalize env.cancel handle (r.record (.cancelled handle)) = asked
    obtain ⟨_ | pending, s⟩ := asked
    · exact hR.refl _
    cases pending with
    | false => exact hR.refl _
    | true =>
      unfold Ledger.settleStop
      rcases Ledger.swapTimer_cases s.table key (.armed handle) none with
        ⟨d, hfind, htimer, -, heq⟩ | ⟨-, heq⟩
      · simp only [heq]
        exact disarm_preserves hR henv s hfind (by rw [htimer]; rfl)
      · simp only [heq]
        exact hR.countAnomaly _

theorem expire_preserves (hR : Table.Lasting R) (henv : env.Preserves R) (r : Registry ε)
    (key : Key) : R r.table (r.expire env key).table := by
  unfold expire
  cases hfind : r.table.find? key with
  | none => exact hR.countAnomaly _
  | some d =>
    dsimp only
    split
    next htimer => exact disarm_preserves hR henv r hfind htimer
    next => exact hR.countAnomaly _

/-- What is preserved by the operations that are called back is preserved by those who call. -/
theorem Acts.preserves (hR : Table.Lasting R) {P : Environment ε → Operation → Prop}
    (hP : ∀ env op, P env op → ∀ r : Registry ε, R r.table (r.perform env op).table)
    {r r' : Registry ε} (h : Acts P r r') : R r.table r'.table := by
  induction h with
  | aside htable hprofiles =>
    rw [htable]
    exact hR.refl _
  | step hop r => exact hP _ _ hop r
  | trans _ _ ih ih' => exact hR.trans ih ih'

end Registry

theorem Environment.CallsBack.preserves {R : Table → Table → Prop} (hR : Table.Lasting R)
    {Q : Operation → Prop}
    (hQ : ∀ {env : Environment ε}, env.Preserves R → ∀ op, Q op → ∀ r : Registry ε,
      R r.table (r.perform env op).table)
    {depth : Nat} {env : Environment ε} (h : env.CallsBack Q depth) : env.Preserves R := by
  have hwithin : ∀ {P : Environment ε → Operation → Prop} {env : Environment ε}, env.Within P →
      (∀ env op, P env op → ∀ r : Registry ε, R r.table (r.perform env op).table) →
      env.Preserves R := fun h hP =>
    ⟨fun o s n r => (h.observe o s n r).preserves hR hP,
      fun key ms r => (h.schedule key ms r).preserves hR hP,
      fun handle r => (h.cancel handle r).preserves hR hP⟩
  induction depth generalizing env with
  | zero => exact hwithin h fun _ _ hfalse => hfalse.elim
  | succ depth ih => exact hwithin h fun _ op hinner => hQ (ih hinner.2) op hinner.1

/-! ## Marks -/

namespace Table

/-- No slot is marked that was not marked before. -/
def Unmarks (t t' : Table) : Prop :=
  t.Wf → t'.Wf ∧ ∀ key, t'.timer? key = some .arming → t.timer? key = some .arming

variable {t t' : Table} {key : Key} {d e : Dialog}

theorem timer?_of_some (h : t.find? key = some d) : t.timer? key = d.timer := by
  rw [timer?, h, Option.bind_some]

theorem timer?_of_none (h : t.find? key = none) : t.timer? key = none := by
  rw [timer?, h, Option.bind_none]

theorem timer?_put (h : t.find? d.key = some e) (k : Key) :
    (t.put d).timer? k = if k = d.key then d.timer else t.timer? k := by
  unfold timer?
  rw [find?_put_of_linked h k]
  split <;> rfl

theorem timer?_erase (t : Table) (key k : Key) :
    (t.erase key).timer? k = if k = key then none else t.timer? k := by
  unfold timer?
  rw [find?_erase]
  split <;> rfl

/-- A slot that is given something else than a mark is not marked any more. -/
theorem Wf.putTimer (h : t.Wf) (hfind : t.find? key = some d) {slot : Option TimerSlot}
    (hslot : slot ≠ some .arming) :
    (t.put { d with timer := slot }).Wf ∧
      ∀ k, (t.put { d with timer := slot }).timer? k = some .arming →
        k ≠ key ∧ t.timer? k = some .arming := by
  obtain rfl : d.key = key := h.key_of_find? hfind
  have hput := timer?_put (d := { d with timer := slot }) hfind
  refine ⟨h.put _, fun k hmark => ?_⟩
  rw [hput] at hmark
  split at hmark
  · exact absurd hmark hslot
  next hne => exact ⟨hne, hmark⟩

namespace Unmarks

@[refl] theorem refl (t : Table) : t.Unmarks t := fun h => ⟨h, fun _ hmark => hmark⟩

theorem trans {t'' : Table} (h : t.Unmarks t') (h' : t'.Unmarks t'') : t.Unmarks t'' := by
  intro hwf
  obtain ⟨hwf', hmarks⟩ := h hwf
  obtain ⟨hwf'', hmarks'⟩ := h' hwf'
  exact ⟨hwf'', fun key hmark => hmarks key (hmarks' key hmark)⟩

theorem count (t : Table) (f : Counters → Counters) : t.Unmarks (t.count f) := fun h =>
  ⟨h.count f, fun _ hmark => hmark⟩

theorem countAnomaly (t : Table) : t.Unmarks t.countAnomaly := count t _

theorem countInvalid (t : Table) : t.Unmarks t.countInvalid := count t _

/-- A change of a dialog that does not mark its slot. -/
theorem put (hfind : t.find? key = some d) (hkey : e.key = d.key)
    (htimer : e.timer = d.timer ∨ e.timer ≠ some .arming) : t.Unmarks (t.put e) := by
  intro hwf
  obtain rfl : d.key = key := hwf.key_of_find? hfind
  rw [← hkey] at hfind
  refine ⟨hwf.put e, fun k hmark => ?_⟩
  rw [timer?_put hfind] at hmark
  split at hmark
  next hk =>
    rcases htimer with htimer | htimer
    · rw [hk, timer?_of_some hfind, ← htimer]
      exact hmark
    · exact absurd hmark htimer
  next => exact hmark

theorem revise (hfind : t.find? key = some d) (he : d.Revises e) (htimer : e.timer = d.timer) :
    t.Unmarks (t.put e) :=
  .put hfind he.key (.inl htimer)

theorem erase (t : Table) (key : Key) : t.Unmarks (t.erase key) := by
  intro hwf
  refine ⟨hwf.erase key, fun k hmark => ?_⟩
  rw [timer?_erase] at hmark
  split at hmark
  · cases hmark
  · exact hmark

theorem link (h : t.Links d t') (htimer : d.timer = none) : t.Unmarks t' := by
  intro hwf
  refine ⟨h.wf hwf, fun key hmark => ?_⟩
  rw [timer?, h.find?] at hmark
  split at hmark
  · rw [Option.bind_some, htimer] at hmark
    cases hmark
  · exact hmark

/-- Giving references back marks nothing. -/
theorem release (t : Table) (key : Key) (count : Nat) : t.Unmarks (t.release key count).2 := by
  rcases Nat.eq_zero_or_pos count with rfl | hpos
  · exact .refl t
  cases hfind : t.find? key with
  | none =>
    rw [release_of_unlinked hfind hpos]
    exact .countAnomaly t
  | some d =>
    rcases Nat.lt_or_ge count d.refs with hlt | hle
    · rw [release_of_lt hfind hlt, if_neg (Nat.ne_of_gt hpos)]
      exact .put hfind rfl (.inl rfl)
    · rw [release_of_le hfind hpos hle]
      have hcounted : t.Unmarks (if d.refs < count then t.countAnomaly else t) := by
        split
        · exact .countAnomaly t
        · exact .refl t
      exact hcounted.trans (.erase _ key)

/-- A slot that is emptied is not marked. -/
theorem disarm (hfind : t.find? key = some d) :
    t.Unmarks ((t.put { d with timer := none }).release key 1).2 := by
  have hput : t.Unmarks (t.put { d with timer := none }) := .put hfind rfl (.inr (by simp))
  exact hput.trans (.release _ key 1)

end Unmarks

theorem Lasting.unmarks : Lasting Unmarks where
  refl := .refl
  trans := .trans
  count := .count
  disarm hfind _ := .disarm hfind

end Table

/-! ## Operations -/

namespace Registry

variable {env : Environment ε}

theorem release_unmarks (henv : env.Preserves Table.Unmarks) (r : Registry ε) (key : Key)
    (count : Nat) : r.table.Unmarks (r.release env key count).table := by
  have hrelease := Table.Unmarks.release r.table key count
  unfold release
  generalize r.table.release key count = released at hrelease ⊢
  obtain ⟨_ | d, t⟩ := released
  · exact hrelease
  · exact hrelease.trans (destroy_preserves .unmarks henv { r with table := t } d)

theorem insert_unmarks (henv : env.Preserves Table.Unmarks) (r : Registry ε) (identity : Identity)
    (holders : Nat) : r.table.Unmarks (r.insert env identity holders).2.table := by
  unfold insert
  cases hinsert : r.table.insert identity holders r.clock with
  | error e => exact .refl _
  | ok linked =>
    obtain ⟨d, t⟩ := linked
    obtain ⟨hlinks, hd⟩ := Table.insert_links hinsert
    have hlink : r.table.Unmarks t := .link hlinks (by rw [hd]; rfl)
    dsimp only
    split
    · exact hlink.trans (notify_preserves .unmarks henv { r with table := t } _ _ _)
    · exact hlink

theorem restore_unmarks (r : Registry ε) (s : Snapshot) :
    r.table.Unmarks (r.restore s).2.table := by
  unfold restore
  cases hrestore : r.table.restore s with
  | error e => exact .refl _
  | ok linked =>
    obtain ⟨d, t⟩ := linked
    obtain ⟨hlinks, rfl⟩ := Table.restore_links hrestore
    exact .link hlinks rfl

theorem retain_unmarks (r : Registry ε) {d : Dialog} {key : Key}
    (hfind : r.table.find? key = some d) : r.table.Unmarks (r.retain d).table :=
  .revise hfind d.revises_retain rfl

theorem lookup_unmarks (r : Registry ε) (key : Key) : r.table.Unmarks (r.lookup key).2.table := by
  unfold lookup
  split
  next d hd => exact r.retain_unmarks (Table.of_lookup hd).1
  next => exact .refl _

theorem lookupIdentity_unmarks (r : Registry ε) (callId fromTag toTag : String) :
    r.table.Unmarks (r.lookupIdentity callId fromTag toTag).2.table := by
  unfold lookupIdentity
  split
  next d way hd =>
    exact fun hwf => r.retain_unmarks (hwf.of_lookupIdentity hd).1 hwf
  next => exact .refl _

theorem lookupDownstream_unmarks (r : Registry ε) (callId : String) (fromTag : Option String) :
    r.table.Unmarks (r.lookupDownstream callId fromTag).2.table := by
  unfold lookupDownstream
  split
  next d hd => exact fun hwf => r.retain_unmarks (hwf.of_lookupDownstream hd).1 hwf
  next => exact .refl _

theorem addRefs_unmarks (r : Registry ε) (key : Key) (count : Nat) :
    r.table.Unmarks (r.addRefs key count).2.table := by
  unfold addRefs Table.addRefs
  cases hfind : r.table.find? key with
  | none => exact .countAnomaly _
  | some d => exact .put hfind rfl (.inl rfl)

/-! ### Changes -/

theorem applyEvent_unmarks (t : Table) (key : Key) (event : Event) :
    t.Unmarks (t.applyEvent key event).2 := by
  rcases t.applyEvent_cases key event with
    ⟨-, happly⟩ | ⟨d, hfind, ⟨-, happly⟩ | ⟨m, -, happly⟩⟩
  · rw [happly]
  · rw [happly]
    exact .countInvalid t
  · rw [happly]
    obtain ⟨hrevises, -, htimer, -⟩ := d.move_eq m
    exact .revise hfind hrevises htimer

theorem processEvent_unmarks (henv : env.Preserves Table.Unmarks) (r : Registry ε) (key : Key)
    (event : Event) : r.table.Unmarks (r.processEvent env key event).2.table := by
  have happly := applyEvent_unmarks r.table key event
  unfold processEvent
  dsimp only
  generalize r.table.applyEvent key event = applied at happly ⊢
  obtain ⟨_ | ⟨change, d⟩, t⟩ := applied
  · exact happly
  refine happly.trans (.trans ?_ (release_unmarks henv _ key change.unref))
  split
  · exact notify_preserves .unmarks henv { r with table := t } _ _ _
  · exact .refl t

theorem setLegInfo_unmarks (r : Registry ε) (key : Key) (side : Leg) (info : LegInfo) :
    r.table.Unmarks (r.setLegInfo key side info).2.table := by
  unfold setLegInfo Table.setLegInfo
  cases hfind : r.table.find? key with
  | none => exact .refl _
  | some d =>
    dsimp only
    cases hset : d.setLegInfo side info with
    | error e => exact .refl _
    | ok e =>
      obtain ⟨hrevises, -, htimer, -⟩ := Dialog.setLegInfo_eq_ok hset
      exact .revise hfind hrevises htimer

theorem updateCseq_unmarks (r : Registry ε) (key : Key) (side : Leg) (cseq : String) :
    r.table.Unmarks (r.updateCseq key side cseq).2.table := by
  unfold updateCseq Table.updateCseq
  cases hfind : r.table.find? key with
  | none => exact .refl _
  | some d =>
    cases side with
    | caller => exact .revise hfind (d.revises_updateCseq .caller cseq) rfl
    | callee => exact .revise hfind (d.revises_updateCseq .callee cseq) rfl

theorem observeDialog_unmarks (r : Registry ε) (key : Key) (name : String) (topics : List Topic) :
    r.table.Unmarks ((r.observeDialog key name topics).toOption.getD r).table := by
  unfold observeDialog Table.addObserver
  cases hfind : r.table.find? key with
  | none => exact .refl _
  | some d => exact .put hfind rfl (.inl rfl)

/-! ### Timers -/

/-- When the service's answer has been taken over, the slot it was asked for is not marked any
more. -/
theorem settleTimer_unmarks (henv : env.Preserves Table.Unmarks) (r : Registry ε) (key : Key)
    (answer : Except String Handle) (hwf : r.table.Wf) :
    (r.settleTimer env key answer).2.table.Wf ∧
      ∀ k, (r.settleTimer env key answer).2.table.timer? k = some .arming →
        k ≠ key ∧ r.table.timer? k = some .arming := by
  have hother : r.table.timer? key ≠ some .arming → ∀ k, r.table.timer? k = some .arming →
      k ≠ key ∧ r.table.timer? k = some .arming :=
    fun hne k hmark => ⟨fun heq => hne (heq ▸ hmark), hmark⟩
  unfold settleTimer
  cases answer with
  | ok handle =>
    dsimp only
    rcases Ledger.swapTimer_cases r.table key .arming (some (.armed handle)) with
      ⟨d, hfind, -, -, heq⟩ | ⟨hslot, heq⟩
    · rw [heq]
      exact hwf.putTimer hfind (by simp)
    · rw [heq]
      exact ⟨hwf, hother hslot⟩
  | error reason =>
    dsimp only
    rcases Ledger.swapTimer_cases r.table key .arming none with
      ⟨d, hfind, -, -, heq⟩ | ⟨hslot, heq⟩
    · rw [heq]
      obtain ⟨hemptied, hothers⟩ := hwf.putTimer hfind (Option.some_ne_none _).symm
      obtain ⟨hreleased, hmarks⟩ := release_unmarks henv
        { r with table := r.table.put { d with timer := none } } key 1 hemptied
      exact ⟨hreleased, fun k hmark => hothers k (hmarks k hmark)⟩
    · rw [heq]
      exact ⟨hwf.count _, hother hslot⟩

theorem startTimer_unmarks (henv : env.Preserves Table.Unmarks) (r : Registry ε) (key : Key)
    (milliseconds : Option Nat) :
    r.table.Unmarks (r.startTimer env key milliseconds).2.table := by
  cases harming : r.arming? key milliseconds with
  | none =>
    obtain ⟨e, heq⟩ := Ledger.startTimer_of_none env harming
    rw [heq]
  | some asked =>
    intro hwf
    obtain ⟨ms, s⟩ := asked
    obtain ⟨⟨d, e, hfind, hprepare, hs⟩, heq⟩ := Ledger.startTimer_of_some env harming
    obtain ⟨hrevises, -⟩ := Dialog.prepareTimer_eq_ok hprepare
    obtain rfl : d.key = key := hwf.key_of_find? hfind
    rw [← hrevises.key] at hfind
    have hmarked : s.table.Wf := hs ▸ hwf.put e
    obtain ⟨hasked, hmarks⟩ := henv.schedule d.key ms s hmarked
    obtain ⟨hsettled, hmarks'⟩ := settleTimer_unmarks henv _ d.key
      (env.schedule d.key ms s).1 hasked
    rw [heq]
    refine ⟨hsettled, fun k hmark => ?_⟩
    obtain ⟨hne, hmark⟩ := hmarks' k hmark
    have hmark := hmarks k hmark
    rw [hs, Table.timer?_put hfind, hrevises.key, if_neg hne] at hmark
    exact hmark

/-! ### Views and memberships -/

theorem withContexts_unmarks (henv : env.Preserves Table.Unmarks) (ds : List Dialog)
    (r : Registry ε) : r.table.Unmarks (withContexts env ds r).2.table := by
  induction ds generalizing r with
  | nil => exact .refl _
  | cons d ds ih =>
    exact (notify_preserves .unmarks henv r d.observers d.snapshot (.introspect [])).trans (ih _)

theorem snapshot_unmarks (henv : env.Preserves Table.Unmarks) (r : Registry ε) (key : Key)
    (context : Bool) : r.table.Unmarks (r.snapshot env key context).2.table := by
  unfold snapshot
  split
  · exact .refl _
  · exact .refl _
  next d _ => exact notify_preserves .unmarks henv r d.observers d.snapshot (.introspect [])

theorem snapshotAll_unmarks (henv : env.Preserves Table.Unmarks) (r : Registry ε)
    (context : Bool) : r.table.Unmarks (r.snapshotAll env context).2.table := by
  unfold snapshotAll
  split
  · exact withContexts_unmarks henv _ r
  · exact .refl _

theorem takeDirty_unmarks (r : Registry ε) : r.table.Unmarks r.takeDirty.2.table := by
  have hclean : ∀ {t : Table} {d : Dialog}, t.Wf → t.find? d.key = some d → d.isDirty = true →
      t.Unmarks (t.put d.clean) := fun _ hfind _ =>
    .revise hfind (Dialog.revises_clean _) rfl
  intro hwf
  exact hwf.of_takeDirty Table.Unmarks.refl Table.Unmarks.trans hclean hwf

theorem attach_unmarks (r : Registry ε) (key : Key) (profile : String) (value : Option String) :
    r.table.Unmarks (r.attach key profile value).2.table := by
  unfold attach
  split
  · exact .refl _
  split
  · exact .refl _
  split
  next t hpush =>
    obtain ⟨d, hfind, rfl⟩ := Option.map_eq_some_iff.1 hpush
    exact .put hfind rfl (.inl rfl)
  next => exact .refl _

theorem detach_unmarks (r : Registry ε) (key : Key) (profile : String) (value : Option String) :
    r.table.Unmarks (r.detach key profile value).2.table := by
  unfold detach
  split
  · exact .refl _
  split
  next htake =>
    obtain ⟨d, hfind, -, rfl⟩ := Table.takeLink_eq_some htake
    exact .put hfind rfl (.inl rfl)
  next => exact .refl _

/-- No operation leaves a slot marked. -/
theorem perform_unmarks (henv : env.Preserves Table.Unmarks) (r : Registry ε) (op : Operation) :
    r.table.Unmarks (r.perform env op).table := by
  cases op with
  | insert identity holders => exact r.insert_unmarks henv identity holders
  | restore s => exact r.restore_unmarks s
  | lookup key => exact r.lookup_unmarks key
  | lookupIdentity callId fromTag toTag => exact r.lookupIdentity_unmarks callId fromTag toTag
  | lookupDownstream callId fromTag => exact r.lookupDownstream_unmarks callId fromTag
  | addRefs key count => exact r.addRefs_unmarks key count
  | release key count => exact r.release_unmarks henv key count
  | nextPhase key event => exact applyEvent_unmarks r.table key event
  | processEvent key event => exact r.processEvent_unmarks henv key event
  | setLegInfo key side info => exact r.setLegInfo_unmarks key side info
  | updateCseq key side cseq => exact r.updateCseq_unmarks key side cseq
  | startTimer key milliseconds => exact r.startTimer_unmarks henv key milliseconds
  | stopTimer key => exact stopTimer_preserves .unmarks henv r key
  | expire key => exact expire_preserves .unmarks henv r key
  | snapshot key context => exact r.snapshot_unmarks henv key context
  | snapshotAll context => exact r.snapshotAll_unmarks henv context
  | takeDirty => exact r.takeDirty_unmarks
  | observeDialog key name topics => exact r.observeDialog_unmarks key name topics
  | attach key profile value => exact r.attach_unmarks key profile value
  | detach key profile value => exact r.detach_unmarks key profile value

end Registry

theorem Environment.CallsBack.unmarks {Q : Operation → Prop} {depth : Nat} {env : Environment ε}
    (h : env.CallsBack Q depth) : env.Preserves Table.Unmarks :=
  h.preserves .unmarks fun henv op _ r => r.perform_unmarks henv op

/-- In every registry that a run leads to, no slot is marked. -/
theorem Registry.Reachable.unmarked {r : Registry ε} (h : r.Reachable) (key : Key) :
    r.table.timer? key ≠ some .arming := by
  obtain ⟨config, clock, hasTimer, e, r₀, hcreate, hacts⟩ := h
  obtain ⟨htable, -⟩ := create_eq_ok hcreate
  have hnone := Table.find?_create htable
  obtain ⟨-, hmarks⟩ := hacts.preserves .unmarks
    (fun env op hlawful r => r.perform_unmarks hlawful.choose_spec.unmarks op)
    (Table.wf_create htable)
  intro hmark
  have hmark := hmarks key hmark
  rw [Table.timer?_of_none (hnone key)] at hmark
  cases hmark

end SipDialogs
