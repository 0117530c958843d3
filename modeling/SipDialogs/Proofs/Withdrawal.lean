-- SUMMARY: In delayed mode nothing is stored of a dialog once it is gone.
import SipDialogs.Proofs.Freshness

/-! # What is withdrawn

In delayed mode a record is withdrawn when its dialog is destroyed, and then for good: the removal
waits for the worker, and no save of an unlinked dialog is let through. A dialog that lingers in the
deleted phase is not saved any more, but it is not destroyed either, so the record of its last save
stays until its last reference is given back. -/

namespace SipDialogs

/-- A dialog that is linked no more has been told to be gone. -/
theorem Path.destroyed {c c' : Scene ε} {ms : List Moment} (h : Path c ms c')
    (hsound : c.registry.Sound) {key : Key} (hlinked : c.registry.table.isLinked key = true)
    (hunlinked : c'.registry.table.isLinked key = false) :
    ∃ s, (s, Notice.destroyed) ∈ tidings ms ∧ s.key = key := by
  induction h with
  | nil =>
    rw [hlinked] at hunlinked
    cases hunlinked
  | @cons c₀ c₁ c₂ m ms hstep _ ih =>
    rw [tidings_cons]
    cases hafter : c₁.registry.table.isLinked key with
    | true =>
      obtain ⟨s, hs, hkey⟩ := ih (hstep.sound hsound) hafter hunlinked
      exact ⟨s, List.mem_append_right _ hs, hkey⟩
    | false =>
      obtain ⟨d, hd⟩ := Option.isSome_iff_exists.1 hlinked
      have hnone : c₁.registry.table.find? key = none := by simpa [Table.isLinked] using hafter
      obtain ⟨count, rfl, hzero⟩ := (hstep.unlinks_iff hd hsound.wf).1 hnone
      have hnews : (Moment.released d count).news? = some (d.lastSnapshot, .destroyed) :=
        if_pos (Nat.sub_eq_zero_iff_le.1 hzero)
      refine ⟨d.lastSnapshot, List.mem_append_left _ ?_, hsound.wf.key_of_find? hd⟩
      rw [hnews]
      exact List.mem_singleton.2 rfl

/-- The record of a dialog shows whether it is deleted. -/
theorem Dialog.isDeleted_record (d : Dialog) : d.record.isDeleted = d.phase.isDeleted := by
  obtain ⟨-, -, -, -, -, -, phase⟩ := d
  cases phase <;> rfl

namespace Node

variable {before : Store} {w : Observer} {ms ms' : List Moment} {log : List Attempt}
  {waiting waiting' pending : List Write} {worker worker' : Worker} {n n' : Node ε}
  {C : Conduct} {env : Environment ε} {q : Write}

/-- Writing this would store no deleted dialog. -/
def SavesLive (q : Write) : Prop := ∀ record version, q = .save record version →
  record.isDeleted = false

/-- What is stored are dialogs that were live. -/
def StoresLive (s : Store) : Prop := ∀ key record, s.get? key = some record →
  record.isDeleted = false

theorem StoresLive.write {s : Store} (h : StoresLive s) (hq : SavesLive q) :
    StoresLive (s.write q) := by
  intro key record hrecord
  rw [Store.get?_write] at hrecord
  split at hrecord
  · cases q with
    | save saved version =>
      obtain rfl : saved = record := Option.some.inj hrecord
      exact hq saved version rfl
    | remove => cases hrecord
  · exact h key record hrecord

theorem StoresLive.carry (h : StoresLive n.store) (hq : SavesLive q) (worker : Worker) :
    StoresLive (carry env q worker n).2.store := by
  rw [carry_store_cases]
  split
  · exact h.write hq
  · exact h

/-- The invariant of a node in delayed mode, as far as records are withdrawn. -/
structure Withdraws (w : Observer) (ms : List Moment) (log : List Attempt)
    (waiting pending : List Write) (worker : Worker) (n : Node ε) : Prop
    extends Removes w ms waiting worker n where
  withdrawn : Withdrawn waiting n
  savesLive : ∀ q ∈ pending, SavesLive q
  storesLive : StoresLive n.store

theorem withdraws_upkeep : Upkeep Environment.Serves C (@Withdraws ε w) where
  act := by
    intro ms log waiting worker n ms' r waiting' h hemployed hms hbox
    refine ⟨h.toRemoves.act hemployed hms hbox, ?_, h.savesLive, h.storesLive⟩
    have hmem := h.toRemoves.mem_waiting hemployed hms hbox
    intro key hunlinked
    cases hlinked : n.registry.table.isLinked key with
    | true =>
      obtain ⟨s, hs, hkey⟩ := hms.path.destroyed hemployed.sound hlinked hunlinked
      exact .inr ⟨_, (hmem _).2 (.inr ⟨s, hs, rfl⟩), hkey, rfl⟩
    | false =>
      refine (h.withdrawn key hlinked).imp id ?_
      rintro ⟨q, hq, hend⟩
      exact ⟨q, (hmem q).2 (.inl hq), hend⟩
  mail := by
    intro env ms log q waiting worker n henv h
    have hcarried := carry_carried henv.steady q worker n
    obtain ⟨s, -, rfl⟩ := h.posted q List.mem_cons_self
    refine ⟨h.toRemoves.carried (List.subset_cons_self _ _) hcarried, h.withdrawn.carry henv worker,
      h.savesLive, h.storesLive.carry ?_ worker⟩
    exact fun record version heq => by cases heq
  take := by
    intro ms log waiting worker n h hsound
    refine ⟨h.toRemoves.congr (fun _ => id) rfl rfl rfl rfl, ?_, ?_, h.storesLive⟩
    · intro key hunlinked
      have hafter : n.unmarked.registry.table.find? key = _ := hsound.wf.find?_takeDirty key
      refine h.withdrawn key ?_
      simpa [Table.isLinked, hafter] using hunlinked
    · intro q hq record version heq
      obtain ⟨s, hs, rfl⟩ := List.mem_map.1 hq
      obtain ⟨d, -, hdirty, rfl⟩ := hsound.wf.mem_takeDirty.1 hs
      cases heq
      rw [Dialog.isDirty, Bool.and_eq_true] at hdirty
      have hlive : d.phase.isDeleted = false := by simpa using hdirty.1
      exact d.isDeleted_record.trans hlive
  save := by
    intro env ms log waiting q pending worker n henv h
    have hcarried := carry_carried henv.steady q worker n
    have hlive : SavesLive q := h.savesLive q List.mem_cons_self
    refine ⟨h.toRemoves.carried (fun _ => id) hcarried, ?_,
      fun p hp => h.savesLive p (List.mem_cons_of_mem _ hp), h.storesLive.carry hlive worker⟩
    intro key hunlinked
    rw [hcarried.idle.table] at hunlinked
    refine (h.withdrawn key hunlinked).imp (fun hnone => ?_) id
    exact carry_get?_unlinked henv.stores hunlinked hnone worker
  aside := by
    intro ms log waiting pending worker n worker' n' h halike
    refine ⟨h.toRemoves.congr (fun _ => id) halike.mode halike.mailbox halike.observers
      halike.nextSerial, ?_, h.savesLive, ?_⟩
    · unfold Withdrawn
      rw [halike.table, halike.store]
      exact h.withdrawn
    · rw [halike.store]
      exact h.storesLive

/-! ## Whole runs -/

/-- When all of a store has been loaded, each key has one record. -/
theorem Ready.keyed (h : Ready .delayed before before.records.length worker n) : before.Keyed := by
  intro r hr q hq hkey
  obtain ⟨d, hd, hfind⟩ := h.complete rfl r hr
  obtain ⟨e, he, hfind'⟩ := h.complete rfl q hq
  rw [← hkey, hfind] at hfind'
  cases hfind'
  exact (Record.record_of_dialog? hd).symm.trans (Record.record_of_dialog? he)

theorem Ready.withdraws (h : Ready .delayed before before.records.length worker n) :
    ∃ w, Withdraws w [] [] [] [] worker n := by
  obtain ⟨w, hw⟩ := h.removes
  have hrestores := h.restores
  refine ⟨w, hw, ?_, fun q hq => absurd hq List.not_mem_nil, ?_⟩
  · intro key hunlinked
    rw [h.stored]
    cases hget : before.get? key with
    | none => exact .inl rfl
    | some record =>
      obtain ⟨d, hd⟩ := hrestores.stored key record hget
      simp [Table.isLinked, hd] at hunlinked
  · intro key record hget
    rw [h.stored] at hget
    obtain ⟨d, hd⟩ := hrestores.stored key record hget
    obtain ⟨other, hother, hdialog⟩ := hrestores.linked key d hd
    obtain rfl : record = other := Option.some.inj (hget.symm.trans hother)
    obtain ⟨-, -, hlive⟩ := Record.of_dialog? hdialog
    rw [← Record.record_of_dialog? hdialog, Dialog.isDeleted_record]
    simpa [Phase.isDeleted] using hlive

/-- A flush leaves deleted dialogs out. -/
theorem key_ne_of_deleted (hwf : n.registry.table.Wf) {key : Key} {d : Dialog}
    (hfind : n.registry.table.takeDirty.2.find? key = some d) (hdeleted : d.phase = .deleted) :
    ∀ q ∈ n.flushWrites, q.key ≠ key := by
  rintro q hq rfl
  obtain ⟨s, hs, rfl⟩ := List.mem_map.1 hq
  obtain ⟨e, he, hdirty, rfl⟩ := hwf.mem_takeDirty.1 hs
  have hkey : (Write.ofSnapshot e.snapshot).key = e.key := rfl
  rw [hkey, hwf.find?_takeDirty, he, Option.map_some, if_pos hdirty] at hfind
  cases hfind
  have hphase : e.phase = .deleted := hdeleted
  simp [Dialog.isDirty, hphase, Phase.isDeleted] at hdirty

end Node

/-- What a clean shutdown in delayed mode leaves in a store that was `before` at first. These
dialogs were linked last, and these saves were tried before the shutdown. -/
structure Store.Leaves (before : Store) (ms : List Moment) (log : List Attempt) (last : Table)
    (after : Store) : Prop where
  /-- Nothing is stored of a dialog that is not linked. -/
  gone : ∀ key, last.isLinked key = false → after.get? key = none
  /-- No record shows a deleted dialog. -/
  live : ∀ key record, after.get? key = some record → record.isDeleted = false
  /-- Of a deleted dialog that is still linked, what was saved last while it was live is stored, or
  else what was loaded. -/
  deleted : ∀ key d, last.find? key = some d → d.phase = .deleted → Unrestored ms key →
    after.get? key = before.kept log key

namespace Node

variable {before : Store} {ms : List Moment} {log : List Attempt} {waiting : List Write}
  {worker : Worker} {n n' : Node ε} {C : Conduct} {env : Environment ε}

theorem Opened.leaves (hopened : Opened .delayed before before.records.length n)
    (h : Tended Environment.Serves C n ms log n') (hemployed : Employs worker waiting n')
    (henv : env.Serves) :
    before.Leaves ms log ((n'.work env waiting.length).sweep env).registry.table
      ((n'.work env waiting.length).sweep env).store := by
  have hsteady := fun (env : Environment ε) (hserves : env.Serves) => hserves.steady
  obtain ⟨first, hready⟩ := hopened.ready
  obtain ⟨w, hwithdraws⟩ := hready.withdraws
  have hworked := hemployed.work henv.steady waiting.length
  have hcarried := h.trans_nil (.work hemployed henv waiting.length)
  have hswept := hcarried.trans_nil (.sweep hworked henv)
  -- nothing waits for the worker in the end
  obtain ⟨worker₂, waiting₂, hlast, hend⟩ :=
    withdraws_upkeep.tended hsteady hswept hready.employs hwithdraws
  obtain ⟨-, rfl⟩ := (hworked.sweep henv.steady).unique hlast
  rw [List.drop_length] at hend
  refine ⟨?_, hend.storesLive, ?_⟩
  · intro key hunlinked
    rcases hend.withdrawn key hunlinked with hnone | ⟨q, hq, -⟩
    · exact hnone
    · cases hq
  · intro key d hfind hdeleted hkey
    obtain ⟨w', worker₃, waiting₃, -, htidy⟩ := hopened.tidy hsteady hready.keyed hswept
    obtain ⟨w'', worker₄, waiting₄, hemployed₄, htidy'⟩ := hopened.tidy hsteady hready.keyed h
    obtain ⟨-, rfl⟩ := hemployed.unique hemployed₄
    obtain ⟨-, hstored, -⟩ := (htidy.held key hkey).of_find? hfind
    have hmade := hswept.made fun _ hserves => hserves.stores
    rw [List.filter_eq_self.2 hmade] at hstored
    rw [hstored, before.kept_append_of_ne _ ?_, before.kept_append_of_ne _ ?_]
    · -- the mail has no saves
      intro a ha
      obtain ⟨q, hq, worker₅, n₅, hattempt⟩ := mem_attempts ha
      obtain ⟨s, -, rfl⟩ := htidy'.posted q (List.mem_of_mem_take hq)
      cases hattempt
    · intro a ha
      obtain ⟨q, hq, worker₅, n₅, hattempt⟩ := mem_attempts ha
      obtain ⟨⟨version, rfl⟩, -⟩ := of_attempt? hattempt
      rw [hworked.table_sweep henv.steady] at hfind
      exact key_ne_of_deleted hworked.sound.wf hfind hdeleted _ hq

/-- However a node in delayed mode was tended, once it has loaded all of a store, a clean shutdown
leaves no record of a dialog that is gone. A dialog that is linked in the deleted phase may have
left one, and the next load brings it back; but it brings back no dialog that was not linked any
more. -/
theorem Opened.stop_leaves (hopened : Opened .delayed before before.records.length n)
    (h : Tends Environment.Serves C n n') (henv : env.Serves) :
    (n'.stop env).1 = .ok () ∧
      (∃ ms log, Tended Environment.Serves C n ms log n') ∧
      (∀ ms log, Tended Environment.Serves C n ms log n' →
        before.Leaves ms log (n'.stop env).2.registry.table (n'.stop env).2.store) ∧
      ∀ {ε' : Type} {mode : PersistenceMode} {count : Nat} {next : Node ε'},
        next.Opened mode (n'.stop env).2.store count → ∀ key,
          next.registry.table.isLinked key = true →
          (n'.stop env).2.registry.table.isLinked key = true := by
  have hsteady := fun (env : Environment ε) (hserves : env.Serves) => hserves.steady
  obtain ⟨worker, hready⟩ := hopened.ready
  obtain ⟨ms, log, htended⟩ := h.tended hsteady hready.employs hready.works
  obtain ⟨w, worker', waiting, hemployed, htidy⟩ := hopened.tidy hsteady hready.keyed htended
  obtain ⟨hclean, hstore, htable⟩ := hemployed.stop_delayed henv.steady htidy.delayed
  rw [hstore, htable]
  refine ⟨hclean, ⟨ms, log, htended⟩, fun ms log h => hopened.leaves h hemployed henv, ?_⟩
  intro ε' mode count next hnext key hlinked
  obtain ⟨next₀, hnext⟩ := hnext.ready
  obtain ⟨d, hd⟩ := Option.isSome_iff_exists.1 hlinked
  obtain ⟨record, -, hget⟩ := hnext.get? hd
  by_contra hunlinked
  have hnone := (hopened.leaves htended hemployed henv).gone key (Bool.eq_false_iff.2 hunlinked)
  rw [hnone] at hget
  cases hget

/-- Two calls are answered and saved, and then both are hung up. The first one is still referred
to. -/
def hungUp : Node Unit :=
  let answered := ringing.quietly
    [.insert { callId := "def", fromUri := "sip:c", toUri := "sip:d", fromTag := "t3" } 0,
      .processEvent ⟨0, 0⟩ .successResponse, .processEvent ⟨0, 1⟩ .successResponse]
  (answered.settle .quiet 60).quietly
    [.addRefs ⟨0, 0⟩ 1, .processEvent ⟨0, 0⟩ .requestBye, .processEvent ⟨0, 1⟩ .requestBye]

theorem hungUp_tends : Tends Environment.Serves .told (quietNode .delayed {}) hungUp := by
  refine (ringing_tends _ rfl).trans (.trans (quietly_tends _ ?_)
    (.trans (.settle _ Environment.quiet_serves 60) (quietly_tends _ ?_)))
  · decide
  · decide

/-- The second call is gone. Nothing is stored of it, and the next run does not link it. -/
theorem hungUp_stop_leaves :
    (hungUp.stop .quiet).2.store.get? ⟨0, 1⟩ = none ∧
      (quietNode .delayed (hungUp.stop .quiet).2.store).registry.table.isLinked ⟨0, 1⟩
        = false := by
  obtain ⟨-, ⟨ms, log, htended⟩, hleaves, hnext⟩ := Opened.stop_leaves
    (quietNode_opened .delayed {}) hungUp_tends Environment.quiet_serves
  have hgone : (hungUp.stop .quiet).2.registry.table.isLinked ⟨0, 1⟩ = false := by decide +kernel
  refine ⟨(hleaves ms log htended).gone _ hgone, Bool.eq_false_iff.2 fun hlinked => ?_⟩
  have hstill := hnext (quietNode_opened .delayed (hungUp.stop .quiet).2.store) _ hlinked
  rw [hgone] at hstill
  cases hstill

/-- The first call is deleted when the run shuts down, but it was saved when it was answered, and
the next run brings it back like that. -/
theorem hungUp_returns :
    Opened .delayed {} 0 (quietNode .delayed {}) ∧
      Tends Environment.Serves .told (quietNode .delayed {}) hungUp ∧
      (hungUp.stop .quiet).1 = .ok () ∧
      ((hungUp.stop .quiet).2.registry.table.find? ⟨0, 0⟩).map (·.phase) = some .deleted ∧
      ((hungUp.stop .quiet).2.store.get? ⟨0, 0⟩).isSome = true ∧
      ((quietNode .delayed (hungUp.stop .quiet).2.store).registry.table.find? ⟨0, 0⟩).map (·.phase)
        = some .confirmedNa := by
  have hclean : (hungUp.stop .quiet).1.isOk = true := by decide +kernel
  refine ⟨quietNode_opened .delayed {}, hungUp_tends, ?_, by decide +kernel, by decide +kernel,
    by decide +kernel⟩
  cases hstopped : (hungUp.stop .quiet).1 with
  | ok => rfl
  | error e =>
    rw [hstopped] at hclean
    cases hclean

end Node

end SipDialogs
