-- SUMMARY: What runs in shutdown mode hand on to each other through the store.
import SipDialogs.Proofs.Service

/-! # Restarts

In shutdown mode nothing is written until the end, and then the live dialogs are saved. No record is
ever withdrawn: one that a run found in the store, and whose dialog is gone by the end of it, is
found by the next run as well. -/

namespace SipDialogs

/-- The dialog under this key, if it is live. -/
def Table.live? (t : Table) (key : Key) : Option Dialog :=
  (t.find? key).filter (·.phase ≠ .deleted)

theorem Table.live?_eq_some {t : Table} {key : Key} {d : Dialog} :
    t.live? key = some d ↔ t.find? key = some d ∧ d.phase ≠ .deleted := by
  simp [live?, Option.filter_eq_some_iff]

/-- What is kept of a dialog as it is. -/
def Dialog.record (d : Dialog) : Record := Record.ofSnapshot d.snapshot

/-! ## One run -/

namespace Node

variable {C : Conduct} {before : Store} {ms : List Moment} {waiting : List Write} {worker : Worker}
  {n n' : Node ε} {env : Environment ε}

/-- The invariant of a node in shutdown mode: nobody asks for writes, and nothing is written. -/
structure Rests (before : Store) (ms : List Moment) (waiting : List Write) (worker : Worker)
    (n : Node ε) : Prop where
  shutdown : worker.mode = .shutdown
  applied : worker.applied = {}
  stored : n.store = before
  noWriter : n.registry.NoWriter
  idle : waiting = []

theorem rests_invariant (C : Conduct) (before : Store) :
    Invariant C (@Rests ε before) where
  act := by
    intro ms waiting worker n ms' r waiting' h hattended hms hbox
    obtain rfl := h.idle
    rw [hms.path.mailboxes_of_noWriter h.noWriter, hattended.mailbox] at hbox
    cases hbox
    exact ⟨h.shutdown, h.applied, h.stored, h.noWriter.later hms.path.later, rfl⟩
  carry := by
    intro env ms w waiting worker n henv h
    cases h.idle
  aside := by
    intro ms waiting worker n n' h hstore htable hobservers hserial
    refine ⟨h.shutdown, h.applied, hstore.trans h.stored, ?_, h.idle⟩
    unfold Registry.NoWriter
    rw [hobservers]
    exact h.noWriter

theorem Ready.rests {store : Store} {count : Nat} (h : Ready .shutdown store count worker n) :
    Rests store [] [] worker n :=
  ⟨h.works, h.applied, h.stored, h.noWriter rfl, rfl⟩

/-- The writes that save every live dialog. -/
def saves (t : Table) : List Write :=
  ((t.dialogs.map (·.snapshot)).filter fun s => !s.phase.isDeleted).map Write.ofSnapshot

theorem mem_saves {t : Table} (hwf : t.Wf) {w : Write} :
    w ∈ saves t ↔ ∃ d, t.live? w.key = some d ∧ w = Write.ofSnapshot d.snapshot := by
  simp only [saves, List.mem_map, List.mem_filter, Table.live?_eq_some]
  constructor
  · rintro ⟨s, ⟨⟨d, hd, rfl⟩, hlive⟩, rfl⟩
    have hphase : d.phase ≠ .deleted := by simpa [Phase.isDeleted, Dialog.snapshot] using hlive
    exact ⟨d, ⟨hwf.mem_dialogs.1 hd, hphase⟩, rfl⟩
  · rintro ⟨d, ⟨hd, hphase⟩, rfl⟩
    refine ⟨d.snapshot, ⟨⟨d, ?_, rfl⟩, by simpa [Phase.isDeleted, Dialog.snapshot] using hphase⟩,
      rfl⟩
    have hkey : (Write.ofSnapshot d.snapshot).key = d.key := rfl
    rw [hkey] at hd
    exact hwf.mem_dialogs.2 hd

/-- Saving all dialogs that are live replaces their records and leaves the others alone. -/
theorem saveAll_get? (henv : env.Serves) (hwf : n.registry.table.Wf) (halive : worker.alive = true)
    (hnew : worker.applied = {}) (key : Key) :
    (saveAll env worker n).2.store.get? key
      = ((n.registry.table.live? key).map (·.record)).or (n.store.get? key) := by
  have hsaves : saveAll env worker n = carryAll env (saves n.registry.table) worker n := rfl
  have hcopied := carryAll_induction henv.steady
    (P := fun ws worker' n' => n'.registry.table = n.registry.table ∧
      ∃ done, done ++ ws = saves n.registry.table ∧
        Copied n.store n.registry.table.isLinked done worker'.applied n'.store)
    (fun w ws worker' n' hw => by
      obtain ⟨htable, done, hdone, hcopied⟩ := hw
      refine ⟨(carry_carried henv.steady w worker' n').idle.table.trans htable, done ++ [w],
        by simp [hdone], ?_⟩
      have hmem : w ∈ saves n.registry.table := by
        rw [← hdone]
        exact List.mem_append_right _ List.mem_cons_self
      obtain ⟨d, -, hd⟩ := (mem_saves hwf).1 hmem
      rw [← htable] at hcopied ⊢
      exact hcopied.carry henv fun _ => by rw [hd]; rfl)
    halive ⟨rfl, [], rfl, by rw [hnew]; exact .nil ..⟩
  obtain ⟨-, done, hdone, hcopied⟩ := hcopied
  rw [List.append_nil] at hdone
  subst hdone
  rw [hsaves]
  cases hlive : n.registry.table.live? key with
  | none =>
    have hnone : (saves n.registry.table).filter (·.key = key) = [] := by
      refine List.filter_eq_nil_iff.2 fun w hw hkey => ?_
      obtain ⟨d, hd, -⟩ := (mem_saves hwf).1 hw
      rw [decide_eq_true_eq] at hkey
      rw [hkey, hlive] at hd
      cases hd
    exact (hcopied.untouched key hnone).2
  | some d =>
    obtain ⟨hd, -⟩ := Table.live?_eq_some.1 hlive
    have hkey : d.key = key := hwf.key_of_find? hd
    have hmem : Write.ofSnapshot d.snapshot ∈ (saves n.registry.table).filter (·.key = key) := by
      refine List.mem_filter.2 ⟨(mem_saves hwf).2 ⟨d, ?_, rfl⟩, decide_eq_true hkey⟩
      have hsame : (Write.ofSnapshot d.snapshot).key = key := hkey
      rw [hsame]
      exact hlive
    rcases hcopied.settled key (by simp [Table.isLinked, hd]) with
      ⟨hnone, -⟩ | ⟨newest, hnewest, -, -, hstore⟩
    · rw [hnone] at hmem
      cases hmem
    · obtain ⟨hsaved, hsame⟩ := List.mem_filter.1 hnewest
      obtain ⟨e, he, rfl⟩ := (mem_saves hwf).1 hsaved
      rw [of_decide_eq_true hsame, hlive] at he
      cases he
      exact hstore

theorem Attended.stop_shutdown (h : Attended worker waiting n) (henv : env.Serves)
    (hrests : Rests before ms [] (Node.drain env worker n).1 (Node.drain env worker n).2) :
    (n.stop env).1 = .ok () ∧ ∀ key, (n.stop env).2.store.get? key
      = (((n.stop env).2.registry.table.live? key).map (·.record)).or (before.get? key) := by
  have hcarried := h.drain henv.steady
  have halive := hcarried.alive h.alive
  rw [h.stop_eq henv.steady]
  generalize Node.drain env worker n = drained at hrests hcarried halive ⊢
  obtain ⟨worker', n'⟩ := drained
  dsimp only at hrests hcarried halive ⊢
  have hwf : n'.registry.table.Wf := by
    rw [hcarried.idle.table]
    exact h.sound.wf
  have hflushed : lastFlush env worker' n' = saveAll env worker' n' := by
    unfold lastFlush
    rw [hrests.shutdown]
  have hsaved : Carried worker' n' (saveAll env worker' n').1 (saveAll env worker' n').2 :=
    carryAll_carried henv.steady _ halive
  have hget := saveAll_get? henv hwf halive hrests.applied
  rw [hrests.stored, ← hsaved.idle.table] at hget
  rw [hflushed, if_pos (hsaved.alive halive)]
  generalize saveAll env worker' n' = saved at hget ⊢
  exact ⟨rfl, hget⟩

/-- However a node in shutdown mode has worked, it stops cleanly, and the live dialogs are saved. -/
theorem Opened.stop_shutdown {count : Nat} (hopened : Opened .shutdown before count n)
    (hworks : Works C n n') (henv : env.Serves) :
    (n'.stop env).1 = .ok () ∧ ∀ key, (n'.stop env).2.store.get? key
      = (((n'.stop env).2.registry.table.live? key).map (·.record)).or (before.get? key) := by
  obtain ⟨worker, hready⟩ := hopened.ready
  have hattended := hready.attended (by decide)
  have hinvariant : Invariant C (@Rests ε before) := rests_invariant C before
  obtain ⟨ms, hms⟩ := hworks.passes hattended
  obtain ⟨worker', waiting, hattended', hrests⟩ := hinvariant.passes hms hattended hready.rests
  exact hattended'.stop_shutdown henv (hinvariant.drain henv hattended' hrests)

end Node

/-! ## Run after run -/

/-- A run in shutdown mode: it begins with `before` in the store, ends with these dialogs, and
leaves `after` in the store. In between anything may be done to it. -/
inductive ShutdownRun (before : Store) (last : Table) (after : Store) : Prop where
  | intro {ε : Type} {count : Nat} {n n' : Node ε} {env : Environment ε}
      (hopened : n.Opened .shutdown before count) (hworks : Node.Works .free n n')
      (henv : env.Serves) (hclean : (n'.stop env).1 = .ok ())
      (hlast : (n'.stop env).2.registry.table = last) (hafter : (n'.stop env).2.store = after)

/-- Runs in shutdown mode over one store. They ended with these dialogs, the first run first. -/
inductive Restarts (first : Store) : List Table → Store → Prop where
  | start : Restarts first [] first
  | run {ends : List Table} {last : Table} {before after : Store}
      (hearlier : Restarts first ends before) (hrun : ShutdownRun before last after) :
      Restarts first (ends ++ [last]) after

theorem ShutdownRun.get? {before after : Store} {last : Table} (h : ShutdownRun before last after)
    (key : Key) :
    after.get? key = ((last.live? key).map (·.record)).or (before.get? key) := by
  obtain ⟨hopened, hworks, henv, -, rfl, rfl⟩ := h
  exact (hopened.stop_shutdown hworks henv).2 key

/-- A record of a chain of runs shows a dialog as it was live at the end of one of them, or was
there from the start. -/
theorem Restarts.source {first after : Store} {ends : List Table} (h : Restarts first ends after)
    {key : Key} {record : Record} (hrecord : after.get? key = some record) :
    first.get? key = some record ∨
      ∃ t ∈ ends, ∃ d, t.live? key = some d ∧ record = d.record := by
  induction h with
  | start => exact .inl hrecord
  | @run ends last before after hearlier hrun ih =>
    rw [hrun.get?] at hrecord
    cases hlive : last.live? key with
    | some d =>
      rw [hlive] at hrecord
      cases hrecord
      exact .inr ⟨last, by simp, d, hlive, rfl⟩
    | none =>
      rw [hlive] at hrecord
      refine (ih hrecord).imp id ?_
      rintro ⟨t, ht, hd⟩
      exact ⟨t, List.mem_append_left _ ht, hd⟩

/-- What a run in shutdown mode leaves in the store are the dialogs that are live at its end, and
what else it found there. The next run therefore links only dialogs that were live at the end of the
last one, or whose records the last run had found already; and those were live at the end of an
earlier run, or were there from the start. -/
theorem Restarts.next_links {first before after : Store} {ends : List Table} {last : Table}
    (hearlier : Restarts first ends before) (hrun : ShutdownRun before last after) :
    (∀ key, after.get? key = ((last.live? key).map (·.record)).or (before.get? key)) ∧
    ∀ {ε : Type} {mode : PersistenceMode} {count : Nat} {n : Node ε}, n.Opened mode after count →
      ∀ key d, n.registry.table.find? key = some d →
        (∃ e, last.live? key = some e ∧ after.get? key = some e.record) ∨
        ∃ record, before.get? key = some record ∧ after.get? key = some record ∧
          (first.get? key = some record ∨
            ∃ t ∈ ends, ∃ e, t.live? key = some e ∧ record = e.record) := by
  refine ⟨hrun.get?, fun hopened key d hd => ?_⟩
  obtain ⟨worker, hready⟩ := hopened.ready
  obtain ⟨record, -, hrecord⟩ := hready.get? hd
  have hget := hrun.get? key
  cases hlive : last.live? key with
  | some e =>
    rw [hlive] at hget
    exact .inl ⟨e, rfl, hget⟩
  | none =>
    rw [hlive, hrecord] at hget
    exact .inr ⟨record, hget.symm, hrecord, hearlier.source hget.symm⟩

/-! A dialog that one run leaves live, the next one destroys, and the one after that brings back. -/

/-- A run with these operations. -/
def quietRun (store : Store) (ops : List Operation) : Node Unit :=
  { Node.quietNode .shutdown store with
    registry := (Node.quietNode .shutdown store).registry.performAll .quiet ops }

/-- What is left of it. -/
def shutdownAfter (store : Store) (ops : List Operation) : Node Unit :=
  ((quietRun store ops).stop .quiet).2

theorem shutdownAfter_run (store : Store) (ops : List Operation) :
    ShutdownRun store (shutdownAfter store ops).registry.table (shutdownAfter store ops).store := by
  have hopened := Node.quietNode_opened .shutdown store
  have hworks : Node.Works .free (Node.quietNode .shutdown store) (quietRun store ops) := by
    refine .act (Registry.runsIn_performAll (Environment.quiet_honest _) _ fun op _ => ?_)
    cases op <;> rfl
  have hclean := (hopened.stop_shutdown hworks Environment.quiet_serves).1
  exact .intro hopened hworks Environment.quiet_serves hclean rfl rfl

/-- The first run leaves an answered call. -/
def answeredRun : Node Unit :=
  shutdownAfter {}
    [.insert { callId := "abc", fromUri := "sip:a", toUri := "sip:b", fromTag := "t1" } 0,
      .processEvent ⟨0, 0⟩ .successResponse]

/-- In the second run the call is hung up. -/
def hungUpRun : Node Unit := shutdownAfter answeredRun.store [.processEvent ⟨0, 0⟩ .requestBye]

/-- The call is not linked when the second run shuts down, but the load of the next run links it. -/
theorem ShutdownRun.resurrects :
    ShutdownRun {} answeredRun.registry.table answeredRun.store ∧
      ShutdownRun answeredRun.store hungUpRun.registry.table hungUpRun.store ∧
      hungUpRun.registry.table.isLinked ⟨0, 0⟩ = false ∧
      (Node.quietNode .shutdown hungUpRun.store).registry.table.isLinked ⟨0, 0⟩ = true :=
  ⟨shutdownAfter_run _ _, shutdownAfter_run _ _, by decide +kernel, by decide +kernel⟩

/-- The record that the next run links was there before the second run, and has stayed as it was. -/
theorem Restarts.next_links_hungUp :
    hungUpRun.registry.table.live? ⟨0, 0⟩ = none ∧
      ∃ record, answeredRun.store.get? ⟨0, 0⟩ = some record ∧
        hungUpRun.store.get? ⟨0, 0⟩ = some record := by
  have hearlier : Restarts {} [answeredRun.registry.table] answeredRun.store :=
    .run .start (shutdownAfter_run _ _)
  have hrun : ShutdownRun answeredRun.store hungUpRun.registry.table hungUpRun.store :=
    shutdownAfter_run _ _
  have hlinked :
      (Node.quietNode .shutdown hungUpRun.store).registry.table.isLinked ⟨0, 0⟩ = true := by
    decide +kernel
  have hgone : (hungUpRun.registry.table.live? ⟨0, 0⟩).isNone := by decide +kernel
  obtain ⟨d, hd⟩ := Option.isSome_iff_exists.1 hlinked
  have hnone := Option.isNone_iff_eq_none.1 hgone
  obtain ⟨-, hlinks⟩ := hearlier.next_links hrun
  rcases hlinks (Node.quietNode_opened .shutdown hungUpRun.store) _ d hd with
    ⟨e, he, -⟩ | ⟨record, hbefore, hafter, -⟩
  · rw [hnone] at he
    cases he
  · exact ⟨hnone, record, hbefore, hafter⟩

end SipDialogs
