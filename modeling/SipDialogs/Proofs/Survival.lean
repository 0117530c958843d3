-- SUMMARY: What a clean restart in shutdown mode keeps of the live dialogs.
import SipDialogs.Proofs.Homecoming
import SipDialogs.Proofs.Numbers

/-! # Survival

A process in shutdown mode saves its live dialogs when it stops. A new process with as many
buckets that loads what was saved has each of them again, under the key it had, but for what a
record does not hold: references, links, the timer, observers, flags and the fraction of the
second it started in. Its number is not given to any dialog that is new there. -/

namespace SipDialogs

/-! ## A dialog and its record -/

namespace Dialog

/-- The dialog as it comes back from its record. It has the table's reference and neither links,
timer nor observers of its own, and its stored copy is good. -/
def reborn (d : Dialog) : Dialog where
  key := d.key
  callId := d.callId
  fromUri := d.fromUri
  toUri := d.toUri
  caller := d.caller
  callee := d.callee
  phase := d.phase
  flags := .none
  refs := 1
  start := d.start.wholeSecond
  timeout := d.timeout
  links := []
  timer := none
  observers := []
  version := 0

/-- The record of a live dialog with a Call-ID describes the dialog. -/
theorem dialog?_record {d : Dialog} (hlive : d.phase ≠ .deleted) (hid : d.callId ≠ "") :
    d.record.dialog? = some d.reborn := by
  have hkept : d.record.isDeleted = false := by
    unfold Record.isDeleted
    generalize hphase : d.phase = phase at hlive
    have hcode : d.record.phaseCode = phase.code := congrArg Phase.code hphase
    rw [hcode]
    cases phase with
    | deleted => exact absurd rfl hlive
    | _ => rfl
  have hread : d.record.toSnapshot = .ok d.snapshot.stored := Snapshot.toSnapshot_ofSnapshot hid
  have hback : Dialog.ofSnapshot d.snapshot.stored = d.reborn := by
    have hflags : Flags.none.remove .dirty = .none := by decide
    unfold ofSnapshot Snapshot.stored
    rw [hflags]
    rfl
  exact Record.dialog?_eq_some.2 ⟨by simp [hkept], _, hread, hback⟩

end Dialog

/-! ## Loading what was saved -/

namespace Node

/-- The first record with its key is linked, whatever else there is to load, if its bucket exists
and the key is free. -/
theorem restoreAll_find? {records : List Record} {r : Registry ε} {record : Record} {d : Dialog}
    (hfirst : records.find? (·.key == record.key) = some record) (hd : record.dialog? = some d)
    (hbucket : (r.table.bucket? record.key.bucket).isSome)
    (hfree : r.table.find? record.key = none) :
    (restoreAll records r).2.table.find? record.key = some d := by
  induction records generalizing r with
  | nil => cases hfirst
  | cons other records ih =>
    have hloads := fun r' : Registry ε => restoreAll_loads records r'
    rw [List.find?_cons] at hfirst
    unfold restoreAll
    split at hfirst
    next hkey =>
      cases hfirst
      rcases restoreRecord_cases r record with hpassed | ⟨s, e, t, he, hrestore, hlinked⟩
      · have htaken := isLinked_of_passed hpassed hd hbucket
        rw [Table.isLinked, hfree] at htaken
        cases htaken
      · obtain rfl : d = e := Option.some.inj (hd.symm.trans he)
        rw [hlinked]
        refine (hloads _).kept record.key d ?_
        have hkey := (Record.of_dialog? hd).1
        rw [(Table.restore_links hrestore).1.find?, if_pos hkey.symm]
    next hkey =>
      rcases restoreRecord_cases r other with hpassed | ⟨s, e, t, he, hrestore, hlinked⟩
      · rw [hpassed]
        exact ih hfirst hbucket hfree
      · rw [hlinked]
        refine ih hfirst ?_ ?_
        · dsimp only
          rw [Table.isSome_bucket?_restore hrestore]
          exact hbucket
        · have hother : record.key ≠ e.key := by
            rw [(Record.of_dialog? he).1]
            rintro heq
            simp [heq] at hkey
          dsimp only
          rw [(Table.restore_links hrestore).1.find?, if_neg hother]
          exact hfree

end Node

/-! ## What a node does to its registry -/

namespace Registry

variable {r r' r'' : Registry ε}

/-- Only what is written down about a registry has changed, and its mail. -/
structure Tended (r r' : Registry ε) : Prop where
  table : r'.table = r.table
  observers : r'.observers = r.observers
  nextSerial : r'.nextSerial = r.nextSerial

@[refl] theorem Tended.refl (r : Registry ε) : r.Tended r := ⟨rfl, rfl, rfl⟩

theorem Tended.trans (h : r.Tended r') (h' : r'.Tended r'') : r.Tended r'' :=
  ⟨h'.table.trans h.table, h'.observers.trans h.observers, h'.nextSerial.trans h.nextSerial⟩

theorem Idle.tended (h : r.Idle r') : r.Tended r' := ⟨h.table, h.observers, h.nextSerial⟩

theorem Tended.sound (h : r.Tended r') (hsound : r.Sound) : r'.Sound :=
  hsound.congr h.table h.observers h.nextSerial

theorem Tended.noWriter (h : r.Tended r') (hclients : r.NoWriter) : r'.NoWriter := by
  unfold NoWriter
  rw [h.observers]
  exact hclients

/-- A sound registry has become another one, with as many buckets, and the numbers that were spent
are spent. -/
structure Matures (r r' : Registry ε) : Prop where
  sound : r'.Sound
  size : r'.table.size = r.table.size
  spent : ∀ key, r.table.Spent key → r'.table.Spent key

theorem Matures.trans (h : r.Matures r') (h' : r'.Matures r'') : r.Matures r'' :=
  ⟨h'.sound, h'.size.trans h.size, fun key hspent => h'.spent key (h.spent key hspent)⟩

theorem Tended.matures (h : r.Tended r') (hsound : r.Sound) : r.Matures r' := by
  refine ⟨h.sound hsound, congrArg Table.size h.table, fun key hspent => ?_⟩
  rw [h.table]
  exact hspent

theorem Sound.matures (h : r.Sound) : r.Matures r := (Tended.refl r).matures h

end Registry

theorem Path.matures {r r' : Registry ε} {limbo limbo' : List Dialog} {ms : List Moment}
    (h : Path ⟨r, limbo⟩ ms ⟨r', limbo'⟩) (hsound : r.Sound) : r.Matures r' :=
  ⟨h.sound hsound, h.size, fun _ hspent => h.spent hspent⟩

theorem Registry.RunsIn.matures {C : Conduct} {r r' : Registry ε} (h : RunsIn C r r')
    (hsound : r.Sound) : r.Matures r' := by
  have hmoments : ∃ ms, Course C [] r ms r' := h.course hsound
  obtain ⟨ms, hcourse⟩ := hmoments
  exact hcourse.path.matures hsound

namespace Node

variable {env : Environment ε} {n n' n'' : Node ε}

theorem carry_tended (henv : env.Steady) (w : Write) (worker : Worker) (n : Node ε) :
    n.registry.Tended (carry env w worker n).2.registry :=
  (carry_carried henv w worker n).idle.tended

theorem carryAll_tended (henv : env.Steady) (ws : List Write) (worker : Worker) (n : Node ε) :
    n.registry.Tended (carryAll env ws worker n).2.registry := by
  induction ws generalizing worker n with
  | nil => exact .refl _
  | cons w ws ih =>
    have hfirst := carry_tended henv w worker n
    rw [carryAll]
    dsimp only
    split
    · exact hfirst.trans (ih _ _)
    · exact hfirst

theorem drain_tended (henv : env.Steady) (worker : Worker) (n : Node ε) :
    n.registry.Tended (drain env worker n).2.registry := by
  unfold drain
  split
  next box _ =>
    have hcarried := carryAll_tended henv box.waiting worker (n.withWaiting worker.mailbox [])
    exact ⟨hcarried.table, hcarried.observers, hcarried.nextSerial⟩
  next => exact .refl _

theorem consume_tended (henv : env.Steady) (count : Nat) (worker : Worker) (n : Node ε) :
    n.registry.Tended (consume env count worker n).2.registry := by
  unfold consume
  split
  next box _ =>
    have hcarried := carryAll_tended henv (box.waiting.take count) worker
      (n.withWaiting worker.mailbox (box.waiting.drop count))
    exact ⟨hcarried.table, hcarried.observers, hcarried.nextSerial⟩
  next => exact .refl _

theorem whileAlive_matures (act : Worker → Node ε → Worker × Node ε)
    (hact : ∀ worker (n : Node ε), n.registry.Sound →
      n.registry.Matures (act worker n).2.registry)
    (worker : Worker) (hsound : n.registry.Sound) :
    n.registry.Matures (whileAlive act worker n).2.registry := by
  unfold whileAlive
  split
  · exact hact worker n hsound
  · exact hsound.matures

theorem keepWorker_tended (worker : Worker) (n : Node ε) :
    n.registry.Tended (keepWorker worker n).registry := by
  unfold keepWorker
  dsimp only
  split <;> exact ⟨rfl, rfl, rfl⟩

theorem flush_matures (henv : env.Steady) (worker : Worker) (n : Node ε)
    (hsound : n.registry.Sound) : n.registry.Matures (flush env worker n).2.registry := by
  have htaken : n.registry.Proceeds .free [] n.registry.takeDirty.2 :=
    Registry.takeDirty_proceeds hsound rfl
  obtain ⟨ms, hms⟩ := htaken
  have htook := hms.path.matures hsound
  have hcarried := carryAll_tended henv (n.registry.takeDirty.1.map Write.ofSnapshot) worker
    { n with registry := n.registry.takeDirty.2 }
  exact htook.trans (hcarried.matures htook.sound)

theorem flushDue_matures (henv : env.Steady) (worker : Worker) (n : Node ε)
    (hsound : n.registry.Sound) : n.registry.Matures (flushDue env worker n).2.registry := by
  unfold flushDue
  split
  · exact flush_matures henv _ n hsound
  · exact hsound.matures

theorem lastFlush_matures (henv : env.Steady) (worker : Worker) (n : Node ε)
    (hsound : n.registry.Sound) : n.registry.Matures (lastFlush env worker n).2.registry := by
  unfold lastFlush
  split
  · exact flush_matures henv worker n hsound
  · exact (carryAll_tended henv _ worker n).matures hsound
  · exact hsound.matures
  · exact hsound.matures

theorem work_matures (henv : env.Steady) (count : Nat) (hsound : n.registry.Sound) :
    n.registry.Matures (n.work env count).registry := by
  unfold work
  split
  · exact hsound.matures
  next worker _ =>
    have hworked := whileAlive_matures (consume env count)
      (fun worker n hsound => (consume_tended henv count worker n).matures hsound) worker hsound
    exact hworked.trans ((keepWorker_tended _ _).matures hworked.sound)

theorem settle_matures (henv : env.Steady) (seconds : Nat) (hsound : n.registry.Sound) :
    n.registry.Matures (n.settle env seconds).registry := by
  unfold settle
  split
  · exact hsound.matures
  next worker _ =>
    have hdrained := whileAlive_matures (drain env)
      (fun worker n hsound => (drain_tended henv worker n).matures hsound) worker hsound
    generalize whileAlive (drain env) worker n = drained at hdrained ⊢
    have hflushed := whileAlive_matures (flushDue env)
      (n := { drained.2 with clock := drained.2.clock + seconds }) (flushDue_matures henv) drained.1
      hdrained.sound
    exact (hdrained.trans hflushed).trans ((keepWorker_tended _ _).matures hflushed.sound)

theorem stop_matures (henv : env.Steady) (hsound : n.registry.Sound) :
    n.registry.Matures (n.stop env).2.registry := by
  unfold stop
  split
  · exact hsound.matures
  next worker _ =>
    have hdrained := whileAlive_matures (drain env)
      (fun worker n hsound => (drain_tended henv worker n).matures hsound) worker hsound
    generalize whileAlive (drain env) worker n = drained at hdrained ⊢
    have hflushed := whileAlive_matures (lastFlush env) (lastFlush_matures henv) drained.1
      hdrained.sound
    have hclosed : Registry.Tended (whileAlive (lastFlush env) drained.1 drained.2).2.registry
        ((whileAlive (lastFlush env) drained.1 drained.2).2.closeMailbox
          (whileAlive (lastFlush env) drained.1 drained.2).1.mailbox).registry := ⟨rfl, rfl, rfl⟩
    exact (hdrained.trans hflushed).trans (hclosed.matures hflushed.sound)

theorem start_matures (henv : env.Steady) (config : PersistenceConfig)
    (hsound : n.registry.Sound) : n.registry.Matures (n.start env config).2.registry := by
  unfold start
  split
  · exact hsound.matures
  · have hstopped := stop_matures henv hsound
    have hpushed : (n.stop env).2.registry.Tended { (n.stop env).2.registry with
        mailboxes := (n.stop env).2.registry.mailboxes.push {} } := ⟨rfl, rfl, rfl⟩
    have hready := hstopped.trans (hpushed.matures hstopped.sound)
    dsimp only
    split
    · exact hready.trans ⟨hready.sound.observe .., rfl, fun _ hspent => hspent⟩
    · exact hready

/-- Records are restored one after another. -/
theorem restoreAll_path (records : List Record) (r : Registry ε) :
    ∃ ms, Path ⟨r, []⟩ ms ⟨(restoreAll records r).2, []⟩ := by
  induction records generalizing r with
  | nil => exact ⟨[], .nil _⟩
  | cons record records ih =>
    unfold restoreAll
    rcases restoreRecord_cases r record with hpassed | ⟨s, d, t, -, hrestore, hlinked⟩
    · rw [hpassed]
      exact ih r
    · rw [hlinked]
      obtain ⟨ms, hms⟩ := ih { r with table := t }
      exact ⟨.restored d :: ms, .cons (.restore hrestore []) hms⟩

/-- A store that answers has its records restored in the registry that asked it. -/
theorem load_of_serves (henv : env.Serves) (n : Node ε) :
    load n env = (.ok (restoreAll n.store.records (n.callStore env .loaded).2.registry).1,
      { n with registry :=
          (restoreAll n.store.records (n.callStore env .loaded).2.registry).2 }) := by
  have hdone : (n.callStore env .loaded).1 = .done := henv.stores ..
  have hcalled : (n.callStore env .loaded).2
      = { n with registry := (n.callStore env .loaded).2.registry } := rfl
  unfold load
  generalize n.callStore env .loaded = called at hdone hcalled ⊢
  obtain ⟨outcome, m⟩ := called
  obtain rfl : outcome = .done := hdone
  dsimp only at hcalled ⊢
  rw [hcalled]

theorem load_eq (henv : env.Serves) (n : Node ε) :
    ∃ r, n.registry.Idle r ∧ load n env = (.ok (restoreAll n.store.records r).1,
      { n with registry := (restoreAll n.store.records r).2 }) :=
  ⟨(n.callStore env .loaded).2.registry,
    callStore_idle henv.steady n (c := .loaded) fun _ _ _ => by simp, load_of_serves henv n⟩

theorem load_matures (henv : env.Serves) (hsound : n.registry.Sound) :
    n.registry.Matures (load n env).2.registry := by
  obtain ⟨r, hidle, hload⟩ := load_eq henv n
  have hwaited := hidle.tended.matures hsound
  obtain ⟨ms, hms⟩ := restoreAll_path n.store.records r
  rw [hload]
  exact hwaited.trans (hms.matures hwaited.sound)

/-! ## Processes -/

/-- What may become of a node whose worker is started in modes of `P` only: anything is done to its
registry, the store is loaded, and a worker is started, works and is stopped, in any order. -/
inductive Operates (P : PersistenceMode → Prop) : Node ε → Node ε → Prop where
  | act {n : Node ε} {r : Registry ε} (hruns : Registry.RunsIn .free n.registry r) :
      Operates P n { n with registry := r }
  | load (n : Node ε) {env : Environment ε} (henv : env.Serves) : Operates P n (load n env).2
  | start (n : Node ε) {env : Environment ε} (henv : env.Serves) {config : PersistenceConfig}
      (hmode : P config.mode) : Operates P n (n.start env config).2
  | work (n : Node ε) {env : Environment ε} (henv : env.Serves) (count : Nat) :
      Operates P n (n.work env count)
  | settle (n : Node ε) {env : Environment ε} (henv : env.Serves) (seconds : Nat) :
      Operates P n (n.settle env seconds)
  | stop (n : Node ε) {env : Environment ε} (henv : env.Serves) : Operates P n (n.stop env).2
  | trans {n n' n'' : Node ε} : Operates P n n' → Operates P n' n'' → Operates P n n''

/-- In every mode, the registry of a process stays sound, and no number of it is given out again. -/
theorem Operates.matures {P : PersistenceMode → Prop} (h : Operates P n n')
    (hsound : n.registry.Sound) : n.registry.Matures n'.registry := by
  induction h with
  | act hruns => exact hruns.matures hsound
  | load n henv => exact load_matures henv hsound
  | start n henv hmode => exact start_matures henv.steady _ hsound
  | work n henv count => exact work_matures henv.steady count hsound
  | settle n henv seconds => exact settle_matures henv.steady seconds hsound
  | stop n henv => exact stop_matures henv.steady hsound
  | trans _ _ ih ih' =>
    have hfirst := ih hsound
    exact hfirst.trans (ih' hfirst.sound)

/-! ## Shutdown mode -/

/-- A process in shutdown mode: nobody asks for writes, so a worker that runs has nothing to do
until it is stopped. -/
structure Unasked (n : Node ε) : Prop where
  sound : n.registry.Sound
  noWriter : n.registry.NoWriter
  idle : ∀ worker, n.worker = some worker →
    Attended worker [] n ∧ worker.mode = .shutdown ∧ worker.applied = {}

theorem Attended.consume_nil {worker : Worker} (h : Attended worker [] n) (count : Nat) :
    Node.consume env count worker n = (worker, n.withWaiting worker.mailbox []) := by
  rw [h.consume_eq, List.take_nil, List.drop_nil, carryAll]

theorem Unasked.act (h : n.Unasked) {r : Registry ε} (hruns : Registry.RunsIn .free n.registry r) :
    Unasked { n with registry := r } := by
  have hmoments : ∃ ms, Course .free [] n.registry ms r := hruns.course h.sound
  obtain ⟨ms, hcourse⟩ := hmoments
  have hmailboxes := hcourse.path.mailboxes_of_noWriter h.noWriter
  refine ⟨hcourse.sound h.sound, h.noWriter.later hcourse.path.later, fun worker hworker => ?_⟩
  obtain ⟨hattended, hfresh⟩ := h.idle worker hworker
  refine ⟨⟨⟨hworker, hattended.alive, ?_, hcourse.sound h.sound⟩, hattended.undelayed⟩, hfresh⟩
  exact (congrArg (·[worker.mailbox]?) hmailboxes).trans hattended.mailbox

theorem Unasked.load (h : n.Unasked) (henv : env.Serves) : Unasked (Node.load n env).2 := by
  have hsound := (load_matures henv h.sound).sound
  obtain ⟨r, hidle, hload⟩ := load_eq henv n
  obtain ⟨t, ht⟩ := (restoreAll_loads n.store.records r).table
  rw [hload, ht] at hsound ⊢
  refine ⟨hsound, hidle.tended.noWriter h.noWriter, fun worker hworker => ?_⟩
  obtain ⟨hattended, hfresh⟩ := h.idle worker hworker
  refine ⟨⟨⟨hworker, hattended.alive, ?_, hsound⟩, hattended.undelayed⟩, hfresh⟩
  exact (congrArg (·[worker.mailbox]?) hidle.mailboxes).trans hattended.mailbox

theorem Unasked.work (h : n.Unasked) (henv : env.Serves) (count : Nat) :
    Unasked (n.work env count) := by
  cases hworker : n.worker with
  | none =>
    have hsame : n.work env count = n := by rw [Node.work, hworker]
    rw [hsame]
    exact h
  | some worker =>
    obtain ⟨hattended, hfresh⟩ := h.idle worker hworker
    have hworked := hattended.work henv.steady count
    rw [List.drop_nil, hattended.consume_nil] at hworked
    refine ⟨hworked.sound, ?_, fun worker' hworker' => ?_⟩
    · rw [hattended.work_eq henv.steady, hattended.consume_nil]
      exact h.noWriter
    · obtain rfl : worker = worker' := Option.some.inj (hworked.employed.symm.trans hworker')
      exact ⟨hworked, hfresh⟩

theorem Unasked.settle (h : n.Unasked) (henv : env.Serves) (seconds : Nat) :
    Unasked (n.settle env seconds) := by
  cases hworker : n.worker with
  | none =>
    have hsame : n.settle env seconds = { n with clock := n.clock + seconds } := by
      rw [Node.settle, hworker]
    rw [hsame]
    refine ⟨h.sound, h.noWriter, fun worker hsome => ?_⟩
    rw [hworker] at hsome
    cases hsome
  | some worker =>
    obtain ⟨hattended, hfresh⟩ := h.idle worker hworker
    have hsettled := hattended.settle henv.steady seconds
    rw [hattended.consume_nil] at hsettled
    refine ⟨hsettled.sound, ?_, fun worker' hworker' => ?_⟩
    · rw [hattended.settle_eq henv.steady, hattended.work_eq henv.steady, hattended.consume_nil]
      exact h.noWriter
    · obtain rfl : worker = worker' := Option.some.inj (hsettled.employed.symm.trans hworker')
      exact ⟨hsettled, hfresh⟩

/-- A worker that makes no flushes of its own leaves the table alone when it is stopped. -/
theorem Attended.stop_tended {worker : Worker} {waiting : List Write}
    (h : Attended worker waiting n) (henv : env.Steady) :
    n.registry.Tended (n.stop env).2.registry := by
  have hmode : (Node.drain env worker n).1.mode ≠ .delayed := by
    rw [(h.drain henv).mode]
    exact h.undelayed
  have hdrained := drain_tended henv worker n
  rw [h.stop_eq henv]
  generalize Node.drain env worker n = drained at hmode hdrained ⊢
  have hflushed : drained.2.registry.Tended (lastFlush env drained.1 drained.2).2.registry := by
    unfold lastFlush
    split
    next hdelayed => exact absurd hdelayed hmode
    next => exact carryAll_tended henv _ drained.1 drained.2
    next => exact .refl _
    next => exact .refl _
  have hstopped := hdrained.trans hflushed
  exact ⟨hstopped.table, hstopped.observers, hstopped.nextSerial⟩

theorem Unasked.stop_tended (h : n.Unasked) (henv : env.Steady) :
    n.registry.Tended (n.stop env).2.registry ∧ (n.stop env).2.worker = none := by
  cases hworker : n.worker with
  | none =>
    have hsame : n.stop env = (.ok (), n) := by rw [Node.stop, hworker]
    rw [hsame]
    exact ⟨.refl _, hworker⟩
  | some worker =>
    obtain ⟨hattended, -⟩ := h.idle worker hworker
    refine ⟨hattended.stop_tended henv, ?_⟩
    rw [hattended.stop_eq henv]

theorem Unasked.stop (h : n.Unasked) (henv : env.Serves) : Unasked (n.stop env).2 := by
  obtain ⟨htended, hnone⟩ := h.stop_tended henv.steady
  refine ⟨htended.sound h.sound, htended.noWriter h.noWriter, fun worker hworker => ?_⟩
  rw [hnone] at hworker
  cases hworker

theorem Unasked.start (h : n.Unasked) (henv : env.Serves) {config : PersistenceConfig}
    (hmode : config.mode = .shutdown) : Unasked (n.start env config).2 := by
  have hstopped := h.stop henv
  have hsound := (start_matures henv.steady config h.sound).sound
  unfold Node.start at hsound ⊢
  split
  · exact h
  next hvalid =>
    have hquiet : config.mode.removesOnDestroy = false := by rw [hmode]; rfl
    simp only [hvalid, hquiet, if_neg Bool.false_ne_true] at hsound ⊢
    refine ⟨hsound, hstopped.noWriter, fun worker hworker => ?_⟩
    cases hworker
    refine ⟨⟨⟨rfl, rfl, ?_, hsound⟩, ?_⟩, hmode, rfl⟩
    · simp
    · rw [hmode]
      exact PersistenceMode.noConfusion

theorem Operates.unasked (h : Operates (· = .shutdown) n n') (hunasked : n.Unasked) :
    n'.Unasked := by
  induction h with
  | act hruns => exact hunasked.act hruns
  | load n henv => exact hunasked.load henv
  | start n henv hmode => exact hunasked.start henv hmode
  | work n henv count => exact hunasked.work henv count
  | settle n henv seconds => exact hunasked.settle henv seconds
  | stop n henv => exact hunasked.stop henv
  | trans _ _ ih ih' => exact ih' (ih hunasked)

/-- A process in shutdown mode stops cleanly, and has then saved its live dialogs. -/
theorem Unasked.stop_saves (h : n.Unasked) (hrunning : n.worker.isSome) (henv : env.Serves) :
    (n.stop env).1 = .ok () ∧ ∀ key, (n.stop env).2.store.get? key
      = ((n.registry.table.live? key).map (·.record)).or (n.store.get? key) := by
  obtain ⟨worker, hworker⟩ := Option.isSome_iff_exists.1 hrunning
  obtain ⟨hattended, hmode, hnew⟩ := h.idle worker hworker
  have hrests : Rests n.store [] [] worker n := ⟨hmode, hnew, rfl, h.noWriter, rfl⟩
  have hinvariant : Invariant .free (@Rests ε n.store) := rests_invariant .free n.store
  have hstopped := hattended.stop_shutdown henv (hinvariant.drain henv hattended hrests)
  rw [(h.stop_tended henv.steady).1.table] at hstopped
  exact hstopped

end Node

/-! ## Restarts -/

namespace Registry

/-- A new registry in shutdown mode has nothing to write. -/
theorem create_unasked {config : Config} {clock : Timestamp} {hasTimer : Bool} {e : ε}
    {r : Registry ε} (h : create config clock hasTimer e = .ok r) (store : Store) (seconds : Nat) :
    Node.Unasked { registry := r, store, clock := seconds } := by
  obtain ⟨-, -, hobservers, -⟩ := create_eq_ok h
  refine ⟨create_sound h, ?_, fun worker hworker => (by cases hworker)⟩
  unfold NoWriter
  rw [hobservers]
  exact List.forall_mem_nil _

end Registry

/-- A dialog that was linked under this key when a process stopped is linked there again in a
node, as its record describes it, and the key is its own: whatever the node does from then on, no
dialog that is inserted gets it. -/
structure Node.Revives (n : Node ε) (key : Key) (d : Dialog) : Prop where
  linked : n.registry.table.find? key = some d.reborn
  refused : ∀ n', n.Operates (fun _ => True) n' → ∀ (env : Environment ε) identity holders,
    (n'.registry.insert env identity holders).1 ≠ .ok key
  apart : ∀ n', n.Operates (fun _ => True) n' → ∀ r, Registry.RunsIn .free n'.registry r →
    ∃ ms, Path ⟨n'.registry, []⟩ ms ⟨r, []⟩ ∧ ∀ e, .inserted e ∈ ms → e.key ≠ key

theorem Registry.Sound.revives_linked {n : Node ε} (h : n.registry.Sound) {key : Key} {d : Dialog}
    (hlinked : n.registry.table.find? key = some d.reborn) : n.Revives key d where
  linked := hlinked
  refused n' hoperates env identity holders hkey := by
    obtain ⟨e, t, hinsert, rfl⟩ := Registry.insert_eq_ok hkey
    have hspent := (hoperates.matures h).spent e.key (h.spent hlinked)
    exact (Table.insert_enters hinsert).2.1 hspent
  apart n' hoperates r hruns := by
    have hmatures := hoperates.matures h
    have hmoments : ∃ ms, Course .free [] n'.registry ms r := hruns.course hmatures.sound
    obtain ⟨ms, hcourse⟩ := hmoments
    refine ⟨ms, hcourse.path, ?_⟩
    rintro e he rfl
    obtain ⟨before, after, rfl⟩ := List.append_of_mem he
    obtain ⟨c, hbefore, hrest⟩ := hcourse.path.split
    cases hrest with
    | cons hstep _ =>
      obtain ⟨-, -, hfresh, -⟩ := hstep.of_linked rfl
      exact hfresh rfl (hbefore.spent (hmatures.spent e.key (h.spent hlinked)))

/-- A process in shutdown mode stops cleanly, whatever its store held when it began and whatever
was done to it. A new registry with as many buckets that loads the store then has every dialog
again that was live and has a Call-ID, and none that is inserted there gets its key. -/
theorem Node.Operates.revives {ε ε' : Type} {config config' : Config} {clock clock' : Timestamp}
    {hasTimer hasTimer' : Bool} {e : ε} {e' : ε'} {r : Registry ε} {r' r'' : Registry ε'}
    {store : Store} {seconds : Nat} {n : Node ε} {env : Environment ε} {env' : Environment ε'}
    (hcreate : Registry.create config clock hasTimer e = .ok r)
    (hoperates : Node.Operates (· = .shutdown) { registry := r, store, clock := seconds } n)
    (hrunning : n.worker.isSome) (henv : env.Serves)
    (hcreate' : Registry.create config' clock' hasTimer' e' = .ok r')
    (hsize : config'.hashSize = config.hashSize) (hwaits : r'.Waits r'') (henv' : env'.Serves) :
    (n.stop env).1 = .ok () ∧ ∃ count loaded,
      Node.load { registry := r'', store := (n.stop env).2.store } env' = (.ok count, loaded) ∧
        ∀ key d, n.registry.table.live? key = some d → d.callId ≠ "" → loaded.Revives key d := by
  have hbegun := Registry.create_unasked hcreate store seconds
  obtain ⟨hclean, hsaved⟩ := (hoperates.unasked hbegun).stop_saves hrunning henv
  have hmatures := hoperates.matures hbegun.sound
  obtain ⟨htable, -⟩ := Registry.create_eq_ok hcreate
  obtain ⟨htable', -⟩ := Registry.create_eq_ok hcreate'
  have hwaited := hwaits.waited
  have hsound' := hwaited.sound (Registry.create_sound hcreate')
  -- the bucket of a dialog that was linked exists in the new table
  have hbucket : ∀ key d, n.registry.table.find? key = some d →
      (r''.table.bucket? key.bucket).isSome := by
    intro key d hd
    rw [hwaited.table]
    refine Table.isSome_bucket?_create htable' ?_
    have hbelow := Table.lt_size_of_bucket? (Table.bucket?_isSome_of_find? hd)
    rwa [hmatures.size, (Table.size_create htable).1, ← hsize, ← (Table.size_create htable').1]
      at hbelow
  obtain ⟨r₁, hidle, hload⟩ := Node.load_eq henv' { registry := r'', store := (n.stop env).2.store }
  have hsound := (Node.load_matures henv' (n := { registry := r'', store := (n.stop env).2.store })
    hsound').sound
  rw [hload] at hsound
  refine ⟨hclean, _, _, hload, fun key d hlive hid => hsound.revives_linked ?_⟩
  obtain ⟨hd, hphase⟩ := Table.live?_eq_some.1 hlive
  obtain rfl : d.key = key := hmatures.sound.wf.key_of_find? hd
  have hrecord := hsaved d.key
  rw [hlive, Option.map_some, Option.some_or] at hrecord
  have hfirst : (n.stop env).2.store.records.find? (·.key == d.record.key) = some d.record :=
    hrecord
  refine Node.restoreAll_find? hfirst (Dialog.dialog?_record hphase hid) ?_ ?_
  · rw [hidle.table]
    exact hbucket d.key d hd
  · rw [hidle.table, hwaited.table]
    exact Table.find?_create htable' d.key

namespace Node

/-- The call of the process below. -/
def answered : Identity :=
  { callId := "abc", fromUri := "sip:a", toUri := "sip:b", fromTag := "t1" }

/-- A store that holds something unreadable under the key of this call. -/
def garbled : Store where
  records := [{ (Dialog.create ⟨0, 0⟩ answered 0 .epoch 43200).record with phaseCode := 9 }]

/-- A process in shutdown mode that never loads this store. In the end, its call is answered. -/
def answering : Node Unit :=
  let started := (Node.start { registry := .blank, store := garbled } .quiet
    { mode := .shutdown }).2
  let ops := [Operation.insert answered 0, .processEvent ⟨0, 0⟩ .successResponse]
  { started with registry := started.registry.performAll .quiet ops }

/-- The call is there again, and answered. -/
theorem Operates.revives_answering :
    (answering.stop .quiet).1 = .ok () ∧ ∃ d, ∃ loaded : Node Unit, loaded.Revives ⟨0, 0⟩ d ∧
      d.callId = "abc" ∧ d.phase = .confirmedNa := by
  have hoperates : Operates (· = .shutdown)
      { registry := Registry.blank, store := garbled, clock := 0 } answering := by
    have hmode : PersistenceConfig.mode { mode := .shutdown } = .shutdown := rfl
    have hstarted := Operates.start (P := (· = .shutdown))
      { registry := Registry.blank, store := garbled } Environment.quiet_serves hmode
    refine hstarted.trans ?_
    refine .act (Registry.runsIn_performAll (Environment.quiet_honest _) _ fun op _ => ?_)
    cases op <;> rfl
  obtain ⟨hclean, count, loaded, -, hrevives⟩ := hoperates.revives Registry.create_blank rfl
    Environment.quiet_serves Registry.create_blank rfl (.refl _) Environment.quiet_serves
  have hshown : (answering.registry.table.live? ⟨0, 0⟩).map (fun d => (d.callId, d.phase))
      = some ("abc", .confirmedNa) := by decide +kernel
  obtain ⟨d, hlive, hd⟩ := Option.map_eq_some_iff.1 hshown
  obtain ⟨hid, hphase⟩ := Prod.mk.inj hd
  refine ⟨hclean, d, loaded, hrevives ⟨0, 0⟩ d hlive ?_, hid, hphase⟩
  rw [hid]
  decide

end Node

end SipDialogs
