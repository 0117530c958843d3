-- SUMMARY: Runs of a node whose worker flushes, the saves that it tries, and what stays true.
import SipDialogs.Proofs.Marks

/-! # Nodes that flush

In delayed mode the worker saves the marked dialogs from time to time, and carries what is left in
its mailbox in between. When it does what is not settled: a flush may come before the mail that was
left earlier. The store may fail to do what it is asked for, so a save is tried first and made only
if the store says so. -/

namespace SipDialogs

/-- A save that the store was asked for, and whether it was made. -/
structure Attempt where
  record : Record
  made : Bool
  deriving DecidableEq

/-- The worker as it flushes: the next flush is due one period later. -/
def Worker.flushing (worker : Worker) (clock : Nat) : Worker :=
  { worker with due := clock + worker.period }

namespace Node

variable {env : Environment ε}

/-! ## Saves -/

/-- The save that is tried when a write is carried, if it is one and is let through. -/
def attempt? (env : Environment ε) (w : Write) (worker : Worker) (n : Node ε) : Option Attempt :=
  match w with
  | .save record _ =>
    if (worker.applied.accept (n.registry.table.isLinked w.key) w).1 then
      some ⟨record, (n.callStore env w.call).1 = .done⟩
    else none
  | .remove _ _ _ => none

/-- The saves that are tried when writes are carried in order. -/
def attempts (env : Environment ε) : List Write → Worker → Node ε → List Attempt
  | [], _, _ => []
  | w :: ws, worker, n =>
    let (worker', n') := carry env w worker n
    (attempt? env w worker n).toList
      ++ if worker'.alive then attempts env ws worker' n' else []

/-- Only saves are tried, and whether they are made is up to the store. -/
theorem of_attempt? {a : Attempt} {w : Write} {worker : Worker} {n : Node ε}
    (h : attempt? env w worker n = some a) :
    (∃ version, w = .save a.record version) ∧
      a.made = decide ((n.callStore env w.call).1 = .done) := by
  cases w with
  | save record version =>
    unfold attempt? at h
    dsimp only at h
    split at h
    · cases h
      exact ⟨⟨version, rfl⟩, rfl⟩
    · cases h
  | remove => cases h

theorem mem_attempts {a : Attempt} {ws : List Write} {worker : Worker} {n : Node ε}
    (h : a ∈ attempts env ws worker n) :
    ∃ w ∈ ws, ∃ worker' n', attempt? env w worker' n' = some a := by
  induction ws generalizing worker n with
  | nil => cases h
  | cons w ws ih =>
    rw [attempts] at h
    dsimp only at h
    rcases List.mem_append.1 h with hfirst | hrest
    · exact ⟨w, List.mem_cons_self, worker, n, Option.mem_toList.1 hfirst⟩
    · split at hrest
      · obtain ⟨q, hq, hattempt⟩ := ih hrest
        exact ⟨q, List.mem_cons_of_mem _ hq, hattempt⟩
      · cases hrest

/-- A store that does what it is asked for makes every save. -/
theorem made_of_mem_attempts (henv : env.Stores) {a : Attempt} {ws : List Write} {worker : Worker}
    {n : Node ε} (h : a ∈ attempts env ws worker n) : a.made = true := by
  obtain ⟨w, -, worker', n', hattempt⟩ := mem_attempts h
  rw [(of_attempt? hattempt).2]
  exact decide_eq_true (henv ..)

/-- What holds of the writes that are left, and of the saves that have been tried, holds at the end
if each write that is carried keeps it so. -/
theorem attempts_induction (henv : env.Steady)
    {P : List Attempt → List Write → Worker → Node ε → Prop}
    (hcarry : ∀ log w ws worker n, P log (w :: ws) worker n →
      P (log ++ (attempt? env w worker n).toList) ws (carry env w worker n).1
        (carry env w worker n).2)
    {log : List Attempt} {ws : List Write} {worker : Worker} {n : Node ε}
    (halive : worker.alive = true) (h : P log ws worker n) :
    P (log ++ attempts env ws worker n) [] (carryAll env ws worker n).1
      (carryAll env ws worker n).2 := by
  induction ws generalizing log worker n with
  | nil =>
    rw [attempts, List.append_nil]
    exact h
  | cons w ws ih =>
    have halive' : (carry env w worker n).1.alive = true :=
      (carry_carried henv w worker n).alive halive
    rw [attempts, carryAll]
    dsimp only
    rw [if_pos halive', if_pos halive', ← List.append_assoc]
    exact ih halive' (hcarry log w ws worker n h)

/-! ## Flushes -/

/-- The writes that a flush carries. -/
def flushWrites (n : Node ε) : List Write := n.registry.takeDirty.1.map Write.ofSnapshot

/-- The node once the marks have been taken off its live dialogs. -/
def unmarked (n : Node ε) : Node ε := { n with registry := n.registry.takeDirty.2 }

/-- Lets the worker flush, whatever waits for it. The next flush is due one period later. -/
def sweep (n : Node ε) (env : Environment ε) : Node ε :=
  match n.worker with
  | none => n
  | some worker =>
    let (worker, n) := whileAlive (flush env) (worker.flushing n.clock) n
    keepWorker worker n

/-- Time goes by. -/
def wait (n : Node ε) (seconds : Nat) : Node ε := { n with clock := n.clock + seconds }

variable {worker : Worker} {waiting : List Write} {n : Node ε}

theorem flush_eq (env : Environment ε) (worker : Worker) (n : Node ε) :
    flush env worker n = carryAll env n.flushWrites worker n.unmarked := rfl

theorem unmarked_sound (hsound : n.registry.Sound) : n.unmarked.registry.Sound := by
  have hproceeds : n.registry.Proceeds .free [] n.registry.takeDirty.2 :=
    Registry.takeDirty_proceeds hsound rfl
  exact hproceeds.sound hsound

/-- A worker and its node after a flush. -/
theorem flush_carried (henv : env.Steady) (halive : worker.alive = true) (n : Node ε) :
    Carried worker n.unmarked (flush env worker n).1 (flush env worker n).2 :=
  carryAll_carried henv _ halive

theorem Employs.sweep_eq (h : Employs worker waiting n) (henv : env.Steady) :
    n.sweep env = { (flush env (worker.flushing n.clock) n).2 with
      worker := some (flush env (worker.flushing n.clock) n).1 } := by
  have hbefore : (worker.flushing n.clock).alive = true := h.alive
  have hafter := (flush_carried henv hbefore n).alive hbefore
  unfold sweep
  rw [h.employed]
  simp only [whileAlive, hbefore, if_true, keepWorker, hafter]

theorem Employs.mode_sweep (h : Employs worker waiting n) (henv : env.Steady) :
    (flush env (worker.flushing n.clock) n).1.mode = worker.mode := by
  have hbefore : (worker.flushing n.clock).alive = true := h.alive
  exact (flush_carried henv hbefore n).mode

theorem Employs.sweep (h : Employs worker waiting n) (henv : env.Steady) :
    Employs (flush env (worker.flushing n.clock) n).1 waiting (n.sweep env) := by
  have hbefore : (worker.flushing n.clock).alive = true := h.alive
  have hcarried := flush_carried henv hbefore n
  have hidle := hcarried.idle
  rw [h.sweep_eq henv]
  refine ⟨rfl, hcarried.alive hbefore, ?_, ?_⟩
  · rw [hcarried.mailbox]
    dsimp only
    rw [hidle.mailboxes]
    exact h.mailbox
  · exact (unmarked_sound h.sound).congr hidle.table hidle.observers hidle.nextSerial

theorem Employs.table_sweep (h : Employs worker waiting n) (henv : env.Steady) :
    (n.sweep env).registry.table = n.registry.table.takeDirty.2 := by
  have hbefore : (worker.flushing n.clock).alive = true := h.alive
  rw [h.sweep_eq henv]
  exact (flush_carried henv hbefore n).idle.table

/-- A node has one worker, with one mailbox. -/
theorem Employs.unique {worker' : Worker} {waiting' : List Write} (h : Employs worker waiting n)
    (h' : Employs worker' waiting' n) : worker' = worker ∧ waiting' = waiting := by
  obtain rfl : worker = worker' := Option.some.inj (h.employed.symm.trans h'.employed)
  have hbox := h'.mailbox
  rw [h.mailbox] at hbox
  cases hbox
  exact ⟨rfl, rfl⟩

theorem Employs.wait (h : Employs worker waiting n) (seconds : Nat) :
    Employs worker waiting (n.wait seconds) :=
  ⟨h.employed, h.alive, h.mailbox, h.sound⟩

/-! What is carried is a matter of what the worker remembers, of the registry and of the store. What
the node has beside them stays as it is, and so does the time of the next flush. -/

theorem carry_beside (env : Environment ε) (w : Write) (worker : Worker) (n : Node ε)
    (due clock : Nat) (employed : Option Worker) :
    carry env w { worker with due } { n with worker := employed, clock }
      = ({ (carry env w worker n).1 with due },
          { (carry env w worker n).2 with worker := employed, clock }) := by
  unfold carry callStore
  dsimp only
  split
  · cases (env.store w.call (n.registry.record w.call)).1 <;> rfl
  · rfl

theorem carryAll_beside (env : Environment ε) (ws : List Write) (worker : Worker) (n : Node ε)
    (due clock : Nat) (employed : Option Worker) :
    carryAll env ws { worker with due } { n with worker := employed, clock }
      = ({ (carryAll env ws worker n).1 with due },
          { (carryAll env ws worker n).2 with worker := employed, clock }) := by
  induction ws generalizing worker n with
  | nil => rfl
  | cons w ws ih =>
    rw [carryAll, carryAll, carry_beside]
    dsimp only
    split
    · exact ih ..
    · rfl

theorem flush_beside (env : Environment ε) (worker : Worker) (n : Node ε) (due clock : Nat)
    (employed : Option Worker) :
    flush env { worker with due } { n with worker := employed, clock }
      = ({ (flush env worker n).1 with due },
          { (flush env worker n).2 with worker := employed, clock }) :=
  carryAll_beside env n.flushWrites worker n.unmarked due clock employed

/-- Time goes by only when the node is told so. -/
theorem Employs.clock_consume (h : Employs worker waiting n) (env : Environment ε) (count : Nat) :
    (Node.consume env count worker n).2.clock = n.clock := by
  rw [h.consume_eq]
  exact congrArg (·.2.clock) (carryAll_beside env (waiting.take count) worker
    (n.withWaiting worker.mailbox (waiting.drop count)) worker.due n.clock n.worker)

/-- The worker that the node keeps is the one that flushes. -/
theorem sweep_employing (env : Environment ε) (halive : worker.alive = true) (n : Node ε) :
    ({ n with worker := some worker } : Node ε).sweep env
      = keepWorker (flush env (worker.flushing n.clock) n).1
          (flush env (worker.flushing n.clock) n).2 := by
  have hbeside := flush_beside env worker n (n.clock + worker.period) n.clock
  have hemployed : flush env (worker.flushing n.clock) { n with worker := some worker } = _ :=
    hbeside (some worker)
  have hflushed : flush env (worker.flushing n.clock) n = _ := hbeside n.worker
  unfold sweep whileAlive
  dsimp only
  rw [if_pos (show (worker.flushing n.clock).alive = true from halive), hemployed, hflushed]
  unfold keepWorker
  split <;> rfl

/-- Settling is to carry the mail, to wait, and to flush if a flush is due. -/
theorem Employs.settle_delayed (h : Employs worker waiting n) (henv : env.Steady)
    (hdelayed : worker.mode = .delayed) (seconds : Nat) :
    n.settle env seconds
      = if worker.due ≤ n.clock + seconds then
          ((n.work env waiting.length).wait seconds).sweep env
        else (n.work env waiting.length).wait seconds := by
  have hcarried := h.consume henv waiting.length
  have halive := hcarried.alive h.alive
  have hmode := hcarried.mode.trans hdelayed
  have hclock := h.clock_consume env waiting.length
  have hdue : (Node.consume env waiting.length worker n).1.due = worker.due := by
    rw [hcarried.worker]
  rw [h.work_eq henv]
  unfold settle
  rw [h.employed, ← hdue, ← hclock]
  simp only [whileAlive, h.alive, if_true, h.drain_eq]
  generalize Node.consume env waiting.length worker n = consumed at halive hmode ⊢
  obtain ⟨worker', n'⟩ := consumed
  dsimp only at halive hmode ⊢
  rw [if_pos halive]
  unfold flushDue
  dsimp only
  by_cases hflush : worker'.due ≤ n'.clock + seconds
  · rw [if_pos hflush, if_pos ⟨hmode, hflush⟩]
    exact (sweep_employing env halive (n'.wait seconds)).symm
  · rw [if_neg hflush, if_neg fun h => hflush h.2, keepWorker, if_pos halive]
    rfl

/-- To stop is to carry the mail, to flush, and to close the mailbox. -/
theorem Employs.stop_delayed (h : Employs worker waiting n) (henv : env.Steady)
    (hdelayed : worker.mode = .delayed) :
    (n.stop env).1 = .ok () ∧
      (n.stop env).2.store = ((n.work env waiting.length).sweep env).store ∧
      (n.stop env).2.registry.table = ((n.work env waiting.length).sweep env).registry.table := by
  have hcarried := h.consume henv waiting.length
  have halive := hcarried.alive h.alive
  have hmode := hcarried.mode.trans hdelayed
  rw [(h.work henv waiting.length).sweep_eq henv, h.work_eq henv, h.stop_eq henv, h.drain_eq]
  generalize Node.consume env waiting.length worker n = consumed at halive hmode ⊢
  obtain ⟨worker', n'⟩ := consumed
  dsimp only at halive hmode ⊢
  have hflushed := (flush_carried henv halive n').alive halive
  have hbeside : flush env (worker'.flushing n'.clock) { n' with worker := some worker' } = _ :=
    flush_beside env worker' n' _ n'.clock _
  rw [hbeside]
  unfold lastFlush
  rw [hmode]
  dsimp only
  rw [if_pos hflushed]
  generalize flush env worker' n' = flushed
  exact ⟨rfl, rfl, rfl⟩

/-! ## Runs

A run in delayed mode, once as what may be done to a node, and once with what happens meanwhile to
its dialogs and with the saves that are tried. -/

/-- What may become of a node by operations within a conduct, while its worker carries whatever it
likes of its mail, flushes whenever it likes, and is allowed to settle from time to time. The stores
are of the given kind. -/
inductive Tends (E : Environment ε → Prop) (C : Conduct) : Node ε → Node ε → Prop where
  | act {n : Node ε} {r : Registry ε} (h : Registry.RunsIn C n.registry r) :
      Tends E C n { n with registry := r }
  | work (n : Node ε) {env : Environment ε} (henv : E env) (count : Nat) :
      Tends E C n (n.work env count)
  | sweep (n : Node ε) {env : Environment ε} (henv : E env) : Tends E C n (n.sweep env)
  | settle (n : Node ε) {env : Environment ε} (henv : E env) (seconds : Nat) :
      Tends E C n (n.settle env seconds)
  | trans {n n' n'' : Node ε} : Tends E C n n' → Tends E C n' n'' → Tends E C n n''

/-- What happens to the dialogs of a node meanwhile, and the saves that are tried, in order. -/
inductive Tended (E : Environment ε → Prop) (C : Conduct) :
    Node ε → List Moment → List Attempt → Node ε → Prop where
  | act {n : Node ε} {r : Registry ε} {ms : List Moment} (h : Course C [] n.registry ms r) :
      Tended E C n ms [] { n with registry := r }
  | work {n : Node ε} {worker : Worker} {waiting : List Write} {env : Environment ε}
      (h : Employs worker waiting n) (henv : E env) (count : Nat) :
      Tended E C n []
        (attempts env (waiting.take count) worker
          (n.withWaiting worker.mailbox (waiting.drop count)))
        (n.work env count)
  | sweep {n : Node ε} {worker : Worker} {waiting : List Write} {env : Environment ε}
      (h : Employs worker waiting n) (henv : E env) :
      Tended E C n [] (attempts env n.flushWrites (worker.flushing n.clock) n.unmarked)
        (n.sweep env)
  | wait (n : Node ε) (seconds : Nat) : Tended E C n [] [] (n.wait seconds)
  | trans {n n' n'' : Node ε} {ms ms' : List Moment} {log log' : List Attempt} :
      Tended E C n ms log n' → Tended E C n' ms' log' n'' →
      Tended E C n (ms ++ ms') (log ++ log') n''

variable {E : Environment ε → Prop} {C : Conduct} {n' : Node ε}

/-- What the worker does is no news. -/
theorem Tended.trans_nil {n'' : Node ε} {ms : List Moment} {log log' : List Attempt}
    (h : Tended E C n ms log n') (h' : Tended E C n' [] log' n'') :
    Tended E C n ms (log ++ log') n'' := by
  have hall := h.trans h'
  rw [List.append_nil] at hall
  exact hall

/-- However a node is tended, something happens to its dialogs, and its worker stays employed. -/
theorem Tends.tended (hE : ∀ env, E env → env.Steady) (h : Tends E C n n')
    (hemployed : Employs worker waiting n) (hdelayed : worker.mode = .delayed) :
    ∃ ms log, Tended E C n ms log n' := by
  suffices htended : ∃ ms log worker' waiting', Tended E C n ms log n' ∧
      Employs worker' waiting' n' ∧ worker'.mode = .delayed by
    obtain ⟨ms, log, -, -, htended, -⟩ := htended
    exact ⟨ms, log, htended⟩
  induction h generalizing worker waiting with
  | @act n r hruns =>
    have hcourse : ∃ ms, Course C [] n.registry ms r := hruns.course hemployed.sound
    obtain ⟨ms, hms⟩ := hcourse
    obtain ⟨waiting', hemployed'⟩ := hemployed.act hms
    exact ⟨ms, [], worker, waiting', .act hms, hemployed', hdelayed⟩
  | @work n env henv count =>
    have hsteady := hE env henv
    exact ⟨[], _, _, _, .work hemployed henv count, hemployed.work hsteady count,
      (hemployed.consume hsteady count).mode.trans hdelayed⟩
  | @sweep n env henv =>
    have hsteady := hE env henv
    exact ⟨[], _, _, _, .sweep hemployed henv, hemployed.sweep hsteady,
      (hemployed.mode_sweep hsteady).trans hdelayed⟩
  | @settle n env henv seconds =>
    have hsteady := hE env henv
    have hworked := hemployed.work hsteady waiting.length
    have hwaited := hworked.wait seconds
    have hmode := (hemployed.consume hsteady waiting.length).mode.trans hdelayed
    have hbefore : Tended E C n [] _ ((n.work env waiting.length).wait seconds) :=
      .trans (.work hemployed henv waiting.length) (.wait _ seconds)
    rw [hemployed.settle_delayed hsteady hdelayed]
    split
    · exact ⟨[], _, _, _, hbefore.trans (.sweep hwaited henv), hwaited.sweep hsteady,
        (hwaited.mode_sweep hsteady).trans hmode⟩
    · exact ⟨[], _, _, _, hbefore, hwaited, hmode⟩
  | trans _ _ ih ih' =>
    obtain ⟨ms, log, worker', waiting', hfirst, hemployed', hdelayed'⟩ := ih hemployed hdelayed
    obtain ⟨ms', log', worker'', waiting'', hrest, hlast⟩ := ih' hemployed' hdelayed'
    exact ⟨ms ++ ms', log ++ log', worker'', waiting'', hfirst.trans hrest, hlast⟩

/-- Unless the conduct has room for it, nothing is restored. -/
theorem Tended.not_restored (hrestores : C.restores = false) {ms : List Moment}
    {log : List Attempt} (h : Tended E C n ms log n') (d : Dialog) : .restored d ∉ ms := by
  induction h with
  | act hms =>
    intro hd
    rw [(hms.fits _ hd).restores] at hrestores
    cases hrestores
  | work | sweep | wait => exact List.not_mem_nil
  | trans _ _ ih ih' => exact fun hd => (List.mem_append.1 hd).elim ih ih'

/-- Unless the conduct has room for it, nobody but the worker is handed what is to be stored. -/
theorem Tended.hands {ms : List Moment} {log : List Attempt} (h : Tended E C n ms log n')
    {d : Dialog} (hd : .handed d ∈ ms) : C.allows .takeDirty = true := by
  induction h with
  | act hms => exact (hms.fits _ hd).hands
  | work | sweep | wait => cases hd
  | trans _ _ ih ih' => exact (List.mem_append.1 hd).elim ih ih'

/-- Stores that do what they are asked for make every save. -/
theorem Tended.made (hE : ∀ env, E env → env.Stores) {ms : List Moment} {log : List Attempt}
    (h : Tended E C n ms log n') : ∀ a ∈ log, a.made = true := by
  induction h with
  | act | wait => exact List.forall_mem_nil _
  | work _ henv | sweep _ henv => exact fun a ha => made_of_mem_attempts (hE _ henv) ha
  | trans _ _ ih ih' => exact List.forall_mem_append.2 ⟨ih, ih'⟩

/-! ## Invariants of nodes that flush -/

/-- The worker and the node differ in nothing that an invariant speaks of. -/
structure Alike (worker : Worker) (n : Node ε) (worker' : Worker) (n' : Node ε) : Prop where
  applied : worker'.applied = worker.applied
  mode : worker'.mode = worker.mode
  mailbox : worker'.mailbox = worker.mailbox
  store : n'.store = n.store
  table : n'.registry.table = n.registry.table
  observers : n'.registry.observers = n.registry.observers
  nextSerial : n'.registry.nextSerial = n.registry.nextSerial

/-- What stays true of a node and its worker, of the saves that have been tried, of the mail that
waits and of the writes that the flush in progress has yet to carry. Operations do not come in
between the writes of a flush. -/
structure Upkeep (E : Environment ε → Prop) (C : Conduct)
    (I : List Moment → List Attempt → List Write → List Write → Worker → Node ε → Prop) :
    Prop where
  act : ∀ {ms log waiting worker n ms' r waiting'}, I ms log waiting [] worker n →
    Employs worker waiting n → Course C [] n.registry ms' r →
    r.mailboxes[worker.mailbox]? = some ⟨waiting', true⟩ →
    I (ms ++ ms') log waiting' [] worker { n with registry := r }
  mail : ∀ {env : Environment ε} {ms log w waiting worker n}, E env →
    I ms log (w :: waiting) [] worker n →
    I ms (log ++ (attempt? env w worker n).toList) waiting [] (carry env w worker n).1
      (carry env w worker n).2
  take : ∀ {ms log waiting worker n}, I ms log waiting [] worker n → n.registry.Sound →
    I ms log waiting n.flushWrites worker n.unmarked
  save : ∀ {env : Environment ε} {ms log waiting w pending worker n}, E env →
    I ms log waiting (w :: pending) worker n →
    I ms (log ++ (attempt? env w worker n).toList) waiting pending (carry env w worker n).1
      (carry env w worker n).2
  aside : ∀ {ms log waiting pending worker n worker' n'}, I ms log waiting pending worker n →
    Alike worker n worker' n' → I ms log waiting pending worker' n'

namespace Upkeep

variable {I : List Moment → List Attempt → List Write → List Write → Worker → Node ε → Prop}
  {ms ms' : List Moment} {log log' : List Attempt}

theorem work (h : Upkeep E C I) (hE : ∀ env, E env → env.Steady) (henv : E env)
    (hemployed : Employs worker waiting n) (hI : I ms log waiting [] worker n) (count : Nat) :
    I ms
      (log ++ attempts env (waiting.take count) worker
        (n.withWaiting worker.mailbox (waiting.drop count)))
      (waiting.drop count) [] (Node.consume env count worker n).1 (n.work env count) := by
  have hsteady := hE env henv
  have hbefore : I ms log (waiting.take count ++ waiting.drop count) [] worker
      (n.withWaiting worker.mailbox (waiting.drop count)) := by
    rw [List.take_append_drop]
    exact h.aside hI ⟨rfl, rfl, rfl, rfl, rfl, rfl, rfl⟩
  have hconsumed := attempts_induction hsteady
    (P := fun log ws worker n => I ms log (ws ++ waiting.drop count) [] worker n)
    (fun log w ws worker n hw => h.mail henv hw) hemployed.alive hbefore
  rw [hemployed.work_eq hsteady, hemployed.consume_eq]
  exact h.aside hconsumed ⟨rfl, rfl, rfl, rfl, rfl, rfl, rfl⟩

theorem sweep (h : Upkeep E C I) (hE : ∀ env, E env → env.Steady) (henv : E env)
    (hemployed : Employs worker waiting n) (hI : I ms log waiting [] worker n) :
    I ms (log ++ attempts env n.flushWrites (worker.flushing n.clock) n.unmarked) waiting []
      (flush env (worker.flushing n.clock) n).1 (n.sweep env) := by
  have hsteady := hE env henv
  have halive : (worker.flushing n.clock).alive = true := hemployed.alive
  have hbefore : I ms log waiting [] (worker.flushing n.clock) n :=
    h.aside hI ⟨rfl, rfl, rfl, rfl, rfl, rfl, rfl⟩
  have hflushed := attempts_induction hsteady
    (P := fun log pending worker n => I ms log waiting pending worker n)
    (fun log w ws worker n hw => h.save henv hw) halive (h.take hbefore hemployed.sound)
  rw [hemployed.sweep_eq hsteady, flush_eq]
  exact h.aside hflushed ⟨rfl, rfl, rfl, rfl, rfl, rfl, rfl⟩

theorem tended (h : Upkeep E C I) (hE : ∀ env, E env → env.Steady)
    (htended : Tended E C n ms' log' n') (hemployed : Employs worker waiting n)
    (hI : I ms log waiting [] worker n) :
    ∃ worker' waiting', Employs worker' waiting' n' ∧
      I (ms ++ ms') (log ++ log') waiting' [] worker' n' := by
  induction htended generalizing worker waiting ms log with
  | act hms =>
    obtain ⟨waiting', hbox⟩ := hms.path.mailbox_open hemployed.mailbox
    rw [List.append_nil]
    exact ⟨worker, waiting', ⟨hemployed.employed, hemployed.alive, hbox,
      hms.sound hemployed.sound⟩, h.act hI hemployed hms hbox⟩
  | @work n worker₀ waiting₀ env hemployed₀ henv count =>
    obtain ⟨rfl, rfl⟩ := hemployed.unique hemployed₀
    rw [List.append_nil]
    exact ⟨_, _, hemployed.work (hE env henv) count, h.work hE henv hemployed hI count⟩
  | @sweep n worker₀ waiting₀ env hemployed₀ henv =>
    obtain ⟨rfl, -⟩ := hemployed.unique hemployed₀
    rw [List.append_nil]
    exact ⟨_, _, hemployed.sweep (hE env henv), h.sweep hE henv hemployed hI⟩
  | wait n seconds =>
    rw [List.append_nil, List.append_nil]
    exact ⟨worker, waiting, hemployed.wait seconds,
      h.aside hI ⟨rfl, rfl, rfl, rfl, rfl, rfl, rfl⟩⟩
  | trans _ _ ih ih' =>
    obtain ⟨worker', waiting', hemployed', hI'⟩ := ih hemployed hI
    rw [← List.append_assoc, ← List.append_assoc]
    exact ih' hemployed' hI'

end Upkeep

end Node

end SipDialogs
