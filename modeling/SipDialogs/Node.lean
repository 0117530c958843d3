-- SUMMARY: A registry together with its store and the worker between them.
import SipDialogs.Registry.Changes
import SipDialogs.Registry.Views
import SipDialogs.Store

/-! # Nodes

A node is one process: a registry, the store it writes to, and the worker that carries writes from
a mailbox to the store. The registry never waits for the store. The worker acts only when the node
is settled or stopped, and its clock moves only when the node is told so. A store that panics
takes the worker down. -/

namespace SipDialogs

/-- The longest time a worker waits for a flush: `2 ^ 36` milliseconds, in whole seconds. -/
def longestWait : Nat := 68719477

/-- The seconds between two flushes: what is configured, but at least one second and no more than a
worker waits. -/
def PersistenceConfig.flushPeriod (c : PersistenceConfig) : Nat :=
  min (max 1 c.updatePeriod.toNat) longestWait

structure Worker where
  mailbox : Nat
  mode : PersistenceMode
  /-- Seconds between two flushes, at most `longestWait`. -/
  period : Nat
  /-- When the next flush is due. -/
  due : Nat
  applied : Versions := {}
  alive : Bool := true

structure Node (ε : Type) where
  registry : Registry ε
  store : Store := {}
  worker : Option Worker := none
  /-- The worker's clock in seconds. -/
  clock : Nat := 0

namespace Node

/-- Asks the store for what a call says. -/
def callStore (n : Node ε) (env : Environment ε) (c : Call) : Outcome × Node ε :=
  let (outcome, registry) := env.store c (n.registry.record c)
  (outcome, { n with registry })

/-! ## Loading -/

/-- Links what a record describes, if it describes a live dialog, and says whether it did. -/
def restoreRecord (r : Registry ε) (record : Record) : Bool × Registry ε :=
  if record.isDeleted then (false, r)
  else match record.toSnapshot with
    | .error _ => (false, r)
    | .ok s =>
      match r.restore s with
      | (.ok _, r) => (true, r)
      | (.error _, r) => (false, r)

/-- Links what the records describe, in order, and counts the dialogs. -/
def restoreAll : List Record → Registry ε → Nat × Registry ε
  | [], r => (0, r)
  | record :: records, r =>
    let (restored, r) := restoreRecord r record
    let (count, r) := restoreAll records r
    (if restored then count + 1 else count, r)

/-- Links every dialog of the store. Deleted, malformed and unusable records are passed over. -/
def load (n : Node ε) (env : Environment ε) : Except Fault Nat × Node ε :=
  match n.callStore env .loaded with
  | (.done, n) =>
    let (count, registry) := restoreAll n.store.records n.registry
    (.ok count, { n with registry })
  | (.failed reason, n) => (.error (.persistence ("unable to load dialogs: " ++ reason)), n)
  | (.panicked, n) => (.error (.persistence "unable to load dialogs: store panicked"), n)

/-! ## Writing -/

/-- Carries one write to the store, if it is let through. -/
def carry (env : Environment ε) (w : Write) (worker : Worker) (n : Node ε) : Worker × Node ε :=
  let (accepted, applied) := worker.applied.accept (n.registry.table.isLinked w.key) w
  let worker := { worker with applied }
  if accepted then
    match n.callStore env w.call with
    | (.done, n) => (worker, { n with store := n.store.write w })
    | (.failed _, n) => (worker, n)
    | (.panicked, n) => ({ worker with alive := false }, n)
  else (worker, n)

/-- Carries writes in order, as long as the worker is alive. -/
def carryAll (env : Environment ε) : List Write → Worker → Node ε → Worker × Node ε
  | [], worker, n => (worker, n)
  | w :: ws, worker, n =>
    let (worker, n) := carry env w worker n
    if worker.alive then carryAll env ws worker n else (worker, n)

/-- Carries everything that waits in the mailbox. -/
def drain (env : Environment ε) (worker : Worker) (n : Node ε) : Worker × Node ε :=
  match n.registry.mailboxes[worker.mailbox]? with
  | some box =>
    let mailboxes := n.registry.mailboxes.modify worker.mailbox ({ · with waiting := [] })
    carryAll env box.waiting worker { n with registry := { n.registry with mailboxes } }
  | none => (worker, n)

/-- Saves every dialog whose stored copy is missing or stale. -/
def flush (env : Environment ε) (worker : Worker) (n : Node ε) : Worker × Node ε :=
  let (dirty, registry) := n.registry.takeDirty
  carryAll env (dirty.map Write.ofSnapshot) worker { n with registry }

/-- Saves every live dialog. -/
def saveAll (env : Environment ε) (worker : Worker) (n : Node ε) : Worker × Node ε :=
  let live := (n.registry.table.dialogs.map (·.snapshot)).filter fun s => !s.phase.isDeleted
  carryAll env (live.map Write.ofSnapshot) worker n

/-- Does `act` if the worker is alive. -/
def whileAlive (act : Worker → Node ε → Worker × Node ε) (worker : Worker) (n : Node ε) :
    Worker × Node ε :=
  if worker.alive then act worker n else (worker, n)

/-- Closes a mailbox. What waits in it is lost, and so is all that comes later. -/
def closeMailbox (n : Node ε) (mailbox : Nat) : Node ε :=
  let mailboxes := n.registry.mailboxes.modify mailbox fun _ => ⟨[], false⟩
  { n with registry := { n.registry with mailboxes } }

/-- Puts a worker back after it has acted. The mailbox of a dead one is closed. -/
def keepWorker (worker : Worker) (n : Node ε) : Node ε :=
  let n := if worker.alive then n else n.closeMailbox worker.mailbox
  { n with worker := some worker }

/-- Flushes if the mode is delayed and a flush is due. However many were missed, one is made; the
next is due one period after it. -/
def flushDue (env : Environment ε) (worker : Worker) (n : Node ε) : Worker × Node ε :=
  if worker.mode = .delayed ∧ worker.due ≤ n.clock then
    flush env { worker with due := n.clock + worker.period } n
  else (worker, n)

/-- What the worker writes at the end. -/
def lastFlush (env : Environment ε) (worker : Worker) (n : Node ε) : Worker × Node ε :=
  match worker.mode with
  | .delayed => flush env worker n
  | .shutdown => saveAll env worker n
  | .none | .realtime => (worker, n)

/-! ## Running the worker -/

/-- Lets the worker empty its mailbox, moves the clock, and lets it make a flush that is due. -/
def settle (n : Node ε) (env : Environment ε) (seconds : Nat) : Node ε :=
  match n.worker with
  | none => { n with clock := n.clock + seconds }
  | some worker =>
    let (worker, n) := whileAlive (drain env) worker n
    let n := { n with clock := n.clock + seconds }
    let (worker, n) := whileAlive (flushDue env) worker n
    keepWorker worker n

/-- Stops the worker: what waits is carried, then comes the last flush. -/
def stop (n : Node ε) (env : Environment ε) : Except Fault Unit × Node ε :=
  match n.worker with
  | none => (.ok (), n)
  | some worker =>
    let (worker, n) := whileAlive (drain env) worker n
    let (worker, n) := whileAlive (lastFlush env) worker n
    let n := { n.closeMailbox worker.mailbox with worker := none }
    (if worker.alive then .ok () else .error (.persistence "persistence worker failed"), n)

/-- Starts a worker. In the modes that remove destroyed dialogs, it gets an observer that feeds
it. A worker that is still running is stopped. -/
def start (n : Node ε) (env : Environment ε) (config : PersistenceConfig) :
    Except Fault Unit × Node ε :=
  match config.validate with
  | .error e => (.error e, n)
  | .ok () =>
    let n := (n.stop env).2
    let mailbox := n.registry.mailboxes.size
    let registry := { n.registry with mailboxes := n.registry.mailboxes.push {} }
    let registry :=
      if config.mode.removesOnDestroy then
        registry.observe "persistence" [.created, .stateChanged, .destroyed]
          (.writer mailbox (config.mode == .realtime))
      else registry
    let period := config.flushPeriod
    (.ok (), { n with
      registry
      worker := some { mailbox, mode := config.mode, period, due := n.clock + period } })

end Node

end SipDialogs
