-- SUMMARY: The registry: a table, its observers and its profiles, and what it calls out to.
import SipDialogs.Config
import SipDialogs.Profile.Directory
import SipDialogs.Table.Lookup
import SipDialogs.Write

/-! # The registry

The registry calls out to observers, to a timer service and to a store. Each of them may call back
into the registry before it returns, so what they do is a function on registries: an
`Environment`. Whatever state they have of their own is in the field `env`. Every call is entered
in the journal before it is made. -/

namespace SipDialogs

/-- A call that the registry makes. -/
inductive Call where
  | observed (observer : Observer) (snapshot : Snapshot) (notice : Notice)
  | scheduled (key : Key) (milliseconds : Nat)
  | cancelled (handle : Handle)
  | loaded
  | saved (record : Record)
  | removed (key : Key)

structure Registry (ε : Type) where
  config : Config
  /-- The time at which new dialogs start. -/
  clock : Timestamp
  table : Table
  profiles : Directory
  /-- The observers of every dialog, in order of registration. -/
  observers : List Observer := []
  /-- Whether there is a timer service. -/
  hasTimer : Bool
  /-- The serial of the next observer. -/
  nextSerial : Nat := 0
  mailboxes : Array Mailbox := #[]
  /-- The calls made so far, oldest first. -/
  journal : List Call := []
  env : ε

/-- What observers, the timer service and the store do when they are called. -/
structure Environment (ε : Type) where
  /-- An observer hears of a dialog. It returns the context with its entries. -/
  observe : Observer → Snapshot → Notice → Registry ε → (Outcome × Entries) × Registry ε
  /-- The service is asked for a timer after so many milliseconds. -/
  schedule : Key → Nat → Registry ε → Except String Handle × Registry ε
  /-- The service is asked to stop a timer. It says whether the timer was pending. -/
  cancel : Handle → Registry ε → Except String Bool × Registry ε
  /-- The store is asked for what the call says. -/
  store : Call → Registry ε → Outcome × Registry ε

namespace Registry

/-- An empty registry. -/
def create (config : Config) (clock : Timestamp) (hasTimer : Bool) (env : ε) :
    Except Fault (Registry ε) := do
  config.validate
  let table ← Table.create config.hashSize config.defaultTimeout
  let profiles ← Directory.ofDefinitions config.profilesWithValue config.profilesNoValue
    config.profileHashSize
  return { config, clock, table, profiles, hasTimer, env }

def record (r : Registry ε) (c : Call) : Registry ε := { r with journal := r.journal ++ [c] }

/-- Leaves a write in a mailbox. -/
def post (r : Registry ε) (mailbox : Nat) (w : Write) : Registry ε :=
  { r with mailboxes := r.mailboxes.modify mailbox (·.post w) }

/-- Whether a global observer subscribes to one of `topics`. -/
def wants (r : Registry ε) (topics : List Topic) : Bool := r.observers.any (·.wants topics)

/-! ## Registering observers -/

/-- Registers an observer globally. -/
def observe (r : Registry ε) (name : String) (topics : List Topic) (role : Role) : Registry ε :=
  { r with
    observers := r.observers ++ [{ serial := r.nextSerial, name, topics, role }]
    nextSerial := r.nextSerial + 1 }

/-- Registers an observer of one dialog. -/
def observeDialog (r : Registry ε) (key : Key) (name : String) (topics : List Topic) :
    Except Fault (Registry ε) :=
  (r.table.addObserver key { serial := r.nextSerial, name, topics }).map fun table =>
    { r with table, nextSerial := r.nextSerial + 1 }

/-! ## Telling observers -/

/-- Tells one observer. The notice that comes back has the context as the observer left it; how a
client came back makes no difference. -/
def tell (env : Environment ε) (s : Snapshot) (told : Notice × Registry ε) (o : Observer) :
    Notice × Registry ε :=
  let (n, r) := told
  match o.role with
  | .writer mailbox realtime =>
    match Write.ofNotice? realtime s n with
    | some w => (n, r.post mailbox w)
    | none => (n, r)
  | .client =>
    let ((_, context), r) := env.observe o s n (r.record (.observed o s n))
    (n.withContext context, r)

/-- Tells the observers that subscribe to a notice: first the global ones, as they are at this
moment, then those of the dialog. -/
def notify (r : Registry ε) (env : Environment ε) (own : List Observer) (s : Snapshot)
    (n : Notice) : Notice × Registry ε :=
  ((r.observers ++ own).filter (·.wants [n.topic])).foldl (tell env s) (n, r)

end Registry

end SipDialogs
