-- SUMMARY: Driving a scripted node by names.
import SipDialogs.Node
import SipDialogs.RequestScope
import SipDialogs.Script

/-! # Sessions

A session drives a node one step at a time. Keys are kept under labels, references under names,
and request scopes under names. A key is given as its text, or as a label after a dollar sign. A
reference that a step obtains is held under a name, or given back at the end of the step. -/

namespace SipDialogs

structure Session where
  node : Node Script
  labels : Assoc String Key := {}
  refs : Assoc String Key := {}
  scopes : Assoc String RequestScope := {}

/-- A reference that was handed out, with the count at that moment. -/
structure Granted where
  key : Key
  refs : Option Nat
  deriving DecidableEq, Repr

namespace Session

/-- A session with a new registry over a store. -/
def create (config : Config) (clock : Timestamp) (hasTimer : Bool) (store : Store) :
    Except Fault Session :=
  (Registry.create config clock hasTimer {}).map fun registry => { node := { registry, store } }

def registry (s : Session) : Registry Script := s.node.registry

def table (s : Session) : Table := s.node.registry.table

def env (s : Session) : Environment Script :=
  Script.environment (s.registry.env.depth s.table.len)

def withRegistry (s : Session) (registry : Registry Script) : Session :=
  { s with node := { s.node with registry } }

/-- Changes the script. -/
def withScript (s : Session) (f : Script → Script) : Session :=
  s.withRegistry { s.registry with env := f s.registry.env }

/-- Acts on the registry. -/
def act (s : Session) (f : Environment Script → Registry Script → α × Registry Script) :
    α × Session :=
  let (a, registry) := f s.env s.registry
  (a, s.withRegistry registry)

/-- The calls made since the journal was last taken. -/
def takeJournal (s : Session) : List Call × Session :=
  (s.registry.journal, s.withRegistry { s.registry with journal := [] })

/-! ## Keys -/

/-- The key that a text names. -/
def keyOf (s : Session) (text : String) : Except Fault Key :=
  match text.toList with
  | '$' :: label =>
    match s.labels.get? (String.ofList label) with
    | some key => .ok key
    | none => .error (.invalidKey text)
  | _ => Key.parse text

/-- Puts a key under a label. -/
def label (s : Session) (name : Option String) (key : Key) : Session :=
  match name with
  | some name => { s with labels := s.labels.set name key }
  | none => s

/-- Acts on the dialog that a text names. -/
def actAt (s : Session) (text : String)
    (f : Environment Script → Key → Registry Script → Except Fault α × Registry Script) :
    Except Fault α × Session :=
  match s.keyOf text with
  | .error e => (.error e, s)
  | .ok key => s.act fun env r => f env key r

/-! ## References -/

/-- Gives one reference back. -/
def giveBack (s : Session) (key : Key) : Session :=
  (s.act fun env r => ((), r.release env key 1)).2

/-- Hands a reference out: it is held under a name, in place of one that is held there, or given
back. -/
def grant (s : Session) (hold : Option String) (key : Key) : Granted × Session :=
  let granted := ⟨key, (s.table.find? key).map (·.refs)⟩
  match hold with
  | none => (granted, s.giveBack key)
  | some name =>
    let held := { s with refs := s.refs.set name key }
    match s.refs.get? name with
    | some old => (granted, held.giveBack old)
    | none => (granted, held)

/-- Hands out what a lookup found. -/
def grant? (s : Session) (hold : Option String) : Option Key → Option Granted × Session
  | none => (none, s)
  | some key =>
    let (granted, s) := s.grant hold key
    (some granted, s)

def dropRef (s : Session) (name : String) : Session :=
  match s.refs.get? name with
  | some key => { s with refs := s.refs.erase name }.giveBack key
  | none => s

/-- Takes another reference on a dialog that one is held on. -/
def cloneRef (s : Session) (name : String) (hold : Option String) : Option Granted × Session :=
  match s.refs.get? name with
  | none => (none, s)
  | some key =>
    let (linked, s) := s.act fun _ r => r.addRefs key 1
    s.grant? hold (if linked then some key else none)

/-- Forgets a held reference without giving it back. -/
def intoRaw (s : Session) (name : String) : Option Key × Session :=
  (s.refs.get? name, { s with refs := s.refs.erase name })

/-- Takes over a reference that nobody holds by name. -/
def fromRaw (s : Session) (text : String) (hold : Option String) :
    Except Fault Granted × Session :=
  match s.keyOf text with
  | .error e => (.error e, s)
  | .ok key =>
    let (granted, s) := s.grant hold key
    (.ok granted, s)

/-! ## Lookups -/

def lookup (s : Session) (text : String) (hold : Option String) :
    Except Fault (Option Granted) × Session :=
  match s.keyOf text with
  | .error e => (.error e, s)
  | .ok key =>
    let (found, s) := s.act fun _ r => r.lookup key
    let (granted, s) := s.grant? hold found
    (.ok granted, s)

def lookupDownstream (s : Session) (callId : String) (fromTag hold : Option String) :
    Option Granted × Session :=
  let (found, s) := s.act fun _ r => r.lookupDownstream callId fromTag
  s.grant? hold found

def lookupIdentity (s : Session) (callId fromTag toTag : String) (hold : Option String) :
    Option (Granted × Direction) × Session :=
  let (found, s) := s.act fun _ r => r.lookupIdentity callId fromTag toTag
  match found with
  | none => (none, s)
  | some (key, way) =>
    let (granted, s) := s.grant hold key
    (some (granted, way), s)

/-! ## Dialogs -/

def insert (s : Session) (identity : Identity) (holders : Nat) (name : Option String) :
    Except Fault Key × Session :=
  match s.act fun env r => r.insert env identity holders with
  | (.ok key, s) => (.ok key, s.label name key)
  | (.error e, s) => (.error e, s)

/-- Inserts `count` dialogs, with numbers from `first` on after the Call-ID. -/
def insertMany (s : Session) (callId fromTag : String) (first : Nat) :
    Nat → Except Fault (List Key) × Session
  | 0 => (.ok [], s)
  | count + 1 =>
    let identity : Identity := ⟨callId ++ toString first, "sip:a@x", "sip:b@x", fromTag⟩
    match s.insert identity 0 none with
    | (.error e, s) => (.error e, s)
    | (.ok key, s) =>
      match s.insertMany callId fromTag (first + 1) count with
      | (.error e, s) => (.error e, s)
      | (.ok keys, s) => (.ok (key :: keys), s)

def restore (s : Session) (snapshot : Snapshot) (name : Option String) :
    Except Fault Key × Session :=
  match s.act fun _ r => r.restore snapshot with
  | (.ok key, s) => (.ok key, s.label name key)
  | (.error e, s) => (.error e, s)

def addRefs (s : Session) (text : String) (count : Nat) : Except Fault Bool × Session :=
  s.actAt text fun _ key r =>
    let (linked, r) := r.addRefs key count
    (.ok linked, r)

def release (s : Session) (text : String) (count : Nat) : Except Fault Unit × Session :=
  s.actAt text fun env key r => (.ok (), r.release env key count)

def nextPhase (s : Session) (text : String) (event : Event) :
    Except Fault (Option PhaseChange) × Session :=
  s.actAt text fun _ key r =>
    let (change, r) := r.nextPhase key event
    (.ok change, r)

def processEvent (s : Session) (text : String) (event : Event) :
    Except Fault (Option PhaseChange) × Session :=
  s.actAt text fun env key r =>
    let (change, r) := r.processEvent env key event
    (.ok change, r)

/-- Feeds an event to the dialog that a reference is held on. -/
def processHeld (s : Session) (name : String) (event : Event) : Option PhaseChange × Session :=
  match s.refs.get? name with
  | some key => s.act fun env r => r.processEvent env key event
  | none => (none, s)

def setLegInfo (s : Session) (text : String) (side : Leg) (info : LegInfo) :
    Except Fault Unit × Session :=
  s.actAt text fun _ key r => r.setLegInfo key side info

def updateCseq (s : Session) (text : String) (side : Leg) (cseq : String) :
    Except Fault Unit × Session :=
  s.actAt text fun _ key r => r.updateCseq key side cseq

/-- The dialog that a text names, if it is linked. -/
def find (s : Session) (text : String) : Except Fault (Option Dialog) :=
  (s.keyOf text).map s.table.find?

def snapshot (s : Session) (text : String) (context : Bool) :
    Except Fault (Option Snapshot) × Session :=
  s.actAt text fun env key r =>
    let (snapshot, r) := r.snapshot env key context
    (.ok snapshot, r)

/-! ## Timers -/

def startTimer (s : Session) (text : String) (milliseconds : Option Nat) :
    Except Fault Handle × Session :=
  s.actAt text fun env key r => r.startTimer env key milliseconds

def stopTimer (s : Session) (text : String) : Except Fault Bool × Session :=
  s.actAt text fun env key r =>
    let (stopped, r) := r.stopTimer env key
    (.ok stopped, r)

def expire (s : Session) (text : String) : Except Fault Unit × Session :=
  s.actAt text fun env key r => (.ok (), r.expire env key)

/-! ## Observers -/

/-- Registers an observer, globally or at the dialog that a text names, and counts the global
ones. -/
def observe (s : Session) (plan : Plan) (text : Option String) : Except Fault Nat × Session :=
  let registered : Except Fault (Registry Script) :=
    match text with
    | none => .ok (s.registry.enlist plan)
    | some text => (s.keyOf text).bind fun key => s.registry.enlistDialog key plan
  match registered with
  | .error e => (.error e, s)
  | .ok registry => (.ok registry.observers.length, s.withRegistry registry)

/-! ## The store -/

/-- Acts on the node. -/
def actNode (s : Session) (f : Environment Script → Node Script → α × Node Script) :
    α × Session :=
  let (a, node) := f s.env s.node
  (a, { s with node })

def load (s : Session) : Except Fault Nat × Session := s.actNode fun env n => n.load env

/-- Starts the worker, with the registry's configuration if no other is given. -/
def startPersistence (s : Session) (config : Option PersistenceConfig) :
    Except Fault Unit × Session :=
  s.actNode fun env n => n.start env (config.getD n.registry.config.persistence)

def settle (s : Session) (seconds : Nat) : Session :=
  (s.actNode fun env n => ((), n.settle env seconds)).2

def stopPersistence (s : Session) : Except Fault Unit × Session :=
  s.actNode fun env n => n.stop env

/-- Puts a record into the store, and counts the records. -/
def storePut (s : Session) (record : Record) : Nat × Session :=
  let store := s.node.store.put record
  (store.records.length, { s with node := { s.node with store } })

def storeGet (s : Session) (text : String) : Except Fault (Option Record) :=
  (s.keyOf text).map s.node.store.get?

end Session

end SipDialogs
