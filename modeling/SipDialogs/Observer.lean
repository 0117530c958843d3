-- SUMMARY: Who is told about a dialog, and what they are told.
import SipDialogs.Snapshot

/-! # Observers

An observer subscribes to topics. It is told about every dialog when it is registered globally,
and about one dialog when it is registered there. A writer is the observer that feeds a store: it
never runs code of its own, it leaves work in a mailbox. -/

namespace SipDialogs

inductive Topic where
  | created
  | stateChanged
  | destroyed
  | introspect
  deriving DecidableEq, Repr, Inhabited

namespace Topic

def all : List Topic := [created, stateChanged, destroyed, introspect]

def name : Topic → String
  | created => "created"
  | stateChanged => "state_changed"
  | destroyed => "destroyed"
  | introspect => "introspect"

end Topic

/-- What happened to a dialog. -/
inductive Notice where
  | created
  | stateChanged (old new : Phase) (event : Event)
  | destroyed
  /-- A question: observers may add entries to the context. -/
  | introspect (context : Entries)

namespace Notice

def topic : Notice → Topic
  | created => .created
  | stateChanged _ _ _ => .stateChanged
  | destroyed => .destroyed
  | introspect _ => .introspect

/-- The context so far; only a question has one. -/
def context : Notice → Entries
  | introspect context => context
  | _ => []

/-- The notice the next observer gets, once one has left the context as it is here. -/
def withContext (context : Entries) : Notice → Notice
  | introspect _ => introspect context
  | n => n

end Notice

inductive Role where
  /-- Code outside of the registry. -/
  | client
  /-- Leaves writes in a mailbox: for every notice when `realtime`, for destructions alone
  otherwise. -/
  | writer (mailbox : Nat) (realtime : Bool)
  deriving DecidableEq, Repr

structure Observer where
  /-- Tells registrations apart. -/
  serial : Nat
  name : String
  topics : List Topic
  role : Role := .client
  deriving DecidableEq, Repr

/-- Whether the observer subscribes to one of `topics`. -/
def Observer.wants (o : Observer) (topics : List Topic) : Bool :=
  o.topics.any fun t => topics.contains t

/-- How code outside of the registry came back. -/
inductive Outcome where
  | done
  | failed (reason : String)
  | panicked
  deriving DecidableEq, Repr, Inhabited

end SipDialogs
