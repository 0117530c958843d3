-- SUMMARY: What a writer asks a store to do.
import SipDialogs.Observer
import SipDialogs.Record

/-! # Writes

Writes are queued by whoever caused them, so their order is not the order of the changes. Each
carries the version of the snapshot that it was made from. -/

namespace SipDialogs

inductive Write where
  | save (record : Record) (version : Nat)
  /-- `destroyed` tells the removal of a destroyed dialog from that of a deleted one. -/
  | remove (key : Key) (version : Nat) (destroyed : Bool)
  deriving DecidableEq, Repr

namespace Write

def key : Write → Key
  | save record _ => record.key
  | remove key _ _ => key

def version : Write → Nat
  | save _ version => version
  | remove _ version _ => version

def ofSnapshot (s : Snapshot) : Write := save (Record.ofSnapshot s) s.version

/-- What a notice asks for. Without `realtime`, only destruction does. -/
def ofNotice? (realtime : Bool) (s : Snapshot) : Notice → Option Write
  | .created => if realtime then some (ofSnapshot s) else none
  | .stateChanged _ new _ =>
    if realtime then
      some (if new.isDeleted then remove s.key s.version false else ofSnapshot s)
    else none
  | .destroyed => some (remove s.key s.version true)
  | .introspect _ => none

end Write

/-- Where writes wait for their worker. Once it is closed, they are lost. -/
structure Mailbox where
  waiting : List Write := []
  isOpen : Bool := true
  deriving DecidableEq, Repr

namespace Mailbox

def post (m : Mailbox) (w : Write) : Mailbox :=
  if m.isOpen then { m with waiting := m.waiting ++ [w] } else m

end Mailbox

end SipDialogs
