-- SUMMARY: Where records are kept, and the rule that keeps late writes out.
import SipDialogs.Assoc
import SipDialogs.Ordered
import SipDialogs.Registry

/-! # Storage

A store holds one record for each key, in ascending order of keys. Writes reach it out of order,
so the writer remembers the version of the last write it let through for each linked dialog: an
older one is dropped, and so is any save of a dialog that is no longer linked. The removal of a
destroyed dialog is final. -/

namespace SipDialogs

structure Store where
  records : List Record := []
  deriving DecidableEq, Repr

namespace Store

def get? (s : Store) (key : Key) : Option Record := s.records.find? fun r => r.key == key

/-- Puts a record in its place, or in the place of the one with its key. -/
def put (s : Store) (r : Record) : Store :=
  ⟨Ordered.insert (fun r q => r.key.lt q.key) r s.records⟩

def erase (s : Store) (key : Key) : Store := ⟨s.records.filter fun r => r.key != key⟩

/-- What a write does to a store that does not fail. -/
def write (s : Store) : Write → Store
  | .save record _ => s.put record
  | .remove key _ _ => s.erase key

end Store

/-- The call that a write makes. -/
def Write.call : Write → Call
  | .save record _ => .saved record
  | .remove key _ _ => .removed key

/-! ## Versions -/

/-- The version of the last write let through, by key. -/
abbrev Versions := Assoc Key Nat

namespace Versions

/-- Whether a write is older than one that was let through. -/
def isStale (v : Versions) (w : Write) : Bool :=
  match v.get? w.key with
  | some last => w.version < last
  | none => false

/-- Whether a write is let through, and what is remembered after it. `linked` says whether its
dialog is linked. -/
def accept (v : Versions) (linked : Bool) (w : Write) : Bool × Versions :=
  match w, linked with
  | .save _ _, false => (false, v.erase w.key)
  | .remove _ _ true, _ => (true, v.erase w.key)
  | _, _ => if v.isStale w then (false, v) else (true, v.set w.key w.version)

end Versions

end SipDialogs
