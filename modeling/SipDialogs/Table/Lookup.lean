-- SUMMARY: Finding a live dialog, and taking a reference on it.
import SipDialogs.Table

/-! # Lookups

Every lookup takes one reference on the dialog that it finds, and finds live dialogs only. In a
bucket, the first dialog that matches decides, deleted or not. -/

namespace SipDialogs.Table

/-- Takes a reference on a dialog that was found. -/
def retain (t : Table) (d : Dialog) : Table := t.put d.retain

/-- Finds a dialog by its key. -/
def lookup (t : Table) (key : Key) : Option Dialog :=
  (t.find? key).filter fun d => !d.phase.isDeleted

/-- The first dialog of a bucket that matches in either orientation, with its orientation. -/
def firstMatch? (t : Table) (b : UInt32) (callId fromTag toTag : String) :
    Option (Dialog × Direction) :=
  (t.bucket? b).bind fun b =>
    b.dialogs.findSome? fun d => (d.direction? callId fromTag toTag).map fun way => (d, way)

/-- The match of a bucket, if it is live. -/
def liveMatch? (t : Table) (b : UInt32) (callId fromTag toTag : String) :
    Option (Dialog × Direction) :=
  (t.firstMatch? b callId fromTag toTag).filter fun found => !found.1.phase.isDeleted

/-- Finds a dialog by its Call-ID and both tags, in either orientation. The caller's tag picked
its bucket, so a request from the callee is found by its To tag. -/
def lookupIdentity (t : Table) (callId fromTag toTag : String) : Option (Dialog × Direction) :=
  match t.liveMatch? (t.home callId fromTag) callId fromTag toTag with
  | some found => some found
  | none =>
    if t.home callId toTag = t.home callId fromTag then none
    else t.liveMatch? (t.home callId toTag) callId fromTag toTag

/-- The first dialog of a bucket with this Call-ID and, if it is given, this caller tag. -/
def firstDownstream? (b : Bucket) (callId : String) (fromTag : Option String) : Option Dialog :=
  b.dialogs.find? fun d => d.isDownstream callId fromTag

/-- Finds a dialog by its Call-ID and, if it is given, the caller's tag. Without a tag the bucket
is not known, and the first bucket with a match decides. -/
def lookupDownstream (t : Table) (callId : String) (fromTag : Option String) : Option Dialog :=
  let first := match fromTag with
    | some tag => (t.bucket? (t.home callId tag)).bind fun b => firstDownstream? b callId fromTag
    | none => t.buckets.findSome? fun b => firstDownstream? b callId none
  first.filter fun d => !d.phase.isDeleted

end SipDialogs.Table
