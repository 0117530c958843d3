-- SUMMARY: The dialogs of one bucket.
import SipDialogs.Dialog
import SipDialogs.Ordered

/-! # Buckets

A bucket keeps its dialogs in ascending order of their numbers, and gives each new one a number that
none of its dialogs ever had. -/

namespace SipDialogs

structure Bucket where
  dialogs : List Dialog := []
  /-- The number of the next dialog. -/
  nextId : UInt32 := 0

namespace Bucket

instance : Inhabited Bucket := ⟨{}⟩

def find? (b : Bucket) (id : UInt32) : Option Dialog :=
  b.dialogs.find? fun d => d.key.localId == id

def contains (b : Bucket) (id : UInt32) : Bool := (b.find? id).isSome

/-- Puts a dialog in its place, or in the place of the one with its number. -/
def put (b : Bucket) (d : Dialog) : Bucket :=
  { b with dialogs := Ordered.insert (fun d e => d.key.localId < e.key.localId) d b.dialogs }

def erase (b : Bucket) (id : UInt32) : Bucket :=
  { b with dialogs := b.dialogs.filter fun d => d.key.localId != id }

/-- The number of a new dialog, if one is left. The last number of all is never given out. -/
def freshId? (b : Bucket) : Option UInt32 :=
  if b.nextId.toNat + 1 < UInt32.size ∧ !b.contains b.nextId then some b.nextId else none

/-- The numbers of later dialogs are past `id`. -/
def passId (b : Bucket) (id : UInt32) : Bucket :=
  let past := if id.toNat + 1 < UInt32.size then id + 1 else id
  { b with nextId := if b.nextId < past then past else b.nextId }

end Bucket

end SipDialogs
