-- SUMMARY: The table of dialogs: buckets behind a set of locks.
import SipDialogs.LockSet
import SipDialogs.Table.Bucket

/-! # The table

A fixed number of buckets, reached through the locks that guard them. Dialogs stay linked until
their last reference is given back; a deleted one may linger. The operations here call nobody:
what they leave to be told to others is in their results. -/

namespace SipDialogs

/-- What has happened in a table so far. -/
structure Counters where
  created : Nat := 0
  destroyed : Nat := 0
  invalidTransitions : Nat := 0
  /-- References taken or given back that nobody had. -/
  refAnomalies : Nat := 0
  deriving DecidableEq, Repr

structure Table where
  /-- The number of buckets. -/
  size : UInt32
  /-- The lifetime of a new dialog in seconds. -/
  defaultTimeout : UInt32
  stripes : LockSet (Array Bucket)
  counters : Counters := {}

namespace Table

def defaultLifetime : UInt32 := 43200

/-- An empty table. -/
def create (size defaultTimeout : UInt32) : Except Fault Table :=
  if size = 0 then .error (.config "dialog table size must be at least 1")
  else
    (LockSet.build size.toNat fun index count =>
      .ok (Array.replicate (LockSet.stripeLength size.toNat index count) {})).map
        fun stripes => { size, defaultTimeout, stripes }

/-! ## Buckets and dialogs -/

def bucket? (t : Table) (b : UInt32) : Option Bucket :=
  if b < t.size then
    (t.stripes.stripe? b.toNat).bind fun stripe => stripe[t.stripes.slotIndex b.toNat]?
  else none

def modifyBucket (t : Table) (b : UInt32) (f : Bucket → Bucket) : Table :=
  if b < t.size then
    let slot := t.stripes.slotIndex b.toNat
    { t with stripes := t.stripes.modify b.toNat (·.modify slot f) }
  else t

/-- A linked dialog. -/
def find? (t : Table) (key : Key) : Option Dialog :=
  (t.bucket? key.bucket).bind fun b => b.find? key.localId

def isLinked (t : Table) (key : Key) : Bool := (t.find? key).isSome

/-- Puts a dialog under its key. -/
def put (t : Table) (d : Dialog) : Table := t.modifyBucket d.key.bucket fun b => b.put d

/-- Unlinks a dialog. -/
def erase (t : Table) (key : Key) : Table :=
  t.modifyBucket key.bucket fun b => b.erase key.localId

/-- Every bucket, in order. -/
def buckets (t : Table) : List Bucket :=
  (List.range t.size.toNat).filterMap fun b => t.bucket? (UInt32.ofNat b)

/-- Every linked dialog, bucket by bucket in order of their numbers. -/
def dialogs (t : Table) : List Dialog := t.buckets.flatMap (·.dialogs)

/-- The number of linked dialogs, counted lock by lock. -/
def len (t : Table) : Nat :=
  t.stripes.stripes.toList.foldr
    (fun stripe n => stripe.toList.foldr (fun b n => b.dialogs.length + n) 0 + n) 0

/-- The bucket a new dialog with this Call-ID and caller tag goes to. -/
def home (t : Table) (callId tag : String) : UInt32 := Hash.texts callId (some tag) t.size

/-! ## Counters -/

def count (t : Table) (f : Counters → Counters) : Table := { t with counters := f t.counters }

def countCreated (t : Table) : Table := t.count fun c => { c with created := c.created + 1 }

def countDestroyed (t : Table) : Table := t.count fun c => { c with destroyed := c.destroyed + 1 }

def countInvalid (t : Table) : Table :=
  t.count fun c => { c with invalidTransitions := c.invalidTransitions + 1 }

def countAnomaly (t : Table) : Table :=
  t.count fun c => { c with refAnomalies := c.refAnomalies + 1 }

/-! ## Linking -/

/-- Links a new dialog in its home bucket. -/
def insert (t : Table) (identity : Identity) (holders : Nat) (start : Timestamp) :
    Except Fault (Dialog × Table) :=
  let home := t.home identity.callId identity.fromTag
  match (t.bucket? home).bind Bucket.freshId? with
  | none => .error (.resourceExhausted ("dialog ids of bucket " ++ toString home.toNat))
  | some id =>
    let d := Dialog.create ⟨home, id⟩ identity holders start t.defaultTimeout
    .ok (d, (t.modifyBucket home fun b => (b.put d).passId id).countCreated)

/-- Links a dialog at the key it had before. -/
def restore (t : Table) (s : Snapshot) : Except Fault (Dialog × Table) :=
  match t.bucket? s.key.bucket with
  | none => .error (.invalidKey (s.key.render ++ ": bucket out of range"))
  | some b =>
    if b.contains s.key.localId then .error (.invalidKey (s.key.render ++ ": already linked"))
    else
      let d := Dialog.ofSnapshot s
      .ok (d, (t.modifyBucket s.key.bucket fun b => (b.put d).passId s.key.localId).countCreated)

/-! ## References -/

/-- Takes references on a linked dialog. -/
def addRefs (t : Table) (key : Key) (count : Nat) : Bool × Table :=
  match t.find? key with
  | some d => (true, t.put (d.addRefs count))
  | none => (false, t.countAnomaly)

/-- Gives references back. The dialog is unlinked, and returned, with its last one. -/
def release (t : Table) (key : Key) (count : Nat) : Option Dialog × Table :=
  if count = 0 then (none, t)
  else match t.find? key with
    | none => (none, t.countAnomaly)
    | some d =>
      let t := if d.refs < count then t.countAnomaly else t
      let d := { d with refs := d.refs - count }
      if 0 < d.refs then (none, t.put d) else (some d, t.erase key)

/-! ## Changes -/

/-- Feeds an event to a linked dialog, and returns the dialog after it. -/
def applyEvent (t : Table) (key : Key) (event : Event) : Option (PhaseChange × Dialog) × Table :=
  match t.find? key with
  | none => (none, t)
  | some d =>
    match d.phase.next? d.flags event with
    | none => (some (⟨d.phase, d.phase, 0⟩, d), t.countInvalid)
    | some move =>
      let moved := d.move move
      (some (⟨d.phase, move.phase, move.unref⟩, moved), t.put moved)

def setLegInfo (t : Table) (key : Key) (side : Leg) (info : LegInfo) : Except Fault Table :=
  match t.find? key with
  | none => .error (.dialogNotFound key)
  | some d => (d.setLegInfo side info).map t.put

def updateCseq (t : Table) (key : Key) (side : Leg) (cseq : String) : Except Fault Table :=
  match t.find? key with
  | none => .error (.dialogNotFound key)
  | some d => .ok (t.put (d.updateCseq side cseq))

/-- Registers an observer of one dialog. -/
def addObserver (t : Table) (key : Key) (o : Observer) : Except Fault Table :=
  match t.find? key with
  | none => .error (.dialogNotFound key)
  | some d => .ok (t.put { d with observers := d.observers ++ [o] })

/-- The dialogs whose stored copies are missing or stale; they are taken to be stored from here
on. -/
def takeDirty (t : Table) : List Snapshot × Table :=
  let dirty := t.dialogs.filter (·.isDirty)
  (dirty.map (·.snapshot), dirty.foldl (fun t d => t.put d.clean) t)

/-! ## Links to profiles -/

/-- Adds the dialog's half of a membership. -/
def pushLink (t : Table) (key : Key) (l : Link) : Option Table :=
  (t.find? key).map fun d => t.put { d with links := d.links ++ [l] }

/-- Removes the dialog's half of the first membership that `chosen` accepts. -/
def takeLink (t : Table) (key : Key) (chosen : Link → Bool) : Option (Link × Table) := do
  let d ← t.find? key
  let l ← d.links.find? chosen
  return (l, t.put { d with links := d.links.eraseP chosen })

def hasLink (t : Table) (key : Key) (chosen : Link → Bool) : Bool :=
  (t.find? key).any fun d => d.links.any chosen

end Table

end SipDialogs
