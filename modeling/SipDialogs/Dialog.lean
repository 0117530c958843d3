-- SUMMARY: A dialog and what happens to it alone.
import SipDialogs.Observer
import SipDialogs.Profile
import SipDialogs.Timer
import SipDialogs.Transition

/-! # Dialogs

A dialog stays in the table as long as it has references. Every change that a store or an observer
may see raises the version and marks the dialog as changed. -/

namespace SipDialogs

/-- What the first request of a call says about it. -/
structure Identity where
  callId : String
  fromUri : String
  toUri : String
  fromTag : String
  deriving DecidableEq, Repr

structure Dialog where
  key : Key
  callId : String
  fromUri : String
  toUri : String
  caller : LegInfo := {}
  callee : LegInfo := {}
  phase : Phase := .unconfirmed
  flags : Flags := .new
  refs : Nat := 0
  start : Timestamp
  /-- The lifetime in seconds. -/
  timeout : UInt32
  links : List Link := []
  timer : Option TimerSlot := none
  /-- The observers of this dialog alone. -/
  observers : List Observer := []
  version : Nat := 0

namespace Dialog

/-- The greatest reference count that can be granted. -/
def maxRefs : Nat := UInt32.size - 1

/-- A new dialog, with a reference for the table and one for each holder. -/
def create (key : Key) (identity : Identity) (holders : Nat) (start : Timestamp)
    (timeout : UInt32) : Dialog where
  key := key
  callId := identity.callId
  fromUri := identity.fromUri
  toUri := identity.toUri
  caller := { tag := identity.fromTag }
  refs := if holders + 1 ≤ maxRefs then holders + 1 else maxRefs
  start := start
  timeout := timeout

/-- The dialog a snapshot describes. It has the table's reference only, and is stored as it is. -/
def ofSnapshot (s : Snapshot) : Dialog where
  key := s.key
  callId := s.callId
  fromUri := s.fromUri
  toUri := s.toUri
  caller := s.caller
  callee := s.callee
  phase := s.phase
  flags := s.flags.remove .dirty
  refs := 1
  start := s.start
  timeout := s.timeout

def snapshot (d : Dialog) : Snapshot where
  key := d.key
  phase := d.phase
  flags := d.flags
  start := d.start
  timeout := d.timeout
  callId := d.callId
  fromUri := d.fromUri
  toUri := d.toUri
  caller := d.caller
  callee := d.callee
  version := d.version

def leg (d : Dialog) : Leg → LegInfo
  | .caller => d.caller
  | .callee => d.callee

def setLeg (d : Dialog) (side : Leg) (info : LegInfo) : Dialog :=
  match side with
  | .caller => { d with caller := info }
  | .callee => { d with callee := info }

/-- Whether an observer of this dialog subscribes to `topic`. -/
def isObserved (d : Dialog) (topic : Topic) : Bool := d.observers.any (·.wants [topic])

/-! ## Changes -/

/-- Marks a change that others may see. -/
def touch (d : Dialog) : Dialog :=
  { d with version := d.version + 1, flags := d.flags.union .changed }

/-- Adds references, up to the greatest count. -/
def addRefs (d : Dialog) (count : Nat) : Dialog :=
  { d with refs := if d.refs + count ≤ maxRefs then d.refs + count else maxRefs }

/-- The reference count with one more. Unlike `addRefs` this does not stop at the greatest count: a
machine word starts over there. -/
def nextRefs (d : Dialog) : Nat := (d.refs + 1) % UInt32.size

/-- Takes one more reference. -/
def retain (d : Dialog) : Dialog := { d with refs := d.nextRefs }

/-- Replaces what is known about one side. The caller's tag picks the bucket of the dialog, so it
cannot change; an empty one stands for the one that is there. -/
def setLegInfo (d : Dialog) (side : Leg) (info : LegInfo) : Except Fault Dialog :=
  match side with
  | .callee => .ok (d.setLeg .callee info).touch
  | .caller =>
    if info.tag.isEmpty then .ok (d.setLeg .caller { info with tag := d.caller.tag }).touch
    else if info.tag = d.caller.tag then .ok (d.setLeg .caller info).touch
    else .error (.invalidLegInfo d.key
      ("caller tag is fixed to " ++ Text.Quoted.text d.caller.tag ++ ", got "
        ++ Text.Quoted.text info.tag))

def updateCseq (d : Dialog) (side : Leg) (cseq : String) : Dialog :=
  (d.setLeg side { d.leg side with cseq }).touch

/-- Makes a transition. References given up are left to the caller. -/
def move (d : Dialog) (t : Transition) : Dialog :=
  let moved := { d with
    phase := t.phase
    flags := if t.setBye then d.flags.union .hasBye else d.flags
    refs := if t.reclaim then d.nextRefs else d.refs }
  if d.phase = t.phase then moved else moved.touch

/-- Whether the stored copy is missing or stale. A deleted dialog is never written. -/
def isDirty (d : Dialog) : Bool := !d.phase.isDeleted && d.flags.intersects .dirty

/-- Takes the stored copy as good. -/
def clean (d : Dialog) : Dialog := { d with flags := d.flags.remove .dirty }

/-! ## Matching -/

/-- The orientation of a request with this Call-ID and these tags. -/
def direction? (d : Dialog) (callId fromTag toTag : String) : Option Direction :=
  if d.callId ≠ callId then none
  else if fromTag = d.caller.tag ∧ toTag = d.callee.tag then some .fromCaller
  else if fromTag = d.callee.tag ∧ toTag = d.caller.tag then some .fromCallee
  else none

/-- Whether the dialog has this Call-ID and, if it is given, this caller tag. -/
def isDownstream (d : Dialog) (callId : String) (fromTag : Option String) : Bool :=
  d.callId == callId && (fromTag.isNone || fromTag == some d.caller.tag)

end Dialog

end SipDialogs
