-- SUMMARY: A copy of a dialog as observers, stores and management see it.
import SipDialogs.Fault
import SipDialogs.Flags
import SipDialogs.Leg
import SipDialogs.Phase
import SipDialogs.Timestamp

/-! # Snapshots

A snapshot is a copy of a dialog at one point of its life. The version counts the changes up to that
point. The context is what observers had to say about the dialog, if they were asked. -/

namespace SipDialogs

structure Snapshot where
  key : Key
  phase : Phase
  flags : Flags
  start : Timestamp
  /-- The lifetime in seconds. -/
  timeout : UInt32
  callId : String
  fromUri : String
  toUri : String
  caller : LegInfo
  callee : LegInfo
  version : Nat := 0
  context : Option Entries := none

/-- A key is written as a text. -/
def Key.ofValue? (v : Value) : Option Key := v.text?.bind Key.parse?

/-- Flags are written as a bare word. -/
def Flags.ofValue? (v : Value) : Option Flags := v.word?.map Flags.mk

def Phase.ofValue? (v : Value) : Option Phase := v.variant? .json Phase.all Phase.name

/-- A timestamp is written as its RFC 3339 text. -/
def Timestamp.ofValue? (v : Value) : Option Timestamp := v.text?.bind Timestamp.parse?

namespace Snapshot

def leg (s : Snapshot) : Leg → LegInfo
  | .caller => s.caller
  | .callee => s.callee

def fromTag (s : Snapshot) : String := s.caller.tag

def toTag (s : Snapshot) : String := s.callee.tag

/-- A snapshot without context has no such entry. -/
def toValue (s : Snapshot) : Value :=
  .map ([("hash", .text s.key.render), ("state", .text s.phase.name),
    ("flags", .ofNat s.flags.bits.toNat), ("timestart", .text s.start.render),
    ("timeout", .ofNat s.timeout.toNat), ("callid", .text s.callId),
    ("from_uri", .text s.fromUri), ("to_uri", .text s.toUri),
    ("caller", s.caller.toValue), ("callee", s.callee.toValue), ("version", .ofNat s.version)]
    ++ match s.context with
      | some context => [("context", .map context)]
      | none => [])

def ofValue? (v : Value) : Option Snapshot := do
  let fs ← v.fields? .json 12
  return {
    key := ← fs.required 0 "hash" Key.ofValue?
    phase := ← fs.required 1 "state" Phase.ofValue?
    flags := ← fs.required 2 "flags" Flags.ofValue?
    start := ← fs.required 3 "timestart" Timestamp.ofValue?
    timeout := ← fs.required 4 "timeout" Value.word?
    callId := ← fs.required 5 "callid" Value.text?
    fromUri := ← fs.required 6 "from_uri" Value.text?
    toUri := ← fs.required 7 "to_uri" Value.text?
    caller := ← fs.required 8 "caller" LegInfo.ofValue?
    callee := ← fs.required 9 "callee" LegInfo.ofValue?
    version := ← fs.defaulted 10 "version" 0 (Value.natBelow? UInt64.size)
    context := ← fs.defaulted 11 "context" none (Value.optional? Value.entries?) }

end Snapshot

end SipDialogs
