-- SUMMARY: The row that keeps a dialog in storage.
import SipDialogs.Snapshot

/-! # Records

A record holds what a dialog needs to be linked again: no flags, no version, no context, and the
start time as a whole second. -/

namespace SipDialogs

structure Record where
  bucket : UInt32
  localId : UInt32
  callId : String
  fromUri : String
  fromTag : String
  toUri : String
  toTag : String
  /-- The number of a phase; a record may hold others. -/
  phaseCode : UInt8
  /-- Seconds from 1970-01-01T00:00:00Z. -/
  startSecond : Int
  timeout : UInt32
  callerCseq : String
  calleeCseq : String
  callerRouteSet : String
  calleeRouteSet : String
  callerContact : String
  calleeContact : String
  callerSocket : Option String := none
  calleeSocket : Option String := none
  deriving DecidableEq, Repr, Inhabited

namespace Record

def key (r : Record) : Key := ⟨r.bucket, r.localId⟩

def isDeleted (r : Record) : Bool := r.phaseCode == Phase.deleted.code

/-! ## From and to snapshots -/

def ofSnapshot (s : Snapshot) : Record where
  bucket := s.key.bucket
  localId := s.key.localId
  callId := s.callId
  fromUri := s.fromUri
  fromTag := s.caller.tag
  toUri := s.toUri
  toTag := s.callee.tag
  phaseCode := s.phase.code
  startSecond := s.start.seconds
  timeout := s.timeout
  callerCseq := s.caller.cseq
  calleeCseq := s.callee.cseq
  callerRouteSet := s.caller.routeSet
  calleeRouteSet := s.callee.routeSet
  callerContact := s.caller.contact
  calleeContact := s.callee.contact
  callerSocket := s.caller.bindAddr
  calleeSocket := s.callee.bindAddr

def callerInfo (r : Record) : LegInfo where
  tag := r.fromTag
  contact := r.callerContact
  routeSet := r.callerRouteSet
  cseq := r.callerCseq
  bindAddr := r.callerSocket

def calleeInfo (r : Record) : LegInfo where
  tag := r.toTag
  contact := r.calleeContact
  routeSet := r.calleeRouteSet
  cseq := r.calleeCseq
  bindAddr := r.calleeSocket

/-- The dialog a record describes. The phase, the start time and the Call-ID are checked in this
order. -/
def toSnapshot (r : Record) : Except Fault Snapshot :=
  let bad (what : String) : Except Fault Snapshot :=
    .error (.persistence (r.key.render ++ ": " ++ what))
  match Phase.ofCode? r.phaseCode with
  | none => bad ("unknown state code " ++ toString r.phaseCode.toNat)
  | some phase =>
    match Timestamp.ofSeconds? r.startSecond with
    | none => bad ("bad start time " ++ toString r.startSecond)
    | some start =>
      if r.callId.isEmpty then bad "empty callid"
      else .ok {
        key := r.key
        phase := phase
        flags := .none
        start := start
        timeout := r.timeout
        callId := r.callId
        fromUri := r.fromUri
        toUri := r.toUri
        caller := r.callerInfo
        callee := r.calleeInfo }

/-! ## As structured values -/

def toValue (r : Record) : Value :=
  .map [("hash_entry", .ofNat r.bucket.toNat), ("hash_id", .ofNat r.localId.toNat),
    ("callid", .text r.callId), ("from_uri", .text r.fromUri), ("from_tag", .text r.fromTag),
    ("to_uri", .text r.toUri), ("to_tag", .text r.toTag),
    ("state", .ofNat r.phaseCode.toNat), ("start_time", .int r.startSecond),
    ("timeout", .ofNat r.timeout.toNat),
    ("caller_cseq", .text r.callerCseq), ("callee_cseq", .text r.calleeCseq),
    ("caller_route_set", .text r.callerRouteSet), ("callee_route_set", .text r.calleeRouteSet),
    ("caller_contact", .text r.callerContact), ("callee_contact", .text r.calleeContact),
    ("caller_sock", .ofText? r.callerSocket), ("callee_sock", .ofText? r.calleeSocket)]

def ofValue? (v : Value) : Option Record := do
  let fs ← v.fields? .json 18
  return {
    bucket := ← fs.required 0 "hash_entry" Value.word?
    localId := ← fs.required 1 "hash_id" Value.word?
    callId := ← fs.required 2 "callid" Value.text?
    fromUri := ← fs.required 3 "from_uri" Value.text?
    fromTag := ← fs.required 4 "from_tag" Value.text?
    toUri := ← fs.required 5 "to_uri" Value.text?
    toTag := ← fs.required 6 "to_tag" Value.text?
    phaseCode := ← fs.required 7 "state" Value.byte?
    startSecond := ← fs.required 8 "start_time" (Value.intBetween? Value.least64 Value.greatest64)
    timeout := ← fs.required 9 "timeout" Value.word?
    callerCseq := ← fs.required 10 "caller_cseq" Value.text?
    calleeCseq := ← fs.required 11 "callee_cseq" Value.text?
    callerRouteSet := ← fs.required 12 "caller_route_set" Value.text?
    calleeRouteSet := ← fs.required 13 "callee_route_set" Value.text?
    callerContact := ← fs.required 14 "caller_contact" Value.text?
    calleeContact := ← fs.required 15 "callee_contact" Value.text?
    callerSocket := ← fs.defaulted 16 "caller_sock" none (Value.optional? Value.text?)
    calleeSocket := ← fs.defaulted 17 "callee_sock" none (Value.optional? Value.text?) }

end Record

end SipDialogs
