-- SUMMARY: The two sides of a dialog and the orientation of a request.
import SipDialogs.Decode

/-! # Legs

Either side of a dialog may send the next request, so its tags may stand in either orientation
relative to the tags the dialog keeps. -/

namespace SipDialogs

/-- One side of a dialog. -/
inductive Leg where
  | caller
  | callee
  deriving DecidableEq, Repr, Inhabited

namespace Leg

def all : List Leg := [caller, callee]

def name : Leg → String
  | caller => "caller"
  | callee => "callee"

def index : Leg → Nat
  | caller => 0
  | callee => 1

def other : Leg → Leg
  | caller => callee
  | callee => caller

end Leg

/-- What is known about one side. -/
structure LegInfo where
  /-- The From tag of the caller, the To tag of the callee. -/
  tag : String := ""
  contact : String := ""
  /-- The Record-Route set as seen on the wire. -/
  routeSet : String := ""
  /-- The last CSeq number seen. -/
  cseq : String := ""
  /-- The local socket the side was seen on. -/
  bindAddr : Option String := none
  deriving DecidableEq, Repr, Inhabited

namespace LegInfo

def toValue (i : LegInfo) : Value :=
  .map [("tag", .text i.tag), ("contact", .text i.contact), ("route_set", .text i.routeSet),
    ("cseq", .text i.cseq), ("bind_addr", .ofText? i.bindAddr)]

def ofValue? (v : Value) : Option LegInfo := do
  let fs ← v.fields? .json 5
  return {
    tag := ← fs.required 0 "tag" Value.text?
    contact := ← fs.required 1 "contact" Value.text?
    routeSet := ← fs.required 2 "route_set" Value.text?
    cseq := ← fs.required 3 "cseq" Value.text?
    bindAddr := ← fs.nullable 4 "bind_addr" Value.text? }

end LegInfo

/-- The orientation of a request relative to its dialog. -/
inductive Direction where
  | fromCaller
  | fromCallee
  deriving DecidableEq, Repr

namespace Direction

def all : List Direction := [fromCaller, fromCallee]

def name : Direction → String
  | fromCaller => "downstream"
  | fromCallee => "upstream"

end Direction

end SipDialogs
