-- SUMMARY: The errors of the registry and their messages.
import SipDialogs.Key

/-! # Faults

Faults of construction (locks, profiles, configuration) are fatal: the process must not start. All
others report that one operation failed; the registry never retries on its own. -/

namespace SipDialogs

inductive Fault where
  /-- Not even the least number of bucket locks could be had. -/
  | lockAllocation (least : Nat)
  | resourceExhausted (what : String)
  | invalidProfileName (name reason : String)
  | invalidProfileSize (size : UInt32)
  | duplicateProfile (name : String)
  | profileNotFound (name : String)
  /-- A profile that groups by value was used without one. -/
  | missingProfileValue (name : String)
  | dialogNotFound (key : Key)
  /-- The request has no current dialog. -/
  | noCurrentDialog
  | invalidKey (text : String)
  /-- Leg data that would move the dialog out of its bucket. -/
  | invalidLegInfo (key : Key) (reason : String)
  | config (reason : String)
  | persistence (reason : String)
  | timer (reason : String)
  deriving DecidableEq, Repr

namespace Fault

def message : Fault → String
  | lockAllocation least =>
    s!"unable to allocate at least {least} locks for the dialog table"
  | resourceExhausted what => s!"resource exhausted: {what}"
  | invalidProfileName name reason => s!"bad profile name <{name}>: {reason}"
  | invalidProfileSize size => s!"profile size {size.toNat} is not a power of 2"
  | duplicateProfile name => s!"duplicate dialog profile registered <{name}>"
  | profileNotFound name => s!"profile not found: {name}"
  | missingProfileValue name => s!"profile <{name}> groups by value but no value was given"
  | dialogNotFound key => s!"dialog {key.render} not found"
  | noCurrentDialog => "no current dialog for this request"
  | invalidKey text => s!"invalid dialog key: {text}"
  | invalidLegInfo key reason => s!"dialog {key.render}: {reason}"
  | config reason => s!"configuration error: {reason}"
  | persistence reason => s!"persistence error: {reason}"
  | timer reason => s!"timer error: {reason}"

/-- The name of the kind of fault. -/
def kind : Fault → String
  | lockAllocation _ => "LockAllocation"
  | resourceExhausted _ => "ResourceExhausted"
  | invalidProfileName _ _ => "InvalidProfileName"
  | invalidProfileSize _ => "InvalidProfileSize"
  | duplicateProfile _ => "DuplicateProfile"
  | profileNotFound _ => "ProfileNotFound"
  | missingProfileValue _ => "MissingProfileValue"
  | dialogNotFound _ => "DialogNotFound"
  | noCurrentDialog => "NoCurrentDialog"
  | invalidKey _ => "InvalidKey"
  | invalidLegInfo _ _ => "InvalidLegInfo"
  | config _ => "Config"
  | persistence _ => "Persistence"
  | timer _ => "Timer"

/-- Whether the process must not start. -/
def isFatal : Fault → Bool
  | lockAllocation _ | invalidProfileName _ _ | invalidProfileSize _ | duplicateProfile _
  | config _ => true
  | _ => false

/-- Whether the fault only reports that something was absent. -/
def isNotFound : Fault → Bool
  | dialogNotFound _ | profileNotFound _ | noCurrentDialog => true
  | _ => false

end Fault

/-- The key a text names. -/
def Key.parse (s : String) : Except Fault Key :=
  match Key.parse? s with
  | some k => .ok k
  | none => .error (.invalidKey s)

end SipDialogs
