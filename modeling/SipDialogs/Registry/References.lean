-- SUMMARY: Taking and giving back references, and the end of a dialog.
import SipDialogs.Registry

/-! # References

A dialog lives as long as it has references. With the last one it is unlinked, and only then is it
torn down: its timer is stopped, observers are told, and its memberships are removed. -/

namespace SipDialogs.Registry

/-- Stops the timer of a dialog that has been unlinked. The service's answer makes no difference. -/
def cancelTimer (r : Registry ε) (env : Environment ε) (d : Dialog) : Registry ε :=
  match d.timer, r.hasTimer with
  | some (.armed handle), true => (env.cancel handle (r.record (.cancelled handle))).2
  | _, _ => r

/-- Tears down a dialog that has been unlinked. Its last snapshot outranks every earlier one. -/
def destroy (r : Registry ε) (env : Environment ε) (d : Dialog) : Registry ε :=
  let d := { d with version := d.version + 1 }
  let r := r.cancelTimer env d
  let r :=
    if r.wants [.destroyed] || d.isObserved .destroyed then
      (r.notify env d.observers d.snapshot .destroyed).2
    else r
  { r with
    profiles := r.profiles.removeMembers d.links
    table := r.table.countDestroyed }

/-- Gives references back, and tears the dialog down with its last one. -/
def release (r : Registry ε) (env : Environment ε) (key : Key) (count : Nat) : Registry ε :=
  match r.table.release key count with
  | (none, table) => { r with table }
  | (some d, table) => { r with table }.destroy env d

/-- Takes references on a linked dialog. -/
def addRefs (r : Registry ε) (key : Key) (count : Nat) : Bool × Registry ε :=
  let (linked, table) := r.table.addRefs key count
  (linked, { r with table })

/-! ## Lookups -/

/-- Takes the reference for a dialog that was found. -/
def retain (r : Registry ε) (d : Dialog) : Registry ε := { r with table := r.table.retain d }

/-- Finds a live dialog by its key. The caller owns one reference on it. -/
def lookup (r : Registry ε) (key : Key) : Option Key × Registry ε :=
  match r.table.lookup key with
  | some d => (some d.key, r.retain d)
  | none => (none, r)

/-- Finds a live dialog by its Call-ID and both tags. The caller owns one reference on it. -/
def lookupIdentity (r : Registry ε) (callId fromTag toTag : String) :
    Option (Key × Direction) × Registry ε :=
  match r.table.lookupIdentity callId fromTag toTag with
  | some (d, way) => (some (d.key, way), r.retain d)
  | none => (none, r)

/-- Finds a live dialog by its Call-ID and, if it is given, the caller's tag. The caller owns one
reference on it. -/
def lookupDownstream (r : Registry ε) (callId : String) (fromTag : Option String) :
    Option Key × Registry ε :=
  match r.table.lookupDownstream callId fromTag with
  | some d => (some d.key, r.retain d)
  | none => (none, r)

end SipDialogs.Registry
