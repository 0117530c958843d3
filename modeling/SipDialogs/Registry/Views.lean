-- SUMMARY: Copies of dialogs for management and for storage.
import SipDialogs.Registry

/-! # Views

A snapshot with context asks the observers what they know about the dialog. All dialogs are copied
before the first observer is asked. -/

namespace SipDialogs.Registry

/-- Asks the observers of a dialog for the context of its snapshot. -/
def withContext (r : Registry ε) (env : Environment ε) (d : Dialog) : Snapshot × Registry ε :=
  let (n, r) := r.notify env d.observers d.snapshot (.introspect [])
  ({ d.snapshot with context := some n.context }, r)

/-- Copies one dialog, deleted or not. -/
def snapshot (r : Registry ε) (env : Environment ε) (key : Key) (context : Bool) :
    Option Snapshot × Registry ε :=
  match r.table.find? key, context with
  | none, _ => (none, r)
  | some d, false => (some d.snapshot, r)
  | some d, true =>
    let (s, r) := r.withContext env d
    (some s, r)

/-- Completes the copies of several dialogs, in order. -/
def withContexts (env : Environment ε) : List Dialog → Registry ε → List Snapshot × Registry ε
  | [], r => ([], r)
  | d :: ds, r =>
    let (s, r) := r.withContext env d
    let (ss, r) := withContexts env ds r
    (s :: ss, r)

/-- Copies every dialog. -/
def snapshotAll (r : Registry ε) (env : Environment ε) (context : Bool) :
    List Snapshot × Registry ε :=
  if context then withContexts env r.table.dialogs r
  else (r.table.dialogs.map (·.snapshot), r)

/-- Copies the live dialogs whose stored copies are missing or stale, and takes them to be stored
from here on. -/
def takeDirty (r : Registry ε) : List Snapshot × Registry ε :=
  let (dirty, table) := r.table.takeDirty
  (dirty, { r with table })

/-- Copies the dialogs of a profile, of one value if it is given, once for each membership. -/
def profileList (r : Registry ε) (name : String) (value : Option String) :
    Except Fault (List Snapshot) :=
  (r.profiles.get name).map fun p =>
    (p.dialogs value).filterMap fun key => (r.table.find? key).map (·.snapshot)

end SipDialogs.Registry
