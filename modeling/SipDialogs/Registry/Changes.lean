-- SUMMARY: New dialogs, and what the protocol layer reports about them.
import SipDialogs.Registry.References

/-! # Changes

Observers are told after a change has been made. What they are shown is a snapshot taken with the
change. -/

namespace SipDialogs.Registry

/-- Links a new dialog and tells the global observers. -/
def insert (r : Registry ε) (env : Environment ε) (identity : Identity) (holders : Nat) :
    Except Fault Key × Registry ε :=
  match r.table.insert identity holders r.clock with
  | .error e => (.error e, r)
  | .ok (d, table) =>
    let told := r.wants [.created]
    let r := { r with table }
    (.ok d.key, if told then (r.notify env [] d.snapshot .created).2 else r)

/-- Links a dialog read back from storage. Nobody is told. -/
def restore (r : Registry ε) (s : Snapshot) : Except Fault Key × Registry ε :=
  match r.table.restore s with
  | .error e => (.error e, r)
  | .ok (d, table) => (.ok d.key, { r with table })

/-- Feeds an event to a dialog, without telling anyone. The references given up are the caller's to
release. An event that is invalid in the dialog's phase changes nothing but a counter. -/
def nextPhase (r : Registry ε) (key : Key) (event : Event) : Option PhaseChange × Registry ε :=
  let (applied, table) := r.table.applyEvent key event
  (applied.map (·.1), { r with table })

/-- Feeds an event to a dialog, tells observers if its phase changed, and releases the references
that were given up. -/
def processEvent (r : Registry ε) (env : Environment ε) (key : Key) (event : Event) :
    Option PhaseChange × Registry ε :=
  let wanted := r.wants [.stateChanged]
  match r.table.applyEvent key event with
  | (none, table) => (none, { r with table })
  | (some (change, d), table) =>
    let r := { r with table }
    let r :=
      if change.changed && (wanted || d.isObserved .stateChanged) then
        (r.notify env d.observers d.snapshot (.stateChanged change.old change.new event)).2
      else r
    (some change, r.release env key change.unref)

def setLegInfo (r : Registry ε) (key : Key) (side : Leg) (info : LegInfo) :
    Except Fault Unit × Registry ε :=
  match r.table.setLegInfo key side info with
  | .error e => (.error e, r)
  | .ok table => (.ok (), { r with table })

def updateCseq (r : Registry ε) (key : Key) (side : Leg) (cseq : String) :
    Except Fault Unit × Registry ε :=
  match r.table.updateCseq key side cseq with
  | .error e => (.error e, r)
  | .ok table => (.ok (), { r with table })

end SipDialogs.Registry
