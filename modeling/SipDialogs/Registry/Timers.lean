-- SUMMARY: Arming, stopping and expiry of a dialog's lifetime timer.
import SipDialogs.Registry.References

/-! # Lifetime timers

An armed timer owns one reference. The reference is taken and the slot is marked before the
service is asked, so a timer that fires at once finds both; a mark that is gone when the service
answers means just that. -/

namespace SipDialogs.Registry

/-- Makes a dialog ready for its timer. An explicit lifetime replaces the dialog's own. -/
def prepareTimer (d : Dialog) (milliseconds : Option Nat) : Except Fault Dialog :=
  if d.phase.isDeleted then .error (.dialogNotFound d.key)
  else if d.timer.isSome then
    .error (.timer ("dialog " ++ d.key.render ++ " already has a timer"))
  else
    let d := match milliseconds with
      | some ms =>
        let seconds := if ms / 1000 < UInt32.size then ms / 1000 else UInt32.size - 1
        { d with timeout := UInt32.ofNat seconds }.touch
      | none => d
    .ok { d.retain with timer := some .arming }

/-- Replaces the timer slot of a dialog, if it is the one expected there. -/
def swapTimer (t : Table) (key : Key) (expected : TimerSlot) (next : Option TimerSlot) :
    Option Table :=
  match t.find? key with
  | some d => if d.timer = some expected then some (t.put { d with timer := next }) else none
  | none => none

/-- Takes over the service's answer. A handle is kept if the slot is still marked; after a
refusal, the reference is given back if the slot is. -/
def settleTimer (r : Registry ε) (env : Environment ε) (key : Key)
    (answer : Except String Handle) : Except Fault Handle × Registry ε :=
  match answer with
  | .ok handle =>
    match swapTimer r.table key .arming (some (.armed handle)) with
    | some table => (.ok handle, { r with table })
    | none => (.ok handle, r)
  | .error reason =>
    match swapTimer r.table key .arming none with
    | some table => (.error (.timer reason), { r with table }.release env key 1)
    | none => (.error (.timer reason), { r with table := r.table.countAnomaly })

/-- Arms the timer of a live dialog that has none, for its own lifetime or for an explicit one. -/
def startTimer (r : Registry ε) (env : Environment ε) (key : Key) (milliseconds : Option Nat) :
    Except Fault Handle × Registry ε :=
  if !r.hasTimer then (.error (.timer "no timer service configured"), r)
  else match r.table.find? key with
    | none => (.error (.dialogNotFound key), r)
    | some d =>
      match prepareTimer d milliseconds with
      | .error e => (.error e, r)
      | .ok d =>
        let ms := milliseconds.getD (d.timeout.toNat * 1000)
        let r := { r with table := r.table.put d }
        let (answer, r) := env.schedule key ms (r.record (.scheduled key ms))
        r.settleTimer env key answer

/-- Stops an armed timer, and gives its reference back if it was still pending. -/
def stopTimer (r : Registry ε) (env : Environment ε) (key : Key) : Bool × Registry ε :=
  match r.hasTimer, (r.table.find? key).bind (·.timer) with
  | true, some (.armed handle) =>
    let (answer, r) := env.cancel handle (r.record (.cancelled handle))
    match answer with
    | .ok true =>
      match swapTimer r.table key (.armed handle) none with
      | some table => (true, { r with table }.release env key 1)
      | none => (false, { r with table := r.table.countAnomaly })
    | _ => (false, r)
  | _, _ => (false, r)

/-- A timer fired: its reference is given back if the dialog has a timer, armed or being armed. -/
def expire (r : Registry ε) (env : Environment ε) (key : Key) : Registry ε :=
  match r.table.find? key with
  | some d =>
    if d.timer.isSome then
      { r with table := r.table.put { d with timer := none } }.release env key 1
    else { r with table := r.table.countAnomaly }
  | none => { r with table := r.table.countAnomaly }

end SipDialogs.Registry
