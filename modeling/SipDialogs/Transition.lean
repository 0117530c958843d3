-- SUMMARY: The state machine of a dialog.
import SipDialogs.Phase
import SipDialogs.Flags

/-! # Transitions

`Phase.next?` is a pure function of the phase, the flags and the event. A dialog carries one
reference for the table and one per transaction that has yet to be destroyed; a transition says
how many of them it gives up:

- a destroyed transaction gives up its own reference, and the table's too while no final response
  came;
- a failure response before the dialog was confirmed, and a BYE after, give up the table's.

A late success response on a deleted dialog that never saw a BYE takes the table's reference back.
-/

namespace SipDialogs

structure Transition where
  phase : Phase
  /-- References given up. -/
  unref : Nat := 0
  /-- The table takes its reference back. -/
  reclaim : Bool := false
  /-- The BYE flag is set. -/
  setBye : Bool := false
  deriving DecidableEq, Repr

/-- The transition an event causes, or none when the event is invalid in this phase. -/
def Phase.next? (flags : Flags) : Phase → Event → Option Transition
  | .unconfirmed, .transactionDestroyed | .early, .transactionDestroyed =>
    some { phase := .deleted, unref := 2 }
  | .confirmedNa, .transactionDestroyed => some { phase := .confirmedNa, unref := 1 }
  | .confirmed, .transactionDestroyed => some { phase := .confirmed, unref := 1 }
  | .deleted, .transactionDestroyed => some { phase := .deleted, unref := 1 }
  | .unconfirmed, .provisionalResponse | .early, .provisionalResponse => some { phase := .early }
  | .unconfirmed, .failureResponse | .early, .failureResponse =>
    some { phase := .deleted, unref := 1 }
  | .unconfirmed, .successResponse | .early, .successResponse => some { phase := .confirmedNa }
  | .confirmedNa, .successResponse => some { phase := .confirmedNa }
  | .confirmed, .successResponse => some { phase := .confirmed }
  | .deleted, .successResponse =>
    if flags.contains .hasBye then none else some { phase := .confirmedNa, reclaim := true }
  | .confirmedNa, .requestAck => some { phase := .confirmed }
  | .confirmed, .requestAck => some { phase := .confirmed }
  | .deleted, .requestAck => some { phase := .deleted }
  | .confirmedNa, .requestBye | .confirmed, .requestBye =>
    some { phase := .deleted, unref := 1, setBye := true }
  | .deleted, .requestBye => some { phase := .deleted }
  | .early, .requestPrack => some { phase := .early }
  | .confirmedNa, .requestPrack => some { phase := .confirmedNa }
  | .confirmedNa, .request => some { phase := .confirmedNa }
  | .confirmed, .request => some { phase := .confirmed }
  | _, _ => none

/-- What feeding one event to a dialog came to. -/
structure PhaseChange where
  old : Phase
  new : Phase
  /-- References the caller must release. -/
  unref : Nat
  deriving DecidableEq, Repr

def PhaseChange.changed (c : PhaseChange) : Bool := c.old != c.new

end SipDialogs
