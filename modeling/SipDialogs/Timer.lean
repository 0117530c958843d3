-- SUMMARY: The association of a dialog with its lifetime timer.

/-! # Timers

Expiry belongs to an external service. A dialog keeps the handle of its timer, and a mark while the
service is being asked: a timer may fire before the service has answered. -/

namespace SipDialogs

/-- What the service returns for a timer. -/
abbrev Handle := Nat

inductive TimerSlot where
  /-- The service is being asked; the timer's reference is already taken. -/
  | arming
  | armed (handle : Handle)
  deriving DecidableEq, Repr

def TimerSlot.handle? : TimerSlot → Option Handle
  | arming => none
  | armed h => some h

end SipDialogs
