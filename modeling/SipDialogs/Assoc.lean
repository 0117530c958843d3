-- SUMMARY: Finite maps as lists of pairs.

/-! # Finite maps

A map that is small, and whose order nobody sees: the entry set last stands first. -/

namespace SipDialogs

structure Assoc (κ α : Type) where
  entries : List (κ × α) := []
  deriving DecidableEq, Repr

namespace Assoc

variable {κ α : Type} [BEq κ]

def get? (m : Assoc κ α) (k : κ) : Option α := (m.entries.find? fun e => e.1 == k).map (·.2)

def erase (m : Assoc κ α) (k : κ) : Assoc κ α := ⟨m.entries.filter fun e => !(e.1 == k)⟩

def set (m : Assoc κ α) (k : κ) (a : α) : Assoc κ α := ⟨(k, a) :: (m.erase k).entries⟩

end Assoc

end SipDialogs
