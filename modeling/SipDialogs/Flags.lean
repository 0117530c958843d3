-- SUMMARY: The flag word of a dialog.

/-! # Flags

A word of independent bits. Three have a meaning here; the others are carried along as they are. -/

namespace SipDialogs

structure Flags where
  bits : UInt32
  deriving DecidableEq, Repr, Inhabited

namespace Flags

def none : Flags := ⟨0⟩

/-- Never written to storage. -/
def new : Flags := ⟨1⟩

/-- Changed since it was last written to storage. -/
def changed : Flags := ⟨2⟩

/-- A BYE was accepted. -/
def hasBye : Flags := ⟨4⟩

def union (a b : Flags) : Flags := ⟨a.bits ||| b.bits⟩

def remove (a b : Flags) : Flags := ⟨a.bits &&& ~~~b.bits⟩

/-- Every bit of `b` is set in `a`. -/
def contains (a b : Flags) : Bool := a.bits &&& b.bits == b.bits

/-- Some bit of `b` is set in `a`. -/
def intersects (a b : Flags) : Bool := a.bits &&& b.bits != 0

/-- The flags of a dialog whose stored copy is missing or stale. -/
def dirty : Flags := new.union changed

end Flags

end SipDialogs
