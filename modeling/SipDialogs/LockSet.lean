-- SUMMARY: Striping: a bounded number of locks shared by many buckets.
import SipDialogs.Fault

/-! # Lock sets

Bucket `b` of a table is guarded by lock `b mod n` of `n`, and each lock owns the data that it
guards, its stripe. The place of a bucket inside its stripe is `b / n`. A set has at most 2048
locks and never more than there are buckets, so every lock guards at least one. -/

namespace SipDialogs

structure LockSet (α : Type) where
  /-- What each lock guards. -/
  stripes : Array α

namespace LockSet

def maxLocks : Nat := 2048

/-- The number of locks for so many buckets. -/
def lockCount (buckets : Nat) : Nat := if buckets ≤ maxLocks then buckets else maxLocks

/-- The stripes from lock `index` on, up to the first that cannot be had. -/
def fill (init : Nat → Nat → Except Fault α) (count : Nat) :
    Nat → Nat → Array α → Except Fault (Array α)
  | 0, _, done => .ok done
  | left + 1, index, done =>
    match init index count with
    | .error e => .error e
    | .ok a => fill init count left (index + 1) (done.push a)

/-- A lock set for so many buckets; `init index count` is what lock `index` of `count` guards. -/
def build (buckets : Nat) (init : Nat → Nat → Except Fault α) : Except Fault (LockSet α) :=
  if buckets = 0 then .error (.config "a lock set needs at least one bucket")
  else (fill init (lockCount buckets) (lockCount buckets) 0 #[]).map LockSet.mk

def size (s : LockSet α) : Nat := s.stripes.size

/-- The lock that guards a bucket. -/
def lockIndex (s : LockSet α) (bucket : Nat) : Nat := bucket % s.size

/-- The place of a bucket inside its stripe. -/
def slotIndex (s : LockSet α) (bucket : Nat) : Nat := bucket / s.size

/-- The stripe that holds a bucket. -/
def stripe? (s : LockSet α) (bucket : Nat) : Option α := s.stripes[s.lockIndex bucket]?

/-- Changes the stripe that holds a bucket. -/
def modify (s : LockSet α) (bucket : Nat) (f : α → α) : LockSet α :=
  ⟨s.stripes.modify (s.lockIndex bucket) f⟩

/-- The number of buckets, of `size` in all, that lock `index` of `count` guards. -/
def stripeLength (size index count : Nat) : Nat :=
  if size ≤ index then 0 else (size - index + count - 1) / count

end LockSet

end SipDialogs
