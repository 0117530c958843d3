-- SUMMARY: The stable key of a dialog and its text form.
import SipDialogs.Text.Decimal

/-! # Keys

A dialog is addressed by the bucket it hashed into and the number it was given there when it was
linked. The number alone is not unique, the pair is. Outside, a key is written `bucket.localId`. -/

namespace SipDialogs

structure Key where
  bucket : UInt32
  localId : UInt32
  deriving DecidableEq, Repr, Inhabited

namespace Key

/-- Keys are ordered by bucket, then by number. -/
def lt (a b : Key) : Bool :=
  a.bucket < b.bucket || (a.bucket == b.bucket && a.localId < b.localId)

def render (k : Key) : String :=
  toString k.bucket.toNat ++ "." ++ toString k.localId.toNat

instance : ToString Key := ⟨render⟩

/-- Reads one half of a key. -/
def part? (cs : List Char) : Option UInt32 :=
  (Text.natBelow? UInt32.size cs).map UInt32.ofNat

/-- Reads a key; the text is split at its first point. -/
def parse? (s : String) : Option Key :=
  match s.toList.span (· ≠ '.') with
  | (_, []) => none
  | (front, _ :: back) => do
    let bucket ← part? front
    let localId ← part? back
    return ⟨bucket, localId⟩

/-- Keys in ascending order. -/
def sort (keys : List Key) : List Key := keys.mergeSort fun a b => !b.lt a

end Key

end SipDialogs
