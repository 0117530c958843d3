-- SUMMARY: A named index of dialogs, with or without values.
import SipDialogs.Fault
import SipDialogs.Hash
import SipDialogs.Text.Quoted

/-! # Profiles

A profile groups dialogs under a name and, if it has values, under a value. Every membership
exists twice: as a link of the dialog and as a member of the profile, with the same number on both
sides. Members are spread over buckets by their value, or by the key of the dialog where there are
no values. -/

namespace SipDialogs

/-- A membership, as the dialog holds it. -/
structure Link where
  id : Nat
  profile : String
  value : Option String
  /-- The bucket of the profile where the member is. -/
  bucket : UInt32
  deriving DecidableEq, Repr

/-- A membership, as the profile holds it. -/
structure Member where
  link : Nat
  dialog : Key
  value : Option String
  deriving DecidableEq, Repr

structure Profile where
  name : String
  hasValue : Bool
  size : UInt32
  /-- The number of the next membership. -/
  nextLink : Nat := 1
  /-- The members of each bucket, oldest first. -/
  buckets : Array (List Member)

namespace Profile

def defaultSize : UInt32 := 16

/-- Bucket counts of profiles are powers of two. -/
def isPowerOfTwo (n : UInt32) : Bool := n != 0 && n &&& (n - 1) == 0

/-- A profile without members. The name is checked before the size. -/
def create (name : String) (size : UInt32) (hasValue : Bool) : Except Fault Profile :=
  if name.isEmpty then .error (.invalidProfileName name "empty name")
  else match name.toList.find? fun c => !c.isAlphanum with
    | some bad =>
      .error (.invalidProfileName name
        ("char " ++ Text.Quoted.character bad ++ " - use only alphanumerical characters"))
    | none =>
      if isPowerOfTwo size then
        .ok { name, hasValue, size, buckets := Array.replicate size.toNat [] }
      else .error (.invalidProfileSize size)

/-- The bucket of a membership: by value where there is one, else by dialog. -/
def bucketFor (p : Profile) (value : Option String) (dialog : Key) : UInt32 :=
  match p.hasValue, value with
  | true, some v => Hash.texts v none p.size
  | _, _ => Hash.words dialog.bucket dialog.localId p.size

/-- The value that counts: none where the profile has no values. -/
def valueOf (p : Profile) (value : Option String) : Option String :=
  if p.hasValue then value else none

/-- A new membership of a dialog; the profile passes on to the next number. -/
def newLink (p : Profile) (dialog : Key) (value : Option String) : Except Fault (Link × Profile) :=
  if p.hasValue && value.isNone then .error (.missingProfileValue p.name)
  else
    let value := p.valueOf value
    .ok ({ id := p.nextLink, profile := p.name, value, bucket := p.bucketFor value dialog },
      { p with nextLink := p.nextLink + 1 })

/-- Whether a link is a membership in this profile and, where it has values, of this very value. -/
def owns (p : Profile) (value : Option String) (l : Link) : Bool :=
  l.profile == p.name && (!p.hasValue || l.value == value)

/-- Adds the profile's half of a membership. -/
def addMember (p : Profile) (l : Link) (dialog : Key) : Profile :=
  { p with buckets := p.buckets.modify l.bucket.toNat (· ++ [⟨l.id, dialog, l.value⟩]) }

/-- Removes the profile's half of a membership. -/
def removeMember (p : Profile) (l : Link) : Profile :=
  { p with buckets := p.buckets.modify l.bucket.toNat (List.eraseP fun m => m.link == l.id) }

def members (p : Profile) : List Member := p.buckets.toList.flatten

/-- The number of memberships, of one value if it is given. Only the bucket of that
value is read. -/
def count (p : Profile) (value : Option String) : Nat :=
  match p.valueOf value with
  | none => (p.buckets.toList.map List.length).foldr (· + ·) 0
  | some v =>
    match p.buckets[(Hash.texts v none p.size).toNat]? with
    | some bucket => bucket.countP fun m => m.value == some v
    | none => 0

/-- The dialogs with a membership, once for each, of one value if it is given. -/
def dialogs (p : Profile) (value : Option String) : List Key :=
  let wanted := p.valueOf value
  (p.members.filter fun m => wanted.isNone || m.value == wanted).map (·.dialog)

def bucketCounts (p : Profile) : List Nat := p.buckets.toList.map List.length

end Profile

end SipDialogs
