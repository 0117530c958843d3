-- SUMMARY: The tags and the dialog of the request in hand.
import SipDialogs.Registry.Membership
import SipDialogs.Registry.References

/-! # Request scopes

A request may be tagged before the dialog that it belongs to exists. Such tags are pending until the
dialog is set for the same request, and are dropped for any other. A scope owns one reference on its
current dialog. -/

namespace SipDialogs

/-- A tag that waits for its dialog. -/
structure Tag where
  profile : String
  value : Option String
  deriving DecidableEq, Repr

structure RequestScope where
  request : Option Nat := none
  current : Option Key := none
  pending : List Tag := []
  deriving DecidableEq, Repr

namespace RequestScope

/-- Gives the reference on the current dialog back. -/
def releaseCurrent (s : RequestScope) (env : Environment ε) (r : Registry ε) : Registry ε :=
  match s.current with
  | some key => r.release env key 1
  | none => r

/-- Forgets the request. The same happens at the end of a scope. -/
def reset (s : RequestScope) (env : Environment ε) (r : Registry ε) :
    RequestScope × Registry ε :=
  ({}, s.releaseCurrent env r)

/-- Turns to a request. Leaving another one forgets it. -/
def begin (s : RequestScope) (env : Environment ε) (request : Nat) (r : Registry ε) :
    RequestScope × Registry ε :=
  if s.request = some request then (s, r)
  else
    let (s, r) := s.reset env r
    ({ s with request := some request }, r)

/-- Attaches pending tags in order. One that is refused is passed over. -/
def attachTags (key : Key) (tags : List Tag) (r : Registry ε) : Registry ε :=
  tags.foldl (fun r tag => (r.attach key tag.profile tag.value).2) r

/-- Makes a dialog the current one of a request; the scope takes the caller's reference over. -/
def setDialog (s : RequestScope) (env : Environment ε) (request : Nat) (key : Key)
    (r : Registry ε) : RequestScope × Registry ε :=
  let r := if s.request = some request then attachTags key s.pending r else r
  ({ request := some request, current := some key }, s.releaseCurrent env r)

/-- Tags the current dialog, or keeps the tag until there is one. -/
def setProfile (s : RequestScope) (profile : String) (value : Option String)
    (r : Registry ε) : Except Fault Unit × RequestScope × Registry ε :=
  match r.profiles.get profile with
  | .error e => (.error e, s, r)
  | .ok p =>
    if p.hasValue && value.isNone then (.error (.missingProfileValue p.name), s, r)
    else match s.current with
      | some key =>
        let (result, r) := r.attach key profile value
        (result, s, r)
      | none => (.ok (), { s with pending := s.pending ++ [⟨profile, p.valueOf value⟩] }, r)

/-- Removes a tag of the current dialog, and says whether it had it. -/
def unsetProfile (s : RequestScope) (profile : String) (value : Option String)
    (r : Registry ε) : Except Fault Bool × Registry ε :=
  match r.profiles.get profile, s.current with
  | .error e, _ => (.error e, r)
  | .ok _, none => (.error .noCurrentDialog, r)
  | .ok _, some key => r.detach key profile value

/-- Whether the current dialog has a tag. Pending tags do not count. -/
def isMember (s : RequestScope) (profile : String) (value : Option String)
    (r : Registry ε) : Except Fault Bool :=
  match r.profiles.get profile, s.current with
  | .error e, _ => .error e
  | .ok _, none => .ok false
  | .ok _, some key => r.isMember key profile value

end RequestScope

end SipDialogs
