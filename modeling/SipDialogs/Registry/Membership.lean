-- SUMMARY: Tagging dialogs with profiles.
import SipDialogs.Registry

/-! # Membership

A dialog may be tagged with the same profile and value several times; each time is a membership of
its own. The profile's half of a membership is made first and removed last, so a link that a
dialog has always has its member. If the dialog turns out to be gone, that half is taken back. -/

namespace SipDialogs.Registry

/-- Tags a dialog with a profile. -/
def attach (r : Registry ε) (key : Key) (profile : String) (value : Option String) :
    Except Fault Unit × Registry ε :=
  match r.profiles.get profile with
  | .error e => (.error e, r)
  | .ok p =>
    match p.newLink key value with
    | .error e => (.error e, r)
    | .ok (link, numbered) =>
      let filled := numbered.addMember link key
      match r.table.pushLink key link with
      | some table => (.ok (), { r with table, profiles := r.profiles.put filled })
      | none =>
        (.error (.dialogNotFound key),
          { r with profiles := r.profiles.put (filled.removeMember link) })

/-- Removes one tag of a dialog, and says whether it had it. -/
def detach (r : Registry ε) (key : Key) (profile : String) (value : Option String) :
    Except Fault Bool × Registry ε :=
  match r.profiles.get profile with
  | .error e => (.error e, r)
  | .ok p =>
    match r.table.takeLink key (p.owns value) with
    | some (link, table) =>
      (.ok true, { r with table, profiles := r.profiles.removeMembers [link] })
    | none => (.ok false, r)

/-- Whether a dialog has a tag. -/
def isMember (r : Registry ε) (key : Key) (profile : String) (value : Option String) :
    Except Fault Bool :=
  (r.profiles.get profile).map fun p => r.table.hasLink key (p.owns value)

end SipDialogs.Registry
