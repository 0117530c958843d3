-- SUMMARY: Profiles and request scopes of a session.
import SipDialogs.Session

/-! # Tags in a session

A dialog to be tagged is one that a reference is held on, or one that is looked up for the step. A
lookup that finds nothing ends the step: the profile is not even looked at. -/

namespace SipDialogs

/-- The dialog of a step. -/
inductive Target where
  /-- A reference that is held. -/
  | held (name : String)
  /-- A key that is looked up. -/
  | named (text : String)

namespace Session

/-- Acts with a reference on the dialog of a step. -/
def withTarget (s : Session) (target : Target)
    (f : Key → Registry Script → Except Fault α × Registry Script) :
    Except Fault (Option α) × Session :=
  match target with
  | .held name =>
    match s.refs.get? name with
    | none => (.ok none, s)
    | some key =>
      let (result, s) := s.act fun _ r => f key r
      (result.map some, s)
  | .named text =>
    match s.keyOf text with
    | .error e => (.error e, s)
    | .ok key =>
      match s.act fun _ r => r.lookup key with
      | (none, s) => (.ok none, s)
      | (some key, s) =>
        let (result, s) := s.act fun _ r => f key r
        (result.map some, s.giveBack key)

def attach (s : Session) (target : Target) (profile : String) (value : Option String) :
    Except Fault (Option Unit) × Session :=
  s.withTarget target fun key r => r.attach key profile value

def detach (s : Session) (target : Target) (profile : String) (value : Option String) :
    Except Fault (Option Bool) × Session :=
  s.withTarget target fun key r => r.detach key profile value

def isMember (s : Session) (target : Target) (profile : String) (value : Option String) :
    Except Fault (Option Bool) × Session :=
  s.withTarget target fun key r => (r.isMember key profile value, r)

/-- The bucket of a membership. -/
def bucketFor (s : Session) (profile : String) (value : Option String) (text : String) :
    Except Fault UInt32 := do
  let p ← s.registry.profiles.get profile
  let key ← s.keyOf text
  return p.bucketFor value key

/-! ## Request scopes -/

/-- The scope under a name; there is an empty one under every other. -/
def scope (s : Session) (name : String) : RequestScope := (s.scopes.get? name).getD {}

def withScope (s : Session) (name : String) (scope : RequestScope) : Session :=
  { s with scopes := s.scopes.set name scope }

/-- Acts on the scope under a name. -/
def actScope (s : Session) (name : String)
    (f : Environment Script → RequestScope → Registry Script → RequestScope × Registry Script) :
    Session :=
  let (scope, registry) := f s.env (s.scope name) s.registry
  (s.withRegistry registry).withScope name scope

/-- Opens an empty scope; one that was there ends. -/
def openScope (s : Session) (name : String) : Session :=
  s.actScope name fun env scope r => scope.reset env r

def closeScope (s : Session) (name : String) : Session :=
  let s := s.openScope name
  { s with scopes := s.scopes.erase name }

def beginRequest (s : Session) (name : String) (request : Nat) : Session :=
  s.actScope name fun env scope r => scope.begin env request r

/-- Makes a dialog the current one of a scope, and says whether there is such a dialog. A
reference that was held goes over to the scope. -/
def setDialog (s : Session) (name : String) (request : Nat) (target : Target) :
    Except Fault Bool × Session :=
  let found : Except Fault (Option Key) × Session :=
    match target with
    | .held ref =>
      let (key, s) := s.intoRaw ref
      (.ok key, s)
    | .named text => s.actAt text fun _ key r =>
        let (found, r) := r.lookup key
        (.ok found, r)
  match found with
  | (.error e, s) => (.error e, s)
  | (.ok none, s) => (.ok false, s)
  | (.ok (some key), s) =>
    (.ok true, s.actScope name fun env scope r => scope.setDialog env request key r)

def setProfile (s : Session) (name profile : String) (value : Option String) :
    Except Fault Unit × Session :=
  let (result, scope, registry) := (s.scope name).setProfile profile value s.registry
  (result, (s.withRegistry registry).withScope name scope)

def unsetProfile (s : Session) (name profile : String) (value : Option String) :
    Except Fault Bool × Session :=
  s.act fun _ r => (s.scope name).unsetProfile profile value r

def inProfile (s : Session) (name profile : String) (value : Option String) :
    Except Fault Bool :=
  (s.scope name).isMember profile value s.registry

end Session

end SipDialogs
