-- SUMMARY: Surroundings of a registry that are described by data.
import SipDialogs.Assoc
import SipDialogs.Registry.Changes
import SipDialogs.Registry.Timers

/-! # Scripts

A script says what the surroundings of a registry do: how each observer reacts, what the timer
service does while it is asked, and how the store fares. An observer calls back into the registry
at most once in its life, so calls within calls come to an end: `environment` takes a bound on
their depth, and `Script.depth` is one that is never reached. -/

namespace SipDialogs

/-- How an observer reacts. -/
structure Reaction where
  name : String
  topics : List Topic
  /-- What it adds to the context, when it is asked. -/
  context : Entries := []
  /-- The references it takes on the dialog that it hears of, once. -/
  takes : Option Nat := none
  /-- The event it then feeds to the dialog. -/
  feeds : Option Event := none
  /-- The references it then gives back. -/
  gives : Option Nat := none
  outcome : Outcome := .done

/-- How an observer reacts, and the observers that it registers in turn: each registers the next. -/
abbrev Plan := List Reaction

/-- What the timer service does when it is asked for a timer. -/
structure Scheduling where
  /-- The timer fires before the service answers. -/
  fires : Bool := false
  /-- References of the dialog that are then given back. -/
  gives : Nat := 0
  refuses : Bool := false

/-- What the timer service answers when it is asked to stop a timer. -/
inductive Stopped where
  | pending
  | fired
  | refused
  deriving DecidableEq, Repr

/-- What the timer service does when it is asked to stop a timer. -/
structure Cancelling where
  /-- The timer fires before the service answers. -/
  fires : Bool := false
  /-- References of the dialog that are then given back. -/
  gives : Nat := 0
  answer : Stopped := .pending

structure Script where
  /-- The plan of each observer, by serial. -/
  plans : Assoc Nat Plan := {}
  /-- The observers that have called back. -/
  spent : List Nat := []
  scheduling : Scheduling := {}
  cancelling : Cancelling := {}
  nextHandle : Handle := 0
  /-- The dialog that each handle was given out for. -/
  handles : Assoc Handle Key := {}
  loading : Outcome := .done
  saving : Outcome := .done
  removing : Outcome := .done

namespace Script

def plan (s : Script) (serial : Nat) : Plan :=
  (s.plans.get? serial).getD []

/-- How the store fares with a call. -/
def outcomeOf (s : Script) : Call → Outcome
  | .saved _ => s.saving
  | .removed _ => s.removing
  | _ => s.loading

/-- Calls within calls never get this deep among so many dialogs: each level is an observer that
has not called back yet or the timer of a dialog that is gone for good. -/
def depth (s : Script) (dialogs : Nat) : Nat :=
  dialogs + s.plans.entries.foldr (fun p n => p.2.length + 1 + n) 0 + 4

end Script

/-- Registers an observer with its plan, globally. -/
def Registry.enlist (r : Registry Script) (plan : Plan) : Registry Script :=
  match plan with
  | [] => r
  | first :: _ =>
    let env := { r.env with plans := r.env.plans.set r.nextSerial plan }
    ({ r with env }).observe first.name first.topics .client

/-- Registers an observer with its plan at one dialog. -/
def Registry.enlistDialog (r : Registry Script) (key : Key) (plan : Plan) :
    Except Fault (Registry Script) :=
  match plan with
  | [] => .ok r
  | first :: _ =>
    let env := { r.env with plans := r.env.plans.set r.nextSerial plan }
    ({ r with env }).observeDialog key first.name first.topics

namespace Script

/-! ## Observers -/

/-- Takes references, feeds an event, gives references back and registers the next observer, in
this order, as far as the reaction says so. -/
def callBack (inner : Environment Script) (key : Key) (reaction : Reaction) (next : Plan)
    (r : Registry Script) : Registry Script :=
  let r := match reaction.takes with
    | some count => (r.addRefs key count).2
    | none => r
  let r := match reaction.feeds with
    | some event => (r.processEvent inner key event).2
    | none => r
  let r := match reaction.gives with
    | some count => r.release inner key count
    | none => r
  r.enlist next

/-- Whether a plan calls back at all. -/
def callsBack (reaction : Reaction) (next : Plan) : Bool :=
  reaction.takes.isSome || reaction.feeds.isSome || reaction.gives.isSome || !next.isEmpty

/-- An observer hears of a dialog. -/
def react (inner : Environment Script) (o : Observer) (s : Snapshot) (n : Notice)
    (r : Registry Script) : (Outcome × Entries) × Registry Script :=
  match r.env.plan o.serial with
  | [] => ((.done, n.context), r)
  | reaction :: next =>
    let context := match n with
      | .introspect found => Entries.insertAll reaction.context found
      | _ => []
    let r :=
      if callsBack reaction next && !r.env.spent.contains o.serial then
        let env := { r.env with spent := o.serial :: r.env.spent }
        callBack inner s.key reaction next { r with env }
      else r
    ((reaction.outcome, context), r)

/-! ## The timer service -/

/-- A timer fires, and references are given back. -/
def fire (inner : Environment Script) (key : Key) (fires : Bool) (gives : Nat)
    (r : Registry Script) : Registry Script :=
  let r := if fires then r.expire inner key else r
  r.release inner key gives

/-- The service is asked for a timer. Handles are given out in order. -/
def schedule (inner : Environment Script) (key : Key) (r : Registry Script) :
    Except String Handle × Registry Script :=
  let plan := r.env.scheduling
  let r := fire inner key plan.fires plan.gives r
  if plan.refuses then (.error "timer list full", r)
  else
    let handle := r.env.nextHandle
    (.ok handle, { r with env := { r.env with
      nextHandle := handle + 1
      handles := r.env.handles.set handle key } })

/-- The service is asked to stop a timer. -/
def cancel (inner : Environment Script) (handle : Handle) (r : Registry Script) :
    Except String Bool × Registry Script :=
  let plan := r.env.cancelling
  let r := match r.env.handles.get? handle with
    | some key => fire inner key plan.fires plan.gives r
    | none => r
  (match plan.answer with
    | .pending => .ok true
    | .fired => .ok false
    | .refused => .error "timer service down", r)

/-! ## The environment -/

/-- Surroundings in which nobody calls back. -/
def still : Environment Script where
  observe _ _ n r := ((.done, n.context), r)
  schedule _ _ r := (.error "timer list full", r)
  cancel _ r := (.ok false, r)
  store c r := (r.env.outcomeOf c, r)

/-- The surroundings that a script describes, with calls within calls up to a depth. -/
def environment : Nat → Environment Script
  | 0 => still
  | depth + 1 =>
    { observe := fun o s n r => react (environment depth) o s n r
      schedule := fun key _ r => schedule (environment depth) key r
      cancel := fun handle r => cancel (environment depth) handle r
      store := fun c r => (r.env.outcomeOf c, r) }

end Script

end SipDialogs
