-- SUMMARY: Operations on a registry, surroundings that call back, and what runs lead to.
import SipDialogs.RequestScope
import SipDialogs.Registry.Changes
import SipDialogs.Registry.Timers
import SipDialogs.Registry.Views
import SipDialogs.Script

/-! # Operations and runs

A registry is changed by operations, one after another. Observers, the timer service and the store
may perform operations of their own before they come back, and so may the surroundings of those, to
any depth. What is proved of every reachable registry holds whatever they do. -/

namespace SipDialogs

inductive Operation where
  | insert (identity : Identity) (holders : Nat)
  | restore (s : Snapshot)
  | lookup (key : Key)
  | lookupIdentity (callId fromTag toTag : String)
  | lookupDownstream (callId : String) (fromTag : Option String)
  | addRefs (key : Key) (count : Nat)
  | release (key : Key) (count : Nat)
  | nextPhase (key : Key) (event : Event)
  | processEvent (key : Key) (event : Event)
  | setLegInfo (key : Key) (side : Leg) (info : LegInfo)
  | updateCseq (key : Key) (side : Leg) (cseq : String)
  | startTimer (key : Key) (milliseconds : Option Nat)
  | stopTimer (key : Key)
  | expire (key : Key)
  | snapshot (key : Key) (context : Bool)
  | snapshotAll (context : Bool)
  | takeDirty
  | observeDialog (key : Key) (name : String) (topics : List Topic)
  | attach (key : Key) (profile : String) (value : Option String)
  | detach (key : Key) (profile : String) (value : Option String)

/-- Whether an operation is one that request scopes perform. -/
def Operation.isScoped : Operation → Bool
  | .release .. | .attach .. | .detach .. => true
  | _ => false

/-- Whether an operation may link a dialog or change a membership of a linked one. -/
def Operation.isTagging : Operation → Bool
  | .insert .. | .restore .. | .attach .. | .detach .. => true
  | _ => false

namespace Registry

/-- The registry after an operation. -/
def perform (env : Environment ε) (r : Registry ε) : Operation → Registry ε
  | .insert identity holders => (r.insert env identity holders).2
  | .restore s => (r.restore s).2
  | .lookup key => (r.lookup key).2
  | .lookupIdentity callId fromTag toTag => (r.lookupIdentity callId fromTag toTag).2
  | .lookupDownstream callId fromTag => (r.lookupDownstream callId fromTag).2
  | .addRefs key count => (r.addRefs key count).2
  | .release key count => r.release env key count
  | .nextPhase key event => (r.nextPhase key event).2
  | .processEvent key event => (r.processEvent env key event).2
  | .setLegInfo key side info => (r.setLegInfo key side info).2
  | .updateCseq key side cseq => (r.updateCseq key side cseq).2
  | .startTimer key milliseconds => (r.startTimer env key milliseconds).2
  | .stopTimer key => (r.stopTimer env key).2
  | .expire key => r.expire env key
  | .snapshot key context => (r.snapshot env key context).2
  | .snapshotAll context => (r.snapshotAll env context).2
  | .takeDirty => r.takeDirty.2
  | .observeDialog key name topics => (r.observeDialog key name topics).toOption.getD r
  | .attach key profile value => (r.attach key profile value).2
  | .detach key profile value => (r.detach key profile value).2

/-- What a registry may become through operations that `P` allows in their surroundings. Between
them, anything may happen to it that leaves the table and the profiles as they are. -/
inductive Acts (P : Environment ε → Operation → Prop) : Registry ε → Registry ε → Prop where
  | aside {r r' : Registry ε} (htable : r'.table = r.table)
      (hprofiles : r'.profiles = r.profiles) : Acts P r r'
  | step {env : Environment ε} {op : Operation} (hop : P env op) (r : Registry ε) :
      Acts P r (r.perform env op)
  | trans {r r' r'' : Registry ε} : Acts P r r' → Acts P r' r'' → Acts P r r''

@[refl] theorem Acts.refl {P : Environment ε → Operation → Prop} (r : Registry ε) : Acts P r r :=
  .aside rfl rfl

end Registry

/-- Whatever these surroundings do when they are called, they do by operations that `P` allows. -/
structure Environment.Within (P : Environment ε → Operation → Prop) (env : Environment ε) :
    Prop where
  observe : ∀ o s n r, Registry.Acts P r (env.observe o s n r).2
  schedule : ∀ key ms r, Registry.Acts P r (env.schedule key ms r).2
  cancel : ∀ handle r, Registry.Acts P r (env.cancel handle r).2
  store : ∀ c r, Registry.Acts P r (env.store c r).2

/-- Surroundings that call back no deeper than this, and then perform operations of `Q` only. -/
def Environment.CallsBack (Q : Operation → Prop) : Nat → Environment ε → Prop
  | 0 => Within fun _ _ => False
  | depth + 1 => Within fun env op => Q op ∧ CallsBack Q depth env

/-- Surroundings that call back no deeper than this, whatever they do then. -/
def Environment.Lawful (depth : Nat) (env : Environment ε) : Prop :=
  env.CallsBack (fun _ => True) depth

/-- Surroundings that call back no deeper than this, and then neither link dialogs nor tag them. -/
def Environment.Discreet (depth : Nat) (env : Environment ε) : Prop :=
  env.CallsBack (fun op => op.isTagging = false) depth

namespace Registry

/-- Registries that some run leads to, in surroundings that call back to any depth. -/
def Reachable (r : Registry ε) : Prop :=
  ∃ config clock hasTimer env r₀, create config clock hasTimer env = .ok r₀ ∧
    Acts (fun env _ => ∃ depth, Environment.Lawful depth env) r₀ r

/-- The registry after a run. -/
def performAll (env : Environment ε) (r : Registry ε) (ops : List Operation) : Registry ε :=
  ops.foldl (perform env) r

theorem Reachable.acts {r r' : Registry ε} (h : r.Reachable)
    (hacts : Acts (fun env _ => ∃ depth, Environment.Lawful depth env) r r') : r'.Reachable := by
  obtain ⟨config, clock, hasTimer, e, r₀, hcreate, hbefore⟩ := h
  exact ⟨config, clock, hasTimer, e, r₀, hcreate, hbefore.trans hacts⟩

theorem Reachable.step {r : Registry ε} (h : r.Reachable) {env : Environment ε} {depth : Nat}
    (henv : env.Lawful depth) (op : Operation) : (r.perform env op).Reachable :=
  h.acts (.step ⟨depth, henv⟩ r)

theorem performAll_acts {P : Environment ε → Operation → Prop} {env : Environment ε}
    (r : Registry ε) {ops : List Operation} (hops : ∀ op ∈ ops, P env op) :
    Acts P r (r.performAll env ops) := by
  induction ops generalizing r with
  | nil => exact .refl r
  | cons op ops ih =>
    obtain ⟨hop, hops⟩ := List.forall_mem_cons.1 hops
    exact (Acts.step hop r).trans (ih _ hops)

/-- These registries are the two ends of a run of operations of `Q`. -/
def Performs (Q : Operation → Prop) (env : Environment ε) (r r' : Registry ε) : Prop :=
  ∃ ops : List Operation, (∀ op ∈ ops, Q op) ∧ r' = r.performAll env ops

namespace Performs

variable {Q : Operation → Prop} {env : Environment ε} {r r' r'' : Registry ε}

@[refl] theorem refl (r : Registry ε) : r.Performs Q env r := ⟨[], List.forall_mem_nil _, rfl⟩

theorem single (op : Operation) (hop : Q op) (r : Registry ε) :
    r.Performs Q env (r.perform env op) := ⟨[op], by simpa using hop, rfl⟩

theorem trans (h : r.Performs Q env r') (h' : r'.Performs Q env r'') : r.Performs Q env r'' := by
  obtain ⟨ops, hops, rfl⟩ := h
  obtain ⟨ops', hops', rfl⟩ := h'
  refine ⟨ops ++ ops', List.forall_mem_append.2 ⟨hops, hops'⟩, ?_⟩
  simp only [performAll, List.foldl_append]

theorem acts {P : Environment ε → Operation → Prop} (h : r.Performs Q env r')
    (henv : ∀ op, P env op) : Acts P r r' := by
  obtain ⟨ops, -, rfl⟩ := h
  exact performAll_acts r fun op _ => henv op

end Performs

theorem Reachable.performAll {r : Registry ε} (h : r.Reachable) {env : Environment ε}
    {depth : Nat} (henv : env.Lawful depth) (ops : List Operation) :
    (r.performAll env ops).Reachable :=
  h.acts (performAll_acts r fun _ _ => ⟨depth, henv⟩)

/-- A new registry of one bucket, without profiles and without a timer service. -/
def blank : Registry Unit where
  config := { hashSize := 1 }
  clock := .epoch
  table := { size := 1, defaultTimeout := Table.defaultLifetime, stripes := ⟨#[#[{}]]⟩ }
  profiles := {}
  hasTimer := false
  env := ()

theorem create_blank : create { hashSize := 1 } .epoch false () = .ok blank := rfl

theorem blank_reachable : blank.Reachable :=
  ⟨{ hashSize := 1 }, .epoch, false, (), blank, create_blank, .refl _⟩

/-- A new registry with a timer service. -/
def timed : Registry Unit := { blank with hasTimer := true }

theorem create_timed : create { hashSize := 1 } .epoch true () = .ok timed := rfl

theorem timed_reachable : timed.Reachable :=
  ⟨{ hashSize := 1 }, .epoch, true, (), timed, create_timed, .refl _⟩

end Registry

/-- Surroundings that do what they are asked for and never call back. -/
def Environment.quiet : Environment Unit where
  observe _ _ n r := ((.done, n.context), r)
  schedule _ _ r := (.ok 0, r)
  cancel _ r := (.ok true, r)
  store _ r := (.done, r)

theorem Environment.quiet_callsBack (Q : Operation → Prop) : Environment.quiet.CallsBack Q 0 :=
  ⟨fun _ _ _ r => .refl r, fun _ _ r => .refl r, fun _ r => .refl r, fun _ r => .refl r⟩

theorem Environment.quiet_lawful : Environment.quiet.Lawful 0 := quiet_callsBack _

/-- Surroundings in which a timer fires while it is being armed, and observers come back like
this. -/
def Environment.abrupt (outcome : Outcome) : Environment Unit where
  observe _ _ _ r := ((outcome, []), r)
  schedule key _ r := (.ok 0, r.expire .quiet key)
  cancel _ r := (.ok true, r)
  store _ r := (.done, r)

/-! ## Request scopes

What a scope does to a registry is a run of operations. -/

namespace RequestScope

variable {P : Environment ε → Operation → Prop} {env : Environment ε}

theorem reset_performs (s : RequestScope) (r : Registry ε) :
    r.Performs (·.isScoped = true) env (s.reset env r).2 := by
  unfold reset releaseCurrent
  dsimp only
  split
  next key _ => exact .single (.release key 1) (by rfl) r
  next => exact .refl r

theorem begin_performs (s : RequestScope) (request : Nat) (r : Registry ε) :
    r.Performs (·.isScoped = true) env (s.begin env request r).2 := by
  unfold begin
  split
  · exact .refl r
  · exact s.reset_performs r

theorem attachTags_performs (key : Key) (tags : List Tag) (r : Registry ε) :
    r.Performs (·.isScoped = true) env (attachTags key tags r) := by
  induction tags generalizing r with
  | nil => exact .refl r
  | cons tag tags ih =>
    have hattach : r.Performs (·.isScoped = true) env (r.attach key tag.profile tag.value).2 :=
      .single (.attach key tag.profile tag.value) (by rfl) r
    exact hattach.trans (ih _)

theorem setDialog_performs (s : RequestScope) (request : Nat) (key : Key) (r : Registry ε) :
    r.Performs (·.isScoped = true) env (s.setDialog env request key r).2 := by
  unfold setDialog
  dsimp only
  split
  · exact (attachTags_performs key s.pending r).trans (s.reset_performs _)
  · exact s.reset_performs r

theorem setProfile_performs (s : RequestScope) (profile : String) (value : Option String)
    (r : Registry ε) :
    r.Performs (·.isScoped = true) env (s.setProfile profile value r).2.2 := by
  unfold setProfile
  split
  · exact .refl r
  · split
    · exact .refl r
    · split
      next key _ => exact .single (.attach key profile value) (by rfl) r
      next => exact .refl r

theorem unsetProfile_performs (s : RequestScope) (profile : String) (value : Option String)
    (r : Registry ε) :
    r.Performs (·.isScoped = true) env (s.unsetProfile profile value r).2 := by
  unfold unsetProfile
  split
  · exact .refl r
  · exact .refl r
  next key _ _ => exact .single (.detach key profile value) (by rfl) r

theorem begin_acts (henv : ∀ op, P env op) (s : RequestScope) (request : Nat) (r : Registry ε) :
    Registry.Acts P r (s.begin env request r).2 := (s.begin_performs request r).acts henv

theorem setDialog_acts (henv : ∀ op, P env op) (s : RequestScope) (request : Nat) (key : Key)
    (r : Registry ε) : Registry.Acts P r (s.setDialog env request key r).2 :=
  (s.setDialog_performs request key r).acts henv

theorem setProfile_acts (henv : ∀ op, P env op) (s : RequestScope) (profile : String)
    (value : Option String) (r : Registry ε) :
    Registry.Acts P r (s.setProfile profile value r).2.2 :=
  (s.setProfile_performs profile value r).acts henv

theorem unsetProfile_acts (henv : ∀ op, P env op) (s : RequestScope) (profile : String)
    (value : Option String) (r : Registry ε) :
    Registry.Acts P r (s.unsetProfile profile value r).2 :=
  (s.unsetProfile_performs profile value r).acts henv

end RequestScope

/-! ## Scripts

The surroundings that a script describes call back no deeper than they are built to. -/

namespace Script

variable {P : Environment Script → Operation → Prop} {inner : Environment Script}

/-- The operations of a timer that may fire, in order. -/
def firing (key : Key) (fires : Bool) (gives : Nat) : List Operation :=
  (if fires then [.expire key] else []) ++ [.release key gives]

theorem fire_eq (inner : Environment Script) (key : Key) (fires : Bool) (gives : Nat)
    (r : Registry Script) :
    fire inner key fires gives r = r.performAll inner (firing key fires gives) := by
  cases fires <;> rfl

theorem fire_acts (hinner : ∀ op, P inner op) (key : Key) (fires : Bool) (gives : Nat)
    (r : Registry Script) : Registry.Acts P r (fire inner key fires gives r) := by
  rw [fire_eq]
  exact Registry.performAll_acts r fun op _ => hinner op

theorem enlist_acts (plan : Plan) (r : Registry Script) : Registry.Acts P r (r.enlist plan) := by
  unfold Registry.enlist
  split
  · exact .refl r
  · exact .aside rfl rfl

/-- The operations of a reaction, in order. -/
def operations (key : Key) (reaction : Reaction) : List Operation :=
  (reaction.takes.map (Operation.addRefs key)).toList
    ++ (reaction.feeds.map (Operation.processEvent key)).toList
    ++ (reaction.gives.map (Operation.release key)).toList

theorem callBack_eq (inner : Environment Script) (key : Key) (reaction : Reaction) (next : Plan)
    (r : Registry Script) :
    callBack inner key reaction next r
      = (r.performAll inner (operations key reaction)).enlist next := by
  unfold callBack operations
  cases reaction.takes <;> cases reaction.feeds <;> cases reaction.gives <;> rfl

theorem callBack_acts (hinner : ∀ op, P inner op) (key : Key) (reaction : Reaction) (next : Plan)
    (r : Registry Script) : Registry.Acts P r (callBack inner key reaction next r) := by
  rw [callBack_eq]
  exact (Registry.performAll_acts r fun op _ => hinner op).trans (enlist_acts next _)

theorem react_acts (hinner : ∀ op, P inner op) (o : Observer) (s : Snapshot) (n : Notice)
    (r : Registry Script) : Registry.Acts P r (react inner o s n r).2 := by
  unfold react
  split
  · exact .refl r
  next reaction next _ =>
    dsimp only
    split
    · refine Registry.Acts.trans ?_ (callBack_acts hinner s.key reaction next _)
      exact .aside rfl rfl
    · exact .refl r

theorem schedule_acts (hinner : ∀ op, P inner op) (key : Key) (r : Registry Script) :
    Registry.Acts P r (schedule inner key r).2 := by
  have hfire := fire_acts hinner key r.env.scheduling.fires r.env.scheduling.gives r
  unfold schedule
  dsimp only
  split
  · exact hfire
  · exact hfire.trans (.aside rfl rfl)

theorem cancel_acts (hinner : ∀ op, P inner op) (handle : Handle) (r : Registry Script) :
    Registry.Acts P r (cancel inner handle r).2 := by
  unfold cancel
  dsimp only
  split
  next key _ => exact fire_acts hinner key _ _ r
  next => exact .refl r

theorem environment_lawful (depth : Nat) : (environment depth).Lawful depth := by
  induction depth with
  | zero => exact ⟨fun _ _ _ r => .refl r, fun _ _ r => .refl r, fun _ r => .refl r,
      fun _ r => .refl r⟩
  | succ depth ih =>
    have hinner := fun _ : Operation => And.intro trivial ih
    exact ⟨fun o s n r => react_acts hinner o s n r, fun key _ r => schedule_acts hinner key r,
      fun handle r => cancel_acts hinner handle r, fun _ r => .refl r⟩

end Script

end SipDialogs
