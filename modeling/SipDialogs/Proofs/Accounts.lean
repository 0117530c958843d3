-- SUMMARY: Runs in which everybody gives back what it owns, and what the reference counts are then.
import SipDialogs.Proofs.Edits
import SipDialogs.Proofs.Ledger

/-! # Accounts

A run is booked operation by operation: what an operation hands out is entered in the ledger, and
what it is given back is taken out. As long as nobody gives back more than the ledger says it has,
the ledger stays balanced. Observers leave the table alone here; the timer service may fire any
timers, for any dialogs, while it is asked. -/

namespace SipDialogs

/-! ## Surroundings -/

theorem Registry.cancelTimer_of_none (r : Registry ε) {env : Environment ε} {d : Dialog}
    (htimer : d.timer = none) : r.cancelTimer env d = r := by
  unfold Registry.cancelTimer
  simp [htimer]

/-- Surroundings that leave the table alone, except for the timers that fire while the service is
asked. -/
structure Environment.Calm (env : Environment ε) where
  /-- The dialogs whose timers fire while a timer is armed. -/
  onSchedule : Key → Nat → Registry ε → List Key
  /-- The dialogs whose timers fire while a timer is stopped. -/
  onCancel : Handle → Registry ε → List Key
  observe_table : ∀ o s n r, (env.observe o s n r).2.table = r.table
  schedule_table : ∀ key ms r,
    (env.schedule key ms r).2.table = r.table.expiredAll (onSchedule key ms r)
  cancel_table : ∀ handle r,
    (env.cancel handle r).2.table = r.table.expiredAll (onCancel handle r)

namespace Environment.Calm

variable {env : Environment ε}

theorem notify_table (calm : env.Calm) (r : Registry ε) (own : List Observer) (s : Snapshot)
    (n : Notice) : (r.notify env own s n).2.table = r.table := by
  unfold Registry.notify
  generalize (r.observers ++ own).filter (·.wants [n.topic]) = observers
  induction observers generalizing n r with
  | nil => rfl
  | cons o observers ih =>
    have htell : (Registry.tell env s (n, r) o).2.table = r.table := by
      unfold Registry.tell
      dsimp only
      split
      · split <;> rfl
      · exact calm.observe_table o s n _
    exact (ih _ _).trans htell

/-- A dialog without a timer is torn down without a word to the timer service. -/
theorem destroy_table (calm : env.Calm) (r : Registry ε) {d : Dialog} (htimer : d.timer = none) :
    (r.destroy env d).table = r.table.countDestroyed := by
  unfold Registry.destroy
  dsimp only
  rw [Registry.cancelTimer_of_none r (d := { d with version := d.version + 1 }) htimer]
  split
  · simp [calm.notify_table]
  · rfl

theorem release_table (calm : env.Calm) (r : Registry ε) {key : Key} {count : Nat}
    (htimer : ∀ d, (r.table.release key count).1 = some d → d.timer = none) :
    (r.release env key count).table = r.table.released key count := by
  unfold Registry.release Table.released
  generalize r.table.release key count = released at htimer
  obtain ⟨_ | d, t⟩ := released
  · rfl
  · exact calm.destroy_table { r with table := t } (htimer d rfl)

/-- The timer slot of a dialog is empty by the time that its expiry gives the reference back. -/
theorem disarmed_table (calm : env.Calm) {r : Registry ε} (hwf : r.table.Wf) {key : Key}
    {d : Dialog} (hfind : r.table.find? key = some d) (htimer : d.timer.isSome = true) :
    ({ r with table := r.table.put { d with timer := none } }.release env key 1).table
      = r.table.expired key := by
  obtain rfl : d.key = key := hwf.key_of_find? hfind
  have hput := Table.find?_put_of_linked (d := { d with timer := none }) hfind d.key
  rw [calm.release_table]
  · simp [Table.expired, hfind, htimer]
  · intro e he
    obtain ⟨⟨f, hf, rfl⟩, -⟩ := Table.of_release he
    rw [if_pos rfl] at hput
    cases hput.symm.trans hf
    rfl

/-- A timer that fires does to the table what is said of it there. -/
theorem expire_table (calm : env.Calm) {r : Registry ε} (hwf : r.table.Wf) (key : Key) :
    (r.expire env key).table = r.table.expired key := by
  unfold Registry.expire
  cases hfind : r.table.find? key with
  | none => simp [Table.expired, hfind]
  | some d =>
    dsimp only
    split
    next htimer => exact calm.disarmed_table hwf hfind htimer
    next htimer => simp [Table.expired, hfind, htimer]

end Environment.Calm

/-! ## Booking -/

namespace Ledger

/-- What an operation asks for is owned by whoever asks: a dialog is restored with the table's
reference, no more references are given back than were taken, and each transaction ends once. -/
def Owns (L : Ledger) : Operation → Prop
  | .restore s => s.phase ≠ .deleted
  | .release key count => count ≤ (L key).refs
  | .nextPhase key event | .processEvent key event => event.returned ≤ (L key).holders
  | _ => True

/-- The ledger after an operation. -/
def book (L : Ledger) (env : Environment ε) (r : Registry ε) : Operation → Ledger
  | .insert identity holders =>
    match (r.insert env identity holders).1 with
    | .ok key => L.set key { holders }
    | .error _ => L
  | .lookup key =>
    match (r.lookup key).1 with
    | some key => L.take key 1
    | none => L
  | .lookupIdentity callId fromTag toTag =>
    match (r.lookupIdentity callId fromTag toTag).1 with
    | some (key, _) => L.take key 1
    | none => L
  | .lookupDownstream callId fromTag =>
    match (r.lookupDownstream callId fromTag).1 with
    | some key => L.take key 1
    | none => L
  | .addRefs key count => if (r.addRefs key count).1 then L.take key count else L
  | .release key count => L.give key count
  | .nextPhase key event =>
    match (r.nextPhase key event).1 with
    | some change => (L.finish key event).take key change.unref
    | none => L
  | .processEvent key event =>
    match (r.processEvent env key event).1 with
    | some _ => L.finish key event
    | none => L
  | _ => L

/-- Fewer references than a dialog can count are outstanding on each. -/
def Bounded (L : Ledger) (t : Table) : Prop :=
  ∀ key d, t.find? key = some d → (L key).total + d.stake < UInt32.size

end Ledger

/-- What a dialog is when an operation unlinks it: moved on by an event, or without the timer that
had its last reference. -/
def Operation.lastSeen (key : Key) (d : Dialog) : Operation → Dialog
  | .processEvent k event =>
    if k = key then ((d.phase.next? d.flags event).map d.move).getD d else d
  | .startTimer _ _ | .stopTimer _ | .expire _ => { d with timer := none }
  | _ => d

namespace Registry

/-- The registry at the moment when the service is asked for a timer, and the time to expiry. -/
def arming? (r : Registry ε) (key : Key) (milliseconds : Option Nat) :
    Option (Nat × Registry ε) :=
  if r.hasTimer then
    (r.table.find? key).bind fun d =>
      (prepareTimer d milliseconds).toOption.map fun d =>
        let ms := milliseconds.getD (d.timeout.toNat * 1000)
        (ms, { r with table := r.table.put d }.record (.scheduled key ms))
  else none

/-- The handle to stop, if the dialog has an armed timer. -/
def armed? (r : Registry ε) (key : Key) : Option Handle :=
  if r.hasTimer then (r.table.timer? key).bind (·.handle?) else none

/-- The anomalies that an operation counts without giving references back: references taken on a
dialog that is not linked, timers that fire for a dialog without one, and a timer whose mark is gone
although the service says that it never fired. -/
def mishaps {env : Environment ε} (calm : env.Calm) (r : Registry ε) : Operation → Nat
  | .addRefs key _ => if r.table.isLinked key then 0 else 1
  | .expire key => Table.strays [key] r.table
  | .startTimer key milliseconds =>
    match r.arming? key milliseconds with
    | none => 0
    | some (ms, r) =>
      Table.strays (calm.onSchedule key ms r) r.table +
        match env.schedule key ms r with
        | (.error _, r) => if r.table.timer? key = some .arming then 0 else 1
        | (.ok _, _) => 0
  | .stopTimer key =>
    match r.armed? key with
    | none => 0
    | some handle =>
      let r := r.record (.cancelled handle)
      Table.strays (calm.onCancel handle r) r.table +
        match env.cancel handle r with
        | (.ok true, r) => if r.table.timer? key = some (.armed handle) then 0 else 1
        | _ => 0
  | _ => 0

/-- Tagging is nothing that a ledger can tell. -/
theorem attach_agrees {r : Registry ε} (hwf : r.table.Wf) (key : Key) (profile : String)
    (value : Option String) : r.table.Agrees (r.attach key profile value).2.table := by
  unfold attach
  split
  · exact .refl r.table
  · split
    · exact .refl r.table
    next l numbered _ =>
      unfold Table.pushLink
      cases hfind : r.table.find? key with
      | none => exact .refl r.table
      | some d => exact .put hwf hfind (e := { d with links := d.links ++ [l] }) rfl rfl

theorem detach_agrees {r : Registry ε} (hwf : r.table.Wf) (key : Key) (profile : String)
    (value : Option String) : r.table.Agrees (r.detach key profile value).2.table := by
  unfold detach
  split
  · exact .refl r.table
  · split
    next l t htake =>
      obtain ⟨d, hfind, -, rfl⟩ := Table.takeLink_eq_some htake
      exact .put hwf hfind rfl rfl
    next => exact .refl r.table

end Registry

/-- Fewer references than a dialog can count are outstanding after an operation, and while it asks
for a timer. -/
structure Ledger.Bounds (env : Environment ε) (L : Ledger) (r : Registry ε) (op : Operation) :
    Prop where
  after : Bounded (L.book env r op) (r.perform env op).table
  asking : ∀ {key milliseconds ms s}, op = .startTimer key milliseconds →
    r.arming? key milliseconds = some (ms, s) → Bounded L s.table

/-! ## One operation -/

/-- An operation keeps the ledger balanced, counts its mishaps and no other anomalies, and unlinks a
dialog only when nobody has a reference on it, the table and its timer included. -/
structure Ledger.Follows {env : Environment ε} (calm : env.Calm) (L : Ledger) (r : Registry ε)
    (op : Operation) : Prop where
  balanced : Balanced (L.book env r op) (r.perform env op).table
  anomalies : (r.perform env op).table.anomalies = r.table.anomalies + r.mishaps calm op
  ends : ∀ key d, r.table.find? key = some d → (r.perform env op).table.find? key = none →
    (op.lastSeen key d).stake = 0

namespace Ledger

variable {env : Environment ε} (calm : env.Calm) {L : Ledger} {r : Registry ε}

/-- Operations that change nothing that a ledger can tell. -/
theorem Follows.of_agrees {op : Operation} (h : Balanced L r.table)
    (hagrees : r.table.Agrees (r.perform env op).table) (hbook : L.book env r op = L)
    (hmishaps : r.mishaps calm op = 0) : Follows calm L r op where
  balanced := by
    rw [hbook]
    exact h.of_agrees hagrees
  anomalies := by rw [hmishaps, hagrees.anomalies, Nat.add_zero]
  ends key d hd hnone := by cases hd.symm.trans ((hagrees.find?_eq_none_iff key).1 hnone)

/-! ### New dialogs and lookups -/

theorem follows_insert {identity : Identity} {holders : Nat} (h : Balanced L r.table)
    (hbound : Bounded (L.book env r (.insert identity holders))
      (r.perform env (.insert identity holders)).table) :
    Follows calm L r (.insert identity holders) := by
  cases hinsert : r.table.insert identity holders r.clock with
  | error e =>
    have hsame : r.insert env identity holders = (.error e, r) := by
      simp [Registry.insert, hinsert]
    refine .of_agrees calm h (.of_eq ?_) ?_ rfl
    · simp [Registry.perform, hsame]
    · simp [book, hsame]
  | ok linked =>
    obtain ⟨d, t⟩ := linked
    obtain ⟨hlinks, hd⟩ := Table.insert_links hinsert
    have hkey : (r.insert env identity holders).1 = .ok d.key := by
      simp [Registry.insert, hinsert]
    have htable : (r.perform env (.insert identity holders)).table = t := by
      simp only [Registry.perform, Registry.insert, hinsert]
      split
      · exact calm.notify_table ..
      · rfl
    have hbook : L.book env r (.insert identity holders) = L.set d.key { holders } := by
      simp [book, hkey]
    rw [hbook, htable] at hbound
    have hfound : t.find? d.key = some d := by rw [hlinks.find?, if_pos rfl]
    have hstake : d.stake = 1 := by
      rw [hd]
      rfl
    have hlt : holders + 1 < UInt32.size := by
      have hlt := hbound d.key d hfound
      rw [set_self, hstake] at hlt
      exact hlt
    constructor
    · rw [hbook, htable]
      exact h.insert hinsert hlt
    · rw [htable, hlinks.anomalies]
      rfl
    · intro key e he hnone
      rw [htable, hlinks.find?] at hnone
      split at hnone
      · cases hnone
      · cases he.symm.trans hnone

theorem follows_restore {s : Snapshot} (h : Balanced L r.table) (hown : L.Owns (.restore s)) :
    Follows calm L r (.restore s) := by
  cases hrestore : r.table.restore s with
  | error e =>
    have hsame : r.restore s = (.error e, r) := by simp [Registry.restore, hrestore]
    refine .of_agrees calm h (.of_eq ?_) rfl rfl
    simp [Registry.perform, hsame]
  | ok linked =>
    obtain ⟨d, t⟩ := linked
    obtain ⟨hlinks, -⟩ := Table.restore_links hrestore
    have htable : (r.perform env (.restore s)).table = t := by
      simp [Registry.perform, Registry.restore, hrestore]
    constructor
    · rw [htable]
      exact h.restore hrestore hown
    · rw [htable, hlinks.anomalies]
      rfl
    · intro key e he hnone
      rw [htable, hlinks.find?] at hnone
      split at hnone
      · cases hnone
      · cases he.symm.trans hnone

/-- Operations that put a dialog in the place of itself, with an account that follows. -/
theorem Follows.of_put {op : Operation} {key : Key} {d e : Dialog} (h : Balanced L r.table)
    (hfind : r.table.find? key = some d) (hkey : e.key = d.key)
    (htable : (r.perform env op).table = r.table.put e)
    (hbalanced : Balanced (L.book env r op) (r.table.put e))
    (hmishaps : r.mishaps calm op = 0) : Follows calm L r op where
  balanced := by
    rw [htable]
    exact hbalanced
  anomalies := by rw [htable, Table.anomalies_put, hmishaps, Nat.add_zero]
  ends := by
    obtain rfl : e.key = key := hkey.trans (h.wf.key_of_find? hfind)
    intro k f hf hnone
    rw [htable, Table.find?_put_of_linked hfind] at hnone
    split at hnone
    · cases hnone
    · cases hf.symm.trans hnone

/-- A lookup that finds nothing leaves everything as it was. -/
theorem Follows.of_missed {op : Operation} (h : Balanced L r.table)
    (hsame : r.perform env op = r) (hbook : L.book env r op = L)
    (hmishaps : r.mishaps calm op = 0) : Follows calm L r op := by
  refine .of_agrees calm h (.of_eq ?_) hbook hmishaps
  rw [hsame]

/-- A lookup that finds a dialog hands one reference out. -/
theorem Follows.of_retained {op : Operation} {d : Dialog} (h : Balanced L r.table)
    (hfind : r.table.find? d.key = some d) (hretain : r.perform env op = r.retain d)
    (hbook : L.book env r op = L.take d.key 1) (hmishaps : r.mishaps calm op = 0)
    (hbound : Bounded (L.book env r op) (r.perform env op).table) : Follows calm L r op := by
  have htable : (r.perform env op).table = r.table.put d.retain := congrArg Registry.table hretain
  refine .of_put calm h hfind (e := d.retain) rfl htable ?_ hmishaps
  have hfound := Table.find?_put_of_linked (d := d.retain) hfind d.key
  rw [if_pos (show d.key = d.retain.key from rfl)] at hfound
  rw [hbook, htable] at hbound
  have hlt := hbound d.key d.retain hfound
  have hstake : d.retain.stake = d.stake := rfl
  rw [take, set_self, hstake] at hlt
  rw [hbook]
  refine h.retain hfind ?_
  simp only [Account.total] at hlt ⊢
  omega

theorem follows_lookup {key : Key} (h : Balanced L r.table)
    (hbound : Bounded (L.book env r (.lookup key)) (r.perform env (.lookup key)).table) :
    Follows calm L r (.lookup key) := by
  cases hlookup : r.table.lookup key with
  | none =>
    have hsame : r.lookup key = (none, r) := by simp [Registry.lookup, hlookup]
    exact .of_missed calm h (by simp [Registry.perform, hsame]) (by simp [book, hsame]) rfl
  | some d =>
    have hfind := (Table.of_lookup hlookup).1
    obtain rfl : d.key = key := h.wf.key_of_find? hfind
    have hfound : r.lookup d.key = (some d.key, r.retain d) := by simp [Registry.lookup, hlookup]
    exact .of_retained calm h hfind (by simp [Registry.perform, hfound]) (by simp [book, hfound])
      rfl hbound

theorem follows_lookupIdentity {callId fromTag toTag : String} (h : Balanced L r.table)
    (hbound : Bounded (L.book env r (.lookupIdentity callId fromTag toTag))
      (r.perform env (.lookupIdentity callId fromTag toTag)).table) :
    Follows calm L r (.lookupIdentity callId fromTag toTag) := by
  cases hlookup : r.table.lookupIdentity callId fromTag toTag with
  | none =>
    have hsame : r.lookupIdentity callId fromTag toTag = (none, r) := by
      simp [Registry.lookupIdentity, hlookup]
    exact .of_missed calm h (by simp [Registry.perform, hsame]) (by simp [book, hsame]) rfl
  | some found =>
    obtain ⟨d, way⟩ := found
    have hfind := (h.wf.of_lookupIdentity hlookup).1
    have hfound : r.lookupIdentity callId fromTag toTag = (some (d.key, way), r.retain d) := by
      simp [Registry.lookupIdentity, hlookup]
    exact .of_retained calm h hfind (by simp [Registry.perform, hfound]) (by simp [book, hfound])
      rfl hbound

theorem follows_lookupDownstream {callId : String} {fromTag : Option String}
    (h : Balanced L r.table)
    (hbound : Bounded (L.book env r (.lookupDownstream callId fromTag))
      (r.perform env (.lookupDownstream callId fromTag)).table) :
    Follows calm L r (.lookupDownstream callId fromTag) := by
  cases hlookup : r.table.lookupDownstream callId fromTag with
  | none =>
    have hsame : r.lookupDownstream callId fromTag = (none, r) := by
      simp [Registry.lookupDownstream, hlookup]
    exact .of_missed calm h (by simp [Registry.perform, hsame]) (by simp [book, hsame]) rfl
  | some d =>
    have hfind := (h.wf.of_lookupDownstream hlookup).1
    have hfound : r.lookupDownstream callId fromTag = (some d.key, r.retain d) := by
      simp [Registry.lookupDownstream, hlookup]
    exact .of_retained calm h hfind (by simp [Registry.perform, hfound]) (by simp [book, hfound])
      rfl hbound

/-! ### Taking and giving back -/

theorem follows_addRefs {key : Key} {count : Nat} (h : Balanced L r.table)
    (hbound : Bounded (L.book env r (.addRefs key count))
      (r.perform env (.addRefs key count)).table) :
    Follows calm L r (.addRefs key count) := by
  cases hfind : r.table.find? key with
  | none =>
    have hresult : r.addRefs key count = (false, { r with table := r.table.countAnomaly }) := by
      simp [Registry.addRefs, Table.addRefs, hfind]
    have hbook : L.book env r (.addRefs key count) = L := by simp [book, hresult]
    have htable : (r.perform env (.addRefs key count)).table = r.table.countAnomaly := by
      simp [Registry.perform, hresult]
    have hmishaps : r.mishaps calm (.addRefs key count) = 1 := by
      simp [Registry.mishaps, Table.isLinked, hfind]
    constructor
    · rw [hbook, htable]
      exact h.countAnomaly
    · rw [hmishaps, htable]
      rfl
    · intro k d hd hnone
      rw [htable] at hnone
      cases hd.symm.trans hnone
  | some d =>
    obtain rfl : d.key = key := h.wf.key_of_find? hfind
    have hresult : r.addRefs d.key count
        = (true, { r with table := r.table.put (d.addRefs count) }) := by
      simp [Registry.addRefs, Table.addRefs, hfind]
    have hbook : L.book env r (.addRefs d.key count) = L.take d.key count := by
      simp [book, hresult]
    have htable : (r.perform env (.addRefs d.key count)).table
        = r.table.put (d.addRefs count) := by
      simp [Registry.perform, hresult]
    have hbound' : (L d.key).total + count + d.stake < UInt32.size := by
      rw [hbook, htable] at hbound
      have hfound := Table.find?_put_of_linked (d := d.addRefs count) hfind d.key
      rw [show (d.addRefs count).key = d.key from rfl, if_pos rfl] at hfound
      have hlt := hbound d.key _ hfound
      have hstake : (d.addRefs count).stake = d.stake := rfl
      rw [take, set_self, hstake] at hlt
      simp only [Account.total] at hlt ⊢
      omega
    refine .of_put calm h hfind (e := d.addRefs count) rfl htable ?_ ?_
    · rw [hbook]
      exact h.addRefs hfind hbound'
    · simp [Registry.mishaps, Table.isLinked, hfind]

/-- Releasing what somebody has does not call the timer service. -/
theorem Balanced.release_table (calm : env.Calm) (h : Balanced L r.table) {key : Key}
    {count : Nat} (hle : count ≤ (L key).refs) :
    (r.release env key count).table = r.table.released key count := by
  apply calm.release_table r
  intro e he
  rcases h.released_cases hle with ⟨rfl, -⟩ | ⟨d, -, -, -, heq, -⟩ | ⟨d, -, hstake, -, heq, -⟩
  · cases he
  · rw [heq] at he
    cases he
  · rw [heq] at he
    cases he
    exact (d.stake_eq_zero_iff.1 hstake).1

/-- A dialog that a release unlinks has no stake left. -/
theorem Balanced.stake_of_released {t : Table} (h : Balanced L t) {key k : Key} {count : Nat}
    (hle : count ≤ (L key).refs) {d : Dialog} (hd : t.find? k = some d)
    (hnone : (t.released key count).find? k = none) : k = key ∧ d.stake = 0 := by
  rcases h.released_cases hle with
    ⟨-, heq⟩ | ⟨e, hfind, -, -, -, heq⟩ | ⟨e, hfind, hstake, -, -, heq⟩
  · rw [heq] at hnone
    cases hd.symm.trans hnone
  · obtain rfl : e.key = key := h.wf.key_of_find? hfind
    have hput := Table.find?_put_of_linked (d := { e with refs := e.refs - count }) hfind k
    rw [heq, hput] at hnone
    split at hnone
    · cases hnone
    · cases hd.symm.trans hnone
  · rw [heq, Table.find?_countDestroyed, Table.find?_erase] at hnone
    split at hnone
    next hk =>
      subst hk
      cases hd.symm.trans hfind
      exact ⟨rfl, hstake⟩
    next => cases hd.symm.trans hnone

theorem follows_release {key : Key} {count : Nat} (h : Balanced L r.table)
    (hown : L.Owns (.release key count)) : Follows calm L r (.release key count) := by
  have htable : (r.perform env (.release key count)).table = r.table.released key count :=
    h.release_table calm hown
  constructor
  · rw [htable]
    exact h.released hown
  · rw [htable]
    exact h.anomalies_released hown
  · intro k d hd hnone
    rw [htable] at hnone
    exact (h.stake_of_released hown hd hnone).2

/-! ### Events -/

/-- An event that no transition answers to leaves the holders what they have. -/
theorem finish_of_invalid {key : Key} {event : Event} {p : Phase} {flags : Flags}
    (hnext : p.next? flags event = none) : L.finish key event = L := by
  have hne : event ≠ .transactionDestroyed := by
    rintro rfl
    obtain ⟨m, hm⟩ := p.next?_transactionDestroyed flags
    cases hnext.symm.trans hm
  simp [finish, Event.returned, hne]

/-- A reference that is taken back can be counted if it is outstanding afterwards. -/
theorem Bounded.reclaims {L' : Ledger} {t : Table} {key : Key} {d : Dialog} {event : Event}
    {m : Transition} (h : Bounded L' (t.put (d.move m))) (hwf : t.Wf)
    (hfind : t.find? key = some d) (hnext : d.phase.next? d.flags event = some m)
    (hreclaim : m.reclaim = true) (htotal : (L key).total = (L' key).total) :
    (L key).total + d.stake + 1 < UInt32.size := by
  obtain ⟨hdeleted, -, hphase, -⟩ := Phase.next?_reclaims hnext hreclaim
  obtain ⟨⟨hkey, -, -, -⟩, -, htimer, hmoved⟩ := d.move_eq m
  have hstake : (d.move m).stake = d.stake + 1 := by
    rw [Dialog.stake, Dialog.stake, htimer, hmoved, hphase, hdeleted]
    rfl
  obtain rfl : d.key = key := hwf.key_of_find? hfind
  rw [← hkey] at hfind
  have hfound := Table.find?_put_of_linked hfind d.key
  rw [if_pos hkey.symm] at hfound
  have hlt := h d.key _ hfound
  omega

theorem total_finish (L : Ledger) {key : Key} {event : Event} (h : event.returned = 0) :
    (L.finish key event key).total = (L key).total := by
  simp [finish, h, Account.total]

theorem follows_nextPhase {key : Key} {event : Event} (h : Balanced L r.table)
    (hown : L.Owns (.nextPhase key event))
    (hbound : Bounded (L.book env r (.nextPhase key event))
      (r.perform env (.nextPhase key event)).table) :
    Follows calm L r (.nextPhase key event) := by
  rcases r.table.applyEvent_cases key event with
    ⟨hnone, heq⟩ | ⟨d, hfind, ⟨hnext, heq⟩ | ⟨m, hnext, heq⟩⟩
  · refine .of_agrees calm h (.of_eq ?_) ?_ rfl
    · simp [Registry.perform, Registry.nextPhase, heq]
    · simp [book, Registry.nextPhase, heq]
  · refine .of_agrees calm h ?_ ?_ rfl
    · simp only [Registry.perform, Registry.nextPhase, heq]
      exact ⟨fun hwf => hwf.count _, fun _ => rfl, rfl⟩
    · simp [book, Registry.nextPhase, heq, finish_of_invalid hnext, take]
  · have hbook : L.book env r (.nextPhase key event)
        = (L.finish key event).take key m.unref := by simp [book, Registry.nextPhase, heq]
    have htable : (r.perform env (.nextPhase key event)).table = r.table.put (d.move m) := by
      simp [Registry.perform, Registry.nextPhase, heq]
    refine .of_put calm h hfind (d.move_eq m).1.key htable ?_ rfl
    rw [hbook, htable] at hbound
    rw [hbook]
    refine h.move hfind hnext hown fun hreclaim => hbound.reclaims h.wf hfind hnext hreclaim ?_
    obtain ⟨-, rfl, -, hunref⟩ := Phase.next?_reclaims hnext hreclaim
    rw [hunref, take, set_self]
    exact (L.total_finish rfl).symm

/-- A valid event moves the dialog, and then references are given back. -/
theorem processEvent_released (calm : env.Calm) {key : Key} {event : Event} {d : Dialog}
    {m : Transition}
    (heq : r.table.applyEvent key event
      = (some (⟨d.phase, m.phase, m.unref⟩, d.move m), r.table.put (d.move m))) :
    ∃ s : Registry ε, s.table = r.table.put (d.move m) ∧
      (r.processEvent env key event).2 = s.release env key m.unref := by
  unfold Registry.processEvent
  rw [heq]
  dsimp only
  split
  · exact ⟨_, calm.notify_table .., rfl⟩
  · exact ⟨_, rfl, rfl⟩

theorem follows_processEvent {key : Key} {event : Event} (h : Balanced L r.table)
    (hown : L.Owns (.processEvent key event))
    (hbound : Bounded (L.book env r (.processEvent key event))
      (r.perform env (.processEvent key event)).table) :
    Follows calm L r (.processEvent key event) := by
  rcases r.table.applyEvent_cases key event with
    ⟨hnone, heq⟩ | ⟨d, hfind, ⟨hnext, heq⟩ | ⟨m, hnext, heq⟩⟩
  · refine .of_agrees calm h (.of_eq ?_) ?_ rfl
    · simp [Registry.perform, Registry.processEvent, heq]
    · simp [book, Registry.processEvent, heq]
  · have hinvalid : (r.perform env (.processEvent key event)).table = r.table.countInvalid := by
      simp only [Registry.perform, Registry.processEvent, heq, PhaseChange.changed]
      simp [Registry.release]
    refine .of_agrees calm h ?_ ?_ rfl
    · rw [hinvalid]
      exact ⟨fun hwf => hwf.count _, fun _ => rfl, rfl⟩
    · simp [book, Registry.processEvent, heq, finish_of_invalid hnext]
  · have hbook : L.book env r (.processEvent key event) = L.finish key event := by
      simp [book, Registry.processEvent, heq]
    obtain ⟨s, hs, hperform⟩ := processEvent_released calm heq
    have hreclaim : m.reclaim = true → (L key).total + d.stake + 1 < UInt32.size := by
      intro hreclaim
      obtain ⟨-, rfl, -, hunref⟩ := Phase.next?_reclaims hnext hreclaim
      have htable : (r.perform env (.processEvent key .successResponse)).table
          = r.table.put (d.move m) := by
        rw [Registry.perform, hperform, hunref, ← hs]
        rfl
      rw [hbook, htable] at hbound
      exact hbound.reclaims h.wf hfind hnext hreclaim (L.total_finish rfl).symm
    have hmoved := h.move hfind hnext hown hreclaim
    have hle : m.unref ≤ (((L.finish key event).take key m.unref) key).refs := by simp [take]
    have htable : (r.perform env (.processEvent key event)).table
        = (r.table.put (d.move m)).released key m.unref := by
      rw [Registry.perform, hperform]
      rw [← hs] at hmoved ⊢
      exact hmoved.release_table calm hle
    obtain rfl : d.key = key := h.wf.key_of_find? hfind
    have hkey := (d.move_eq m).1.key
    constructor
    · have hreleased := hmoved.released hle
      rwa [hbook, htable, ← give_take (L.finish d.key event) d.key m.unref]
    · rw [htable, hmoved.anomalies_released hle, Table.anomalies_put]
      rfl
    · intro k e he hnone
      rw [htable] at hnone
      have hput := Table.find?_put_of_linked (d := d.move m) (by rw [hkey]; exact hfind) k
      rw [hkey] at hput
      split at hput
      next hk =>
        subst hk
        cases hfind.symm.trans he
        simpa [Operation.lastSeen, hnext] using (hmoved.stake_of_released hle hput hnone).2
      next hk =>
        rw [he] at hput
        exact absurd (hmoved.stake_of_released hle hput hnone).1 hk

/-! ### Data, views and memberships -/

theorem follows_setLegInfo {key : Key} {side : Leg} {info : LegInfo} (h : Balanced L r.table) :
    Follows calm L r (.setLegInfo key side info) := by
  have hagrees : r.table.Agrees (r.setLegInfo key side info).2.table := by
    unfold Registry.setLegInfo Table.setLegInfo
    cases hfind : r.table.find? key with
    | none => exact .refl r.table
    | some d =>
      dsimp only
      cases hset : d.setLegInfo side info with
      | error f => exact .refl r.table
      | ok e =>
        obtain ⟨⟨hkey, -, -, -⟩, hrefs, htimer, hphase⟩ := Dialog.setLegInfo_eq_ok hset
        exact .put h.wf hfind hkey (by simp [Dialog.standing, hrefs, htimer, hphase])
  exact .of_agrees calm h hagrees rfl rfl

theorem follows_updateCseq {key : Key} {side : Leg} {cseq : String} (h : Balanced L r.table) :
    Follows calm L r (.updateCseq key side cseq) := by
  have hagrees : r.table.Agrees (r.updateCseq key side cseq).2.table := by
    unfold Registry.updateCseq Table.updateCseq
    cases hfind : r.table.find? key with
    | none => exact .refl r.table
    | some d =>
      have hsame : (d.updateCseq side cseq).key = d.key ∧
          (d.updateCseq side cseq).standing = d.standing := by
        cases side <;> exact ⟨rfl, rfl⟩
      exact .put h.wf hfind hsame.1 hsame.2
  exact .of_agrees calm h hagrees rfl rfl

theorem follows_observeDialog {key : Key} {name : String} {topics : List Topic}
    (h : Balanced L r.table) : Follows calm L r (.observeDialog key name topics) := by
  have hagrees : r.table.Agrees ((r.observeDialog key name topics).toOption.getD r).table := by
    unfold Registry.observeDialog Table.addObserver
    cases hfind : r.table.find? key with
    | none => exact .refl r.table
    | some d =>
      refine .put h.wf hfind (e := { d with observers := _ }) rfl rfl
  exact .of_agrees calm h hagrees rfl rfl

theorem withContexts_table (calm : env.Calm) (ds : List Dialog) (r : Registry ε) :
    (Registry.withContexts env ds r).2.table = r.table := by
  induction ds generalizing r with
  | nil => rfl
  | cons d ds ih => exact (ih _).trans (calm.notify_table ..)

theorem follows_snapshot {key : Key} {context : Bool} (h : Balanced L r.table) :
    Follows calm L r (.snapshot key context) := by
  refine .of_agrees calm h (.of_eq ?_) rfl rfl
  unfold Registry.perform Registry.snapshot
  dsimp only
  split
  · rfl
  · rfl
  · exact calm.notify_table ..

theorem follows_snapshotAll {context : Bool} (h : Balanced L r.table) :
    Follows calm L r (.snapshotAll context) := by
  refine .of_agrees calm h (.of_eq ?_) rfl rfl
  unfold Registry.perform Registry.snapshotAll
  dsimp only
  split
  · exact withContexts_table calm _ r
  · rfl

theorem follows_takeDirty (h : Balanced L r.table) : Follows calm L r .takeDirty := by
  have hagrees : r.table.Agrees r.table.takeDirty.2 :=
    h.wf.of_takeDirty Table.Agrees.refl Table.Agrees.trans
      fun hwf hfind _ => .put hwf hfind rfl rfl
  exact .of_agrees calm h hagrees rfl rfl

theorem follows_attach {key : Key} {profile : String} {value : Option String}
    (h : Balanced L r.table) : Follows calm L r (.attach key profile value) :=
  .of_agrees calm h (Registry.attach_agrees h.wf key profile value) rfl rfl

theorem follows_detach {key : Key} {profile : String} {value : Option String}
    (h : Balanced L r.table) : Follows calm L r (.detach key profile value) :=
  .of_agrees calm h (Registry.detach_agrees h.wf key profile value) rfl rfl

/-! ### Timers -/

/-- A table that fades keeps the ledger's side of a timer operation. -/
theorem Follows.of_fades {op : Operation}
    (hop : ∀ key d, op.lastSeen key d = { d with timer := none })
    (hbook : L.book env r op = L) (hbalanced : Balanced L (r.perform env op).table)
    (hfades : r.table.Fades (r.perform env op).table)
    (hanomalies : (r.perform env op).table.anomalies = r.table.anomalies + r.mishaps calm op) :
    Follows calm L r op where
  balanced := by
    rw [hbook]
    exact hbalanced
  anomalies := hanomalies
  ends := by
    intro key d hd hnone
    have hphase : d.phase = .deleted := hfades.ends hd hnone
    rw [hop, Dialog.stake_eq_zero_iff]
    exact ⟨rfl, hphase⟩

theorem follows_expire {key : Key} (h : Balanced L r.table) : Follows calm L r (.expire key) := by
  have htable : (r.perform env (.expire key)).table = r.table.expired key :=
    calm.expire_table h.wf key
  refine .of_fades calm (fun _ _ => rfl) rfl ?_ ?_ ?_
  · rw [htable]
    exact h.expired key
  · rw [htable]
    exact h.fades_expired key
  · rw [htable]
    exact h.anomalies_expired key

theorem swapTimer_cases (t : Table) (key : Key) (expected : TimerSlot) (next : Option TimerSlot) :
    (∃ d, t.find? key = some d ∧ d.timer = some expected ∧ t.timer? key = some expected ∧
      Registry.swapTimer t key expected next = some (t.put { d with timer := next })) ∨
    t.timer? key ≠ some expected ∧ Registry.swapTimer t key expected next = none := by
  unfold Registry.swapTimer Table.timer?
  cases hfind : t.find? key with
  | none => exact .inr ⟨by simp, rfl⟩
  | some d =>
    by_cases htimer : d.timer = some expected
    · exact .inl ⟨d, rfl, htimer, by simp [htimer], by simp [htimer]⟩
    · exact .inr ⟨by simp [htimer], by simp [htimer]⟩

/-- What the service answers is taken over without a reference gained or lost. -/
theorem Balanced.settleTimer (calm : env.Calm) (h : Balanced L r.table) (key : Key)
    (answer : Except String Handle) :
    Balanced L (r.settleTimer env key answer).2.table ∧
      r.table.Fades (r.settleTimer env key answer).2.table ∧
      (r.settleTimer env key answer).2.table.anomalies = r.table.anomalies +
        match answer with
        | .error _ => if r.table.timer? key = some .arming then 0 else 1
        | .ok _ => 0 := by
  unfold Registry.settleTimer
  cases answer with
  | ok handle =>
    dsimp only
    rcases swapTimer_cases r.table key .arming (some (.armed handle)) with
      ⟨d, hfind, htimer, -, heq⟩ | ⟨-, heq⟩
    · rw [heq]
      have hagrees : r.table.Agrees (r.table.put { d with timer := some (.armed handle) }) :=
        .put h.wf hfind rfl (by simp [Dialog.standing, htimer])
      exact ⟨h.of_agrees hagrees, hagrees.fades, hagrees.anomalies⟩
    · rw [heq]
      exact ⟨h, .refl r.table, rfl⟩
  | error reason =>
    dsimp only
    rcases swapTimer_cases r.table key .arming none with
      ⟨d, hfind, htimer, hslot, heq⟩ | ⟨hslot, heq⟩
    · rw [heq, hslot, if_pos rfl]
      dsimp only
      rw [calm.disarmed_table h.wf hfind (by rw [htimer]; rfl), h.anomalies_expired, hslot]
      exact ⟨h.expired key, h.fades_expired key, rfl⟩
    · rw [heq, if_neg hslot]
      exact ⟨h.countAnomaly, .countAnomaly r.table, rfl⟩

theorem startTimer_of_none (env : Environment ε) {key : Key} {milliseconds : Option Nat}
    (h : r.arming? key milliseconds = none) :
    ∃ e, r.startTimer env key milliseconds = (.error e, r) := by
  unfold Registry.arming? at h
  unfold Registry.startTimer
  cases htimer : r.hasTimer with
  | false => exact ⟨_, rfl⟩
  | true =>
    rw [htimer, if_pos rfl] at h
    cases hfind : r.table.find? key with
    | none => exact ⟨_, rfl⟩
    | some d =>
      rw [hfind, Option.bind_some] at h
      cases hprepare : Registry.prepareTimer d milliseconds with
      | error e => exact ⟨e, by simp [hprepare]⟩
      | ok e =>
        rw [hprepare] at h
        cases h

theorem startTimer_of_some (env : Environment ε) {key : Key} {milliseconds : Option Nat} {ms : Nat}
    {s : Registry ε} (h : r.arming? key milliseconds = some (ms, s)) :
    (∃ d e, r.table.find? key = some d ∧ Registry.prepareTimer d milliseconds = .ok e ∧
      s.table = r.table.put e) ∧
    r.startTimer env key milliseconds
      = (env.schedule key ms s).2.settleTimer env key (env.schedule key ms s).1 := by
  unfold Registry.arming? at h
  unfold Registry.startTimer
  cases htimer : r.hasTimer with
  | false =>
    rw [htimer] at h
    cases h
  | true =>
    rw [htimer, if_pos rfl] at h
    obtain ⟨d, hfind, h⟩ := Option.bind_eq_some_iff.1 h
    cases hprepare : Registry.prepareTimer d milliseconds with
    | error e =>
      rw [hprepare] at h
      cases h
    | ok e =>
      rw [hprepare] at h
      cases h
      rw [hfind]
      refine ⟨⟨d, e, rfl, hprepare, rfl⟩, ?_⟩
      simp [hprepare]

theorem follows_startTimer {key : Key} {milliseconds : Option Nat} (h : Balanced L r.table)
    (hbound : ∀ {ms s}, r.arming? key milliseconds = some (ms, s) → Bounded L s.table) :
    Follows calm L r (.startTimer key milliseconds) := by
  cases harming : r.arming? key milliseconds with
  | none =>
    obtain ⟨e, heq⟩ := startTimer_of_none env harming
    refine .of_agrees calm h (.of_eq ?_) rfl ?_
    · simp [Registry.perform, heq]
    · simp [Registry.mishaps, harming]
  | some asked =>
    obtain ⟨ms, s⟩ := asked
    obtain ⟨⟨d, e, hfind, hprepare, hs⟩, heq⟩ := startTimer_of_some env harming
    obtain ⟨⟨hkey, -, -, -⟩, -, -, -, hphase⟩ := Dialog.prepareTimer_eq_ok hprepare
    have hlt : (L key).total + e.stake < UInt32.size := by
      obtain rfl : d.key = key := h.wf.key_of_find? hfind
      rw [← hkey] at hfind
      have hfound := Table.find?_put_of_linked hfind d.key
      rw [if_pos hkey.symm, ← hs] at hfound
      exact hbound harming d.key e hfound
    have harm : Balanced L s.table := hs ▸ h.arm hfind hprepare hlt
    have hfades : r.table.Fades s.table := hs ▸ .put h.wf hfind hkey hphase
    obtain ⟨hfired, hfades', hanomalies⟩ := harm.expiredAll (calm.onSchedule key ms s)
    rw [← calm.schedule_table] at hfired hfades' hanomalies
    obtain ⟨hsettled, hfades'', hanomalies'⟩ :=
      hfired.settleTimer calm key (env.schedule key ms s).1
    rw [← heq] at hsettled hfades'' hanomalies'
    refine .of_fades calm (fun _ _ => rfl) rfl hsettled ((hfades.trans hfades').trans hfades'') ?_
    have harmed : s.table.anomalies = r.table.anomalies := by rw [hs, Table.anomalies_put]
    have hmishaps : r.mishaps calm (.startTimer key milliseconds)
        = Table.strays (calm.onSchedule key ms s) s.table +
          match (env.schedule key ms s).1 with
          | .error _ => if (env.schedule key ms s).2.table.timer? key = some .arming then 0 else 1
          | .ok _ => 0 := by
      simp only [Registry.mishaps, harming]
      cases hanswer : env.schedule key ms s with
      | mk answer s' => cases answer <;> rfl
    rw [hmishaps, ← Nat.add_assoc, ← harmed, ← hanomalies]
    exact hanomalies'

theorem stopTimer_of_none {key : Key} (h : r.armed? key = none) :
    (r.stopTimer env key).2 = r := by
  unfold Registry.armed? Table.timer? at h
  unfold Registry.stopTimer
  split
  next handle htimer hslot =>
    rw [htimer, if_pos rfl, hslot] at h
    cases h
  next => rfl

/-- What becomes of a registry with the service's answer when it was asked to stop a timer. -/
def settleStop (env : Environment ε) (key : Key) (handle : Handle) :
    Except String Bool × Registry ε → Registry ε
  | (.ok true, s) =>
    match Registry.swapTimer s.table key (.armed handle) none with
    | some t => { s with table := t }.release env key 1
    | none => { s with table := s.table.countAnomaly }
  | (_, s) => s

theorem stopTimer_of_some {key : Key} {handle : Handle} (h : r.armed? key = some handle) :
    (r.stopTimer env key).2
      = settleStop env key handle (env.cancel handle (r.record (.cancelled handle))) := by
  unfold Registry.armed? Table.timer? at h
  unfold Registry.stopTimer
  split
  next handle' htimer hslot =>
    rw [htimer, if_pos rfl, hslot] at h
    obtain rfl : handle' = handle := Option.some.inj h
    generalize env.cancel handle' (r.record (.cancelled handle')) = asked
    obtain ⟨_ | pending, s⟩ := asked
    · rfl
    · cases pending with
      | false => rfl
      | true =>
        simp only [settleStop]
        cases Registry.swapTimer s.table key (.armed handle') none with
        | none => rfl
        | some t => rfl
  next hother =>
    split at h
    next htimer =>
      obtain ⟨slot, hslot, hhandle⟩ := Option.bind_eq_some_iff.1 h
      cases slot with
      | arming => cases hhandle
      | armed handle' => exact (hother handle' htimer hslot).elim
    next => cases h

theorem Balanced.settleStop (calm : env.Calm) (h : Balanced L r.table) (key : Key)
    (handle : Handle) (answer : Except String Bool) :
    Balanced L (Ledger.settleStop env key handle (answer, r)).table ∧
      r.table.Fades (Ledger.settleStop env key handle (answer, r)).table ∧
      (Ledger.settleStop env key handle (answer, r)).table.anomalies = r.table.anomalies +
        match answer with
        | .ok true => if r.table.timer? key = some (.armed handle) then 0 else 1
        | _ => 0 := by
  obtain _ | pending := answer
  · exact ⟨h, .refl r.table, rfl⟩
  cases pending with
  | false => exact ⟨h, .refl r.table, rfl⟩
  | true =>
    unfold Ledger.settleStop
    rcases swapTimer_cases r.table key (.armed handle) none with
      ⟨d, hfind, htimer, hslot, heq⟩ | ⟨hslot, heq⟩
    · simp only [heq, hslot, if_true]
      rw [calm.disarmed_table h.wf hfind (by rw [htimer]; rfl), h.anomalies_expired, hslot]
      exact ⟨h.expired key, h.fades_expired key, rfl⟩
    · simp only [heq, hslot, if_false]
      exact ⟨h.countAnomaly, .countAnomaly r.table, rfl⟩

theorem follows_stopTimer {key : Key} (h : Balanced L r.table) :
    Follows calm L r (.stopTimer key) := by
  cases harmed : r.armed? key with
  | none =>
    refine .of_agrees calm h (.of_eq ?_) rfl ?_
    · simp [Registry.perform, stopTimer_of_none harmed]
    · simp [Registry.mishaps, harmed]
  | some handle =>
    have heq : r.perform env (.stopTimer key) = _ := stopTimer_of_some harmed
    obtain ⟨hfired, hfades, hanomalies⟩ :=
      h.expiredAll (calm.onCancel handle (r.record (.cancelled handle)))
    have hcancel : (env.cancel handle (r.record (.cancelled handle))).2.table
        = r.table.expiredAll (calm.onCancel handle (r.record (.cancelled handle))) :=
      calm.cancel_table ..
    rw [← hcancel] at hfired hfades hanomalies
    obtain ⟨hsettled, hfades', hanomalies'⟩ := hfired.settleStop calm key handle
      (env.cancel handle (r.record (.cancelled handle))).1
    rw [← heq] at hsettled hfades' hanomalies'
    refine .of_fades calm (fun _ _ => rfl) rfl hsettled (hfades.trans hfades') ?_
    have hmishaps : r.mishaps calm (.stopTimer key)
        = Table.strays (calm.onCancel handle (r.record (.cancelled handle))) r.table +
          match (env.cancel handle (r.record (.cancelled handle))).1 with
          | .ok true =>
            if (env.cancel handle (r.record (.cancelled handle))).2.table.timer? key
              = some (.armed handle) then 0 else 1
          | _ => 0 := by
      simp only [Registry.mishaps, harmed]
      generalize env.cancel handle (r.record (.cancelled handle)) = asked
      obtain ⟨_ | pending, s⟩ := asked
      · rfl
      · cases pending <;> rfl
    rw [hmishaps, ← Nat.add_assoc, ← hanomalies]
    exact hanomalies'

/-! ## Runs -/

/-- Whatever is asked for by someone who owns it, the ledger follows. -/
theorem Balanced.follows (h : Balanced L r.table) (op : Operation) (hown : L.Owns op)
    (hbound : L.Bounds env r op) : Follows calm L r op := by
  cases op with
  | insert identity holders => exact follows_insert calm h hbound.after
  | restore s => exact follows_restore calm h hown
  | lookup key => exact follows_lookup calm h hbound.after
  | lookupIdentity callId fromTag toTag => exact follows_lookupIdentity calm h hbound.after
  | lookupDownstream callId fromTag => exact follows_lookupDownstream calm h hbound.after
  | addRefs key count => exact follows_addRefs calm h hbound.after
  | release key count => exact follows_release calm h hown
  | nextPhase key event => exact follows_nextPhase calm h hown hbound.after
  | processEvent key event => exact follows_processEvent calm h hown hbound.after
  | setLegInfo key side info => exact follows_setLegInfo calm h
  | updateCseq key side cseq => exact follows_updateCseq calm h
  | startTimer key milliseconds => exact follows_startTimer calm h (hbound.asking rfl)
  | stopTimer key => exact follows_stopTimer calm h
  | expire key => exact follows_expire calm h
  | snapshot key context => exact follows_snapshot calm h
  | snapshotAll context => exact follows_snapshotAll calm h
  | takeDirty => exact follows_takeDirty calm h
  | observeDialog key name topics => exact follows_observeDialog calm h
  | attach key profile value => exact follows_attach calm h
  | detach key profile value => exact follows_detach calm h

/-- A run from a new registry that is booked as it goes. Between operations, anything may happen
that leaves the table as it is. -/
inductive Run (env : Environment ε) : Ledger → Registry ε → Prop where
  | start {config : Config} {clock : Timestamp} {hasTimer : Bool} {e : ε} {r : Registry ε}
      (hcreate : Registry.create config clock hasTimer e = .ok r) : Run env (fun _ => {}) r
  | aside {L : Ledger} {r r' : Registry ε} (hrun : Run env L r) (htable : r'.table = r.table) :
      Run env L r'
  | step {L : Ledger} {r : Registry ε} (hrun : Run env L r) {op : Operation} (hown : L.Owns op)
      (hbound : L.Bounds env r op) :
      Run env (L.book env r op) (r.perform env op)

theorem Run.balanced (calm : env.Calm) (h : Run env L r) : Balanced L r.table := by
  induction h with
  | start hcreate =>
    have htable := (Registry.create_eq_ok hcreate).1
    exact .empty (Table.wf_create htable) (Table.find?_create htable)
  | aside _ htable ih =>
    rw [htable]
    exact ih
  | step _ hown hbound ih => exact (ih.follows calm _ hown hbound).balanced

/-- Every reference is accounted for: a dialog counts the transactions that have yet to end, the
references taken and not given back, the one of its timer slot, and the table's until it is
deleted. Giving back what is owned is never an anomaly, and a dialog is unlinked in the step that
leaves nothing of all this, and in no other. -/
theorem Run.accounts (calm : env.Calm) (h : Run env L r) :
    (∀ key d, r.table.find? key = some d →
      d.refs = (L key).holders + (L key).refs + (if d.timer.isSome then 1 else 0)
        + (if d.phase = .deleted then 0 else 1)) ∧
    ∀ op, L.Owns op → L.Bounds env r op →
      (r.perform env op).table.anomalies = r.table.anomalies + r.mishaps calm op ∧
      (∀ key d e, r.table.find? key = some d → (r.perform env op).table.find? key = some e →
        0 < (L.book env r op key).total + e.stake) ∧
      ∀ key d, r.table.find? key = some d → (r.perform env op).table.find? key = none →
        (L.book env r op key).total + (op.lastSeen key d).stake = 0 ∧
          (op.lastSeen key d).phase = .deleted := by
  have hbalanced := h.balanced calm
  refine ⟨fun key d hd => ?_, fun op hown hbound => ?_⟩
  · have hphase : d.phase.stake = if d.phase = .deleted then 0 else 1 := by
      cases d.phase <;> rfl
    rw [hbalanced.refs hd, Account.total, Dialog.stake, hphase, Nat.add_assoc _ _ (ite _ _ _)]
  · have hfollows := hbalanced.follows calm op hown hbound
    refine ⟨hfollows.anomalies, fun key d e _ he => ?_, fun key d hd hnone => ?_⟩
    · rw [← hfollows.balanced.refs he]
      exact hfollows.balanced.pos he
    · have hstake := hfollows.ends key d hd hnone
      have haccount : L.book env r op key = {} := hfollows.balanced.unlinked hnone
      refine ⟨?_, ((op.lastSeen key d).stake_eq_zero_iff.1 hstake).2⟩
      rw [haccount, hstake]
      rfl

end Ledger

/-! A call whose only transaction ends without an answer. -/

/-- Surroundings that do what they are asked for leave the table alone. -/
def Environment.quietCalm : Environment.quiet.Calm where
  onSchedule _ _ _ := []
  onCancel _ _ := []
  observe_table _ _ _ _ := rfl
  schedule_table _ _ _ := rfl
  cancel_table _ _ := rfl

namespace Ledger

/-- It is enough to look at the dialogs that the table lists. -/
theorem Bounded.of_dialogs {L : Ledger} {t : Table} (hwf : t.Wf)
    (h : ∀ d ∈ t.dialogs, (L d.key).total + d.stake < UInt32.size) : Bounded L t := by
  intro key d hd
  obtain rfl : d.key = key := hwf.key_of_find? hd
  exact h d (hwf.mem_dialogs.2 hd)

/-- A dialog of one transaction is put into an empty registry. -/
def invite : Operation :=
  .insert { callId := "abc", fromUri := "sip:a", toUri := "sip:b", fromTag := "t1" } 1

/-- The transaction of the first dialog of the first bucket ends. -/
def hangUp : Operation := .processEvent ⟨0, 0⟩ .transactionDestroyed

/-- The registry with that dialog, and the ledger with its transaction. -/
def invited : Registry Unit := Registry.blank.perform .quiet invite

def invitation : Ledger := book (fun _ => {}) .quiet .blank invite

theorem invited_run : Run .quiet invitation invited := by
  refine .step (.start Registry.create_blank) trivial ⟨.of_dialogs ?_ ?_, nofun⟩
  · exact (Registry.blank_reachable.step Environment.quiet_lawful invite).wf
  · decide +kernel

theorem Run.accounts_unanswered :
    (invited.table.find? ⟨0, 0⟩).map (·.refs) = some 2 ∧
      (invited.perform .quiet hangUp).table.find? ⟨0, 0⟩ = none ∧
      (invited.perform .quiet hangUp).table.anomalies = invited.table.anomalies ∧
      ∀ d, invited.table.find? ⟨0, 0⟩ = some d →
        d.refs = (invitation ⟨0, 0⟩).holders + (invitation ⟨0, 0⟩).refs
          + (if d.timer.isSome then 1 else 0) + (if d.phase = .deleted then 0 else 1) ∧
        (hangUp.lastSeen ⟨0, 0⟩ d).phase = .deleted := by
  have hnone : (invited.perform .quiet hangUp).table.find? ⟨0, 0⟩ = none := by decide +kernel
  obtain ⟨hrefs, hsteps⟩ := Run.accounts Environment.quietCalm invited_run
  have hown : Event.transactionDestroyed.returned ≤ (invitation ⟨0, 0⟩).holders := by decide +kernel
  obtain ⟨hanomalies, -, hends⟩ := hsteps hangUp hown ⟨.of_dialogs
    ((Registry.blank_reachable.step Environment.quiet_lawful invite).step
      Environment.quiet_lawful hangUp).wf (by decide +kernel), nofun⟩
  refine ⟨by decide +kernel, hnone, hanomalies, fun d hd => ⟨hrefs _ d hd, ?_⟩⟩
  exact (hends _ d hd hnone).2

end Ledger

end SipDialogs
