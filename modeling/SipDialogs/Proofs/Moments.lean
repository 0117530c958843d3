-- SUMMARY: Runs moment by moment: what happens to one dialog at a time, and what observers hear.
import SipDialogs.Proofs.Census
import Mathlib.Data.List.Nodup

/-! # Moments

An operation is not one change: other operations may run while the surroundings are called. What it
consists of are moments. At each of them one dialog is linked, changed, unlinked or torn down, or
one observer hears something. Between its end and its funeral a dialog is in limbo: nobody finds it
any more, and its last notice is on the way. -/

namespace SipDialogs

/-! ## Revisions of one dialog -/

namespace Dialog

/-- A change of a dialog that observers are not told about. -/
inductive Revision : Dialog → Dialog → Prop where
  | addRefs (d : Dialog) (count : Nat) : Revision d (d.addRefs count)
  | retain (d : Dialog) : Revision d d.retain
  | setLegInfo {d e : Dialog} {side : Leg} {info : LegInfo} (h : d.setLegInfo side info = .ok e) :
      Revision d e
  | updateCseq (d : Dialog) (side : Leg) (cseq : String) : Revision d (d.updateCseq side cseq)
  | prepareTimer {d e : Dialog} {milliseconds : Option Nat}
      (h : Registry.prepareTimer d milliseconds = .ok e) : Revision d e
  | setTimer (d : Dialog) (timer : Option TimerSlot) : Revision d { d with timer }
  | setLinks (d : Dialog) (links : List Link) : Revision d { d with links }

/-- What is never changed while a dialog is linked. Its version is only raised. -/
structure Continues (d e : Dialog) : Prop where
  key : e.key = d.key
  callId : e.callId = d.callId
  callerTag : e.caller.tag = d.caller.tag
  version : d.version ≤ e.version

/-- What no revision changes, and what it may only raise. -/
structure Retains (d e : Dialog) : Prop where
  key : e.key = d.key
  callId : e.callId = d.callId
  callerTag : e.caller.tag = d.caller.tag
  phase : e.phase = d.phase
  observers : e.observers = d.observers
  version : d.version ≤ e.version

variable {d e : Dialog}

theorem retains_of_setLegInfo {side : Leg} {info : LegInfo} (h : d.setLegInfo side info = .ok e) :
    d.Retains e := by
  obtain ⟨info', rfl, htag⟩ := setLegInfo_cases h
  cases side with
  | caller => exact ⟨rfl, rfl, htag rfl, rfl, rfl, Nat.le_succ _⟩
  | callee => exact ⟨rfl, rfl, rfl, rfl, rfl, Nat.le_succ _⟩

theorem retains_of_prepareTimer {milliseconds : Option Nat}
    (h : Registry.prepareTimer d milliseconds = .ok e) : d.Retains e := by
  obtain ⟨-, rfl | ⟨timeout, rfl⟩⟩ := prepareTimer_cases h
  · exact ⟨rfl, rfl, rfl, rfl, rfl, Nat.le_refl _⟩
  · exact ⟨rfl, rfl, rfl, rfl, rfl, Nat.le_succ _⟩

theorem Revision.retains (h : d.Revision e) : d.Retains e := by
  cases h with
  | setLegInfo h => exact retains_of_setLegInfo h
  | updateCseq side cseq => cases side <;> exact ⟨rfl, rfl, rfl, rfl, rfl, Nat.le_succ _⟩
  | prepareTimer h => exact retains_of_prepareTimer h
  | addRefs | retain | setTimer | setLinks => exact ⟨rfl, rfl, rfl, rfl, rfl, Nat.le_refl _⟩

/-- The dialog is touched, whatever was changed. -/
def Touches (d e : Dialog) : Prop :=
  e.version = d.version + 1 ∧ e.flags = d.flags.union .changed

theorem touches_of_setLegInfo {side : Leg} {info : LegInfo} (h : d.setLegInfo side info = .ok e) :
    d.Touches e := by
  obtain ⟨info', rfl, -⟩ := setLegInfo_cases h
  cases side <;> exact ⟨rfl, rfl⟩

theorem touches_updateCseq (d : Dialog) (side : Leg) (cseq : String) :
    d.Touches (d.updateCseq side cseq) := by
  cases side <;> exact ⟨rfl, rfl⟩

/-- Nobody sees that a timer is prepared, unless the lifetime is an explicit one. -/
theorem shown_of_prepareTimer {milliseconds : Option Nat}
    (h : Registry.prepareTimer d milliseconds = .ok e) :
    e.snapshot = d.snapshot ∨ d.Touches e := by
  obtain ⟨-, rfl | ⟨timeout, rfl⟩⟩ := prepareTimer_cases h
  · exact .inl rfl
  · exact .inr ⟨rfl, rfl⟩

/-- A revision shows nothing, or touches the dialog. -/
theorem Revision.shown (h : d.Revision e) : e.snapshot = d.snapshot ∨ d.Touches e := by
  cases h with
  | addRefs | retain | setTimer | setLinks => exact .inl rfl
  | setLegInfo h => exact .inr (touches_of_setLegInfo h)
  | updateCseq side cseq => exact .inr (touches_updateCseq d side cseq)
  | prepareTimer h => exact shown_of_prepareTimer h

/-- A transition keeps all that a revision keeps, except for the phase. -/
theorem move_retains (d : Dialog) (m : Transition) :
    (d.move m).key = d.key ∧ (d.move m).callId = d.callId ∧ (d.move m).caller = d.caller ∧
      (d.move m).phase = m.phase ∧ (d.move m).observers = d.observers ∧
      (d.move m).version = d.version + (if d.phase = m.phase then 0 else 1) ∧
      (d.move m).refs = (if m.reclaim then d.nextRefs else d.refs) := by
  unfold Dialog.move
  dsimp only
  split <;> exact ⟨rfl, rfl, rfl, rfl, rfl, rfl, rfl⟩

/-- The dialog with one more observer of its own. -/
def watchedBy (d : Dialog) (o : Observer) : Dialog := { d with observers := d.observers ++ [o] }

/-- The dialog with its last reference given back. -/
def unowned (d : Dialog) : Dialog := { d with refs := 0 }

/-- What is shown of a dialog that has been unlinked. It outranks every earlier snapshot. -/
def lastSnapshot (d : Dialog) : Snapshot := { d with version := d.version + 1 }.snapshot

@[simp] theorem key_lastSnapshot (d : Dialog) : d.lastSnapshot.key = d.key := rfl

end Dialog

/-! ## Moments -/

/-- What happens at one moment. -/
inductive Moment where
  /-- No dialog changes, and nobody hears anything. -/
  | aside
  | inserted (d : Dialog)
  | restored (d : Dialog)
  /-- A dialog changes without notice. -/
  | revised (d e : Dialog)
  /-- A dialog is handed out to be stored, and taken to be stored from here on. -/
  | handed (d : Dialog)
  /-- An event moves a dialog. Unless it is done `silently`, observers are told. -/
  | moved (d : Dialog) (event : Event) (m : Transition) (silently : Bool)
  /-- References are given back. The dialog is unlinked with its last one. -/
  | released (d : Dialog) (count : Nat)
  | heard (o : Observer) (s : Snapshot) (n : Notice)
  /-- A dialog that was unlinked has been torn down. -/
  | buried (d : Dialog)

namespace Moment

/-- The dialog that the table links, changes or unlinks at this moment. -/
def key? : Moment → Option Key
  | inserted d | restored d | revised d _ | handed d | moved d _ _ _ | released d _ => some d.key
  | aside | heard _ _ _ | buried _ => none

/-- The dialog that is changed or unlinked at this moment, as it was before. -/
def before? : Moment → Option Dialog
  | revised d _ | handed d | moved d _ _ _ | released d _ => some d
  | _ => none

/-- What stands under this key afterwards. -/
def after? : Moment → Option Dialog
  | inserted d | restored d => some d
  | revised _ e => some e
  | handed d => some d.clean
  | moved d _ m _ => some (d.move m)
  | released d count => if d.refs ≤ count then none else some { d with refs := d.refs - count }
  | _ => none

/-- The dialog that is linked at this moment. -/
def linked? : Moment → Option Dialog
  | inserted d | restored d => some d
  | _ => none

/-- The dialog that is unlinked at this moment, because its last reference is given back. -/
def ended? : Moment → Option Dialog
  | released d count => if d.refs ≤ count then some d else none
  | _ => none

/-- The dialog that is torn down at this moment. -/
def buried? : Moment → Option Dialog
  | buried d => some d
  | _ => none

theorem of_linked? {m : Moment} {d : Dialog} (h : m.linked? = some d) :
    m = .inserted d ∨ m = .restored d := by
  cases m with
  | inserted e =>
    cases h
    exact .inl rfl
  | restored e =>
    cases h
    exact .inr rfl
  | _ => cases h

end Moment

namespace Registry

/-- The registry once an observer has been addressed: a client's call is entered in the journal, a
writer's work is in its mailbox. -/
def hear (r : Registry ε) (o : Observer) (s : Snapshot) (n : Notice) : Registry ε :=
  match o.role with
  | .client => r.record (.observed o s n)
  | .writer mailbox realtime =>
    match Write.ofNotice? realtime s n with
    | some w => r.post mailbox w
    | none => r

/-- What may happen to a registry while nothing is done to it: time goes by, calls that are not
addressed to observers are entered in the journal, and the surroundings change on their own. -/
structure Idle (r r' : Registry ε) : Prop where
  table : r'.table = r.table
  profiles : r'.profiles = r.profiles
  observers : r'.observers = r.observers
  nextSerial : r'.nextSerial = r.nextSerial
  mailboxes : r'.mailboxes = r.mailboxes
  journal : ∃ calls, r'.journal = r.journal ++ calls ∧ ∀ o s n, Call.observed o s n ∉ calls

@[refl] theorem Idle.refl (r : Registry ε) : r.Idle r :=
  ⟨rfl, rfl, rfl, rfl, rfl, [], (List.append_nil _).symm, fun _ _ _ h => by cases h⟩

theorem Idle.setEnv (r : Registry ε) (env : ε) : r.Idle { r with env } :=
  ⟨rfl, rfl, rfl, rfl, rfl, [], (List.append_nil _).symm, fun _ _ _ h => by cases h⟩

theorem Idle.trans {r r' r'' : Registry ε} (h : r.Idle r') (h' : r'.Idle r'') : r.Idle r'' := by
  obtain ⟨calls, hcalls, hnone⟩ := h.journal
  obtain ⟨calls', hcalls', hnone'⟩ := h'.journal
  refine ⟨h'.table.trans h.table, h'.profiles.trans h.profiles, h'.observers.trans h.observers,
    h'.nextSerial.trans h.nextSerial, h'.mailboxes.trans h.mailboxes, calls ++ calls', ?_, ?_⟩
  · rw [hcalls', hcalls, List.append_assoc]
  · intro o s n hmem
    rcases List.mem_append.1 hmem with hmem | hmem
    · exact hnone o s n hmem
    · exact hnone' o s n hmem

theorem Idle.record (r : Registry ε) {c : Call} (hc : ∀ o s n, c ≠ .observed o s n) :
    r.Idle (r.record c) := by
  refine ⟨rfl, rfl, rfl, rfl, rfl, [c], rfl, ?_⟩
  intro o s n hmem
  exact hc o s n (List.mem_singleton.1 hmem).symm

end Registry

/-- A registry and the dialogs in limbo, the one unlinked last first. -/
structure Scene (ε : Type) where
  registry : Registry ε
  limbo : List Dialog := []

/-- What can happen at one moment. Profiles may change along with a dialog. -/
inductive Step : Scene ε → Moment → Scene ε → Prop where
  | idle {r r' : Registry ε} (h : r.Idle r') (limbo : List Dialog) :
      Step ⟨r, limbo⟩ .aside ⟨r', limbo⟩
  | count (r : Registry ε) {f : Counters → Counters}
      (hf : ∀ c, (f c).created = c.created ∧ (f c).destroyed = c.destroyed)
      (limbo : List Dialog) :
      Step ⟨r, limbo⟩ .aside ⟨{ r with table := r.table.count f }, limbo⟩
  | file (r : Registry ε) (profiles : Directory) (limbo : List Dialog) :
      Step ⟨r, limbo⟩ .aside ⟨{ r with profiles }, limbo⟩
  | enlist (r : Registry ε) (name : String) (topics : List Topic) (limbo : List Dialog) :
      Step ⟨r, limbo⟩ .aside ⟨r.observe name topics .client, limbo⟩
  | insert {r : Registry ε} {identity : Identity} {holders : Nat} {d : Dialog} {t : Table}
      (h : r.table.insert identity holders r.clock = .ok (d, t)) (limbo : List Dialog) :
      Step ⟨r, limbo⟩ (.inserted d) ⟨{ r with table := t }, limbo⟩
  | restore {r : Registry ε} {s : Snapshot} {d : Dialog} {t : Table}
      (h : r.table.restore s = .ok (d, t)) (limbo : List Dialog) :
      Step ⟨r, limbo⟩ (.restored d) ⟨{ r with table := t }, limbo⟩
  | revise {r : Registry ε} {d e : Dialog} (h : r.table.find? d.key = some d)
      (he : d.Revision e) (profiles : Directory) (limbo : List Dialog) :
      Step ⟨r, limbo⟩ (.revised d e) ⟨{ r with table := r.table.put e, profiles }, limbo⟩
  | hand {r : Registry ε} {d : Dialog} (h : r.table.find? d.key = some d)
      (hdirty : d.isDirty = true) (limbo : List Dialog) :
      Step ⟨r, limbo⟩ (.handed d) ⟨{ r with table := r.table.put d.clean }, limbo⟩
  | attend {r : Registry ε} {d : Dialog} (h : r.table.find? d.key = some d) {o : Observer}
      (hrole : o.role = .client) (hserial : o.serial = r.nextSerial) (limbo : List Dialog) :
      Step ⟨r, limbo⟩ (.revised d (d.watchedBy o))
        ⟨{ r with table := r.table.put (d.watchedBy o), nextSerial := r.nextSerial + 1 }, limbo⟩
  | move {r : Registry ε} {d : Dialog} (h : r.table.find? d.key = some d) {event : Event}
      {m : Transition} (hm : d.phase.next? d.flags event = some m) (silently : Bool)
      (limbo : List Dialog) :
      Step ⟨r, limbo⟩ (.moved d event m silently)
        ⟨{ r with table := r.table.put (d.move m) }, limbo⟩
  | giveBack {r : Registry ε} {d : Dialog} (h : r.table.find? d.key = some d) {count : Nat}
      (hpos : 0 < count) (hlt : count < d.refs) (limbo : List Dialog) :
      Step ⟨r, limbo⟩ (.released d count)
        ⟨{ r with table := r.table.put { d with refs := d.refs - count } }, limbo⟩
  | unlink {r : Registry ε} {d : Dialog} (h : r.table.find? d.key = some d) {count : Nat}
      (hpos : 0 < count) (hle : d.refs ≤ count) (limbo : List Dialog) :
      Step ⟨r, limbo⟩ (.released d count)
        ⟨{ r with table := r.table.erase d.key }, d.unowned :: limbo⟩
  | hear (r : Registry ε) {o : Observer} (ho : o.role = .client ∨ o ∈ r.observers)
      {s : Snapshot} {n : Notice} {limbo : List Dialog}
      (hn : n = .destroyed → ∃ d rest, limbo = d :: rest ∧ s = d.lastSnapshot) :
      Step ⟨r, limbo⟩ (.heard o s n) ⟨r.hear o s n, limbo⟩
  | bury (r : Registry ε) (d : Dialog) (profiles : Directory) (limbo : List Dialog) :
      Step ⟨r, d :: limbo⟩ (.buried d)
        ⟨{ r with profiles, table := r.table.countDestroyed }, limbo⟩

/-- Moments one after another. -/
inductive Path : Scene ε → List Moment → Scene ε → Prop where
  | nil (c : Scene ε) : Path c [] c
  | cons {c c' c'' : Scene ε} {m : Moment} {ms : List Moment} (h : Step c m c')
      (hs : Path c' ms c'') : Path c (m :: ms) c''

namespace Path

variable {c c' c'' : Scene ε} {ms ms' : List Moment}

theorem single {m : Moment} (h : Step c m c') : Path c [m] c' := .cons h (.nil c')

theorem append (h : Path c ms c') (h' : Path c' ms' c'') : Path c (ms ++ ms') c'' := by
  induction h with
  | nil => exact h'
  | cons hstep _ ih => exact .cons hstep (ih h')

theorem split (h : Path c (ms ++ ms') c'') : ∃ c', Path c ms c' ∧ Path c' ms' c'' := by
  induction ms generalizing c with
  | nil => exact ⟨c, .nil c, h⟩
  | cons m ms ih =>
    cases h with
    | cons hstep hrest =>
      obtain ⟨c', hbefore, hafter⟩ := ih hrest
      exact ⟨c', .cons hstep hbefore, hafter⟩

end Path

/-! ## Sound registries -/

namespace Registry

@[simp] theorem hear_table (r : Registry ε) (o : Observer) (s : Snapshot) (n : Notice) :
    (r.hear o s n).table = r.table := by
  unfold hear
  split
  · rfl
  · split <;> rfl

@[simp] theorem hear_observers (r : Registry ε) (o : Observer) (s : Snapshot) (n : Notice) :
    (r.hear o s n).observers = r.observers := by
  unfold hear
  split
  · rfl
  · split <;> rfl

@[simp] theorem hear_nextSerial (r : Registry ε) (o : Observer) (s : Snapshot) (n : Notice) :
    (r.hear o s n).nextSerial = r.nextSerial := by
  unfold hear
  split
  · rfl
  · split <;> rfl

/-- These observers of one dialog are distinct clients, and none of them is registered globally. -/
structure Apart (r : Registry ε) (own : List Observer) : Prop where
  distinct : own.Pairwise fun o g => o.serial ≠ g.serial
  role : ∀ o ∈ own, o.role = .client
  registered : ∀ o ∈ own, o.serial < r.nextSerial
  apart : ∀ o ∈ own, ∀ g ∈ r.observers, g.serial ≠ o.serial

theorem apart_nil (r : Registry ε) : r.Apart [] :=
  ⟨.nil, List.forall_mem_nil _, List.forall_mem_nil _, List.forall_mem_nil _⟩

/-- What holds of a registry at every moment. -/
structure Sound (r : Registry ε) : Prop where
  wf : r.table.Wf
  spent : ∀ {key d}, r.table.find? key = some d → r.table.Spent key
  serials : r.observers.Pairwise fun o g => o.serial ≠ g.serial
  registered : ∀ o ∈ r.observers, o.serial < r.nextSerial
  apart : ∀ {key d}, r.table.find? key = some d → r.Apart d.observers

/-- Later, observers may have been added, with serials of their own. -/
structure Later (r r' : Registry ε) : Prop where
  nextSerial : r.nextSerial ≤ r'.nextSerial
  kept : ∀ o ∈ r.observers, o ∈ r'.observers
  added : ∀ o ∈ r'.observers, o ∈ r.observers ∨ o.role = .client ∧ r.nextSerial ≤ o.serial

variable {r r' r'' : Registry ε}

@[refl] theorem Later.refl (r : Registry ε) : r.Later r :=
  ⟨Nat.le_refl _, fun _ h => h, fun _ h => .inl h⟩

theorem Later.of_eq (hobservers : r'.observers = r.observers)
    (hserial : r'.nextSerial = r.nextSerial) : r.Later r' := by
  refine ⟨Nat.le_of_eq hserial.symm, ?_, ?_⟩
  · rw [hobservers]
    exact fun _ h => h
  · rw [hobservers]
    exact fun _ h => .inl h

theorem Later.trans (h : r.Later r') (h' : r'.Later r'') : r.Later r'' := by
  refine ⟨Nat.le_trans h.nextSerial h'.nextSerial, fun o ho => h'.kept o (h.kept o ho), ?_⟩
  intro o ho
  rcases h'.added o ho with ho | ⟨hrole, hserial⟩
  · exact h.added o ho
  · exact .inr ⟨hrole, Nat.le_trans h.nextSerial hserial⟩

theorem Apart.later {own : List Observer} (h : r.Apart own) (hlater : r.Later r') :
    r'.Apart own := by
  refine ⟨h.distinct, h.role, fun o ho => ?_, fun o ho g hg => ?_⟩
  · exact Nat.lt_of_lt_of_le (h.registered o ho) hlater.nextSerial
  · rcases hlater.added g hg with hg | ⟨-, hge⟩
    · exact h.apart o ho g hg
    · exact Nat.ne_of_gt (Nat.lt_of_lt_of_le (h.registered o ho) hge)

/-- A sound registry stays sound as long as what is changed in it is. -/
theorem Sound.of_find? (h : r.Sound) (hwf : r'.table.Wf)
    (hspent : ∀ {key}, r.table.Spent key → r'.table.Spent key)
    (hobservers : r'.observers = r.observers) (hlater : r.Later r')
    (hfind : ∀ {key e}, r'.table.find? key = some e → r.table.find? key = some e ∨
      r'.table.Spent key ∧ r'.Apart e.observers) : r'.Sound where
  wf := hwf
  spent hd := by
    rcases hfind hd with hd | ⟨hspends, -⟩
    · exact hspent (h.spent hd)
    · exact hspends
  serials := by
    rw [hobservers]
    exact h.serials
  registered := by
    rw [hobservers]
    intro o ho
    exact Nat.lt_of_lt_of_le (h.registered o ho) hlater.nextSerial
  apart hd := by
    rcases hfind hd with hd | ⟨-, hapart⟩
    · exact (h.apart hd).later hlater
    · exact hapart

/-- An observer that is registered next joins the others of its dialog. -/
theorem Apart.watchedBy {own : List Observer} (h : r.Apart own) (hsound : r.Sound) {o : Observer}
    (hrole : o.role = .client) (hserial : o.serial = r.nextSerial) (hlater : r.Later r')
    (hobservers : r'.observers = r.observers) (hnext : r.nextSerial < r'.nextSerial) :
    r'.Apart (own ++ [o]) := by
  have hown := h.later hlater
  refine ⟨List.pairwise_append.2 ⟨h.distinct, List.pairwise_singleton _ _, ?_⟩, ?_, ?_, ?_⟩
  · intro g hg o' ho'
    rw [List.mem_singleton.1 ho', hserial]
    exact Nat.ne_of_lt (h.registered g hg)
  · exact List.forall_mem_append.2 ⟨hown.role, by simpa using hrole⟩
  · exact List.forall_mem_append.2 ⟨hown.registered, by simpa [hserial] using hnext⟩
  · refine List.forall_mem_append.2 ⟨hown.apart, fun o' ho' g hg => ?_⟩
    rw [List.mem_singleton.1 ho', hserial]
    exact Nat.ne_of_lt (hsound.registered g (hobservers ▸ hg))

theorem later_observe (r : Registry ε) (name : String) (topics : List Topic) :
    r.Later (r.observe name topics .client) := by
  refine ⟨Nat.le_succ _, fun o ho => List.mem_append_left _ ho, fun o ho => ?_⟩
  rcases List.mem_append.1 ho with ho | ho
  · exact .inl ho
  · obtain rfl := List.mem_singleton.1 ho
    exact .inr ⟨rfl, Nat.le_refl _⟩

theorem Sound.observe (h : r.Sound) (name : String) (topics : List Topic) (role : Role) :
    (r.observe name topics role).Sound := by
  refine ⟨h.wf, h.spent, ?_, ?_, fun hd => ?_⟩
  · refine List.pairwise_append.2 ⟨h.serials, List.pairwise_singleton _ _, ?_⟩
    intro o ho g hg
    obtain rfl := List.mem_singleton.1 hg
    exact Nat.ne_of_lt (h.registered o ho)
  · intro o ho
    rcases List.mem_append.1 ho with ho | ho
    · exact Nat.lt_succ_of_lt (h.registered o ho)
    · obtain rfl := List.mem_singleton.1 ho
      exact Nat.lt_succ_self _
  · obtain ⟨hdistinct, hrole, hregistered, hapart⟩ := h.apart hd
    refine ⟨hdistinct, hrole, fun o ho => Nat.lt_succ_of_lt (hregistered o ho), ?_⟩
    intro o ho g hg
    rcases List.mem_append.1 hg with hg | hg
    · exact hapart o ho g hg
    · obtain rfl := List.mem_singleton.1 hg
      exact Nat.ne_of_gt (hregistered o ho)

/-- Whether a registry is sound is a matter of its table and of who is registered. -/
theorem Sound.congr (h : r.Sound) (htable : r'.table = r.table)
    (hobservers : r'.observers = r.observers) (hserial : r'.nextSerial = r.nextSerial) :
    r'.Sound := by
  refine h.of_find? ?_ ?_ hobservers (.of_eq hobservers hserial) ?_
  · rw [htable]
    exact h.wf
  · rw [htable]
    exact id
  · rw [htable]
    exact .inl

end Registry

/-! ## What a step does

Everything later modules need to know about steps is in these laws. -/

namespace Step

variable {c c' : Scene ε} {m : Moment}

/-- What stands after a step under the key it is about, and that it leaves the
other dialogs alone. -/
theorem find? (h : Step c m c') (key : Key) :
    c'.registry.table.find? key
      = if m.key? = some key then m.after? else c.registry.table.find? key := by
  have hsame {t : Table} {k : Key} {found : Option Dialog}
      (ht : t.find? key = if key = k then found else c.registry.table.find? key) :
      t.find? key = if some k = some key then found else c.registry.table.find? key := by
    simpa only [Option.some.injEq, eq_comm] using ht
  cases h with
  | idle h => exact congrArg (·.find? key) h.table
  | count | file | enlist | bury => rfl
  | insert h => exact hsame ((Table.insert_enters h).1.links.find? key)
  | restore h => exact hsame ((Table.restore_enters h).links.find? key)
  | @revise r d e h he =>
    have hkey : e.key = d.key := he.retains.key
    have hfind := Table.find?_put_of_linked (d := e) (by rw [hkey]; exact h) key
    rw [hkey] at hfind
    exact hsame hfind
  | @hand r d h => exact hsame (Table.find?_put_of_linked (d := d.clean) h key)
  | @attend r d h o => exact hsame (Table.find?_put_of_linked (d := d.watchedBy o) h key)
  | @move r d h event m =>
    have hkey : (d.move m).key = d.key := (d.move_retains m).1
    have hfind := Table.find?_put_of_linked (d := d.move m) (by rw [hkey]; exact h) key
    rw [hkey] at hfind
    exact hsame hfind
  | @giveBack r d h count hpos hlt =>
    have hfind := Table.find?_put_of_linked (d := { d with refs := d.refs - count }) h key
    rw [Moment.after?, if_neg (Nat.not_le.2 hlt)]
    exact hsame hfind
  | @unlink r d h count hpos hle =>
    rw [Moment.after?, if_pos hle]
    exact hsame (Table.find?_erase r.table d.key key)
  | hear r ho hn => simp [Moment.key?]

theorem find?_of_key (h : Step c m c') {key : Key} (hkey : m.key? = some key) :
    c'.registry.table.find? key = m.after? := by
  rw [h.find?, if_pos hkey]

theorem find?_of_ne (h : Step c m c') {key : Key} (hkey : m.key? ≠ some key) :
    c'.registry.table.find? key = c.registry.table.find? key := by
  rw [h.find?, if_neg hkey]

theorem size (h : Step c m c') : c'.registry.table.size = c.registry.table.size := by
  cases h with
  | idle h => rw [h.table]
  | insert h => exact (Table.insert_enters h).1.size
  | restore h => exact (Table.restore_enters h).size
  | count | file | enlist | bury => rfl
  | revise | hand | attend | move | giveBack => exact Table.size_put ..
  | unlink => exact Table.size_erase ..
  | hear => simp

/-- A spent number stays spent. -/
theorem spent (h : Step c m c') {key : Key} (hspent : c.registry.table.Spent key) :
    c'.registry.table.Spent key := by
  cases h with
  | idle h => rw [h.table]; exact hspent
  | insert h => exact (Table.insert_enters h).1.spent key hspent
  | restore h => exact (Table.restore_enters h).spent key hspent
  | count | file | enlist | bury => exact hspent
  | revise | hand | attend | move | giveBack => exact hspent.put _
  | unlink => exact hspent.erase _
  | hear => simpa using hspent

theorem wf (h : Step c m c') (hwf : c.registry.table.Wf) : c'.registry.table.Wf := by
  cases h with
  | idle h => rw [h.table]; exact hwf
  | insert h => exact (Table.insert_enters h).1.links.wf hwf
  | restore h => exact (Table.restore_enters h).links.wf hwf
  | count | file | enlist | bury => exact hwf
  | revise | hand | attend | move | giveBack => exact hwf.put _
  | unlink => exact hwf.erase _
  | hear => simpa using hwf

/-- A dialog that is linked was not linked before, and has no observers yet. If it is a new one, its
number was never given out. -/
theorem of_linked (h : Step c m c') {d : Dialog} (hm : m.linked? = some d) :
    c.registry.table.find? d.key = none ∧ c'.registry.table.Spent d.key ∧
      (m = .inserted d → ¬c.registry.table.Spent d.key) ∧ 0 < d.refs ∧ d.observers = [] := by
  cases h with
  | insert h =>
    cases hm
    obtain ⟨henters, hnew, -⟩ := Table.insert_enters h
    obtain ⟨-, hd⟩ := Table.insert_links h
    refine ⟨henters.links.fresh, henters.spends, fun _ => hnew, ?_, by rw [hd]; rfl⟩
    rw [hd]
    unfold Dialog.create
    dsimp only
    split
    · exact Nat.succ_pos _
    · decide
  | restore h =>
    cases hm
    have henters := Table.restore_enters h
    obtain ⟨-, hd⟩ := Table.restore_links h
    refine ⟨henters.links.fresh, henters.spends, fun hm => (by cases hm), ?_, by rw [hd]; rfl⟩
    rw [hd]
    exact Nat.one_pos
  | _ => cases hm

/-- The dialog that a step changes or unlinks was linked before. -/
theorem found (h : Step c m c') {d : Dialog} (hm : m.before? = some d) :
    c.registry.table.find? d.key = some d := by
  cases h with
  | revise h | hand h | attend h | move h | giveBack h | unlink h =>
    cases hm
    exact h
  | _ => cases hm

theorem later (h : Step c m c') : c.registry.Later c'.registry := by
  cases h with
  | idle h => exact .of_eq h.observers h.nextSerial
  | enlist => exact Registry.later_observe ..
  | attend => exact ⟨Nat.le_succ _, fun _ ho => ho, fun _ ho => .inl ho⟩
  | hear => exact .of_eq (by simp) (by simp)
  | _ => exact .of_eq rfl rfl

/-- What is linked after a step was linked before it, is linked at it, or goes on from what was
linked before. -/
theorem origin (h : Step c m c') {key : Key} {e : Dialog}
    (hfind : c'.registry.table.find? key = some e) :
    c.registry.table.find? key = some e ∨ (m.linked? = some e ∧ key = e.key) ∨
      ∃ d, c.registry.table.find? key = some d ∧ d.Continues e := by
  by_cases hkey : m.key? = some key
  case neg => exact .inl ((h.find?_of_ne hkey).symm.trans hfind)
  have hafter := (h.find?_of_key hkey).symm.trans hfind
  cases h with
  | insert | restore =>
    cases hkey
    cases hafter
    exact .inr (.inl ⟨rfl, rfl⟩)
  | revise h he =>
    cases hkey
    cases hafter
    have hkept := he.retains
    exact .inr (.inr ⟨_, h, hkept.key, hkept.callId, hkept.callerTag, hkept.version⟩)
  | hand h | attend h =>
    cases hkey
    cases hafter
    exact .inr (.inr ⟨_, h, rfl, rfl, rfl, Nat.le_refl _⟩)
  | @move r d h event m =>
    cases hkey
    cases hafter
    obtain ⟨hkey, hid, hcaller, -, -, hversion, -⟩ := d.move_retains m
    refine .inr (.inr ⟨d, h, hkey, hid, congrArg _ hcaller, ?_⟩)
    rw [hversion]
    exact Nat.le_add_right _ _
  | giveBack h hpos hlt =>
    cases hkey
    rw [Moment.after?, if_neg (Nat.not_le.2 hlt)] at hafter
    cases hafter
    exact .inr (.inr ⟨_, h, rfl, rfl, rfl, Nat.le_refl _⟩)
  | unlink h hpos hle =>
    rw [Moment.after?, if_pos hle] at hafter
    cases hafter
  | _ => cases hkey

/-- What is linked after a step was linked before it, or is as sound. -/
theorem source (h : Step c m c') (hsound : c.registry.Sound) {key : Key} {e : Dialog}
    (hfind : c'.registry.table.find? key = some e) :
    c.registry.table.find? key = some e ∨
      c'.registry.table.Spent key ∧ c'.registry.Apart e.observers := by
  by_cases hkey : m.key? = some key
  case neg => exact .inl ((h.find?_of_ne hkey).symm.trans hfind)
  have hafter := (h.find?_of_key hkey).symm.trans hfind
  have hlater := h.later
  have hlinked : ∀ d, m.linked? = some d →
      c'.registry.table.Spent d.key ∧ c'.registry.Apart d.observers := by
    intro d hm
    obtain ⟨-, hspends, -, -, hobservers⟩ := h.of_linked hm
    rw [hobservers]
    exact ⟨hspends, Registry.apart_nil _⟩
  refine .inr ?_
  cases h with
  | insert | restore =>
    cases hkey
    cases hafter
    exact hlinked _ rfl
  | @revise r d e' h he =>
    cases hkey
    cases hafter
    have hkept := he.retains
    rw [hkept.observers]
    exact ⟨(hsound.spent h).put _, (hsound.apart h).later hlater⟩
  | @hand r d h =>
    cases hkey
    cases hafter
    exact ⟨(hsound.spent h).put _, (hsound.apart h).later hlater⟩
  | @attend r d h o hrole hserial =>
    cases hkey
    cases hafter
    exact ⟨(hsound.spent h).put _,
      (hsound.apart h).watchedBy hsound hrole hserial hlater rfl (Nat.lt_succ_self _)⟩
  | @move r d h event m =>
    cases hkey
    cases hafter
    obtain ⟨-, -, -, -, hobservers, -⟩ := d.move_retains m
    rw [hobservers]
    exact ⟨(hsound.spent h).put _, (hsound.apart h).later hlater⟩
  | @giveBack r d h count hpos hlt =>
    cases hkey
    rw [Moment.after?, if_neg (Nat.not_le.2 hlt)] at hafter
    cases hafter
    exact ⟨(hsound.spent h).put _, (hsound.apart h).later hlater⟩
  | @unlink r d h count hpos hle =>
    rw [Moment.after?, if_pos hle] at hafter
    cases hafter
  | _ => cases hkey

theorem sound (h : Step c m c') (hsound : c.registry.Sound) : c'.registry.Sound := by
  have hsource := fun {key : Key} {e : Dialog}
    (hfind : c'.registry.table.find? key = some e) => h.source hsound hfind
  have hof := fun hobservers =>
    hsound.of_find? (h.wf hsound.wf) h.spent hobservers h.later hsource
  cases h with
  | idle h => exact hof h.observers
  | enlist => exact hsound.observe ..
  | hear => exact hof (by simp)
  | _ => exact hof rfl

/-- A step is about a dialog that it links or that was linked before. -/
theorem of_key? (h : Step c m c') {key : Key} (hm : m.key? = some key) :
    (∃ d, m.linked? = some d ∧ d.key = key) ∨
      ∃ d, c.registry.table.find? key = some d ∧ d.key = key := by
  cases m with
  | inserted d | restored d => exact .inl ⟨d, rfl, Option.some.inj hm⟩
  | revised d | handed d | moved d | released d =>
    cases hm
    exact .inr ⟨d, h.found rfl, rfl⟩
  | aside | heard | buried => cases hm

/-- A dialog that is gone for good stays gone, and no step is about it. -/
theorem untouched (h : Step c m c') {key : Key} (hnone : c.registry.table.find? key = none)
    (hspent : c.registry.table.Spent key) (hm : ∀ d, m = .restored d → d.key ≠ key) :
    c'.registry.table.find? key = none ∧ m.key? ≠ some key := by
  have hne : m.key? ≠ some key := by
    intro hkey
    rcases h.of_key? hkey with ⟨d, hlinked, rfl⟩ | ⟨d, hfind, -⟩
    · obtain ⟨-, -, hfresh, -⟩ := h.of_linked hlinked
      rcases Moment.of_linked? hlinked with rfl | rfl
      · exact hfresh rfl hspent
      · exact hm d rfl rfl
    · rw [hnone] at hfind
      cases hfind
  refine ⟨?_, hne⟩
  rw [h.find?_of_ne hne, hnone]

end Step

/-! ## What a path does -/

namespace Path

variable {c c' : Scene ε} {ms : List Moment}

theorem sound (h : Path c ms c') (hsound : c.registry.Sound) : c'.registry.Sound := by
  induction h with
  | nil => exact hsound
  | cons hstep _ ih => exact ih (hstep.sound hsound)

theorem later (h : Path c ms c') : c.registry.Later c'.registry := by
  induction h with
  | nil => exact .refl _
  | cons hstep _ ih => exact hstep.later.trans ih

theorem size (h : Path c ms c') : c'.registry.table.size = c.registry.table.size := by
  induction h with
  | nil => rfl
  | cons hstep _ ih => rw [ih, hstep.size]

theorem spent (h : Path c ms c') {key : Key} (hspent : c.registry.table.Spent key) :
    c'.registry.table.Spent key := by
  induction h with
  | nil => exact hspent
  | cons hstep _ ih => exact ih (hstep.spent hspent)

/-- A dialog that is gone for good stays gone until it is restored, and nothing that happens is
about it. -/
theorem untouched (h : Path c ms c') {key : Key} (hnone : c.registry.table.find? key = none)
    (hspent : c.registry.table.Spent key) (hms : ∀ d, .restored d ∈ ms → d.key ≠ key) :
    c'.registry.table.find? key = none ∧ ∀ m ∈ ms, m.key? ≠ some key := by
  induction h with
  | nil => exact ⟨hnone, fun _ hm => by cases hm⟩
  | cons hstep _ ih =>
    obtain ⟨hnone', hne⟩ := hstep.untouched hnone hspent fun d hm =>
      hms d (by rw [hm]; exact List.mem_cons_self)
    obtain ⟨hend, hrest⟩ := ih hnone' (hstep.spent hspent) fun d hd =>
      hms d (List.mem_cons_of_mem _ hd)
    exact ⟨hend, List.forall_mem_cons.2 ⟨hne, hrest⟩⟩

end Path

end SipDialogs
