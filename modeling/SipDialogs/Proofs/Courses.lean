-- SUMMARY: Every operation is a path of moments, and observers hear of each change once.
import SipDialogs.Proofs.Moments
import SipDialogs.Proofs.Edits

/-! # Courses

What an operation does, with all that is called back into the registry while it runs, is a path of
moments. Along it every observer that was registered before hears exactly what there is to tell,
and, as long as nobody calls back, hears it of each dialog in the order of the changes. -/

namespace SipDialogs

/-! ## News -/

/-- What an observer is told of a dialog. -/
abbrev News := Snapshot × Notice

theorem Notice.topic_withContext (n : Notice) (context : Entries) :
    (n.withContext context).topic = n.topic := by
  cases n <;> rfl

theorem Notice.withContext_eq_self {n : Notice} (h : n.topic ≠ .introspect) (context : Entries) :
    n.withContext context = n := by
  cases n with
  | introspect => exact absurd rfl h
  | _ => rfl

/-- What there is to tell of a moment: a dialog is new, was moved to another phase, or is gone. -/
def Moment.news? : Moment → Option News
  | inserted d => some (d.snapshot, .created)
  | moved d event m silently =>
    if silently || d.phase == m.phase then none
    else some ((d.move m).snapshot, .stateChanged d.phase m.phase event)
  | released d count => if d.refs ≤ count then some (d.lastSnapshot, .destroyed) else none
  | _ => none

/-- The moments of which there is something to tell. -/
inductive Moment.Tells : Moment → News → Prop where
  | created (d : Dialog) : Tells (.inserted d) (d.snapshot, .created)
  | changed {d : Dialog} {event : Event} {m : Transition} (h : d.phase ≠ m.phase) :
      Tells (.moved d event m false) ((d.move m).snapshot, .stateChanged d.phase m.phase event)
  | destroyed {d : Dialog} {count : Nat} (h : d.refs ≤ count) :
      Tells (.released d count) (d.lastSnapshot, .destroyed)

theorem Moment.tells_of_news? {m : Moment} {x : News} (h : m.news? = some x) : m.Tells x := by
  cases m with
  | inserted d =>
    cases h
    exact .created d
  | moved d event move silently =>
    simp only [news?, Bool.or_eq_true, beq_iff_eq] at h
    split at h
    · cases h
    next hchanged =>
      obtain ⟨hloud, hphase⟩ := not_or.1 hchanged
      obtain rfl : silently = false := Bool.eq_false_iff.2 hloud
      cases h
      exact .changed hphase
  | released d count =>
    simp only [news?] at h
    split at h
    next hle =>
      cases h
      exact .destroyed hle
    · cases h
  | _ => cases h

/-- The observers that the dialog of a moment has of its own. -/
def Moment.audience : Moment → List Observer
  | moved d _ _ _ | released d _ => d.observers
  | _ => []

/-- What there is to tell an observer of a moment, if it is registered globally or
with the dialog. -/
def Moment.newsFor? (o : Observer) (isGlobal : Bool) (m : Moment) : Option News :=
  m.news?.filter fun x => (isGlobal || m.audience.contains o) && o.wants [x.2.topic]

theorem Moment.newsFor?_of_none {m : Moment} (h : m.news? = none) (o : Observer)
    (isGlobal : Bool) : m.newsFor? o isGlobal = none := by
  unfold newsFor?
  rw [h, Option.filter_none]

theorem Moment.toList_newsFor? {m : Moment} {x : News} (h : m.news? = some x) (o : Observer)
    (isGlobal : Bool) : (m.newsFor? o isGlobal).toList
      = if (isGlobal || m.audience.contains o) && o.wants [x.2.topic] then [x] else [] := by
  unfold newsFor?
  rw [h, Option.filter_some]
  split <;> rfl

/-- What an observer hears at a moment. A question is no news. -/
def Moment.heardBy? (o : Observer) : Moment → Option News
  | heard g s n => if g = o ∧ n.topic ≠ .introspect then some (s, n) else none
  | _ => none

namespace Observer

/-- The news that an observer hears, in order. -/
def heard (o : Observer) (ms : List Moment) : List News := ms.filterMap (·.heardBy? o)

/-- The news that there are for an observer, in the order of the changes. -/
def owed (o : Observer) (isGlobal : Bool) (ms : List Moment) : List News :=
  ms.filterMap (·.newsFor? o isGlobal)

variable (o : Observer) (isGlobal : Bool) (ms ms' : List Moment)

@[simp] theorem heard_nil : o.heard [] = [] := rfl

@[simp] theorem owed_nil : o.owed isGlobal [] = [] := rfl

theorem heard_append : o.heard (ms ++ ms') = o.heard ms ++ o.heard ms' := List.filterMap_append

theorem owed_append :
    o.owed isGlobal (ms ++ ms') = o.owed isGlobal ms ++ o.owed isGlobal ms' :=
  List.filterMap_append

theorem owed_cons (m : Moment) :
    o.owed isGlobal (m :: ms) = (m.newsFor? o isGlobal).toList ++ o.owed isGlobal ms := by
  unfold owed
  rw [List.filterMap_cons]
  cases m.newsFor? o isGlobal <;> rfl

variable {o isGlobal ms} {m : Moment}

theorem heard_cons_of_none (h : m.heardBy? o = none) : o.heard (m :: ms) = o.heard ms :=
  List.filterMap_cons_none h

theorem owed_cons_of_none (h : m.news? = none) :
    o.owed isGlobal (m :: ms) = o.owed isGlobal ms := by
  rw [owed_cons, Moment.newsFor?_of_none h]
  rfl

end Observer

/-- News are about the dialog of their moment. -/
theorem Moment.key_of_news? {m : Moment} {x : News} (h : m.news? = some x) :
    m.key? = some x.1.key := by
  cases tells_of_news? h with
  | created | destroyed => rfl
  | @changed d event move => exact congrArg some (d.move_retains move).1.symm

/-- Where nothing happens to a dialog, there are no news of it. -/
theorem Observer.owed_eq_nil_of_key {ms : List Moment} {key : Key}
    (h : ∀ m ∈ ms, m.key? ≠ some key) (o : Observer) (isGlobal : Bool) :
    (o.owed isGlobal ms).filter (·.1.key = key) = [] := by
  refine List.filter_eq_nil_iff.2 fun x hx => ?_
  obtain ⟨m, hm, hnews⟩ := List.mem_filterMap.1 hx
  simp only [decide_eq_true_eq]
  rintro rfl
  exact h m hm (Moment.key_of_news? (Option.filter_eq_some_iff.1 hnews).1)

/-! ## Hearings

Who hears what, over all observers. -/

/-- Who is addressed at a moment, and with what news. -/
def Moment.hearing? : Moment → Option (Observer × News)
  | heard o s n => if n.topic = .introspect then none else some (o, s, n)
  | _ => none

/-- Who is to be addressed with the news of a moment, in order: the observers that are registered
globally, and after them those of the dialog itself. -/
def Moment.relays (globals : List Observer) (m : Moment) : List (Observer × News) :=
  match m.news? with
  | some x => ((globals ++ m.audience).filter (·.wants [x.2.topic])).map fun o => (o, x)
  | none => []

/-- The news that observers hear, in order. -/
def hearings (ms : List Moment) : List (Observer × News) := ms.filterMap (·.hearing?)

/-- The news that there are for observers, in the order of the changes. -/
def relays (globals : List Observer) (ms : List Moment) : List (Observer × News) :=
  ms.flatMap (·.relays globals)

theorem hearings_append (ms ms' : List Moment) :
    hearings (ms ++ ms') = hearings ms ++ hearings ms' := List.filterMap_append

theorem relays_append (globals : List Observer) (ms ms' : List Moment) :
    relays globals (ms ++ ms') = relays globals ms ++ relays globals ms' := List.flatMap_append

theorem Moment.relays_of_none {m : Moment} (h : m.news? = none) (globals : List Observer) :
    m.relays globals = [] := by
  unfold relays
  rw [h]

theorem relays_cons_of_none {m : Moment} (h : m.news? = none) (globals : List Observer)
    (ms : List Moment) : relays globals (m :: ms) = relays globals ms := by
  rw [relays, List.flatMap_cons, Moment.relays_of_none h]
  rfl

theorem relays_of_no_news {ms : List Moment} (h : ∀ m ∈ ms, m.news? = none)
    (globals : List Observer) : relays globals ms = [] :=
  List.flatMap_eq_nil_iff.2 fun m hm => Moment.relays_of_none (h m hm) globals

theorem hearings_cons_of_none {m : Moment} (h : ∀ o, m.heardBy? o = none) (ms : List Moment) :
    hearings (m :: ms) = hearings ms := by
  refine List.filterMap_cons_none ?_
  cases m with
  | heard o s n =>
    have ho := h o
    simp only [Moment.heardBy?, true_and] at ho
    simp only [Moment.hearing?]
    split
    · rfl
    next hn => rw [if_pos hn] at ho; cases ho
  | _ => rfl

/-- What one observer hears is its part of what is heard. -/
theorem heard_eq_hearings (o : Observer) (ms : List Moment) :
    o.heard ms = (hearings ms).filterMap fun x => if x.1 = o then some x.2 else none := by
  unfold hearings Observer.heard
  rw [List.filterMap_filterMap]
  refine List.filterMap_congr fun m _ => ?_
  cases m with
  | heard g s n =>
    by_cases hn : n.topic = .introspect
    · simp [Moment.heardBy?, Moment.hearing?, hn]
    · simp [Moment.heardBy?, Moment.hearing?, hn]
  | _ => rfl

/-- Where nothing happens to a dialog, nobody is to hear news of it. -/
theorem relays_eq_nil_of_key {ms : List Moment} {key : Key} (h : ∀ m ∈ ms, m.key? ≠ some key)
    (globals : List Observer) : (relays globals ms).filter (·.2.1.key = key) = [] := by
  refine List.filter_eq_nil_iff.2 fun x hx => ?_
  obtain ⟨m, hm, hx⟩ := List.mem_flatMap.1 hx
  simp only [decide_eq_true_eq]
  rintro rfl
  unfold Moment.relays at hx
  split at hx
  next news hnews =>
    obtain ⟨o, -, rfl⟩ := List.mem_map.1 hx
    exact h m hm (Moment.key_of_news? hnews)
  next => cases hx

/-! ## Courses -/

/-- What may happen in a run. -/
structure Conduct where
  /-- Dialogs may be restored. -/
  restores : Bool
  /-- Dialogs may be moved without telling anyone. -/
  silences : Bool
  /-- Observers may call back into the registry. -/
  callsBack : Bool
  /-- Whether an operation may be performed, here and by those who call back. -/
  allows : Operation → Bool := fun _ => true

/-- Anything may happen. -/
def Conduct.free : Conduct := { restores := true, silences := true, callsBack := true }

/-- The same conduct with these operations only. -/
def Conduct.only (C : Conduct) (allows : Operation → Bool) : Conduct := { C with allows }

/-- Whether a conduct has room for an operation. -/
def Operation.fits (C : Conduct) (op : Operation) : Bool :=
  C.allows op && match op with
    | restore _ => C.restores
    | nextPhase _ _ => C.silences
    | _ => true

theorem Operation.allowed {C : Conduct} {op : Operation} (h : op.fits C = true) :
    C.allows op = true := (Bool.and_eq_true_iff.1 h).1

/-- The dialog whose timer an operation is about. -/
def Operation.timer? : Operation → Option Key
  | startTimer key _ | stopTimer key | expire key => some key
  | _ => none

/-- What an operation does to a dialog at a moment. What is called back meanwhile is
done by others. -/
inductive Operation.Does : Operation → Moment → Prop where
  | insert (key : Key) (identity : Identity) (holders : Nat) (start : Timestamp)
      (timeout : UInt32) :
      Does (.insert identity holders) (.inserted (.create key identity holders start timeout))
  | restore (s : Snapshot) : Does (.restore s) (.restored (.ofSnapshot s))
  | lookup (d : Dialog) : Does (.lookup d.key) (.revised d d.retain)
  | lookupIdentity {callId fromTag toTag : String} {d : Dialog} {way : Direction}
      (h : d.direction? callId fromTag toTag = some way) :
      Does (.lookupIdentity callId fromTag toTag) (.revised d d.retain)
  | lookupDownstream {callId : String} {fromTag : Option String} {d : Dialog}
      (h : d.isDownstream callId fromTag = true) :
      Does (.lookupDownstream callId fromTag) (.revised d d.retain)
  | addRefs (d : Dialog) (count : Nat) :
      Does (.addRefs d.key count) (.revised d (d.addRefs count))
  | release (d : Dialog) (count : Nat) : Does (.release d.key count) (.released d count)
  | nextPhase (d : Dialog) (event : Event) (m : Transition) :
      Does (.nextPhase d.key event) (.moved d event m true)
  | processEvent (d : Dialog) (event : Event) (m : Transition) :
      Does (.processEvent d.key event) (.moved d event m false)
  /-- What an event takes away is given back once observers have been told of it. -/
  | giveUp {p : Phase} {flags : Flags} {event : Event} {m : Transition}
      (h : p.next? flags event = some m) (d : Dialog) :
      Does (.processEvent d.key event) (.released d m.unref)
  | setLegInfo {d e : Dialog} {side : Leg} {info : LegInfo} (h : d.setLegInfo side info = .ok e) :
      Does (.setLegInfo d.key side info) (.revised d e)
  | updateCseq (d : Dialog) (side : Leg) (cseq : String) :
      Does (.updateCseq d.key side cseq) (.revised d (d.updateCseq side cseq))
  | prepareTimer {d e : Dialog} {milliseconds : Option Nat}
      (h : Registry.prepareTimer d milliseconds = .ok e) :
      Does (.startTimer d.key milliseconds) (.revised d e)
  | swapTimer {op : Operation} {d : Dialog} (h : op.timer? = some d.key)
      (timer : Option TimerSlot) : Does op (.revised d { d with timer })
  | disarm {op : Operation} {d : Dialog} (h : op.timer? = some d.key) : Does op (.released d 1)
  | takeDirty {d : Dialog} (h : d.isDirty = true) : Does .takeDirty (.handed d)
  | observeDialog (d : Dialog) (serial : Nat) (name : String) (topics : List Topic) :
      Does (.observeDialog d.key name topics) (.revised d (d.watchedBy { serial, name, topics }))
  | attach (d : Dialog) (profile : String) (value : Option String) (l : Link) :
      Does (.attach d.key profile value) (.revised d { d with links := d.links ++ [l] })
  | detach (d : Dialog) (profile : String) (value : Option String) (chosen : Link → Bool) :
      Does (.detach d.key profile value) (.revised d { d with links := d.links.eraseP chosen })

/-- What happens to a dialog is done by an operation that a conduct has room for. -/
def Moment.fits (C : Conduct) (m : Moment) : Prop :=
  m.key? ≠ none → ∃ op : Operation, op.fits C = true ∧ op.Does m

namespace Moment.fits

variable {C : Conduct}

/-- Where no dialog changes, nobody does anything. -/
theorem of_key? {m : Moment} (h : m.key? = none) : m.fits C := fun hne => absurd h hne

theorem of_does {op : Operation} {m : Moment} (hop : op.fits C = true) (h : op.Does m) : m.fits C :=
  fun _ => ⟨op, hop, h⟩

theorem restores {d : Dialog} (h : (Moment.restored d).fits C) : C.restores = true := by
  obtain ⟨op, hop, hdoes⟩ := h (Option.some_ne_none _)
  cases hdoes
  exact (Bool.and_eq_true_iff.1 hop).2

theorem silences {d : Dialog} {event : Event} {m : Transition}
    (h : (Moment.moved d event m true).fits C) : C.silences = true := by
  obtain ⟨op, hop, hdoes⟩ := h (Option.some_ne_none _)
  cases hdoes
  exact (Bool.and_eq_true_iff.1 hop).2

/-- Dialogs are handed out to be stored by one operation only. -/
theorem hands {d : Dialog} (h : (Moment.handed d).fits C) : C.allows .takeDirty = true := by
  obtain ⟨op, hop, hdoes⟩ := h (Option.some_ne_none _)
  cases hdoes
  exact Operation.allowed hop

end Moment.fits

/-- Whether an observer is registered globally. -/
def Registry.isGlobal (r : Registry ε) (o : Observer) : Bool := decide (o ∈ r.observers)

/-- An observer that is registered stays registered as it is. -/
theorem Registry.Later.isGlobal {r r' : Registry ε} (h : r.Later r') {o : Observer}
    (ho : o.serial < r.nextSerial) : r'.isGlobal o = r.isGlobal o := by
  refine decide_eq_decide.2 ⟨fun hmem => ?_, h.kept o⟩
  rcases h.added o hmem with hmem | ⟨-, hge⟩
  · exact hmem
  · exact absurd ho (Nat.not_lt.2 hge)

theorem Registry.Later.serial {r r' : Registry ε} (h : r.Later r') {o : Observer}
    (ho : o.serial < r.nextSerial) : o.serial < r'.nextSerial :=
  Nat.lt_of_lt_of_le ho h.nextSerial

/-- A path on which the observers registered before it hear all that there is to tell them exactly
once. If nobody calls back and nothing is restored, they hear it of each dialog in the order of its
changes. -/
structure Course (C : Conduct) (limbo : List Dialog) (r : Registry ε) (ms : List Moment)
    (r' : Registry ε) : Prop where
  path : Path ⟨r, limbo⟩ ms ⟨r', limbo⟩
  fits : ∀ m ∈ ms, m.fits C
  told : ∀ o : Observer, o.serial < r.nextSerial → (o.heard ms).Perm (o.owed (r.isGlobal o) ms)
  inOrder : C.callsBack = false → C.restores = false →
    ∀ o : Observer, o.serial < r.nextSerial → ∀ key,
    (o.heard ms).filter (·.1.key = key) = (o.owed (r.isGlobal o) ms).filter (·.1.key = key)

variable {C : Conduct} {limbo : List Dialog}

namespace Course

variable {r r' r'' : Registry ε} {ms ms' : List Moment}

theorem nil (r : Registry ε) : Course C limbo r [] r :=
  ⟨.nil _, List.forall_mem_nil _, fun _ _ => .refl _, fun _ _ _ _ _ => rfl⟩

theorem append (h : Course C limbo r ms r') (h' : Course C limbo r' ms' r'') :
    Course C limbo r (ms ++ ms') r'' where
  path := h.path.append h'.path
  fits := List.forall_mem_append.2 ⟨h.fits, h'.fits⟩
  told := by
    intro o ho
    have hlater := h.path.later
    rw [o.heard_append, o.owed_append, ← hlater.isGlobal ho]
    refine List.Perm.append ?_ (h'.told o (hlater.serial ho))
    rw [hlater.isGlobal ho]
    exact h.told o ho
  inOrder := by
    intro hquiet hfinal o ho key
    have hlater := h.path.later
    rw [o.heard_append, o.owed_append, List.filter_append, List.filter_append,
      h.inOrder hquiet hfinal o ho key, h'.inOrder hquiet hfinal o (hlater.serial ho) key,
      hlater.isGlobal ho]

/-- A step of which there is nothing to tell. -/
theorem single {m : Moment} (h : Step ⟨r, limbo⟩ m ⟨r', limbo⟩) (hfits : m.fits C)
    (hnews : m.news? = none) (hheard : ∀ o, m.heardBy? o = none) : Course C limbo r [m] r' where
  path := .single h
  fits := by simpa using hfits
  told o _ := by
    rw [Observer.heard_cons_of_none (hheard o), Observer.owed_cons_of_none hnews]
    exact .refl _
  inOrder _ _ o _ key := by
    rw [Observer.heard_cons_of_none (hheard o), Observer.owed_cons_of_none hnews]
    rfl

theorem sound (h : Course C limbo r ms r') (hsound : r.Sound) : r'.Sound := h.path.sound hsound

/-- Where nothing is restored, nothing happens to a dialog after its end. -/
theorem untouched_by_end {limbo' : List Dialog} (hms : Course C limbo' r' ms r'') (hsound : r.Sound)
    {d : Dialog} {count : Nat} (hle : d.refs ≤ count)
    (hunlink : Step ⟨r, limbo⟩ (.released d count) ⟨r', limbo'⟩) (hfinal : C.restores = false) :
    ∀ m ∈ ms, m.key? ≠ some d.key := by
  have hgone : r'.table.find? d.key = none := by
    rw [hunlink.find?_of_key rfl, Moment.after?, if_pos hle]
  have hlinked := hunlink.found rfl
  have hspent : r'.table.Spent d.key := hunlink.spent (hsound.spent hlinked)
  have hnever : ∀ e, .restored e ∈ ms → e.key ≠ d.key := by
    intro e he
    rw [(hms.fits _ he).restores] at hfinal
    cases hfinal
  exact (hms.path.untouched hgone hspent hnever).2

end Course

/-- Observers are only added, behind those that are registered. -/
theorem Step.observers {c c' : Scene ε} {m : Moment} (h : Step c m c') :
    c.registry.observers <+: c'.registry.observers := by
  cases h with
  | idle h => exact h.observers ▸ List.prefix_refl _
  | enlist => exact List.prefix_append ..
  | hear => exact (Registry.hear_observers ..).symm ▸ List.prefix_refl _
  | _ => exact List.prefix_refl _

theorem Path.observers {c c' : Scene ε} {ms : List Moment} (h : Path c ms c') :
    c.registry.observers <+: c'.registry.observers := by
  induction h with
  | nil => exact List.prefix_refl _
  | cons hstep _ ih => exact hstep.observers.trans ih

/-- A course as the operations take it. As long as nobody calls back, nothing is restored and nobody
registers, the observers hear the news of each dialog one after another, in the order of the
changes, and all who subscribe to one of them hear it in the order in which they are registered. -/
structure Procession (C : Conduct) (limbo : List Dialog) (r : Registry ε) (ms : List Moment)
    (r' : Registry ε) : Prop extends Course C limbo r ms r' where
  relayed : C.callsBack = false → C.restores = false → r'.observers = r.observers → ∀ key,
    (hearings ms).filter (·.2.1.key = key) = (relays r.observers ms).filter (·.2.1.key = key)

namespace Procession

variable {r r' r'' : Registry ε} {ms ms' : List Moment}

theorem nil (r : Registry ε) : Procession C limbo r [] r :=
  ⟨.nil r, fun _ _ _ _ => rfl⟩

theorem append (h : Procession C limbo r ms r') (h' : Procession C limbo r' ms' r'') :
    Procession C limbo r (ms ++ ms') r'' where
  toCourse := h.toCourse.append h'.toCourse
  relayed := by
    intro hquiet hfinal hsame key
    -- who was registered in between is registered at the end
    have hbetween : r'.observers = r.observers := by
      have hlength := h'.path.observers.length_le
      rw [hsame] at hlength
      exact (h.path.observers.eq_of_length_le hlength).symm
    rw [hearings_append, relays_append, List.filter_append, List.filter_append,
      h.relayed hquiet hfinal hbetween key,
      h'.relayed hquiet hfinal (hsame.trans hbetween.symm) key, hbetween]

/-- A step of which there is nothing to tell. -/
theorem single {m : Moment} (h : Step ⟨r, limbo⟩ m ⟨r', limbo⟩) (hfits : m.fits C)
    (hnews : m.news? = none) (hheard : ∀ o, m.heardBy? o = none) :
    Procession C limbo r [m] r' where
  toCourse := .single h hfits hnews hheard
  relayed _ _ _ key := by
    rw [hearings_cons_of_none hheard, relays_cons_of_none hnews]
    rfl

/-- Nothing happens to any dialog. -/
theorem aside (h : Step ⟨r, limbo⟩ .aside ⟨r', limbo⟩) : Procession C limbo r [.aside] r' :=
  .single h (.of_key? rfl) rfl fun _ => rfl

end Procession

/-- Some course leads from one registry to the other. -/
def Registry.Proceeds (C : Conduct) (limbo : List Dialog) (r r' : Registry ε) : Prop :=
  ∃ ms, Procession C limbo r ms r'

/-- Surroundings that stay within a conduct, whatever they do when they are called. -/
structure Environment.Keeps (C : Conduct) (env : Environment ε) : Prop where
  observe : ∀ o s n (r : Registry ε) limbo, r.Sound →
    ∃ ms, Procession C limbo r ms (env.observe o s n r).2 ∧
      (C.callsBack = false → ∀ m ∈ ms, m = .aside)
  schedule : ∀ key ms (r : Registry ε) limbo, r.Sound →
    r.Proceeds C limbo (env.schedule key ms r).2
  cancel : ∀ handle (r : Registry ε) limbo, r.Sound →
    r.Proceeds C limbo (env.cancel handle r).2

namespace Registry

variable {env : Environment ε} {r r' r'' : Registry ε}

namespace Proceeds

@[refl] theorem refl (r : Registry ε) : r.Proceeds C limbo r := ⟨[], .nil r⟩

theorem trans (h : r.Proceeds C limbo r') (h' : r'.Proceeds C limbo r'') :
    r.Proceeds C limbo r'' := by
  obtain ⟨ms, hms⟩ := h
  obtain ⟨ms', hms'⟩ := h'
  exact ⟨ms ++ ms', hms.append hms'⟩

theorem sound (h : r.Proceeds C limbo r') (hsound : r.Sound) : r'.Sound := by
  obtain ⟨ms, hms⟩ := h
  exact hms.sound hsound

theorem idle (h : r.Idle r') : r.Proceeds C limbo r' :=
  ⟨_, .aside (.idle h limbo)⟩

theorem record (r : Registry ε) {c : Call} (hc : ∀ o s n, c ≠ .observed o s n) :
    r.Proceeds C limbo (r.record c) := idle (.record r hc)

theorem enlist (r : Registry ε) (name : String) (topics : List Topic) :
    r.Proceeds C limbo (r.observe name topics .client) :=
  ⟨_, .aside (.enlist r name topics limbo)⟩

theorem file (r : Registry ε) (profiles : Directory) :
    r.Proceeds C limbo { r with profiles } :=
  ⟨_, .aside (.file r profiles limbo)⟩

theorem countAnomaly (r : Registry ε) :
    r.Proceeds C limbo { r with table := r.table.countAnomaly } := by
  have hstep := Step.count r (f := fun c => { c with refAnomalies := c.refAnomalies + 1 })
    (fun _ => ⟨rfl, rfl⟩) limbo
  exact ⟨_, .aside hstep⟩

theorem countInvalid (r : Registry ε) :
    r.Proceeds C limbo { r with table := r.table.countInvalid } := by
  have hstep := Step.count r
    (f := fun c => { c with invalidTransitions := c.invalidTransitions + 1 })
    (fun _ => ⟨rfl, rfl⟩) limbo
  exact ⟨_, .aside hstep⟩

theorem revise {d e : Dialog} (h : r.table.find? d.key = some d) (he : d.Revision e)
    (hfits : (Moment.revised d e).fits C) (profiles : Directory) :
    r.Proceeds C limbo { r with table := r.table.put e, profiles } :=
  ⟨_, .single (.revise h he profiles limbo) hfits rfl fun _ => rfl⟩

end Proceeds

/-! ## Telling observers -/

/-- The news of one notice for an observer among those who are told of it. -/
def told (os : List Observer) (s : Snapshot) (n : Notice) (o : Observer) : List News :=
  if n.topic = .introspect then [] else List.replicate (os.count o) (s, n)

/-- One notice, with those who are told of it in order. A question is no news. -/
def addressed (os : List Observer) (s : Snapshot) (n : Notice) : List (Observer × News) :=
  if n.topic = .introspect then [] else os.map fun o => (o, s, n)

theorem told_eq_addressed (os : List Observer) (s : Snapshot) (n : Notice) (o : Observer) :
    told os s n o = (addressed os s n).filterMap fun x => if x.1 = o then some x.2 else none := by
  unfold told addressed
  split
  · rfl
  · induction os with
    | nil => rfl
    | cons g os ih =>
      rw [List.map_cons, List.filterMap_cons, ← ih, List.count_cons]
      by_cases hg : g = o
      · simp [hg, List.replicate_succ]
      · simp [hg]

/-- What telling observers comes to. -/
structure Telling (C : Conduct) (limbo : List Dialog) (r : Registry ε) (os : List Observer)
    (s : Snapshot) (n : Notice) (ms : List Moment) (r' : Registry ε) : Prop where
  path : Path ⟨r, limbo⟩ ms ⟨r', limbo⟩
  fits : ∀ m ∈ ms, m.fits C
  told : ∀ o : Observer, o.serial < r.nextSerial →
    (o.heard ms).Perm (told os s n o ++ o.owed (r.isGlobal o) ms)
  relayed : C.callsBack = false → hearings ms = addressed os s n ∧ ∀ m ∈ ms, m.news? = none

/-- As long as nobody calls back, every observer hears what it is told and nothing else. -/
theorem Telling.inOrder {os : List Observer} {s : Snapshot} {n : Notice} {ms : List Moment}
    (h : Telling C limbo r os s n ms r') (hquiet : C.callsBack = false) (o : Observer)
    (isGlobal : Bool) : o.heard ms = Registry.told os s n o ∧ o.owed isGlobal ms = [] := by
  obtain ⟨hheard, hnews⟩ := h.relayed hquiet
  refine ⟨?_, List.filterMap_eq_nil_iff.2 fun m hm => Moment.newsFor?_of_none (hnews m hm) ..⟩
  rw [heard_eq_hearings, hheard, told_eq_addressed]

/-- A question may come back with another context. News come back as they are. -/
theorem tell_notice (env : Environment ε) (s : Snapshot) (n : Notice) (r : Registry ε)
    (o : Observer) :
    (tell env s (n, r) o).1.topic = n.topic ∧
      (n.topic ≠ .introspect → (tell env s (n, r) o).1 = n) := by
  unfold tell
  dsimp only
  split
  · split <;> exact ⟨rfl, fun _ => rfl⟩
  · exact ⟨Notice.topic_withContext .., fun h => Notice.withContext_eq_self h _⟩

theorem heardBy?_heard (o g : Observer) (s : Snapshot) (n : Notice) :
    ((Moment.heard g s n).heardBy? o).toList = told [g] s n o := by
  unfold told Moment.heardBy?
  by_cases hg : g = o
  · by_cases hn : n.topic = .introspect <;> simp [hg, hn]
  · by_cases hn : n.topic = .introspect <;> simp [hg, hn]

/-- Telling one observer. -/
theorem tell_telling (henv : env.Keeps C) (hsound : r.Sound) {o : Observer}
    (ho : o.role = .client ∨ o ∈ r.observers) {s : Snapshot} {n : Notice}
    (hn : n = .destroyed → ∃ d rest, limbo = d :: rest ∧ s = d.lastSnapshot) :
    ∃ ms, Telling C limbo r [o] s n ms (tell env s (n, r) o).2 := by
  have hstep : Step ⟨r, limbo⟩ (.heard o s n) ⟨r.hear o s n, limbo⟩ := .hear r ho hn
  have hheard : ∀ g ms, Observer.heard g (.heard o s n :: ms) = told [o] s n g ++ g.heard ms := by
    intro g ms
    rw [← heardBy?_heard]
    unfold Observer.heard
    cases hg : (Moment.heard o s n).heardBy? g with
    | none => rw [List.filterMap_cons_none hg]; rfl
    | some x => rw [List.filterMap_cons_some hg]; rfl
  have howed : ∀ (g : Observer) isGlobal ms,
      g.owed isGlobal (.heard o s n :: ms) = g.owed isGlobal ms := fun g isGlobal ms =>
    Observer.owed_cons_of_none rfl
  have hhearing : ∀ ms, hearings (.heard o s n :: ms) = addressed [o] s n ++ hearings ms := by
    intro ms
    by_cases hn : n.topic = .introspect <;>
      simp [hearings, addressed, Moment.hearing?, hn]
  cases hrole : o.role with
  | writer mailbox realtime =>
    have htell : (tell env s (n, r) o).2 = r.hear o s n := by
      cases hw : Write.ofNotice? realtime s n <;> simp [tell, hear, hrole, hw]
    rw [htell]
    refine ⟨[.heard o s n], .single hstep, by simpa using .of_key? rfl, fun g _ => ?_,
      fun _ => ⟨?_, by simp [Moment.news?]⟩⟩
    · rw [hheard, howed]
      exact .refl _
    · rw [hhearing]
      exact List.append_nil _
  | client =>
    have htell : (tell env s (n, r) o).2 = (env.observe o s n (r.hear o s n)).2 := by
      simp [tell, hear, hrole]
    obtain ⟨ms, hms, hquiet⟩ := henv.observe o s n (r.hear o s n) limbo (hstep.sound hsound)
    rw [htell]
    refine ⟨.heard o s n :: ms, .cons hstep hms.path, ?_, fun g hg => ?_, fun hC => ⟨?_, ?_⟩⟩
    · exact List.forall_mem_cons.2 ⟨.of_key? rfl, hms.fits⟩
    · rw [hheard, howed, ← hstep.later.isGlobal hg]
      exact (hms.told g (hstep.later.serial hg)).append_left _
    · have hnone : hearings ms = [] := List.filterMap_eq_nil_iff.2 fun m hm => by
        rw [hquiet hC m hm]
        rfl
      rw [hhearing, hnone]
      exact List.append_nil _
    · refine List.forall_mem_cons.2 ⟨rfl, fun m hm => ?_⟩
      rw [hquiet hC m hm]
      rfl

theorem told_append (os os' : List Observer) (s : Snapshot) (n : Notice) (o : Observer) :
    told (os ++ os') s n o = told os s n o ++ told os' s n o := by
  unfold told
  split
  · rfl
  · rw [List.count_append, List.replicate_add]

theorem addressed_append (os os' : List Observer) (s : Snapshot) (n : Notice) :
    addressed (os ++ os') s n = addressed os s n ++ addressed os' s n := by
  unfold addressed
  split
  · rfl
  · exact List.map_append

theorem addressed_congr {n n' : Notice} (htopic : n'.topic = n.topic)
    (hn : n.topic ≠ .introspect → n' = n) (os : List Observer) (s : Snapshot) :
    addressed os s n' = addressed os s n := by
  unfold addressed
  rw [htopic]
  split
  · rfl
  next hnews => rw [hn hnews]

theorem told_congr {n n' : Notice} (htopic : n'.topic = n.topic)
    (hn : n.topic ≠ .introspect → n' = n) (os : List Observer) (s : Snapshot) (o : Observer) :
    told os s n' o = told os s n o := by
  unfold told
  rw [htopic]
  split
  · rfl
  next hnews => rw [hn hnews]

theorem Telling.append {os os' : List Observer} {s : Snapshot} {n n' : Notice}
    {ms ms' : List Moment} (h : Telling C limbo r os s n ms r')
    (h' : Telling C limbo r' os' s n' ms' r'') (htopic : n'.topic = n.topic)
    (hn : n.topic ≠ .introspect → n' = n) :
    Telling C limbo r (os ++ os') s n (ms ++ ms') r'' where
  path := h.path.append h'.path
  fits := List.forall_mem_append.2 ⟨h.fits, h'.fits⟩
  told := by
    intro o ho
    have hfirst := h.told o ho
    have hsecond := h'.told o (h.path.later.serial ho)
    rw [told_congr htopic hn, h.path.later.isGlobal ho] at hsecond
    rw [o.heard_append, o.owed_append, told_append, List.append_assoc]
    refine (hfirst.append hsecond).trans ?_
    rw [List.append_assoc]
    refine List.Perm.append_left _ ?_
    rw [← List.append_assoc, ← List.append_assoc]
    exact List.perm_append_comm.append_right _
  relayed := by
    intro hquiet
    obtain ⟨hheard, hnews⟩ := h.relayed hquiet
    obtain ⟨hheard', hnews'⟩ := h'.relayed hquiet
    rw [addressed_congr htopic hn] at hheard'
    rw [hearings_append, addressed_append, hheard, hheard']
    exact ⟨rfl, List.forall_mem_append.2 ⟨hnews, hnews'⟩⟩

theorem Notice.eq_destroyed_of_topic {n : Notice} (h : n.topic = .destroyed) : n = .destroyed := by
  cases n with
  | destroyed => rfl
  | _ => cases h

/-- Telling one observer after another. -/
theorem tellAll_telling (henv : env.Keeps C) (hsound : r.Sound) {os : List Observer}
    (hos : ∀ o ∈ os, o.role = .client ∨ o ∈ r.observers) {s : Snapshot} {n : Notice}
    (hn : n = .destroyed → ∃ d rest, limbo = d :: rest ∧ s = d.lastSnapshot) :
    ∃ ms, Telling C limbo r os s n ms (os.foldl (tell env s) (n, r)).2 := by
  induction os generalizing r n with
  | nil =>
    refine ⟨[], .nil _, List.forall_mem_nil _, fun o _ => ?_,
      fun _ => ⟨?_, List.forall_mem_nil _⟩⟩
    · simp [told]
    · simp [addressed, hearings]
  | cons o os ih =>
    obtain ⟨ms, hms⟩ := tell_telling henv hsound (hos o List.mem_cons_self) hn
    obtain ⟨htopic, hsame⟩ := tell_notice env s n r o
    rw [List.foldl_cons]
    generalize tell env s (n, r) o = told at hms htopic hsame ⊢
    obtain ⟨n', r'⟩ := told
    have hlast : n' = .destroyed → ∃ d rest, limbo = d :: rest ∧ s = d.lastSnapshot := by
      rintro rfl
      exact hn (Notice.eq_destroyed_of_topic htopic.symm)
    have hos' : ∀ g ∈ os, g.role = .client ∨ g ∈ r'.observers := fun g hg =>
      (hos g (List.mem_cons_of_mem _ hg)).imp id (hms.path.later.kept g)
    obtain ⟨ms', hms'⟩ := ih (hms.path.sound hsound) hos' hlast
    exact ⟨ms ++ ms', hms.append hms' htopic hsame⟩

/-- Every observer that is registered, globally or with the dialog, is told of news once if it
subscribes to them. -/
theorem Sound.told_subscribers (h : r.Sound) {own : List Observer} (hown : r.Apart own)
    (s : Snapshot) {n : Notice} (hn : n.topic ≠ .introspect) (o : Observer) :
    told ((r.observers ++ own).filter (·.wants [n.topic])) s n o
      = if (r.isGlobal o || own.contains o) && o.wants [n.topic] then [(s, n)] else [] := by
  have hnodup : (r.observers ++ own).Nodup := by
    refine List.nodup_append.2 ⟨?_, ?_, ?_⟩
    · exact h.serials.imp fun hne heq => hne (congrArg _ heq)
    · exact hown.distinct.imp fun hne heq => hne (congrArg _ heq)
    · intro g hg o ho heq
      exact hown.apart o ho g hg (congrArg _ heq)
  have hmem : (r.isGlobal o || own.contains o) = true ↔ o ∈ r.observers ++ own := by
    simp [isGlobal]
  unfold told
  rw [if_neg hn, (hnodup.filter _).count]
  simp only [Bool.and_eq_true, hmem, List.mem_filter]
  split <;> rfl

theorem notify_telling (henv : env.Keeps C) (hsound : r.Sound) {own : List Observer}
    (hown : r.Apart own) {s : Snapshot} {n : Notice}
    (hn : n = .destroyed → ∃ d rest, limbo = d :: rest ∧ s = d.lastSnapshot) :
    ∃ ms, Telling C limbo r ((r.observers ++ own).filter (·.wants [n.topic])) s n ms
      (r.notify env own s n).2 := by
  refine tellAll_telling henv hsound (fun o ho => ?_) hn
  rcases List.mem_append.1 (List.mem_filter.1 ho).1 with ho | ho
  · exact .inr ho
  · exact .inl (hown.role o ho)

/-- Nobody is told of what nobody subscribes to. -/
theorem notify_if_wanted (env : Environment ε) (r : Registry ε) (own : List Observer)
    (s : Snapshot) (n : Notice) :
    (if r.wants [n.topic] || own.any (·.wants [n.topic]) then (r.notify env own s n).2 else r)
      = (r.notify env own s n).2 := by
  split
  · rfl
  next hunwanted =>
    have hnone : (r.observers ++ own).filter (·.wants [n.topic]) = [] := by
      refine List.filter_eq_nil_iff.2 fun o ho hwants => hunwanted ?_
      rcases List.mem_append.1 ho with ho | ho
      · exact Bool.or_eq_true_iff.2 (.inl (List.any_eq_true.2 ⟨o, ho, hwants⟩))
      · exact Bool.or_eq_true_iff.2 (.inr (List.any_eq_true.2 ⟨o, ho, hwants⟩))
    unfold notify
    rw [hnone]
    rfl

/-- Asking for context is no news. -/
theorem Proceeds.ask (henv : env.Keeps C) (hsound : r.Sound) {own : List Observer}
    (hown : r.Apart own) (s : Snapshot) (context : Entries) :
    r.Proceeds C limbo (r.notify env own s (.introspect context)).2 := by
  have hnever : Notice.introspect context = .destroyed →
      ∃ d rest, limbo = d :: rest ∧ s = d.lastSnapshot := fun hn => by cases hn
  obtain ⟨ms, hms⟩ := notify_telling henv hsound hown hnever
  refine ⟨ms, ⟨hms.path, hms.fits, hms.told, fun hquiet _ o _ key => ?_⟩,
    fun hquiet _ _ key => ?_⟩
  · obtain ⟨hheard, howed⟩ := hms.inOrder hquiet o (r.isGlobal o)
    rw [hheard, howed]
    rfl
  · obtain ⟨hheard, hnews⟩ := hms.relayed hquiet
    rw [hheard, relays_of_no_news hnews]
    rfl

/-- A change of which observers are told right away. -/
theorem Proceeds.announce (henv : env.Keeps C) (hsound : r.Sound) {m : Moment}
    (h : Step ⟨r, limbo⟩ m ⟨r', limbo⟩) (hfits : m.fits C)
    {own : List Observer} (hown : r'.Apart own) (haudience : m.audience = own)
    {s : Snapshot} {n : Notice} (hnews : m.news? = some (s, n)) (hheard : ∀ o, m.heardBy? o = none)
    (hn : n.topic ≠ .introspect ∧ n ≠ .destroyed) :
    r.Proceeds C limbo (r'.notify env own s n).2 := by
  have hsound' : r'.Sound := h.sound hsound
  have hnever : n = .destroyed → ∃ d rest, limbo = d :: rest ∧ s = d.lastSnapshot :=
    fun hlast => absurd hlast hn.2
  obtain ⟨ms, hms⟩ := notify_telling henv hsound' hown hnever
  have htold : ∀ o : Observer, o.serial < r.nextSerial →
      told _ s n o = (m.newsFor? o (r.isGlobal o)).toList := fun o ho => by
    rw [hsound'.told_subscribers hown s hn.1, h.later.isGlobal ho, Moment.toList_newsFor? hnews,
      haudience]
  refine ⟨m :: ms, ⟨.cons h hms.path, ?_, fun o ho => ?_, fun hquiet _ o ho key => ?_⟩,
    fun hquiet _ hsame key => ?_⟩
  · exact List.forall_mem_cons.2 ⟨hfits, hms.fits⟩
  · rw [Observer.heard_cons_of_none (hheard o), Observer.owed_cons, ← htold o ho,
      ← h.later.isGlobal ho]
    exact hms.told o (h.later.serial ho)
  · obtain ⟨hheard', howed⟩ := hms.inOrder hquiet o (r.isGlobal o)
    rw [Observer.heard_cons_of_none (hheard o), Observer.owed_cons, ← htold o ho, hheard', howed,
      List.append_nil]
  · obtain ⟨hheard', hnone⟩ := hms.relayed hquiet
    have hlength := hms.path.observers.length_le
    rw [hsame] at hlength
    have hglobals : r'.observers = r.observers := (h.observers.eq_of_length_le hlength).symm
    have hrelays : m.relays r.observers
        = addressed ((r'.observers ++ own).filter (·.wants [n.topic])) s n := by
      rw [Moment.relays, hnews, haudience, addressed, if_neg hn.1, hglobals]
    rw [hearings_cons_of_none hheard, hheard', relays, List.flatMap_cons, ← relays,
      relays_of_no_news hnone, List.append_nil, hrelays]

/-! ## The end of a dialog -/

theorem cancelTimer_proceeds (henv : env.Keeps C) (hsound : r.Sound) (d : Dialog) :
    r.Proceeds C limbo (r.cancelTimer env d) := by
  unfold cancelTimer
  split
  next handle _ _ =>
    have hrecord : r.Idle (r.record (.cancelled handle)) := .record r fun _ _ _ => by simp
    have hasked : r.Proceeds C limbo (r.record (.cancelled handle)) := .idle hrecord
    exact hasked.trans (henv.cancel handle _ limbo (hasked.sound hsound))
  next => exact .refl r

/-- A dialog is unlinked, something else happens, its observers hear of it, and it is torn down. -/
theorem course_of_end (hsound : r.Sound) {r₁ r₂ r₃ : Registry ε} {d : Dialog} {count : Nat}
    (hle : d.refs ≤ count) (hfits : (Moment.released d count).fits C)
    (hunlink : Step ⟨r, limbo⟩ (.released d count) ⟨r₁, d.unowned :: limbo⟩)
    {ms : List Moment} (hms : Course C (d.unowned :: limbo) r₁ ms r₂) {os : List Observer}
    {ms' : List Moment}
    (hms' : Telling C (d.unowned :: limbo) r₂ os d.lastSnapshot .destroyed ms' r₃)
    (htold : ∀ o : Observer, o.serial < r.nextSerial → told os d.lastSnapshot .destroyed o
      = ((Moment.released d count).newsFor? o (r.isGlobal o)).toList) (profiles : Directory) :
    Course C limbo r (.released d count :: (ms ++ (ms' ++ [.buried d.unowned])))
      { r₃ with profiles, table := r₃.table.countDestroyed } := by
  have hbury := Step.bury r₃ d.unowned profiles limbo
  have hlater := hunlink.later.trans hms.path.later
  have hheard : ∀ o : Observer, o.heard (.released d count :: (ms ++ (ms' ++ [.buried d.unowned])))
      = o.heard ms ++ o.heard ms' := fun o => by
    rw [Observer.heard_cons_of_none rfl, o.heard_append, o.heard_append,
      Observer.heard_cons_of_none rfl, o.heard_nil, List.append_nil]
  have howed : ∀ o : Observer, o.serial < r.nextSerial →
      o.owed (r.isGlobal o) (.released d count :: (ms ++ (ms' ++ [.buried d.unowned])))
        = told os d.lastSnapshot .destroyed o
          ++ (o.owed (r.isGlobal o) ms ++ o.owed (r.isGlobal o) ms') := fun o ho => by
    rw [o.owed_cons, o.owed_append, o.owed_append, Observer.owed_cons_of_none rfl, o.owed_nil,
      List.append_nil, htold o ho]
  refine ⟨.cons hunlink (hms.path.append (hms'.path.append (.single hbury))), ?_, ?_, ?_⟩
  · refine List.forall_mem_cons.2 ⟨hfits, List.forall_mem_append.2 ⟨hms.fits, ?_⟩⟩
    exact List.forall_mem_append.2 ⟨hms'.fits, by simpa using .of_key? rfl⟩
  · intro o ho
    have hfirst := hms.told o (hunlink.later.serial ho)
    have hsecond := hms'.told o (hlater.serial ho)
    rw [hunlink.later.isGlobal ho] at hfirst
    rw [hlater.isGlobal ho] at hsecond
    rw [hheard, howed o ho]
    refine (hfirst.append hsecond).trans ?_
    rw [← List.append_assoc, ← List.append_assoc]
    exact List.perm_append_comm.append_right _
  · intro hquiet hfinal o ho key
    obtain ⟨hnotified, hnone⟩ := hms'.inOrder hquiet o (r.isGlobal o)
    have hbetween := hms.inOrder hquiet hfinal o (hunlink.later.serial ho) key
    rw [hunlink.later.isGlobal ho] at hbetween
    rw [hheard, howed o ho, hnotified, hnone, List.append_nil, List.filter_append,
      List.filter_append, hbetween]
    by_cases hkey : d.key = key
    · -- nothing happens to the dialog between its end and its notice
      have huntouched := hms.untouched_by_end hsound hle hunlink hfinal
      rw [hkey] at huntouched
      rw [Observer.owed_eq_nil_of_key huntouched, List.append_nil, List.nil_append]
    · have hother : (told os d.lastSnapshot .destroyed o).filter (·.1.key = key) = [] := by
        refine List.filter_eq_nil_iff.2 fun x hx => ?_
        rw [htold o ho, Option.mem_toList] at hx
        have hnews := (Option.filter_eq_some_iff.1 hx).1
        have hx := Moment.key_of_news? hnews
        simpa [← Option.some.inj hx] using hkey
      rw [hother, List.append_nil, List.nil_append]

/-- Those who hear of the end of a dialog hear of it in the order in which they are registered. -/
theorem procession_of_end (hsound : r.Sound) {r₁ r₂ r₃ : Registry ε} {d : Dialog} {count : Nat}
    (hle : d.refs ≤ count)
    (hunlink : Step ⟨r, limbo⟩ (.released d count) ⟨r₁, d.unowned :: limbo⟩)
    {ms : List Moment} (hms : Procession C (d.unowned :: limbo) r₁ ms r₂) {ms' : List Moment}
    (hms' : Telling C (d.unowned :: limbo) r₂
      ((r₂.observers ++ d.observers).filter (·.wants [.destroyed])) d.lastSnapshot .destroyed
      ms' r₃)
    {profiles : Directory}
    (hcourse : Course C limbo r (.released d count :: (ms ++ (ms' ++ [.buried d.unowned])))
      { r₃ with profiles, table := r₃.table.countDestroyed }) :
    Procession C limbo r (.released d count :: (ms ++ (ms' ++ [.buried d.unowned])))
      { r₃ with profiles, table := r₃.table.countDestroyed } where
  toCourse := hcourse
  relayed := by
    intro hquiet hfinal hsame key
    obtain ⟨hheard, hnone⟩ := hms'.relayed hquiet
    -- nobody registers on the way
    have hgrown := hms.path.observers.trans hms'.path.observers
    have hlength := (hunlink.observers.trans hgrown).length_le
    have hsame₃ : r₃.observers = r.observers := hsame
    have hsame₁ : r₁.observers = r.observers :=
      (hunlink.observers.eq_of_length_le (hsame₃ ▸ hgrown.length_le)).symm
    have hsame₂ : r₂.observers = r.observers := by
      refine ((hunlink.observers.trans hms.path.observers).eq_of_length_le ?_).symm
      exact hsame₃ ▸ hms'.path.observers.length_le
    have hnews : (Moment.released d count).news? = some (d.lastSnapshot, .destroyed) := if_pos hle
    have hrelays : (Moment.released d count).relays r.observers
        = addressed ((r₂.observers ++ d.observers).filter (·.wants [.destroyed])) d.lastSnapshot
            .destroyed := by
      rw [Moment.relays, hnews, hsame₂]
      rfl
    have hbetween := hms.relayed hquiet hfinal (hsame₂.trans hsame₁.symm) key
    rw [hsame₁] at hbetween
    have hall : hearings (.released d count :: (ms ++ (ms' ++ [.buried d.unowned])))
        = hearings ms ++ (Moment.released d count).relays r.observers := by
      rw [hearings_cons_of_none fun _ => rfl, hearings_append, hearings_append, hheard, hrelays]
      exact congrArg _ (List.append_nil _)
    have hdue : relays r.observers (.released d count :: (ms ++ (ms' ++ [.buried d.unowned])))
        = (Moment.released d count).relays r.observers ++ relays r.observers ms := by
      rw [relays, List.flatMap_cons, ← relays, relays_append, relays_append,
        relays_of_no_news hnone, relays_cons_of_none rfl]
      exact congrArg _ (List.append_nil _)
    rw [hall, hdue, List.filter_append, List.filter_append, hbetween]
    by_cases hkey : d.key = key
    · have huntouched := hms.untouched_by_end hsound hle hunlink hfinal
      rw [hkey] at huntouched
      rw [relays_eq_nil_of_key huntouched, List.append_nil, List.nil_append]
    · have hother : ((Moment.released d count).relays r.observers).filter (·.2.1.key = key)
          = [] := by
        rw [← List.append_nil ((Moment.released d count).relays _)]
        have hne : ∀ m ∈ [Moment.released d count], m.key? ≠ some key := by
          intro m hm heq
          rw [List.mem_singleton.1 hm] at heq
          exact hkey (Option.some.inj heq)
        exact relays_eq_nil_of_key hne _
      rw [hother, List.append_nil, List.nil_append]

/-- A dialog is unlinked with its last reference. Its observers hear of it once its timer has been
stopped, and then it is torn down. -/
theorem unlink_proceeds (henv : env.Keeps C) (hsound : r.Sound) {d : Dialog}
    (h : r.table.find? d.key = some d) {count : Nat} (hpos : 0 < count) (hle : d.refs ≤ count)
    (hfits : (Moment.released d count).fits C) :
    r.Proceeds C limbo ({ r with table := r.table.erase d.key }.destroy env d.unowned) := by
  have hunlink := Step.unlink h hpos hle limbo
  have hsound₁ := hunlink.sound hsound
  have hapart := (hsound.apart h).later hunlink.later
  unfold destroy
  dsimp only at hsound₁ hapart hunlink ⊢
  generalize ({ r with table := r.table.erase d.key } : Registry ε) = r₁ at hsound₁ hapart hunlink ⊢
  have hcancel : r₁.Proceeds C (d.unowned :: limbo)
      (r₁.cancelTimer env { d.unowned with version := d.unowned.version + 1 }) :=
    cancelTimer_proceeds henv hsound₁ _
  obtain ⟨ms, hms⟩ := hcancel
  generalize r₁.cancelTimer env _ = r₂ at hms ⊢
  have hsound₂ := hms.sound hsound₁
  have hapart₂ : r₂.Apart d.observers := hapart.later hms.path.later
  have hlater := hunlink.later.trans hms.path.later
  have hnotify := notify_if_wanted env r₂ d.observers d.lastSnapshot .destroyed
  have hlast : Notice.destroyed = .destroyed →
      ∃ e rest, d.unowned :: limbo = e :: rest ∧ d.lastSnapshot = e.lastSnapshot :=
    fun _ => ⟨d.unowned, limbo, rfl, rfl⟩
  obtain ⟨ms', hms'⟩ := notify_telling henv hsound₂ hapart₂ hlast
  rw [← hnotify] at hms'
  refine ⟨_, procession_of_end hsound hle hunlink hms hms' ?_⟩
  refine course_of_end hsound hle hfits hunlink hms.toCourse hms' (fun o ho => ?_) _
  have hnews : (Moment.released d count).news? = some (d.lastSnapshot, .destroyed) := if_pos hle
  rw [hsound₂.told_subscribers hapart₂ d.lastSnapshot (by decide), hlater.isGlobal ho,
    Moment.toList_newsFor? hnews]
  rfl

theorem release_proceeds (henv : env.Keeps C) (hsound : r.Sound) {key : Key} {count : Nat}
    (hfits : ∀ d : Dialog, d.key = key → 0 < count → (Moment.released d count).fits C) :
    r.Proceeds C limbo (r.release env key count) := by
  unfold release
  rcases Nat.eq_zero_or_pos count with rfl | hpos
  · exact .refl r
  cases hfind : r.table.find? key with
  | none =>
    rw [Table.release_of_unlinked hfind hpos]
    exact .countAnomaly r
  | some d =>
    obtain rfl : d.key = key := hsound.wf.key_of_find? hfind
    have hfits := hfits d rfl hpos
    rcases Nat.lt_or_ge count d.refs with hlt | hle
    · rw [Table.release_of_lt hfind hlt, if_neg (Nat.ne_of_gt hpos)]
      have hstep := Step.giveBack hfind hpos hlt limbo
      exact ⟨_, .single hstep hfits (if_neg (Nat.not_le.2 hlt)) fun _ => rfl⟩
    · rw [Table.release_of_le hfind hpos hle]
      dsimp only
      by_cases hover : d.refs < count
      · rw [if_pos hover]
        have hcount : r.Proceeds C limbo { r with table := r.table.countAnomaly } :=
          .countAnomaly r
        exact hcount.trans (unlink_proceeds henv (hcount.sound hsound) hfind hpos hle hfits)
      · rw [if_neg hover]
        exact unlink_proceeds henv hsound hfind hpos hle hfits

end Registry

end SipDialogs
