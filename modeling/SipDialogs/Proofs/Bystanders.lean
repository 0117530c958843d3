-- SUMMARY: What observers do makes no difference to dialogs, to profiles and to answers.
import SipDialogs.Proofs.Chronicles
import SipDialogs.Proofs.Unwatched

/-! # Bystanders

Two registries that differ in their observers alone stay so, whatever is done to both of them: the
dialogs, the profiles and the answers of operations are the same, who is told of them and however
observers come back. Only a question for context is put to observers, so its answer is theirs. -/

namespace SipDialogs

variable {ε ε' : Type} {S : ε → ε' → Prop} {env : Environment ε} {env' : Environment ε'}
  {r : Registry ε} {r' : Registry ε'} {d d' : Dialog} {t t' : Table}

/-! ## Equal results -/

theorem option_cases_of_map_eq {f : α → β} {x x' : Option α} (h : x.map f = x'.map f) :
    (x = none ∧ x' = none) ∨ ∃ a a', x = some a ∧ x' = some a' ∧ f a = f a' := by
  cases x with
  | none => exact .inl ⟨rfl, Option.map_eq_none_iff.1 h.symm⟩
  | some a =>
    obtain ⟨a', hx', ha⟩ := Option.map_eq_some_iff.1 h.symm
    exact .inr ⟨a, a', rfl, hx', ha.symm⟩

theorem except_cases_of_map_eq {f : α → β} {x x' : Except Fault α} (h : x.map f = x'.map f) :
    (∃ e, x = .error e ∧ x' = .error e) ∨ ∃ a a', x = .ok a ∧ x' = .ok a' ∧ f a = f a' := by
  cases x with
  | error e =>
    cases x' with
    | error e' =>
      cases h
      exact .inl ⟨e, rfl, rfl⟩
    | ok a' => cases h
  | ok a =>
    cases x' with
    | error e' => cases h
    | ok a' => exact .inr ⟨a, a', rfl, rfl, Except.ok.inj h⟩

/-! ## Twins -/

namespace Registry

/-- Registries that differ in their observers alone, and in what these were told. -/
structure Twin (S : ε → ε' → Prop) (r : Registry ε) (r' : Registry ε') : Prop where
  config : r.config = r'.config
  clock : r.clock = r'.clock
  table : r.table.unwatched = r'.table.unwatched
  profiles : r.profiles = r'.profiles
  hasTimer : r.hasTimer = r'.hasTimer
  env : S r.env r'.env

/-- Equal answers, and twins to go on with. -/
def Agree (S : ε → ε' → Prop) (x : α × Registry ε) (x' : α × Registry ε') : Prop :=
  x.1 = x'.1 ∧ Twin S x.2 x'.2

theorem Twin.symm (h : Twin S r r') : Twin (flip S) r' r :=
  ⟨h.config.symm, h.clock.symm, h.table.symm, h.profiles.symm, h.hasTimer.symm, h.env⟩

theorem Agree.symm {x : α × Registry ε} {x' : α × Registry ε'} (h : Agree S x x') :
    Agree (flip S) x' x := ⟨h.1.symm, h.2.symm⟩

end Registry

open Registry (Twin Agree)

/-- Surroundings whose observers leave the registry alone, and whose timer services do the same for
twins. -/
structure Environment.Alike (S : ε → ε' → Prop) (env : Environment ε) (env' : Environment ε') :
    Prop where
  observe : ∀ o s n {r : Registry ε} {r' : Registry ε'}, Twin S r r' →
    Twin S (env.observe o s n r).2 r'
  observe' : ∀ o s n {r : Registry ε} {r' : Registry ε'}, Twin S r r' →
    Twin S r (env'.observe o s n r').2
  schedule : ∀ key ms {r : Registry ε} {r' : Registry ε'}, Twin S r r' →
    Agree S (env.schedule key ms r) (env'.schedule key ms r')
  cancel : ∀ handle {r : Registry ε} {r' : Registry ε'}, Twin S r r' →
    Agree S (env.cancel handle r) (env'.cancel handle r')

theorem Environment.Alike.symm (h : env.Alike S env') : env'.Alike (flip S) env where
  observe o s n _ _ htwin := (h.observe' o s n htwin.symm).symm
  observe' o s n _ _ htwin := (h.observe o s n htwin.symm).symm
  schedule key ms _ _ htwin := (h.schedule key ms htwin.symm).symm
  cancel handle _ _ htwin := (h.cancel handle htwin.symm).symm

namespace Registry

namespace Twin

theorem setTable (h : Twin S r r') (ht : t.unwatched = t'.unwatched) :
    Twin S { r with table := t } { r' with table := t' } :=
  { h with table := ht }

theorem record (h : Twin S r r') (c c' : Call) : Twin S (r.record c) (r'.record c') := { h with }

/-- What a function of tables comes to is the same for twins, but for observers. -/
theorem congr {α : Type} (h : Twin S r r') (F : Table → α) {g : α → α}
    (hF : ∀ t : Table, F t.unwatched = g (F t)) : g (F r.table) = g (F r'.table) := by
  rw [← hF, h.table, hF]

/-- The same dialogs are linked. -/
theorem find? (h : Twin S r r') (key : Key) :
    (r.table.find? key = none ∧ r'.table.find? key = none) ∨
      ∃ d d', r.table.find? key = some d ∧ r'.table.find? key = some d' ∧
        d.unwatched = d'.unwatched :=
  option_cases_of_map_eq (h.congr (·.find? key) (·.find?_unwatched key))

theorem put (h : Twin S r r') (hd : d.unwatched = d'.unwatched) :
    (r.table.put d).unwatched = (r'.table.put d').unwatched := by
  rw [Table.unwatched_put, h.table, hd, ← Table.unwatched_put]

theorem countAnomaly (h : Twin S r r') :
    Twin S { r with table := r.table.countAnomaly } { r' with table := r'.table.countAnomaly } :=
  h.setTable (congrArg Table.countAnomaly h.table)

/-! ## Observers -/

/-- Telling one observer leaves a twin of the other registry. -/
theorem tell (henv : env.Alike S env') (s : Snapshot) (o : Observer) {told : Notice × Registry ε}
    (h : Twin S told.2 r') : Twin S (Registry.tell env s told o).2 r' := by
  unfold Registry.tell
  dsimp only
  split
  · split
    · exact { h with }
    · exact h
  · exact henv.observe o s _ { h with }

theorem notify (henv : env.Alike S env') (own : List Observer) (s : Snapshot) (n : Notice)
    (h : Twin S r r') : Twin S (r.notify env own s n).2 r' := by
  have hall : ∀ (os : List Observer) (told : Notice × Registry ε), Twin S told.2 r' →
      Twin S (os.foldl (Registry.tell env s) told).2 r' := by
    intro os
    induction os with
    | nil => exact fun _ htold => htold
    | cons o os ih => exact fun told htold => ih _ (tell henv s o htold)
  exact hall _ (n, r) h

/-- It makes no difference on which side observers are told. -/
theorem notify_if (henv : env.Alike S env') (h : Twin S r r') (wanted wanted' : Bool)
    (own own' : List Observer) (s : Snapshot) (n : Notice) :
    Twin S (if wanted then (r.notify env own s n).2 else r)
      (if wanted' then (r'.notify env' own' s n).2 else r') := by
  have hleft : Twin S (if wanted then (r.notify env own s n).2 else r) r' := by
    split
    · exact notify henv own s n h
    · exact h
  cases wanted' with
  | true => exact (notify henv.symm own' s n hleft.symm).symm
  | false => exact hleft

/-! ## References -/

theorem cancelTimer (henv : env.Alike S env') (h : Twin S r r')
    (hd : d.unwatched = d'.unwatched) :
    Twin S (r.cancelTimer env d) (r'.cancelTimer env' d') := by
  have htimer : d.timer = d'.timer := (congrArg Dialog.timer hd :)
  unfold Registry.cancelTimer
  rw [htimer, h.hasTimer]
  split
  next handle _ _ => exact (henv.cancel handle (h.record _ _)).2
  · exact h

theorem destroy (henv : env.Alike S env') (h : Twin S r r') (hd : d.unwatched = d'.unwatched) :
    Twin S (r.destroy env d) (r'.destroy env' d') := by
  have hlast : ({ d with version := d.version + 1 } : Dialog).unwatched
      = ({ d' with version := d'.version + 1 } : Dialog).unwatched :=
    congrArg (fun d : Dialog => { d with version := d.version + 1 }) hd
  have hsnapshot := congrArg Dialog.snapshot hlast
  have hlinks : d.links = d'.links := (congrArg Dialog.links hd :)
  have htold := (h.cancelTimer henv hlast).notify_if henv
    ((r.cancelTimer env { d with version := d.version + 1 }).wants [.destroyed]
      || d.isObserved .destroyed)
    ((r'.cancelTimer env' { d' with version := d'.version + 1 }).wants [.destroyed]
      || d'.isObserved .destroyed)
    d.observers d'.observers ({ d with version := d.version + 1 } : Dialog).snapshot .destroyed
  unfold Registry.destroy
  dsimp only
  rw [← Dialog.snapshot_unwatched { d' with version := d'.version + 1 }, ← hsnapshot, ← hlinks]
  exact { htold with
    profiles := congrArg (·.removeMembers d.links) htold.profiles
    table := congrArg Table.countDestroyed htold.table }

theorem release (henv : env.Alike S env') (h : Twin S r r') (key : Key) (count : Nat) :
    Twin S (r.release env key count) (r'.release env' key count) := by
  have hrelease := h.congr (·.release key count) (·.release_unwatched key count)
  unfold Registry.release
  generalize r.table.release key count = x, r'.table.release key count = x' at hrelease ⊢
  obtain ⟨gone, t⟩ := x
  obtain ⟨gone', t'⟩ := x'
  obtain ⟨hgone, htable⟩ := Prod.ext_iff.1 hrelease
  rcases option_cases_of_map_eq hgone with ⟨rfl, rfl⟩ | ⟨d, d', rfl, rfl, hd⟩
  · exact h.setTable htable
  · exact (h.setTable htable).destroy henv hd

theorem addRefs (h : Twin S r r') (key : Key) (count : Nat) :
    Agree S (r.addRefs key count) (r'.addRefs key count) := by
  have hadd := h.congr (·.addRefs key count) (·.addRefs_unwatched key count)
  obtain ⟨hlinked, htable⟩ := Prod.ext_iff.1 hadd
  exact ⟨hlinked, h.setTable htable⟩

theorem retain (h : Twin S r r') (hd : d.unwatched = d'.unwatched) :
    Twin S (r.retain d) (r'.retain d') := by
  refine h.setTable ?_
  rw [Table.unwatched_retain, Table.unwatched_retain, h.table, hd]

theorem lookup (h : Twin S r r') (key : Key) : Agree S (r.lookup key) (r'.lookup key) := by
  have hlookup := h.congr (·.lookup key) (·.lookup_unwatched key)
  unfold Registry.lookup
  rcases option_cases_of_map_eq hlookup with ⟨hnone, hnone'⟩ | ⟨d, d', hsome, hsome', hd⟩
  · rw [hnone, hnone']
    exact ⟨rfl, h⟩
  · rw [hsome, hsome']
    exact ⟨(congrArg (fun d : Dialog => some d.key) hd :), h.retain hd⟩

theorem lookupIdentity (h : Twin S r r') (callId fromTag toTag : String) :
    Agree S (r.lookupIdentity callId fromTag toTag) (r'.lookupIdentity callId fromTag toTag) := by
  have hlookup := h.congr (·.lookupIdentity callId fromTag toTag)
    (·.lookupIdentity_unwatched callId fromTag toTag)
  unfold Registry.lookupIdentity
  rcases option_cases_of_map_eq hlookup with
    ⟨hnone, hnone'⟩ | ⟨⟨d, way⟩, ⟨d', way'⟩, hsome, hsome', hfound⟩
  · rw [hnone, hnone']
    exact ⟨rfl, h⟩
  · rw [hsome, hsome']
    obtain ⟨hd, rfl⟩ := Prod.ext_iff.1 hfound
    exact ⟨(congrArg (fun d : Dialog => some (d.key, way)) hd :), h.retain hd⟩

theorem lookupDownstream (h : Twin S r r') (callId : String) (fromTag : Option String) :
    Agree S (r.lookupDownstream callId fromTag) (r'.lookupDownstream callId fromTag) := by
  have hlookup := h.congr (·.lookupDownstream callId fromTag)
    (·.lookupDownstream_unwatched callId fromTag)
  unfold Registry.lookupDownstream
  rcases option_cases_of_map_eq hlookup with ⟨hnone, hnone'⟩ | ⟨d, d', hsome, hsome', hd⟩
  · rw [hnone, hnone']
    exact ⟨rfl, h⟩
  · rw [hsome, hsome']
    exact ⟨(congrArg (fun d : Dialog => some d.key) hd :), h.retain hd⟩

/-! ## Changes -/

theorem insert (henv : env.Alike S env') (h : Twin S r r') (identity : Identity) (holders : Nat) :
    Agree S (r.insert env identity holders) (r'.insert env' identity holders) := by
  have hinsert : (r.table.insert identity holders r.clock).map (Prod.map id Table.unwatched)
      = (r'.table.insert identity holders r'.clock).map (Prod.map id Table.unwatched) := by
    rw [← Table.insert_unwatched, h.table, h.clock, Table.insert_unwatched]
  unfold Registry.insert
  rcases except_cases_of_map_eq hinsert with
    ⟨e, herror, herror'⟩ | ⟨⟨d, t⟩, ⟨d', t'⟩, hok, hok', hlinked⟩
  · rw [herror, herror']
    exact ⟨rfl, h⟩
  · rw [hok, hok']
    obtain ⟨rfl, htable⟩ := Prod.ext_iff.1 hlinked
    exact ⟨rfl, (h.setTable htable).notify_if henv ..⟩

theorem restore (h : Twin S r r') (s : Snapshot) : Agree S (r.restore s) (r'.restore s) := by
  have hrestore := h.congr (·.restore s) (·.restore_unwatched s)
  unfold Registry.restore
  rcases except_cases_of_map_eq hrestore with
    ⟨e, herror, herror'⟩ | ⟨⟨d, t⟩, ⟨d', t'⟩, hok, hok', hlinked⟩
  · rw [herror, herror']
    exact ⟨rfl, h⟩
  · rw [hok, hok']
    obtain ⟨rfl, htable⟩ := Prod.ext_iff.1 hlinked
    exact ⟨rfl, h.setTable htable⟩

/-- An event does the same to twins. -/
theorem applyEvent (h : Twin S r r') (key : Key) (event : Event) :
    (r.table.applyEvent key event).map (Option.map (Prod.map id Dialog.unwatched)) Table.unwatched
      = (r'.table.applyEvent key event).map (Option.map (Prod.map id Dialog.unwatched))
          Table.unwatched :=
  h.congr (·.applyEvent key event) (·.applyEvent_unwatched key event)

theorem nextPhase (h : Twin S r r') (key : Key) (event : Event) :
    Agree S (r.nextPhase key event) (r'.nextPhase key event) := by
  obtain ⟨happlied, htable⟩ := Prod.ext_iff.1 (h.applyEvent key event)
  have hchange := congrArg (Option.map Prod.fst) happlied
  refine ⟨?_, h.setTable htable⟩
  simpa [Registry.nextPhase, Option.map_map, Function.comp_def] using hchange

theorem processEvent (henv : env.Alike S env') (h : Twin S r r') (key : Key) (event : Event) :
    Agree S (r.processEvent env key event) (r'.processEvent env' key event) := by
  have happly := h.applyEvent key event
  unfold Registry.processEvent
  dsimp only
  generalize r.table.applyEvent key event = x, r'.table.applyEvent key event = x' at happly ⊢
  obtain ⟨applied, t⟩ := x
  obtain ⟨applied', t'⟩ := x'
  obtain ⟨happlied, htable⟩ := Prod.ext_iff.1 happly
  rcases option_cases_of_map_eq happlied with
    ⟨rfl, rfl⟩ | ⟨⟨change, d⟩, ⟨change', d'⟩, rfl, rfl, hmoved⟩
  · exact ⟨rfl, h.setTable htable⟩
  · obtain ⟨rfl, hd⟩ := Prod.ext_iff.1 hmoved
    have hsnapshot : d.snapshot = d'.snapshot := (congrArg Dialog.snapshot hd :)
    dsimp only
    rw [hsnapshot]
    exact ⟨rfl, ((h.setTable htable).notify_if henv ..).release henv key _⟩

theorem setLegInfo (h : Twin S r r') (key : Key) (side : Leg) (info : LegInfo) :
    Agree S (r.setLegInfo key side info) (r'.setLegInfo key side info) := by
  have hset := h.congr (·.setLegInfo key side info) (·.setLegInfo_unwatched key side info)
  unfold Registry.setLegInfo
  rcases except_cases_of_map_eq hset with ⟨e, herror, herror'⟩ | ⟨t, t', hok, hok', htable⟩
  · rw [herror, herror']
    exact ⟨rfl, h⟩
  · rw [hok, hok']
    exact ⟨rfl, h.setTable htable⟩

theorem updateCseq (h : Twin S r r') (key : Key) (side : Leg) (cseq : String) :
    Agree S (r.updateCseq key side cseq) (r'.updateCseq key side cseq) := by
  have hupdate := h.congr (·.updateCseq key side cseq) (·.updateCseq_unwatched key side cseq)
  unfold Registry.updateCseq
  rcases except_cases_of_map_eq hupdate with
    ⟨e, herror, herror'⟩ | ⟨t, t', hok, hok', htable⟩
  · rw [herror, herror']
    exact ⟨rfl, h⟩
  · rw [hok, hok']
    exact ⟨rfl, h.setTable htable⟩

/-- Observers of a dialog may be registered with both twins, under serials of their own. -/
theorem observeDialog (h : Twin S r r') (key : Key) (name : String) (topics : List Topic) :
    (r.observeDialog key name topics).map (fun _ => ())
        = (r'.observeDialog key name topics).map (fun _ => ()) ∧
      Twin S ((r.observeDialog key name topics).toOption.getD r)
        ((r'.observeDialog key name topics).toOption.getD r') := by
  unfold Registry.observeDialog Table.addObserver
  rcases h.find? key with ⟨hnone, hnone'⟩ | ⟨d, d', hsome, hsome', hd⟩
  · rw [hnone, hnone']
    exact ⟨rfl, h⟩
  · rw [hsome, hsome']
    have htable : (r.table.put (d.watchedBy ⟨r.nextSerial, name, topics, .client⟩)).unwatched
        = (r'.table.put (d'.watchedBy ⟨r'.nextSerial, name, topics, .client⟩)).unwatched :=
      h.put hd
    exact ⟨rfl, { h with table := htable }⟩

/-! ## Timers -/

theorem swapTimer (h : Twin S r r') (key : Key) (expected : TimerSlot) (next : Option TimerSlot) :
    (Registry.swapTimer r.table key expected next).map Table.unwatched
      = (Registry.swapTimer r'.table key expected next).map Table.unwatched :=
  h.congr (Registry.swapTimer · key expected next) (·.swapTimer_unwatched key expected next)

theorem settleTimer (henv : env.Alike S env') (h : Twin S r r') (key : Key)
    (answer : Except String Handle) :
    Agree S (r.settleTimer env key answer) (r'.settleTimer env' key answer) := by
  unfold Registry.settleTimer
  cases answer with
  | ok handle =>
    rcases option_cases_of_map_eq (h.swapTimer key .arming (some (.armed handle))) with
      ⟨hnone, hnone'⟩ | ⟨t, t', hsome, hsome', htable⟩
    · simp only [hnone, hnone']
      exact ⟨rfl, h⟩
    · simp only [hsome, hsome']
      exact ⟨rfl, h.setTable htable⟩
  | error reason =>
    rcases option_cases_of_map_eq (h.swapTimer key .arming none) with
      ⟨hnone, hnone'⟩ | ⟨t, t', hsome, hsome', htable⟩
    · simp only [hnone, hnone']
      exact ⟨rfl, h.countAnomaly⟩
    · simp only [hsome, hsome']
      exact ⟨rfl, (h.setTable htable).release henv key 1⟩

theorem startTimer (henv : env.Alike S env') (h : Twin S r r') (key : Key)
    (milliseconds : Option Nat) :
    Agree S (r.startTimer env key milliseconds) (r'.startTimer env' key milliseconds) := by
  unfold Registry.startTimer
  by_cases hservice : (!r.hasTimer) = true
  · rw [if_pos hservice, if_pos (h.hasTimer ▸ hservice)]
    exact ⟨rfl, h⟩
  rw [if_neg hservice, if_neg (h.hasTimer ▸ hservice)]
  rcases h.find? key with ⟨hnone, hnone'⟩ | ⟨d, d', hsome, hsome', hd⟩
  · rw [hnone, hnone']
    exact ⟨rfl, h⟩
  rw [hsome, hsome']
  have hprepare := d.prepareTimer_unwatched milliseconds
  rw [hd, Dialog.prepareTimer_unwatched] at hprepare
  dsimp only
  rcases except_cases_of_map_eq hprepare.symm with ⟨e, herror, herror'⟩ | ⟨p, p', hok, hok', hp⟩
  · rw [herror, herror']
    exact ⟨rfl, h⟩
  · rw [hok, hok']
    have htimeout : p.timeout = p'.timeout := (congrArg Dialog.timeout hp :)
    dsimp only
    rw [htimeout]
    obtain ⟨hanswer, hafter⟩ := henv.schedule key (milliseconds.getD (p'.timeout.toNat * 1000))
      ((h.setTable (h.put hp)).record (.scheduled key (milliseconds.getD (p'.timeout.toNat * 1000)))
        (.scheduled key (milliseconds.getD (p'.timeout.toNat * 1000))))
    rw [hanswer]
    exact hafter.settleTimer henv key _

theorem stopTimer (henv : env.Alike S env') (h : Twin S r r') (key : Key) :
    Agree S (r.stopTimer env key) (r'.stopTimer env' key) := by
  have htimer : (r.table.find? key).bind (·.timer) = (r'.table.find? key).bind (·.timer) := by
    rcases h.find? key with ⟨hnone, hnone'⟩ | ⟨d, d', hsome, hsome', hd⟩
    · rw [hnone, hnone']
    · rw [hsome, hsome']
      exact (congrArg Dialog.timer hd :)
  unfold Registry.stopTimer
  rw [h.hasTimer, htimer]
  split
  next handle _ _ =>
    have hcancel := henv.cancel handle (h.record (.cancelled handle) (.cancelled handle))
    generalize env.cancel handle (r.record (.cancelled handle)) = x,
      env'.cancel handle (r'.record (.cancelled handle)) = x' at hcancel ⊢
    obtain ⟨answer, r₁⟩ := x
    obtain ⟨answer', r₁'⟩ := x'
    obtain ⟨hanswer, hafter⟩ := hcancel
    obtain rfl : answer = answer' := hanswer
    dsimp only at hafter ⊢
    split
    · rcases option_cases_of_map_eq (hafter.swapTimer key (.armed handle) none) with
        ⟨hnone, hnone'⟩ | ⟨t, t', hsome, hsome', htable⟩
      · simp only [hnone, hnone']
        exact ⟨rfl, hafter.countAnomaly⟩
      · simp only [hsome, hsome']
        exact ⟨rfl, (hafter.setTable htable).release henv key 1⟩
    · exact ⟨rfl, hafter⟩
  · exact ⟨rfl, h⟩

theorem expire (henv : env.Alike S env') (h : Twin S r r') (key : Key) :
    Twin S (r.expire env key) (r'.expire env' key) := by
  unfold Registry.expire
  rcases h.find? key with ⟨hnone, hnone'⟩ | ⟨d, d', hsome, hsome', hd⟩
  · rw [hnone, hnone']
    exact h.countAnomaly
  · rw [hsome, hsome']
    have htimer : d.timer = d'.timer := (congrArg Dialog.timer hd :)
    dsimp only
    rw [htimer]
    split
    · have hput : (r.table.put { d with timer := none }).unwatched
          = (r'.table.put { d' with timer := none }).unwatched :=
        h.put (congrArg (fun d : Dialog => { d with timer := none }) hd)
      exact (h.setTable hput).release henv key 1
    · exact h.countAnomaly

/-! ## Views -/

theorem withContexts (henv : env.Alike S env') (ds : List Dialog) (h : Twin S r r') :
    Twin S (Registry.withContexts env ds r).2 r' := by
  induction ds generalizing r with
  | nil => exact h
  | cons d ds ih => exact ih (notify henv d.observers d.snapshot (.introspect []) h)

theorem snapshot (henv : env.Alike S env') (h : Twin S r r') (key : Key) (context : Bool) :
    (context = false → (r.snapshot env key context).1 = (r'.snapshot env' key context).1) ∧
      Twin S (r.snapshot env key context).2 (r'.snapshot env' key context).2 := by
  unfold Registry.snapshot
  rcases h.find? key with ⟨hnone, hnone'⟩ | ⟨d, d', hsome, hsome', hd⟩
  · rw [hnone, hnone']
    exact ⟨fun _ => rfl, h⟩
  · rw [hsome, hsome']
    cases context with
    | false => exact ⟨fun _ => (congrArg (fun d : Dialog => some d.snapshot) hd :), h⟩
    | true =>
      have hleft := notify henv d.observers d.snapshot (.introspect []) h
      have hboth := notify henv.symm d'.observers d'.snapshot (.introspect []) hleft.symm
      exact ⟨fun hno => (Bool.noConfusion hno), hboth.symm⟩

theorem snapshotAll (henv : env.Alike S env') (h : Twin S r r') (context : Bool) :
    (context = false → (r.snapshotAll env context).1 = (r'.snapshotAll env' context).1) ∧
      Twin S (r.snapshotAll env context).2 (r'.snapshotAll env' context).2 := by
  unfold Registry.snapshotAll
  cases context with
  | false =>
    have hdialogs := h.congr Table.dialogs Table.dialogs_unwatched
    have hsnapshots := congrArg (List.map Dialog.snapshot) hdialogs
    rw [List.map_map, List.map_map] at hsnapshots
    exact ⟨fun _ => hsnapshots, h⟩
  | true =>
    have hboth := withContexts henv.symm r'.table.dialogs (withContexts henv r.table.dialogs h).symm
    exact ⟨fun hno => (Bool.noConfusion hno), hboth.symm⟩

theorem takeDirty (h : Twin S r r') : Agree S r.takeDirty r'.takeDirty := by
  have htake := h.congr Table.takeDirty Table.takeDirty_unwatched
  obtain ⟨hsnapshots, htable⟩ := Prod.ext_iff.1 htake
  exact ⟨hsnapshots, h.setTable htable⟩

/-! ## Memberships -/

theorem attach (h : Twin S r r') (key : Key) (profile : String) (value : Option String) :
    Agree S (r.attach key profile value) (r'.attach key profile value) := by
  unfold Registry.attach
  rw [h.profiles]
  cases r'.profiles.get profile with
  | error e => exact ⟨rfl, h⟩
  | ok p =>
    dsimp only
    cases p.newLink key value with
    | error e => exact ⟨rfl, h⟩
    | ok linked =>
      obtain ⟨link, numbered⟩ := linked
      have hpush := h.congr (·.pushLink key link) (·.pushLink_unwatched key link)
      dsimp only
      rcases option_cases_of_map_eq hpush with
        ⟨hnone, hnone'⟩ | ⟨t, t', hsome, hsome', htable⟩
      · rw [hnone, hnone']
        exact ⟨rfl, { h with profiles := rfl }⟩
      · rw [hsome, hsome']
        exact ⟨rfl, { h with table := htable, profiles := rfl }⟩

theorem detach (h : Twin S r r') (key : Key) (profile : String) (value : Option String) :
    Agree S (r.detach key profile value) (r'.detach key profile value) := by
  unfold Registry.detach
  rw [h.profiles]
  cases r'.profiles.get profile with
  | error e => exact ⟨rfl, h⟩
  | ok p =>
    have htake := h.congr (·.takeLink key (p.owns value)) (·.takeLink_unwatched key (p.owns value))
    dsimp only
    rcases option_cases_of_map_eq htake with
      ⟨hnone, hnone'⟩ | ⟨⟨link, t⟩, ⟨link', t'⟩, hsome, hsome', htaken⟩
    · rw [hnone, hnone']
      exact ⟨rfl, h⟩
    · rw [hsome, hsome']
      obtain ⟨rfl, htable⟩ := Prod.ext_iff.1 htaken
      exact ⟨rfl, { h with table := htable, profiles := rfl }⟩

end Twin

end Registry

/-! ## Answers -/

/-- What an operation answers with. -/
def Operation.Reply : Operation → Type
  | insert .. | restore _ => Except Fault Key
  | lookup _ | lookupDownstream .. => Option Key
  | lookupIdentity .. => Option (Key × Direction)
  | addRefs .. | stopTimer _ => Bool
  | release .. | expire _ => Unit
  | nextPhase .. | processEvent .. => Option PhaseChange
  | setLegInfo .. | updateCseq .. | observeDialog .. | attach .. => Except Fault Unit
  | startTimer .. => Except Fault Handle
  | snapshot .. => Option Snapshot
  | snapshotAll _ | takeDirty => List Snapshot
  | detach .. => Except Fault Bool

/-- Whether an operation asks observers for the context of dialogs. -/
def Operation.asksContext : Operation → Bool
  | snapshot _ context | snapshotAll context => context
  | _ => false

namespace Registry

/-- The answer of an operation. -/
def reply (env : Environment ε) (r : Registry ε) : (op : Operation) → op.Reply
  | .insert identity holders => (r.insert env identity holders).1
  | .restore s => (r.restore s).1
  | .lookup key => (r.lookup key).1
  | .lookupIdentity callId fromTag toTag => (r.lookupIdentity callId fromTag toTag).1
  | .lookupDownstream callId fromTag => (r.lookupDownstream callId fromTag).1
  | .addRefs key count => (r.addRefs key count).1
  | .release _ _ => ()
  | .nextPhase key event => (r.nextPhase key event).1
  | .processEvent key event => (r.processEvent env key event).1
  | .setLegInfo key side info => (r.setLegInfo key side info).1
  | .updateCseq key side cseq => (r.updateCseq key side cseq).1
  | .startTimer key milliseconds => (r.startTimer env key milliseconds).1
  | .stopTimer key => (r.stopTimer env key).1
  | .expire _ => ()
  | .snapshot key context => (r.snapshot env key context).1
  | .snapshotAll context => (r.snapshotAll env context).1
  | .takeDirty => r.takeDirty.1
  | .observeDialog key name topics => (r.observeDialog key name topics).map fun _ => ()
  | .attach key profile value => (r.attach key profile value).1
  | .detach key profile value => (r.detach key profile value).1

/-- Every operation leaves twins behind, and answers the same. -/
theorem Twin.perform (henv : env.Alike S env') (h : Twin S r r') (op : Operation) :
    (op.asksContext = false → r.reply env op = r'.reply env' op) ∧
      Twin S (r.perform env op) (r'.perform env' op) := by
  cases op with
  | insert identity holders => exact (h.insert henv identity holders).imp_left fun heq _ => heq
  | restore s => exact (h.restore s).imp_left fun heq _ => heq
  | lookup key => exact (h.lookup key).imp_left fun heq _ => heq
  | lookupIdentity callId fromTag toTag =>
    exact (h.lookupIdentity callId fromTag toTag).imp_left fun heq _ => heq
  | lookupDownstream callId fromTag =>
    exact (h.lookupDownstream callId fromTag).imp_left fun heq _ => heq
  | addRefs key count => exact (h.addRefs key count).imp_left fun heq _ => heq
  | release key count => exact ⟨fun _ => rfl, h.release henv key count⟩
  | nextPhase key event => exact (h.nextPhase key event).imp_left fun heq _ => heq
  | processEvent key event => exact (h.processEvent henv key event).imp_left fun heq _ => heq
  | setLegInfo key side info => exact (h.setLegInfo key side info).imp_left fun heq _ => heq
  | updateCseq key side cseq => exact (h.updateCseq key side cseq).imp_left fun heq _ => heq
  | startTimer key milliseconds =>
    exact (h.startTimer henv key milliseconds).imp_left fun heq _ => heq
  | stopTimer key => exact (h.stopTimer henv key).imp_left fun heq _ => heq
  | expire key => exact ⟨fun _ => rfl, h.expire henv key⟩
  | snapshot key context => exact h.snapshot henv key context
  | snapshotAll context => exact h.snapshotAll henv context
  | takeDirty => exact h.takeDirty.imp_left fun heq _ => heq
  | observeDialog key name topics =>
    exact (h.observeDialog key name topics).imp_left fun heq _ => heq
  | attach key profile value => exact (h.attach key profile value).imp_left fun heq _ => heq
  | detach key profile value => exact (h.detach key profile value).imp_left fun heq _ => heq

theorem Twin.performAll (henv : env.Alike S env') (h : Twin S r r') (ops : List Operation) :
    Twin S (r.performAll env ops) (r'.performAll env' ops) := by
  induction ops generalizing r r' with
  | nil => exact h
  | cons op ops ih => exact ih (h.perform henv op).2

/-- A run that does not depend on observers: it leaves twins behind, and each of its operations
answers the same. -/
structure Unswayed (S : ε → ε' → Prop) (env : Environment ε) (env' : Environment ε')
    (r : Registry ε) (r' : Registry ε') (ops : List Operation) : Prop where
  twin : Twin S (r.performAll env ops) (r'.performAll env' ops)
  replies : ∀ before op after, ops = before ++ op :: after → op.asksContext = false →
    (r.performAll env before).reply env op = (r'.performAll env' before).reply env' op

theorem Twin.unswayed (henv : env.Alike S env') (h : Twin S r r') (ops : List Operation) :
    Unswayed S env env' r r' ops where
  twin := h.performAll henv ops
  replies before op _ _ := ((h.performAll henv before).perform henv op).1

/-! ## Observers in general -/

/-- Along every run without restored dialogs and silent moves, in which observers may fail or panic
but do not call back, they hear in full and in order what happens to each new dialog; and of what
the registry does nothing depends on them. That they are told in order presupposes that none of
them calls back. -/
theorem Grown.observed_in_full {r r' : Registry ε} (h : r.Grown .free) (hruns : RunsIn .told r r') :
    (∃ ms, Procession .told [] r ms r') ∧
      (∀ ms, Procession .told [] r ms r' → Broadcast r ms r') ∧
      ∀ {ε' : Type} {S : ε → ε' → Prop} {env : Environment ε} {env' : Environment ε'},
        env.Alike S env' → ∀ {r'' : Registry ε'}, Twin S r r'' → ∀ ops,
          Unswayed S env env' r r'' ops :=
  ⟨hruns.proceeds h.sound, fun _ hms => hms.broadcast h.sound,
    fun henv _ htwin ops => htwin.unswayed henv ops⟩

end Registry

theorem Environment.abrupt_honest {C : Conduct}
    (hexpires : ∀ key, (Operation.expire key).fits C = true) (outcome : Outcome) :
    (Environment.abrupt outcome).Honest C 1 where
  observe _ _ _ r := .refl r
  schedule key _ r :=
    have hexpire : Registry.Runs (fun env op => op.fits C = true ∧ Honest C 0 env) r
        (r.perform .quiet (.expire key)) := .step ⟨hexpires key, quiet_honest C⟩ r
    hexpire
  cancel _ r := .refl r

theorem Environment.abrupt_alike (outcome outcome' : Outcome) :
    (Environment.abrupt outcome).Alike (fun _ _ => True) (Environment.abrupt outcome') where
  observe _ _ _ _ _ h := h
  observe' _ _ _ _ _ h := h
  schedule key _ _ _ h := ⟨rfl, h.expire ⟨fun _ _ _ _ _ h => h, fun _ _ _ _ _ h => h,
    fun _ _ _ _ h => ⟨rfl, h⟩, fun _ _ _ h => ⟨rfl, h⟩⟩ key⟩
  cancel _ _ _ h := ⟨rfl, h⟩

namespace Registry

/-- A new registry with a timer service, watched by two. -/
def watched : Registry Unit :=
  (timed.observe "first" Topic.all .client).observe "second" [.created, .destroyed] .client

/-- A call whose lifetime timer fires at once, and which is hung up before it is answered. One more
observer attends to its dialog. -/
def call : List Operation :=
  [.insert { callId := "abc", fromUri := "sip:a", toUri := "sip:b", fromTag := "t1" } 0,
    .observeDialog ⟨0, 0⟩ "own" [.stateChanged], .startTimer ⟨0, 0⟩ none,
    .processEvent ⟨0, 0⟩ .provisionalResponse, .processEvent ⟨0, 0⟩ .failureResponse]

theorem timed_grown (C : Conduct) : timed.Grown C :=
  ⟨{ hashSize := 1 }, .epoch, true, (), timed, create_timed, .refl _⟩

/-- Observers that panic hear all of a call, and it takes the same course without them. -/
theorem Grown.observed_in_full_call :
    (∃ ms, Procession .told [] watched ms (watched.performAll (.abrupt .panicked) call)) ∧
      (∀ ms, Procession .told [] watched ms (watched.performAll (.abrupt .panicked) call) →
        Broadcast watched ms (watched.performAll (.abrupt .panicked) call)) ∧
      Unswayed (fun _ _ => True) (.abrupt .panicked) (.abrupt .done) watched timed call ∧
      ((watched.performAll (.abrupt .panicked) call).newsTo ⟨0, "first", Topic.all, .client⟩).map
        (·.2.topic) = [.created, .stateChanged, .stateChanged, .destroyed] := by
  have hgrown : watched.Grown .free := (timed_grown .free).runs
    ((Runs.enlist timed "first" Topic.all).trans (Runs.enlist _ "second" [.created, .destroyed]))
  have hruns : RunsIn .told watched (watched.performAll (.abrupt .panicked) call) :=
    runsIn_performAll (Environment.abrupt_honest (fun _ => rfl) _) _ (by decide)
  obtain ⟨hsome, hall, hunswayed⟩ := Grown.observed_in_full hgrown hruns
  have htwin : Twin (fun _ _ => True) watched timed := ⟨rfl, rfl, rfl, rfl, rfl, trivial⟩
  exact ⟨hsome, hall, hunswayed (Environment.abrupt_alike .panicked .done) htwin call,
    by decide +kernel⟩

end Registry

end SipDialogs
