-- SUMMARY: What every operation does is a course, and so is what whole runs of them do.
import SipDialogs.Proofs.Courses

/-! # Runs

Each operation is a course, provided the surroundings keep to a conduct when they are called. Runs
put operations together, with observers that are registered and time that goes by in between. The
surroundings call back by runs themselves, to any depth. -/

namespace SipDialogs

variable {C : Conduct} {limbo : List Dialog}

namespace Registry

variable {env : Environment ε} {r r' r'' : Registry ε}

/-! ## New dialogs and lookups -/

theorem insert_proceeds (henv : env.Keeps C) (hsound : r.Sound) {identity : Identity}
    {holders : Nat} (hop : (Operation.insert identity holders).fits C = true) :
    r.Proceeds C limbo (r.insert env identity holders).2 := by
  unfold insert
  cases hinsert : r.table.insert identity holders r.clock with
  | error e => exact .refl r
  | ok linked =>
    obtain ⟨d, t⟩ := linked
    have hfits : (Moment.inserted d).fits C := by
      rw [(Table.insert_links hinsert).2]
      exact .of_does hop (.insert ..)
    have hnotify := notify_if_wanted env { r with table := t } [] d.snapshot .created
    rw [List.any_nil, Bool.or_false] at hnotify
    have hannounce : r.Proceeds C limbo
        (Registry.notify { r with table := t } env [] d.snapshot .created).2 :=
      .announce henv hsound (.insert hinsert limbo) hfits (apart_nil _) rfl rfl (fun _ => rfl)
        ⟨by decide, by simp⟩
    rw [← hnotify] at hannounce
    exact hannounce

theorem restore_proceeds (r : Registry ε) {s : Snapshot}
    (hop : (Operation.restore s).fits C = true) : r.Proceeds C limbo (r.restore s).2 := by
  unfold restore
  cases hrestore : r.table.restore s with
  | error e => exact .refl r
  | ok linked =>
    obtain ⟨d, t⟩ := linked
    obtain ⟨-, rfl⟩ := Table.restore_links hrestore
    exact ⟨_, .single (.restore hrestore limbo) (.of_does hop (.restore s)) rfl fun _ => rfl⟩

theorem lookup_proceeds (hsound : r.Sound) {key : Key}
    (hop : (Operation.lookup key).fits C = true) : r.Proceeds C limbo (r.lookup key).2 := by
  unfold lookup
  split
  next d hd =>
    have hfind := (Table.of_lookup hd).1
    obtain rfl : d.key = key := hsound.wf.key_of_find? hfind
    exact .revise hfind (.retain d) (.of_does hop (.lookup d)) r.profiles
  next => exact .refl r

theorem lookupIdentity_proceeds (hsound : r.Sound) {callId fromTag toTag : String}
    (hop : (Operation.lookupIdentity callId fromTag toTag).fits C = true) :
    r.Proceeds C limbo (r.lookupIdentity callId fromTag toTag).2 := by
  unfold lookupIdentity
  split
  next d way hd =>
    have hway := Table.direction?_of_lookupIdentity hd
    exact .revise (hsound.wf.of_lookupIdentity hd).1 (.retain d)
      (.of_does hop (.lookupIdentity hway)) r.profiles
  next => exact .refl r

theorem lookupDownstream_proceeds (hsound : r.Sound) {callId : String} {fromTag : Option String}
    (hop : (Operation.lookupDownstream callId fromTag).fits C = true) :
    r.Proceeds C limbo (r.lookupDownstream callId fromTag).2 := by
  unfold lookupDownstream
  split
  next d hd =>
    have hmatch := Table.isDownstream_of_lookupDownstream hd
    exact .revise (hsound.wf.of_lookupDownstream hd).1 (.retain d)
      (.of_does hop (.lookupDownstream hmatch)) r.profiles
  next => exact .refl r

theorem addRefs_proceeds (hsound : r.Sound) {key : Key} {count : Nat}
    (hop : (Operation.addRefs key count).fits C = true) :
    r.Proceeds C limbo (r.addRefs key count).2 := by
  unfold addRefs Table.addRefs
  cases hfind : r.table.find? key with
  | none => exact .countAnomaly r
  | some d =>
    obtain rfl : d.key = key := hsound.wf.key_of_find? hfind
    exact .revise hfind (.addRefs d count) (.of_does hop (.addRefs d count)) r.profiles

/-! ## Changes -/

theorem nextPhase_proceeds (hsound : r.Sound) {key : Key} {event : Event}
    (hop : (Operation.nextPhase key event).fits C = true) :
    r.Proceeds C limbo (r.nextPhase key event).2 := by
  unfold nextPhase
  rcases r.table.applyEvent_cases key event with
    ⟨-, happly⟩ | ⟨d, hfind, ⟨-, happly⟩ | ⟨m, hm, happly⟩⟩
  · rw [happly]
  · rw [happly]
    exact .countInvalid r
  · rw [happly]
    obtain rfl : d.key = key := hsound.wf.key_of_find? hfind
    exact ⟨_, .single (.move hfind hm true limbo) (.of_does hop (.nextPhase d event m)) rfl
      fun _ => rfl⟩

theorem processEvent_proceeds (henv : env.Keeps C) (hsound : r.Sound) {key : Key} {event : Event}
    (hop : (Operation.processEvent key event).fits C = true) :
    r.Proceeds C limbo (r.processEvent env key event).2 := by
  unfold processEvent
  rcases r.table.applyEvent_cases key event with
    ⟨-, happly⟩ | ⟨d, hfind, ⟨-, happly⟩ | ⟨m, hm, happly⟩⟩
  · rw [happly]
  · rw [happly]
    dsimp only
    rw [PhaseChange.changed, bne_self_eq_false, Bool.false_and, if_neg Bool.false_ne_true]
    have hcount : r.Proceeds C limbo { r with table := r.table.countInvalid } := .countInvalid r
    exact hcount.trans (release_proceeds henv (hcount.sound hsound)
      fun _ _ hpos => absurd hpos (Nat.lt_irrefl 0))
  · rw [happly]
    obtain rfl : d.key = key := hsound.wf.key_of_find? hfind
    have hstep := Step.move hfind hm false limbo
    have hfits : (Moment.moved d event m false).fits C := .of_does hop (.processEvent d event m)
    obtain ⟨-, -, -, -, hobservers, -⟩ := d.move_retains m
    have hapart : Registry.Apart { r with table := r.table.put (d.move m) }
        (d.move m).observers := by
      rw [hobservers]
      exact (hsound.apart hfind).later hstep.later
    have hmoved : r.Proceeds C limbo
        (if PhaseChange.changed ⟨d.phase, m.phase, m.unref⟩
            && (r.wants [.stateChanged] || (d.move m).isObserved .stateChanged) then
          (Registry.notify { r with table := r.table.put (d.move m) } env (d.move m).observers
            (d.move m).snapshot (.stateChanged d.phase m.phase event)).2
        else { r with table := r.table.put (d.move m) }) := by
      by_cases hphase : d.phase = m.phase
      · have hsame : PhaseChange.changed ⟨d.phase, m.phase, m.unref⟩ = false := by
          simp [PhaseChange.changed, hphase]
        rw [hsame, Bool.false_and, if_neg Bool.false_ne_true]
        exact ⟨_, .single hstep hfits (by simp [Moment.news?, hphase]) fun _ => rfl⟩
      · have hchanged : PhaseChange.changed ⟨d.phase, m.phase, m.unref⟩ = true := by
          simp [PhaseChange.changed, hphase]
        have hannounce : r.Proceeds C limbo
            (Registry.notify { r with table := r.table.put (d.move m) } env (d.move m).observers
              (d.move m).snapshot (.stateChanged d.phase m.phase event)).2 :=
          .announce henv hsound hstep hfits hapart hobservers.symm
            (by simp [Moment.news?, hphase]) (fun _ => rfl) ⟨by simp [Notice.topic], by simp⟩
        rw [← notify_if_wanted] at hannounce
        rw [hchanged, Bool.true_and]
        exact hannounce
    refine hmoved.trans (release_proceeds henv (hmoved.sound hsound) fun e he _ => ?_)
    rw [← he] at hop
    exact .of_does hop (.giveUp hm e)

theorem setLegInfo_proceeds (hsound : r.Sound) {key : Key} {side : Leg} {info : LegInfo}
    (hop : (Operation.setLegInfo key side info).fits C = true) :
    r.Proceeds C limbo (r.setLegInfo key side info).2 := by
  unfold setLegInfo Table.setLegInfo
  cases hfind : r.table.find? key with
  | none => exact .refl r
  | some d =>
    dsimp only
    cases hset : d.setLegInfo side info with
    | error e => exact .refl r
    | ok e =>
      obtain rfl : d.key = key := hsound.wf.key_of_find? hfind
      exact .revise hfind (.setLegInfo hset) (.of_does hop (.setLegInfo hset)) r.profiles

theorem updateCseq_proceeds (hsound : r.Sound) {key : Key} {side : Leg} {cseq : String}
    (hop : (Operation.updateCseq key side cseq).fits C = true) :
    r.Proceeds C limbo (r.updateCseq key side cseq).2 := by
  unfold updateCseq Table.updateCseq
  cases hfind : r.table.find? key with
  | none => exact .refl r
  | some d =>
    obtain rfl : d.key = key := hsound.wf.key_of_find? hfind
    exact .revise hfind (.updateCseq d side cseq) (.of_does hop (.updateCseq d side cseq))
      r.profiles

theorem observeDialog_proceeds (hsound : r.Sound) {key : Key} {name : String}
    {topics : List Topic} (hop : (Operation.observeDialog key name topics).fits C = true) :
    r.Proceeds C limbo ((r.observeDialog key name topics).toOption.getD r) := by
  unfold observeDialog Table.addObserver
  cases hfind : r.table.find? key with
  | none => exact .refl r
  | some d =>
    obtain rfl : d.key = key := hsound.wf.key_of_find? hfind
    have hstep := Step.attend hfind (o := { serial := r.nextSerial, name, topics }) rfl rfl limbo
    exact ⟨_, .single hstep (.of_does hop (.observeDialog ..)) rfl fun _ => rfl⟩

/-! ## Timers -/

section Timers

variable {op : Operation} {key : Key}

theorem setTimer_proceeds (hop : op.fits C = true) (hkey : op.timer? = some key) (hsound : r.Sound)
    {d : Dialog} (hfind : r.table.find? key = some d) (timer : Option TimerSlot) :
    r.Proceeds C limbo { r with table := r.table.put { d with timer } } := by
  obtain rfl : d.key = key := hsound.wf.key_of_find? hfind
  exact .revise hfind (.setTimer d timer) (.of_does hop (.swapTimer hkey timer)) r.profiles

theorem swapTimer_proceeds (hop : op.fits C = true) (hkey : op.timer? = some key)
    (hsound : r.Sound) {t : Table} {expected : TimerSlot} {next : Option TimerSlot}
    (h : swapTimer r.table key expected next = some t) :
    r.Proceeds C limbo { r with table := t } := by
  obtain ⟨d, hfind, -, rfl⟩ := swapTimer_eq_some h
  exact setTimer_proceeds hop hkey hsound hfind next

/-- A timer's reference is given back. -/
theorem disarm_proceeds (hop : op.fits C = true) (hkey : op.timer? = some key)
    (henv : env.Keeps C) (hsound : r.Sound) : r.Proceeds C limbo (r.release env key 1) := by
  refine release_proceeds henv hsound fun d hd _ => ?_
  rw [← hd] at hkey
  exact .of_does hop (.disarm hkey)

theorem settleTimer_proceeds (hop : op.fits C = true) (hkey : op.timer? = some key)
    (henv : env.Keeps C) (hsound : r.Sound) (answer : Except String Handle) :
    r.Proceeds C limbo (r.settleTimer env key answer).2 := by
  unfold settleTimer
  cases answer with
  | ok handle =>
    dsimp only
    split
    next t hswap => exact swapTimer_proceeds hop hkey hsound hswap
    next => exact .refl r
  | error reason =>
    dsimp only
    split
    next t hswap =>
      have hcleared : r.Proceeds C limbo { r with table := t } :=
        swapTimer_proceeds hop hkey hsound hswap
      exact hcleared.trans (disarm_proceeds hop hkey henv (hcleared.sound hsound))
    next => exact .countAnomaly r

theorem startTimer_proceeds (henv : env.Keeps C) (hsound : r.Sound) {milliseconds : Option Nat}
    (hop : (Operation.startTimer key milliseconds).fits C = true) :
    r.Proceeds C limbo (r.startTimer env key milliseconds).2 := by
  unfold startTimer
  split
  · exact .refl r
  cases hfind : r.table.find? key with
  | none => exact .refl r
  | some d =>
    dsimp only
    cases hprepare : prepareTimer d milliseconds with
    | error e => exact .refl r
    | ok e =>
      obtain rfl : d.key = key := hsound.wf.key_of_find? hfind
      have hmark : r.Proceeds C limbo { r with table := r.table.put e } :=
        .revise hfind (.prepareTimer hprepare) (.of_does hop (.prepareTimer hprepare)) r.profiles
      have hask := hmark.trans (.record _ (c := .scheduled d.key
        (milliseconds.getD (e.timeout.toNat * 1000))) fun _ _ _ => by simp)
      have hasked := hask.trans (henv.schedule d.key
        (milliseconds.getD (e.timeout.toNat * 1000)) _ limbo (hask.sound hsound))
      exact hasked.trans (settleTimer_proceeds hop rfl henv (hasked.sound hsound) _)

theorem stopTimer_proceeds (henv : env.Keeps C) (hsound : r.Sound)
    (hop : (Operation.stopTimer key).fits C = true) :
    r.Proceeds C limbo (r.stopTimer env key).2 := by
  unfold stopTimer
  split
  next handle _ _ =>
    have hask : r.Proceeds C limbo (r.record (.cancelled handle)) :=
      .record r fun _ _ _ => by simp
    have hasked := hask.trans (henv.cancel handle _ limbo (hask.sound hsound))
    refine hasked.trans ?_
    have hsound' := hasked.sound hsound
    generalize env.cancel handle (r.record (.cancelled handle)) = asked at hsound' ⊢
    obtain ⟨answer, r'⟩ := asked
    dsimp only at hsound' ⊢
    split
    · split
      next t hswap =>
        have hcleared : r'.Proceeds C limbo { r' with table := t } :=
          swapTimer_proceeds hop rfl hsound' hswap
        exact hcleared.trans (disarm_proceeds hop rfl henv (hcleared.sound hsound'))
      next => exact .countAnomaly r'
    · exact .refl r'
  next => exact .refl r

theorem expire_proceeds (henv : env.Keeps C) (hsound : r.Sound)
    (hop : (Operation.expire key).fits C = true) :
    r.Proceeds C limbo (r.expire env key) := by
  unfold expire
  cases hfind : r.table.find? key with
  | none => exact .countAnomaly r
  | some d =>
    dsimp only
    split
    · have hcleared : r.Proceeds C limbo
          { r with table := r.table.put { d with timer := none } } :=
        setTimer_proceeds hop rfl hsound hfind none
      exact hcleared.trans (disarm_proceeds hop rfl henv (hcleared.sound hsound))
    · exact .countAnomaly r

end Timers

/-! ## Views -/

theorem withContexts_proceeds (henv : env.Keeps C) (hsound : r.Sound) {ds : List Dialog}
    (hds : ∀ d ∈ ds, r.Apart d.observers) : r.Proceeds C limbo (withContexts env ds r).2 := by
  induction ds generalizing r with
  | nil => exact .refl r
  | cons d ds ih =>
    have hask : r.Proceeds C limbo (r.withContext env d).2 :=
      .ask henv hsound (hds d List.mem_cons_self) d.snapshot []
    refine hask.trans (ih (hask.sound hsound) fun e he => ?_)
    obtain ⟨ms, hms⟩ := hask
    exact (hds e (List.mem_cons_of_mem _ he)).later hms.path.later

theorem snapshot_proceeds (henv : env.Keeps C) (hsound : r.Sound) (key : Key) (context : Bool) :
    r.Proceeds C limbo (r.snapshot env key context).2 := by
  unfold snapshot
  split
  · exact .refl r
  · exact .refl r
  next d hfind => exact .ask henv hsound (hsound.apart hfind) d.snapshot []

theorem snapshotAll_proceeds (henv : env.Keeps C) (hsound : r.Sound) (context : Bool) :
    r.Proceeds C limbo (r.snapshotAll env context).2 := by
  unfold snapshotAll
  split
  · refine withContexts_proceeds henv hsound fun d hd => ?_
    exact hsound.apart (hsound.wf.mem_dialogs.1 hd)
  · exact .refl r

theorem takeDirty_proceeds (hsound : r.Sound) (hop : Operation.takeDirty.fits C = true) :
    r.Proceeds C limbo r.takeDirty.2 := by
  refine hsound.wf.of_takeDirty
    (P := fun t t' => Registry.Proceeds C limbo { r with table := t } { r with table := t' })
    (fun t => .refl _) (fun h h' => h.trans h') fun {t d} hwf hfind hdirty => ?_
  exact ⟨_, .single (.hand (r := { r with table := t }) hfind hdirty limbo)
    (.of_does hop (.takeDirty hdirty)) rfl fun _ => rfl⟩

/-! ## Memberships -/

theorem attach_proceeds (hsound : r.Sound) {key : Key} {profile : String} {value : Option String}
    (hop : (Operation.attach key profile value).fits C = true) :
    r.Proceeds C limbo (r.attach key profile value).2 := by
  unfold attach
  split
  · exact .refl r
  · split
    · exact .refl r
    · unfold Table.pushLink
      cases hfind : r.table.find? key with
      | none => exact .file r _
      | some d =>
        obtain rfl : d.key = key := hsound.wf.key_of_find? hfind
        exact .revise hfind (.setLinks d _) (.of_does hop (.attach d profile value _)) _

theorem detach_proceeds (hsound : r.Sound) {key : Key} {profile : String} {value : Option String}
    (hop : (Operation.detach key profile value).fits C = true) :
    r.Proceeds C limbo (r.detach key profile value).2 := by
  unfold detach
  split
  · exact .refl r
  · split
    next l t htake =>
      obtain ⟨d, hfind, -, rfl⟩ := Table.takeLink_eq_some htake
      obtain rfl : d.key = key := hsound.wf.key_of_find? hfind
      exact .revise hfind (.setLinks d _) (.of_does hop (.detach d profile value _)) _
    next => exact .refl r

/-! ## Runs -/

/-- An operation within a conduct, in surroundings that keep to it, is a course. -/
theorem perform_proceeds (henv : env.Keeps C) (hsound : r.Sound) {op : Operation}
    (hop : op.fits C = true) : r.Proceeds C limbo (r.perform env op) := by
  cases op with
  | insert => exact insert_proceeds henv hsound hop
  | restore => exact restore_proceeds r hop
  | lookup => exact lookup_proceeds hsound hop
  | lookupIdentity => exact lookupIdentity_proceeds hsound hop
  | lookupDownstream => exact lookupDownstream_proceeds hsound hop
  | addRefs => exact addRefs_proceeds hsound hop
  | release key count =>
    refine release_proceeds henv hsound fun d hd _ => ?_
    rw [← hd] at hop
    exact .of_does hop (.release d count)
  | nextPhase => exact nextPhase_proceeds hsound hop
  | processEvent => exact processEvent_proceeds henv hsound hop
  | setLegInfo => exact setLegInfo_proceeds hsound hop
  | updateCseq => exact updateCseq_proceeds hsound hop
  | startTimer => exact startTimer_proceeds henv hsound hop
  | stopTimer => exact stopTimer_proceeds henv hsound hop
  | expire => exact expire_proceeds henv hsound hop
  | snapshot key context => exact snapshot_proceeds henv hsound key context
  | snapshotAll context => exact snapshotAll_proceeds henv hsound context
  | takeDirty => exact takeDirty_proceeds hsound hop
  | observeDialog => exact observeDialog_proceeds hsound hop
  | attach => exact attach_proceeds hsound hop
  | detach => exact detach_proceeds hsound hop

/-- What a registry may become through operations that `P` allows in their surroundings, while
observers are registered and time goes by. -/
inductive Runs (P : Environment ε → Operation → Prop) : Registry ε → Registry ε → Prop where
  | idle {r r' : Registry ε} (h : r.Idle r') : Runs P r r'
  | enlist (r : Registry ε) (name : String) (topics : List Topic) :
      Runs P r (r.observe name topics .client)
  | step {env : Environment ε} {op : Operation} (h : P env op) (r : Registry ε) :
      Runs P r (r.perform env op)
  | trans {r r' r'' : Registry ε} : Runs P r r' → Runs P r' r'' → Runs P r r''

@[refl] theorem Runs.refl {P : Environment ε → Operation → Prop} (r : Registry ε) : Runs P r r :=
  .idle (.refl r)

end Registry

/-- Surroundings that call back by runs of operations that `P` allows. Observers only do so if the
conduct has room for it. -/
structure Environment.Under (C : Conduct) (P : Environment ε → Operation → Prop)
    (env : Environment ε) : Prop where
  observe : ∀ o s n r,
    Registry.Runs (fun env op => C.callsBack = true ∧ P env op) r (env.observe o s n r).2
  schedule : ∀ key ms r, Registry.Runs P r (env.schedule key ms r).2
  cancel : ∀ handle r, Registry.Runs P r (env.cancel handle r).2

/-- Surroundings that call back no deeper than this, and keep to a conduct. -/
def Environment.Honest (C : Conduct) : Nat → Environment ε → Prop
  | 0 => Under C fun _ _ => False
  | depth + 1 => Under C fun env op => op.fits C = true ∧ Honest C depth env

namespace Registry

/-- Runs that keep to a conduct, in surroundings that call back to any depth. -/
abbrev RunsIn (C : Conduct) : Registry ε → Registry ε → Prop :=
  Runs fun env op => op.fits C = true ∧ ∃ depth, Environment.Honest C depth env

theorem Runs.proceeds {P : Environment ε → Operation → Prop}
    (hP : ∀ env op, P env op → env.Keeps C ∧ op.fits C = true) {r r' : Registry ε}
    (h : Runs P r r') (hsound : r.Sound) : r.Proceeds C limbo r' := by
  induction h with
  | idle h => exact .idle h
  | enlist r name topics => exact .enlist r name topics
  | step h r =>
    obtain ⟨henv, hop⟩ := hP _ _ h
    exact perform_proceeds henv hsound hop
  | trans _ _ ih ih' =>
    have hfirst := ih hsound
    exact hfirst.trans (ih' (hfirst.sound hsound))

/-- As long as nothing is done, nothing happens. -/
theorem Runs.asides {P : Environment ε → Operation → Prop} (hP : ∀ env op, ¬P env op)
    {r r' : Registry ε} (h : Runs P r r') :
    ∃ ms, Procession C limbo r ms r' ∧ ∀ m ∈ ms, m = .aside := by
  induction h with
  | idle h => exact ⟨[.aside], .aside (.idle h limbo), by simp⟩
  | enlist r name topics => exact ⟨[.aside], .aside (.enlist r name topics limbo), by simp⟩
  | step h r => exact absurd h (hP _ _)
  | trans _ _ ih ih' =>
    obtain ⟨ms, hms, hasides⟩ := ih
    obtain ⟨ms', hms', hasides'⟩ := ih'
    exact ⟨ms ++ ms', hms.append hms', List.forall_mem_append.2 ⟨hasides, hasides'⟩⟩

end Registry

theorem Environment.Under.keeps {P : Environment ε → Operation → Prop}
    (hP : ∀ env op, P env op → env.Keeps C ∧ op.fits C = true) {env : Environment ε}
    (h : env.Under C P) : env.Keeps C where
  observe o s n r limbo hsound := by
    cases hC : C.callsBack with
    | true =>
      have hproceeds : r.Proceeds C limbo (env.observe o s n r).2 :=
        (h.observe o s n r).proceeds (fun env op hop => hP env op hop.2) hsound
      obtain ⟨ms, hms⟩ := hproceeds
      exact ⟨ms, hms, fun hquiet => by cases hquiet⟩
    | false =>
      have hnever : ∀ env op, ¬(C.callsBack = true ∧ P env op) := by simp [hC]
      have hquiet : ∃ ms, Procession C limbo r ms (env.observe o s n r).2 ∧ ∀ m ∈ ms, m = .aside :=
        (h.observe o s n r).asides hnever
      obtain ⟨ms, hms, hasides⟩ := hquiet
      exact ⟨ms, hms, fun _ => hasides⟩
  schedule key ms r limbo hsound := (h.schedule key ms r).proceeds hP hsound
  cancel handle r limbo hsound := (h.cancel handle r).proceeds hP hsound

/-- However deep surroundings call back, they keep to their conduct. -/
theorem Environment.Honest.keeps {depth : Nat} {env : Environment ε} (h : env.Honest C depth) :
    env.Keeps C := by
  induction depth generalizing env with
  | zero => exact Under.keeps (fun _ _ hfalse => hfalse.elim) h
  | succ depth ih => exact Under.keeps (fun _ _ hinner => ⟨ih hinner.2, hinner.1⟩) h

theorem Environment.quiet_honest (C : Conduct) : Environment.quiet.Honest C 0 :=
  ⟨fun _ _ _ r => .refl r, fun _ _ r => .refl r, fun _ r => .refl r⟩

namespace Registry

/-- Every run that keeps to a conduct is a course. -/
theorem RunsIn.proceeds {r r' : Registry ε} (h : RunsIn C r r') (hsound : r.Sound) :
    r.Proceeds C limbo r' :=
  Runs.proceeds (fun _ _ hop => ⟨hop.2.choose_spec.keeps, hop.1⟩) h hsound

theorem RunsIn.course {r r' : Registry ε} (h : RunsIn C r r') (hsound : r.Sound) :
    ∃ ms, Course C limbo r ms r' := by
  have hproceeds : r.Proceeds C limbo r' := h.proceeds hsound
  obtain ⟨ms, hms⟩ := hproceeds
  exact ⟨ms, hms.toCourse⟩

theorem create_sound {config : Config} {clock : Timestamp} {hasTimer : Bool} {e : ε}
    {r : Registry ε} (h : create config clock hasTimer e = .ok r) : r.Sound := by
  obtain ⟨htable, -, hobservers, -⟩ := create_eq_ok h
  have hnone : ∀ {key : Key} {d : Dialog}, r.table.find? key ≠ some d := fun hd => by
    rw [Table.find?_create htable] at hd
    cases hd
  refine ⟨Table.wf_create htable, fun hd => absurd hd hnone, ?_, ?_, fun hd => absurd hd hnone⟩
  · rw [hobservers]
    exact .nil
  · rw [hobservers]
    exact List.forall_mem_nil _

/-- Registries that some run in this conduct leads to. -/
def Grown (C : Conduct) (r : Registry ε) : Prop :=
  ∃ config clock hasTimer e r₀, create config clock hasTimer e = .ok r₀ ∧ RunsIn C r₀ r

variable {r r' : Registry ε} {env : Environment ε} {depth : Nat}

theorem Grown.runs (h : r.Grown C) (hruns : RunsIn C r r') : r'.Grown C := by
  obtain ⟨config, clock, hasTimer, e, r₀, hcreate, hbefore⟩ := h
  exact ⟨config, clock, hasTimer, e, r₀, hcreate, hbefore.trans hruns⟩

theorem Grown.sound (h : r.Grown C) : r.Sound := by
  obtain ⟨config, clock, hasTimer, e, r₀, hcreate, hruns⟩ := h
  have hsound := create_sound hcreate
  have hproceeds : r₀.Proceeds C [] r := hruns.proceeds hsound
  exact hproceeds.sound hsound

theorem runs_performAll {P : Environment ε → Operation → Prop} (r : Registry ε)
    {ops : List Operation} (hops : ∀ op ∈ ops, P env op) : Runs P r (r.performAll env ops) := by
  induction ops generalizing r with
  | nil => exact .refl r
  | cons op ops ih =>
    obtain ⟨hop, hops⟩ := List.forall_mem_cons.1 hops
    exact Runs.trans (.step hop r) (ih _ hops)

theorem runsIn_performAll (henv : env.Honest C depth) (r : Registry ε) {ops : List Operation}
    (hops : ∀ op ∈ ops, op.fits C = true) : RunsIn C r (r.performAll env ops) :=
  runs_performAll r fun op hop => ⟨hops op hop, depth, henv⟩

theorem blank_grown (C : Conduct) : blank.Grown C :=
  ⟨{ hashSize := 1 }, .epoch, false, (), blank, create_blank, .refl _⟩

end Registry

/-! ## Scripts

The surroundings that a script describes keep to every conduct that lets observers call back and has
room for whatever restores no dialog and moves none silently: nothing else is called back. -/

namespace Script

variable {P : Environment Script → Operation → Prop} {inner : Environment Script}

theorem enlist_runs (plan : Plan) (r : Registry Script) : Registry.Runs P r (r.enlist plan) := by
  unfold Registry.enlist
  split
  · exact .refl r
  next first _ => exact (Registry.Runs.idle (.setEnv r _)).trans (.enlist _ first.name first.topics)

theorem fits_of_mem_operations (hC : ∀ op, C.allows op = true) {key : Key} {reaction : Reaction}
    {op : Operation} (h : op ∈ operations key reaction) : op.fits C = true := by
  simp only [operations, List.mem_append, Option.mem_toList, Option.map_eq_some_iff] at h
  rcases h with (⟨_, -, rfl⟩ | ⟨_, -, rfl⟩) | ⟨_, -, rfl⟩ <;> simp [Operation.fits, hC]

theorem fits_of_mem_firing (hC : ∀ op, C.allows op = true) {key : Key} {fires : Bool} {gives : Nat}
    {op : Operation} (h : op ∈ firing key fires gives) : op.fits C = true := by
  cases fires with
  | false =>
    obtain rfl : op = .release key gives := by simpa [firing] using h
    simp [Operation.fits, hC]
  | true =>
    have hop : op = .expire key ∨ op = .release key gives := by simpa [firing] using h
    rcases hop with rfl | rfl <;> simp [Operation.fits, hC]

theorem fire_runs (hC : ∀ op, C.allows op = true) (hinner : ∀ op, op.fits C = true → P inner op)
    (key : Key) (fires : Bool) (gives : Nat) (r : Registry Script) :
    Registry.Runs P r (fire inner key fires gives r) := by
  rw [fire_eq]
  exact Registry.runs_performAll r fun op hop => hinner op (fits_of_mem_firing hC hop)

theorem callBack_runs (hC : ∀ op, C.allows op = true)
    (hinner : ∀ op, op.fits C = true → P inner op) (key : Key) (reaction : Reaction) (next : Plan)
    (r : Registry Script) : Registry.Runs P r (callBack inner key reaction next r) := by
  rw [callBack_eq]
  have hperform : Registry.Runs P r (r.performAll inner (operations key reaction)) :=
    Registry.runs_performAll r fun op hop => hinner op (fits_of_mem_operations hC hop)
  exact hperform.trans (enlist_runs next _)

theorem react_runs (hC : ∀ op, C.allows op = true) (hinner : ∀ op, op.fits C = true → P inner op)
    (o : Observer) (s : Snapshot) (n : Notice) (r : Registry Script) :
    Registry.Runs P r (react inner o s n r).2 := by
  unfold react
  split
  · exact .refl r
  next reaction next _ =>
    dsimp only
    split
    · exact (Registry.Runs.idle (.setEnv r _)).trans
        (callBack_runs hC hinner s.key reaction next _)
    · exact .refl r

theorem schedule_runs (hC : ∀ op, C.allows op = true)
    (hinner : ∀ op, op.fits C = true → P inner op) (key : Key) (r : Registry Script) :
    Registry.Runs P r (schedule inner key r).2 := by
  have hfire := fire_runs hC hinner key r.env.scheduling.fires r.env.scheduling.gives r
  unfold schedule
  dsimp only
  split
  · exact hfire
  · exact hfire.trans (.idle (.setEnv _ _))

theorem cancel_runs (hC : ∀ op, C.allows op = true) (hinner : ∀ op, op.fits C = true → P inner op)
    (handle : Handle) (r : Registry Script) : Registry.Runs P r (cancel inner handle r).2 := by
  unfold cancel
  dsimp only
  split
  next key _ => exact fire_runs hC hinner key _ _ r
  next => exact .refl r

theorem environment_honest (hC : ∀ op, C.allows op = true) (hcalls : C.callsBack = true)
    (depth : Nat) : (environment depth).Honest C depth := by
  induction depth with
  | zero => exact ⟨fun _ _ _ r => .refl r, fun _ _ r => .refl r, fun _ r => .refl r⟩
  | succ depth ih =>
    have hinner : ∀ op : Operation, op.fits C = true →
        op.fits C = true ∧ (environment depth).Honest C depth := fun _ hop => ⟨hop, ih⟩
    exact ⟨fun o s n r => react_runs hC (fun op hop => ⟨hcalls, hinner op hop⟩) o s n r,
      fun key _ r => schedule_runs hC hinner key r,
      fun handle r => cancel_runs hC hinner handle r⟩

end Script

end SipDialogs
