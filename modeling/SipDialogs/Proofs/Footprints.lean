-- SUMMARY: What an operation on one dialog comes to, as a function of that dialog.
import SipDialogs.Proofs.Bystanders
import SipDialogs.Proofs.Commuting

/-! # Footprints

Many operations are about one dialog that is linked already. What such an operation does is decided
by that dialog alone: what stands under its key afterwards, what is counted, and whose members are
removed from their profiles. Effects under different keys may change places. -/

namespace SipDialogs

/-! ## Effects -/

/-- What an operation comes to for its dialog. -/
structure Effect where
  /-- What stands under the key of the dialog afterwards. -/
  left : Option Dialog
  counted : Counters := {}
  /-- The links whose members are removed from their profiles. -/
  dropped : List Link := []

namespace Effect

/-- One effect, and another that depends on what the first leaves. -/
def andThen (e : Effect) (f : Option Dialog → Effect) : Effect where
  left := (f e.left).left
  counted := e.counted.add (f e.left).counted
  dropped := e.dropped ++ (f e.left).dropped

/-- Giving references back. While the timer of a dialog is being stopped at its end, it fires
`late` times in vain. -/
def release (late : Dialog → Nat) (count : Nat) (o : Option Dialog) : Effect :=
  if count = 0 then { left := o }
  else match o with
    | none => { left := none, counted := .anomalies 1 }
    | some d =>
      if count < d.refs then { left := some { d with refs := d.refs - count } }
      else
        { left := none
          counted :=
            { destroyed := 1, refAnomalies := (if d.refs < count then 1 else 0) + late d }
          dropped := d.links }

/-- Feeding an event, before references are given back. -/
def feed (event : Event) : Option Dialog → Effect
  | none => { left := none }
  | some d =>
    match d.phase.next? d.flags event with
    | none => { left := some d, counted := { invalidTransitions := 1 } }
    | some m => { left := some (d.move m) }

/-- The references that an event gives up. -/
def givenUp (event : Event) (o : Option Dialog) : Nat :=
  ((o.bind fun d => d.phase.next? d.flags event).map (·.unref)).getD 0

/-- Removing the first link that `chosen` accepts. -/
def detach (chosen : Link → Bool) (o : Option Dialog) : Effect where
  left := o.map fun d => { d with links := d.links.eraseP chosen }
  dropped := (o.bind fun d => d.links.find? chosen).toList

/-- Whatever is left is the dialog that was there, changed perhaps. -/
def Keeps (key : Key) (o : Option Dialog) (e : Effect) : Prop :=
  ∀ d ∈ e.left, d.key = key ∧ o.isSome

end Effect

namespace Operation

/-- The key of an operation that is about one dialog, which is linked already. -/
def target? : Operation → Option Key
  | addRefs key _ | release key _ | nextPhase key _ | processEvent key _ | setLegInfo key _ _
  | updateCseq key _ _ | snapshot key _ | detach key _ _ => some key
  | _ => none

/-- What such an operation comes to, by what stands under its key. -/
def effect (late : Dialog → Nat) (ps : Directory) (op : Operation) (o : Option Dialog) : Effect :=
  match op with
  | addRefs _ count =>
    { left := o.map (·.addRefs count), counted := .anomalies (if o.isSome then 0 else 1) }
  | release _ count => .release late count o
  | nextPhase _ event => .feed event o
  | processEvent _ event =>
    (Effect.feed event o).andThen (.release late (Effect.givenUp event o))
  | setLegInfo _ side info => { left := o.map fun d => (d.setLegInfo side info).toOption.getD d }
  | updateCseq _ side cseq => { left := o.map (·.updateCseq side cseq) }
  | detach _ profile value =>
    match ps.owning profile value with
    | .error _ => { left := o }
    | .ok chosen => .detach chosen o
  | _ => { left := o }

end Operation

/-- What of a registry operations on single dialogs look at. -/
structure Stock where
  table : Table
  profiles : Directory
  hasTimer : Bool

def Registry.stock (r : Registry ε) : Stock := ⟨r.table, r.profiles, r.hasTimer⟩

/-- Surroundings that leave the table and the profiles alone when they hear of a dialog or stop a
timer. A timer may still fire while it is being stopped, `late` times; its dialog is unlinked by
then, so that all that comes of it are anomalies. -/
structure Environment.Aloof (late : Handle → Nat) (env : Environment ε) : Prop where
  observe : ∀ o s n r, (env.observe o s n r).2.stock = r.stock
  cancel : ∀ handle r, (env.cancel handle r).2.stock
    = ⟨r.table.tally (.anomalies (late handle)), r.profiles, r.hasTimer⟩

namespace Stock

/-- A stock as tables and profiles are in a reachable registry. -/
structure Sound (s : Stock) : Prop where
  table : s.table.Wf
  profiles : s.profiles.names.Nodup

/-- How often the timer of a dialog fires while it is being stopped at the end. -/
def late (late : Handle → Nat) (s : Stock) (d : Dialog) : Nat :=
  match d.timer, s.hasTimer with
  | some (.armed handle), true => late handle
  | _, _ => 0

/-- The stock after an effect on what stands under a key. -/
def take (s : Stock) (key : Key) (e : Effect) : Stock where
  table := (s.table.place key e.left).tally e.counted
  profiles := s.profiles.removeMembers e.dropped
  hasTimer := s.hasTimer

/-- The stock after an operation on one dialog. -/
def after (late : Handle → Nat) (s : Stock) (op : Operation) : Stock :=
  match op.target? with
  | some key => s.take key (op.effect (s.late late) s.profiles (s.table.find? key))
  | none => s

variable {s : Stock} {key key' : Key} {e e' : Effect}

theorem Sound.key_of_find? (h : s.Sound) (key : Key) : ∀ d ∈ s.table.find? key, d.key = key :=
  fun _ hd => h.table.key_of_find? hd

theorem Sound.take (h : s.Sound) (he : e.Keeps key (s.table.find? key)) :
    (s.take key e).Sound where
  table := (h.table.place fun d hd => (he d hd).1).tally _
  profiles := by
    rw [Stock.take, Directory.names_removeMembers]
    exact h.profiles

theorem find?_take (he : e.Keeps key (s.table.find? key)) (k : Key) :
    (s.take key e).table.find? k = if k = key then e.left else s.table.find? k :=
  Table.find?_place he k

theorem owning_take (s : Stock) (key : Key) (e : Effect) :
    (s.take key e).profiles.owning = s.profiles.owning :=
  Directory.owning_congr (funext (s.profiles.hasValue?_removeMembers e.dropped))

/-- Effects under different keys may change places. -/
theorem Sound.take_comm (h : s.Sound) (hne : key ≠ key') (he : e.Keeps key (s.table.find? key))
    (he' : e'.Keeps key' (s.table.find? key')) :
    (s.take key e).take key' e' = (s.take key' e').take key e := by
  have hplace := h.table.place_comm hne (fun d hd => (he d hd).1) fun d hd => (he' d hd).1
  have hdropped : (e.dropped ++ e'.dropped).Perm (e'.dropped ++ e.dropped) :=
    List.perm_append_comm
  have hmembers := Directory.removeMembers_perm h.profiles hdropped
  rw [Directory.removeMembers_append, Directory.removeMembers_append] at hmembers
  simp only [Stock.take, Table.place_tally, Table.tally_tally, hplace, hmembers,
    Counters.add_comm e.counted]

/-- An effect after another, under the same key. -/
theorem Sound.take_andThen (h : s.Sound) (he : e.Keeps key (s.table.find? key))
    {f : Option Dialog → Effect} (hf : (f e.left).Keeps key e.left) :
    s.take key (e.andThen f) = (s.take key e).take key (f e.left) := by
  have hplace := h.table.place_place (fun d hd => (he d hd).1) fun d hd => (hf d hd).1
  simp only [Stock.take, Effect.andThen, Table.place_tally, Table.tally_tally, hplace,
    Directory.removeMembers_append]

/-- Where a dialog stays as it is, there is nothing to do but counting. -/
theorem Sound.take_self (h : s.Sound) {o : Option Dialog} (ho : s.table.find? key = o)
    (c : Counters) :
    s.take key { left := o, counted := c } = { s with table := s.table.tally c } := by
  rw [Stock.take, ← ho, h.table.place_self]
  rfl

/-- A dialog that is changed is put in its place. -/
theorem Sound.take_put (h : s.Sound) {d c : Dialog} (hd : s.table.find? key = some d)
    (hkey : c.key = d.key) :
    s.take key { left := some c } = { s with table := s.table.put c } := by
  rw [Stock.take, Table.place_some (hkey.trans (h.table.key_of_find? hd))]
  rfl

end Stock

/-! ## Effects keep to their keys -/

namespace Effect

variable {key : Key} {o : Option Dialog}

theorem keeps_none (o : Option Dialog) (c : Counters) (ls : List Link) :
    Effect.Keeps key o ⟨none, c, ls⟩ := fun _ hd => by cases hd

theorem keeps_self (ho : ∀ d ∈ o, d.key = key) (c : Counters) (ls : List Link) :
    Effect.Keeps key o ⟨o, c, ls⟩ := fun d hd => ⟨ho d hd, Option.isSome_of_mem hd⟩

theorem keeps_map (ho : ∀ d ∈ o, d.key = key) {f : Dialog → Dialog}
    (hf : ∀ d, (f d).key = d.key) (c : Counters) (ls : List Link) :
    Effect.Keeps key o ⟨o.map f, c, ls⟩ := by
  intro e he
  obtain ⟨d, hd, rfl⟩ := Option.map_eq_some_iff.1 he
  exact ⟨(hf d).trans (ho d hd), Option.isSome_of_mem hd⟩

theorem keeps_release (ho : ∀ d ∈ o, d.key = key) (late : Dialog → Nat) (count : Nat) :
    (Effect.release late count o).Keeps key o := by
  unfold release
  split
  · exact keeps_self ho _ _
  · cases o with
    | none => exact keeps_none none _ _
    | some d =>
      dsimp only
      split
      · exact keeps_map ho (f := fun d => { d with refs := d.refs - count }) (fun _ => rfl) _ _
      · exact keeps_none _ _ _

theorem keeps_feed (ho : ∀ d ∈ o, d.key = key) (event : Event) :
    (Effect.feed event o).Keeps key o := by
  unfold feed
  cases o with
  | none => exact keeps_none none _ _
  | some d =>
    dsimp only
    split
    · exact keeps_self ho _ _
    next m _ => exact keeps_map ho (f := (·.move m)) (fun d => (d.move_eq m).1.key) _ _

theorem Keeps.andThen {e : Effect} (he : e.Keeps key o) {f : Option Dialog → Effect}
    (hf : (f e.left).Keeps key e.left) : (e.andThen f).Keeps key o := by
  intro d hd
  obtain ⟨hkey, hleft⟩ := hf d hd
  obtain ⟨d', hd'⟩ := Option.isSome_iff_exists.1 hleft
  exact ⟨hkey, (he d' hd').2⟩

theorem keeps_process (ho : ∀ d ∈ o, d.key = key) (late : Dialog → Nat) (event : Event)
    (count : Nat) :
    (Effect.release late count (Effect.feed event o).left).Keeps key (Effect.feed event o).left :=
  keeps_release (fun d hd => (keeps_feed ho event d hd).1) late count

end Effect

namespace Operation

theorem effect_keeps {key : Key} {o : Option Dialog} (ho : ∀ d ∈ o, d.key = key)
    (late : Dialog → Nat) (ps : Directory) (op : Operation) :
    (op.effect late ps o).Keeps key o := by
  cases op with
  | addRefs k count => exact Effect.keeps_map ho (f := (·.addRefs count)) (fun _ => rfl) _ _
  | release k count => exact Effect.keeps_release ho late count
  | nextPhase k event => exact Effect.keeps_feed ho event
  | processEvent k event =>
    exact (Effect.keeps_feed ho event).andThen (Effect.keeps_process ho late event _)
  | setLegInfo k side info =>
    refine Effect.keeps_map ho (fun d => ?_) _ _
    cases h : d.setLegInfo side info with
    | error => rfl
    | ok e => exact (Dialog.setLegInfo_eq_ok h).1.key
  | updateCseq k side cseq =>
    exact Effect.keeps_map ho (fun d => (d.revises_updateCseq side cseq).key) _ _
  | detach k profile value =>
    simp only [effect]
    split
    · exact Effect.keeps_self ho _ _
    next chosen _ =>
      exact Effect.keeps_map ho (f := fun d => { d with links := d.links.eraseP chosen })
        (fun _ => rfl) _ _
  | _ => exact Effect.keeps_self ho _ _

theorem effect_congr {ps ps' : Directory} (h : ps'.owning = ps.owning) (late : Dialog → Nat)
    (op : Operation) : op.effect late ps' = op.effect late ps := by
  funext o
  cases op with
  | detach key profile value => simp only [effect, h]
  | _ => rfl

end Operation

/-! ## Operations and their effects -/

namespace Environment.Aloof

variable {env : Environment ε} {late : Handle → Nat}

theorem notify_stock (henv : env.Aloof late) (r : Registry ε) (own : List Observer) (s : Snapshot)
    (n : Notice) : (r.notify env own s n).2.stock = r.stock := by
  unfold Registry.notify
  generalize (r.observers ++ own).filter (·.wants [n.topic]) = observers
  induction observers generalizing n r with
  | nil => rfl
  | cons o observers ih =>
    have htell : (Registry.tell env s (n, r) o).2.stock = r.stock := by
      unfold Registry.tell
      dsimp only
      split
      · split <;> rfl
      · exact henv.observe o s n _
    exact (ih _ _).trans htell

theorem cancelTimer_stock (henv : env.Aloof late) (r : Registry ε) (d : Dialog) :
    (r.cancelTimer env d).stock
      = ⟨r.table.tally (.anomalies (r.stock.late late d)), r.profiles, r.hasTimer⟩ := by
  unfold Registry.cancelTimer
  split
  next handle htimer hhas =>
    have hlate : r.stock.late late d = late handle := by
      simp [Stock.late, Registry.stock, htimer, hhas]
    rw [hlate]
    exact henv.cancel handle _
  next hnone =>
    have hlate : r.stock.late late d = 0 := by
      unfold Stock.late
      split
      next handle htimer hhas => exact absurd hhas (hnone handle htimer)
      · rfl
    rw [hlate]
    rfl

theorem destroy_stock (henv : env.Aloof late) (r : Registry ε) (d : Dialog) :
    (r.destroy env d).stock
      = ⟨r.table.tally { destroyed := 1, refAnomalies := r.stock.late late d },
          r.profiles.removeMembers d.links, r.hasTimer⟩ := by
  have hcancel := henv.cancelTimer_stock r { d with version := d.version + 1 }
  unfold Registry.destroy
  dsimp only
  generalize r.cancelTimer env { d with version := d.version + 1 } = stopped at hcancel
  have htold : ∀ (told : Bool) (s : Snapshot),
      (if told then (stopped.notify env d.observers s .destroyed).2 else stopped).stock
        = stopped.stock := by
    intro told s
    split
    · exact henv.notify_stock stopped _ _ _
    · rfl
  refine (congrArg (fun s : Stock => (⟨s.table.countDestroyed,
    s.profiles.removeMembers d.links, s.hasTimer⟩ : Stock)) ((htold _ _).trans hcancel)).trans ?_
  dsimp only
  rw [Table.countDestroyed_eq, Table.tally_tally]
  rfl

/-- Giving references back has its effect on the dialog alone, even if it ends. -/
theorem release_stock (henv : env.Aloof late) {r : Registry ε} (h : r.stock.Sound) (key : Key)
    (count : Nat) :
    (r.release env key count).stock
      = r.stock.take key (.release (r.stock.late late) count (r.table.find? key)) := by
  unfold Effect.release
  rcases Nat.eq_zero_or_pos count with rfl | hpos
  · exact (h.take_self rfl {}).symm
  unfold Registry.release
  rw [if_neg (Nat.ne_of_gt hpos)]
  cases hfind : r.table.find? key with
  | none =>
    rw [Table.release_of_unlinked hfind hpos]
    exact (h.take_self hfind (.anomalies 1)).symm
  | some d =>
    by_cases hlt : count < d.refs
    · rw [Table.release_of_lt hfind hlt, if_neg (Nat.ne_of_gt hpos)]
      dsimp only
      rw [if_pos hlt]
      exact (h.take_put (c := { d with refs := d.refs - count }) hfind rfl).symm
    · have hover : (if d.refs < count then r.table.countAnomaly else r.table).erase key
          = (r.table.place key none).tally (.anomalies (if d.refs < count then 1 else 0)) := by
        split
        · exact Table.place_tally r.table key none (.anomalies 1)
        · rfl
      rw [Table.release_of_le hfind hpos (Nat.le_of_not_lt hlt), hover]
      dsimp only
      rw [henv.destroy_stock, if_neg hlt, Stock.take, Table.tally_tally]
      rfl

theorem release_congr (henv : env.Aloof late) {r r' : Registry ε} (h : r.stock.Sound)
    (hsame : r'.stock = r.stock) (key : Key) (count : Nat) :
    (r'.release env key count).stock = (r.release env key count).stock := by
  have htable : r'.table = r.table := congrArg Stock.table hsame
  rw [henv.release_stock (hsame ▸ h), henv.release_stock h, hsame, htable]

end Environment.Aloof

namespace Registry

variable {env : Environment ε} {late : Handle → Nat} {r : Registry ε}

theorem addRefs_stock (h : r.stock.Sound) (key : Key) (count : Nat) :
    (r.addRefs key count).2.stock
      = r.stock.take key ((Operation.addRefs key count).effect (r.stock.late late) r.profiles
          (r.table.find? key)) := by
  unfold addRefs Table.addRefs
  cases hfind : r.table.find? key with
  | none => exact (h.take_self hfind (.anomalies 1)).symm
  | some d => exact (h.take_put (c := d.addRefs count) hfind rfl).symm

theorem nextPhase_stock (h : r.stock.Sound) (key : Key) (event : Event) :
    (r.nextPhase key event).2.stock = r.stock.take key (.feed event (r.table.find? key)) := by
  unfold nextPhase Effect.feed
  obtain ⟨hfind, heq⟩ | ⟨d, hfind, ⟨hinvalid, heq⟩ | ⟨m, hmove, heq⟩⟩ :=
    r.table.applyEvent_cases key event
  · rw [hfind, heq]
    exact (h.take_self hfind {}).symm
  · rw [hfind, heq]
    dsimp only
    rw [hinvalid]
    exact (h.take_self hfind { invalidTransitions := 1 }).symm
  · rw [hfind, heq]
    dsimp only
    rw [hmove]
    exact (h.take_put (c := d.move m) hfind (d.move_eq m).1.key).symm

/-- What the event gives up is what its effect says, and nothing if there is no such dialog. -/
theorem givenUp_eq (t : Table) (key : Key) (event : Event) :
    Effect.givenUp event (t.find? key) = ((t.applyEvent key event).1.map (·.1.unref)).getD 0 := by
  obtain ⟨hfind, heq⟩ | ⟨d, hfind, ⟨hinvalid, heq⟩ | ⟨m, hmove, heq⟩⟩ :=
    t.applyEvent_cases key event
  · rw [hfind, heq]
    rfl
  · simp [Effect.givenUp, hfind, heq, hinvalid]
  · simp [Effect.givenUp, hfind, heq, hmove]

/-- What observers hear in between makes no difference to the references that are given back. -/
theorem processEvent_eq (henv : env.Aloof late) (h : (r.nextPhase key event).2.stock.Sound) :
    (r.processEvent env key event).2.stock
      = ((r.nextPhase key event).2.release env key
          (Effect.givenUp event (r.table.find? key))).stock := by
  rw [givenUp_eq]
  unfold processEvent
  unfold nextPhase at h ⊢
  dsimp only at h ⊢
  generalize r.table.applyEvent key event = applied at h ⊢
  obtain ⟨_ | ⟨change, d⟩, t⟩ := applied
  · rfl
  · refine henv.release_congr h ?_ key change.unref
    dsimp only
    split
    · exact henv.notify_stock _ _ _ _
    · rfl

theorem processEvent_stock (henv : env.Aloof late) (h : r.stock.Sound) (key : Key)
    (event : Event) :
    (r.processEvent env key event).2.stock
      = r.stock.take key ((Operation.processEvent key event).effect (r.stock.late late) r.profiles
          (r.table.find? key)) := by
  have hkey := h.key_of_find? key
  have hkeeps : (Effect.feed event (r.table.find? key)).Keeps key (r.stock.table.find? key) :=
    Effect.keeps_feed hkey event
  have hfed := nextPhase_stock h key event
  have hsound : (r.nextPhase key event).2.stock.Sound := hfed ▸ h.take hkeeps
  have hfind : (r.nextPhase key event).2.table.find? key
      = (Effect.feed event (r.table.find? key)).left := by
    have hfound := Stock.find?_take hkeeps key
    rw [if_pos rfl, ← hfed] at hfound
    exact hfound
  rw [processEvent_eq henv hsound, henv.release_stock hsound, hfind, hfed]
  exact (h.take_andThen hkeeps (Effect.keeps_process hkey (r.stock.late late) event _)).symm

theorem setLegInfo_stock (h : r.stock.Sound) (key : Key) (side : Leg) (info : LegInfo) :
    (r.setLegInfo key side info).2.stock
      = r.stock.take key ((Operation.setLegInfo key side info).effect (r.stock.late late)
          r.profiles (r.table.find? key)) := by
  unfold setLegInfo Table.setLegInfo Operation.effect
  cases hfind : r.table.find? key with
  | none => exact (h.take_self hfind {}).symm
  | some d =>
    dsimp only [Option.map_some]
    cases hset : d.setLegInfo side info with
    | error => exact (h.take_self hfind {}).symm
    | ok e => exact (h.take_put hfind (Dialog.setLegInfo_eq_ok hset).1.key).symm

theorem updateCseq_stock (h : r.stock.Sound) (key : Key) (side : Leg) (cseq : String) :
    (r.updateCseq key side cseq).2.stock
      = r.stock.take key ((Operation.updateCseq key side cseq).effect (r.stock.late late)
          r.profiles (r.table.find? key)) := by
  unfold updateCseq Table.updateCseq
  cases hfind : r.table.find? key with
  | none => exact (h.take_self hfind {}).symm
  | some d => exact (h.take_put hfind (d.revises_updateCseq side cseq).key).symm

theorem snapshot_stock (henv : env.Aloof late) (h : r.stock.Sound) (key : Key)
    (context : Bool) :
    (r.snapshot env key context).2.stock
      = r.stock.take key ((Operation.snapshot key context).effect (r.stock.late late) r.profiles
          (r.table.find? key)) := by
  refine Eq.trans ?_ (h.take_self rfl {}).symm
  unfold snapshot withContext
  split
  · rfl
  · rfl
  · exact henv.notify_stock _ _ _ _

theorem detach_stock (h : r.stock.Sound) (key : Key) (profile : String) (value : Option String) :
    (r.detach key profile value).2.stock
      = r.stock.take key ((Operation.detach key profile value).effect (r.stock.late late)
          r.profiles (r.table.find? key)) := by
  simp only [detach, Operation.effect, Directory.owning]
  cases r.profiles.get profile with
  | error e => exact (h.take_self rfl {}).symm
  | ok p =>
    simp only [Except.map, Effect.detach, r.table.takeLink_eq]
    cases hfind : r.table.find? key with
    | none => exact (h.take_self hfind {}).symm
    | some d =>
      simp only [Option.map_some, Option.bind_some]
      cases hlink : d.links.find? (p.owns value) with
      | none =>
        have hnone : d.links.eraseP (p.owns value) = d.links :=
          List.eraseP_of_forall_not (List.find?_eq_none.1 hlink)
        rw [hnone]
        exact (h.take_self hfind {}).symm
      | some l =>
        have hkey : d.key = key := h.table.key_of_find? hfind
        rw [Stock.take, Table.place_some (d := { d with links := d.links.eraseP _ }) hkey]
        rfl

/-- An operation on one dialog comes to its effect, and nothing else. -/
theorem perform_stock (henv : env.Aloof late) (h : r.stock.Sound) {op : Operation}
    (hop : op.target?.isSome) : (r.perform env op).stock = r.stock.after late op := by
  cases op with
  | addRefs key count => exact addRefs_stock h key count
  | release key count => exact henv.release_stock h key count
  | nextPhase key event => exact nextPhase_stock h key event
  | processEvent key event => exact processEvent_stock henv h key event
  | setLegInfo key side info => exact setLegInfo_stock h key side info
  | updateCseq key side cseq => exact updateCseq_stock h key side cseq
  | snapshot key context => exact snapshot_stock henv h key context
  | detach key profile value => exact detach_stock h key profile value
  | _ => cases hop

end Registry

/-! ## Answers -/

/-- An answer without what observers entered in the context of a snapshot. -/
def Operation.bare : (op : Operation) → op.Reply → op.Reply
  | .snapshot _ _ => Option.map fun s => { s with context := s.context.map fun _ => [] }
  | _ => id

/-- Surroundings in which an observer always answers the same to the same, whenever it is asked,
and nobody registers more observers. -/
structure Environment.Answers (answers : Observer → Snapshot → Notice → Entries)
    (env : Environment ε) : Prop where
  observe : ∀ o s n r,
    (env.observe o s n r).1.2 = answers o s n ∧ (env.observe o s n r).2.observers = r.observers
  cancel : ∀ handle r, (env.cancel handle r).2.observers = r.observers

namespace Registry

variable {r r' : Registry ε} {key : Key} {op : Operation}

/-- Two registries in which the same stands under this key, and in which profiles of the same names
own the same links. -/
structure Alike (key : Key) (r r' : Registry ε) : Prop where
  find? : r'.table.find? key = r.table.find? key
  owning : r'.profiles.owning = r.profiles.owning

theorem reply_addRefs (r : Registry ε) (key : Key) (count : Nat) :
    (r.addRefs key count).1 = (r.table.find? key).isSome := by
  unfold addRefs Table.addRefs
  cases r.table.find? key <;> rfl

theorem reply_nextPhase (r : Registry ε) (key : Key) (event : Event) :
    (r.nextPhase key event).1 = (r.table.find? key).map fun d =>
      match d.phase.next? d.flags event with
      | none => ⟨d.phase, d.phase, 0⟩
      | some m => ⟨d.phase, m.phase, m.unref⟩ := by
  unfold nextPhase
  obtain ⟨hfind, heq⟩ | ⟨d, hfind, ⟨hinvalid, heq⟩ | ⟨m, hmove, heq⟩⟩ :=
    r.table.applyEvent_cases key event
  · simp [hfind, heq]
  · simp [hfind, heq, hinvalid]
  · simp [hfind, heq, hmove]

theorem reply_processEvent (r : Registry ε) (env : Environment ε) (key : Key) (event : Event) :
    (r.processEvent env key event).1 = (r.nextPhase key event).1 := by
  unfold processEvent nextPhase
  dsimp only
  generalize r.table.applyEvent key event = applied
  obtain ⟨_ | ⟨change, d⟩, t⟩ := applied <;> rfl

theorem reply_setLegInfo (r : Registry ε) (key : Key) (side : Leg) (info : LegInfo) :
    (r.setLegInfo key side info).1 = (r.table.find? key).elim (.error (.dialogNotFound key))
      fun d => (d.setLegInfo side info).map fun _ => () := by
  unfold setLegInfo Table.setLegInfo
  cases r.table.find? key with
  | none => rfl
  | some d => cases hset : d.setLegInfo side info <;> simp [hset, Except.map]

theorem reply_updateCseq (r : Registry ε) (key : Key) (side : Leg) (cseq : String) :
    (r.updateCseq key side cseq).1 = (r.table.find? key).elim (.error (.dialogNotFound key))
      fun _ => .ok () := by
  unfold updateCseq Table.updateCseq
  cases r.table.find? key <;> rfl

theorem reply_detach (r : Registry ε) (key : Key) (profile : String) (value : Option String) :
    (r.detach key profile value).1 = (r.profiles.owning profile value).map fun chosen =>
      ((r.table.find? key).bind fun d => d.links.find? chosen).isSome := by
  unfold detach Directory.owning
  cases r.profiles.get profile with
  | error e => rfl
  | ok p =>
    simp only [Except.map, r.table.takeLink_eq]
    cases r.table.find? key with
    | none => rfl
    | some d => cases hl : d.links.find? (p.owns value) <;> simp [hl]

/-- A snapshot shows the dialog, whatever observers have to say about it. -/
theorem reply_snapshot (r : Registry ε) (env : Environment ε) (key : Key) (context : Bool) :
    (Operation.snapshot key context).bare (r.snapshot env key context).1
      = (r.table.find? key).map fun d =>
          { d.snapshot with context := if context then some [] else none } := by
  unfold snapshot
  cases r.table.find? key with
  | none => rfl
  | some d => cases context <;> rfl

/-- The dialog decides the answer, except for what observers enter. -/
theorem Alike.bare_reply (h : Alike key r r') (env : Environment ε) (hop : op.target? = some key) :
    op.bare (r'.reply env op) = op.bare (r.reply env op) := by
  cases op with
  | release => rfl
  | addRefs _ count =>
    cases hop
    simp only [reply, reply_addRefs, h.find?]
  | nextPhase _ event =>
    cases hop
    simp only [reply, reply_nextPhase, h.find?]
  | processEvent _ event =>
    cases hop
    simp only [reply, reply_processEvent, reply_nextPhase, h.find?]
  | setLegInfo _ side info =>
    cases hop
    simp only [reply, reply_setLegInfo, h.find?]
  | updateCseq _ side cseq =>
    cases hop
    simp only [reply, reply_updateCseq, h.find?]
  | snapshot _ context =>
    cases hop
    refine (reply_snapshot r' env key context).trans ?_
    rw [h.find?]
    exact (reply_snapshot r env key context).symm
  | detach _ profile value =>
    cases hop
    simp only [reply, reply_detach, h.find?, h.owning]
  | _ => cases hop

end Registry

/-! ### Answers of observers -/

namespace Environment.Answers

variable {answers : Observer → Snapshot → Notice → Entries} {env : Environment ε}

theorem notify_observers (henv : env.Answers answers) (r : Registry ε) (own : List Observer)
    (s : Snapshot) (n : Notice) : (r.notify env own s n).2.observers = r.observers := by
  unfold Registry.notify
  generalize (r.observers ++ own).filter (·.wants [n.topic]) = observers
  induction observers generalizing n r with
  | nil => rfl
  | cons o observers ih =>
    have htell : (Registry.tell env s (n, r) o).2.observers = r.observers := by
      unfold Registry.tell
      dsimp only
      split
      · split <;> rfl
      · exact (henv.observe o s n _).2
    exact (ih _ _).trans htell

/-- Observers answer alike wherever the same ones are asked. -/
theorem notify_fst (henv : env.Answers answers) {r r' : Registry ε}
    (h : r'.observers = r.observers) (own : List Observer) (s : Snapshot) (n : Notice) :
    (r'.notify env own s n).1 = (r.notify env own s n).1 := by
  unfold Registry.notify
  rw [h]
  clear h
  generalize (r.observers ++ own).filter (·.wants [n.topic]) = observers
  induction observers generalizing n r r' with
  | nil => rfl
  | cons o observers ih =>
    have htell : (Registry.tell env s (n, r') o).1 = (Registry.tell env s (n, r) o).1 := by
      unfold Registry.tell
      dsimp only
      split
      · split <;> rfl
      · rw [(henv.observe o s n _).1, (henv.observe o s n _).1]
    rw [List.foldl_cons, List.foldl_cons]
    generalize Registry.tell env s (n, r') o = told' at htell ⊢
    generalize Registry.tell env s (n, r) o = told at htell ⊢
    obtain ⟨n', r₁'⟩ := told'
    obtain ⟨n'', r₁⟩ := told
    cases htell
    exact ih n'

theorem cancelTimer_observers (henv : env.Answers answers) (r : Registry ε) (d : Dialog) :
    (r.cancelTimer env d).observers = r.observers := by
  unfold Registry.cancelTimer
  split
  · exact henv.cancel _ _
  · rfl

theorem release_observers (henv : env.Answers answers) (r : Registry ε) (key : Key)
    (count : Nat) : (r.release env key count).observers = r.observers := by
  unfold Registry.release
  split
  · rfl
  · unfold Registry.destroy
    dsimp only
    split
    · exact (henv.notify_observers _ _ _ _).trans (henv.cancelTimer_observers _ _)
    · exact henv.cancelTimer_observers _ _

theorem perform_observers (henv : env.Answers answers) (r : Registry ε) {op : Operation}
    (hop : op.target?.isSome) : (r.perform env op).observers = r.observers := by
  cases op with
  | addRefs key count => rfl
  | release key count => exact henv.release_observers r key count
  | nextPhase key event => rfl
  | processEvent key event =>
    simp only [Registry.perform, Registry.processEvent]
    split
    · rfl
    · rw [henv.release_observers]
      split
      · exact henv.notify_observers _ _ _ _
      · rfl
  | setLegInfo key side info =>
    simp only [Registry.perform, Registry.setLegInfo]
    split <;> rfl
  | updateCseq key side cseq =>
    simp only [Registry.perform, Registry.updateCseq]
    split <;> rfl
  | snapshot key context =>
    simp only [Registry.perform, Registry.snapshot]
    split
    · rfl
    · rfl
    · exact henv.notify_observers _ _ _ _
  | detach key profile value =>
    simp only [Registry.perform, Registry.detach]
    split
    · rfl
    · split <;> rfl
  | _ => cases hop

/-- With the same observers in place, the dialog decides the answer as a whole. -/
theorem reply_eq (henv : env.Answers answers) {r r' : Registry ε} {key : Key} {op : Operation}
    (h : Registry.Alike key r r') (hop : op.target? = some key)
    (hobservers : r'.observers = r.observers) : r'.reply env op = r.reply env op := by
  cases op with
  | snapshot _ context =>
    cases hop
    simp only [Registry.reply, Registry.snapshot, Registry.withContext, h.find?]
    cases r.table.find? key with
    | none => rfl
    | some d =>
      cases context with
      | false => rfl
      | true =>
        dsimp only
        rw [henv.notify_fst hobservers]
  | _ => exact h.bare_reply env hop

end Environment.Answers

end SipDialogs
