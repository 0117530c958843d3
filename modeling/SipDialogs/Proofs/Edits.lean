-- SUMMARY: The few kinds of edits that all operations come down to.
import SipDialogs.Proofs.Effects
import SipDialogs.Proofs.Operation
import Mathlib.Logic.Relation

/-! # Edits

Every operation, with all that is called back into the registry while it runs, is a chain of a few
kinds of edits to the table and the profiles. What every edit preserves holds of every registry that
is reachable. -/

namespace SipDialogs

/-- The table, the profiles, and the memberships of dialogs that are unlinked and not torn down
yet. -/
structure Books where
  table : Table
  profiles : Directory
  limbo : List (Key × Link) := []

/-- The memberships of a dialog under its key. -/
def Dialog.held (d : Dialog) : List (Key × Link) := d.links.map fun l => (d.key, l)

/-- An edit keeps up what there is. Only while tagging are dialogs linked and tagged. -/
inductive Edit : (tagging : Bool) → Books → Books → Prop where
  | count {tagging : Bool} (t : Table) (f : Counters → Counters) (ps : Directory)
      (limbo : List (Key × Link)) : Edit tagging ⟨t, ps, limbo⟩ ⟨t.count f, ps, limbo⟩
  | revise {tagging : Bool} {t : Table} {d e : Dialog} (h : t.find? d.key = some d)
      (he : d.Revises e) (ps : Directory) (limbo : List (Key × Link)) :
      Edit tagging ⟨t, ps, limbo⟩ ⟨t.put e, ps, limbo⟩
  | unlink {tagging : Bool} {t : Table} {d : Dialog} (h : t.find? d.key = some d)
      (ps : Directory) (limbo : List (Key × Link)) :
      Edit tagging ⟨t, ps, limbo⟩ ⟨t.erase d.key, ps, d.held ++ limbo⟩
  | purge {tagging : Bool} (t : Table) (ps : Directory) (key : Key) (links : List Link)
      (limbo : List (Key × Link)) :
      Edit tagging ⟨t, ps, links.map (fun l => (key, l)) ++ limbo⟩
        ⟨t, ps.removeMembers links, limbo⟩
  | link {t t' : Table} {d : Dialog} (h : t.Links d t') (hlinks : d.links = [])
      (ps : Directory) (limbo : List (Key × Link)) : Edit true ⟨t, ps, limbo⟩ ⟨t', ps, limbo⟩
  | takeBack {ps : Directory} {name : String} {p numbered : Profile} {key : Key}
      {value : Option String} {l : Link} (hget : ps.get name = .ok p)
      (hlink : p.newLink key value = .ok (l, numbered)) (t : Table)
      (limbo : List (Key × Link)) :
      Edit true ⟨t, ps, limbo⟩
        ⟨t, ps.put ((numbered.addMember l key).removeMember l), limbo⟩
  | attach {t : Table} {d : Dialog} {ps : Directory} {name : String} {p numbered : Profile}
      {value : Option String} {l : Link} (h : t.find? d.key = some d)
      (hget : ps.get name = .ok p) (hlink : p.newLink d.key value = .ok (l, numbered))
      (limbo : List (Key × Link)) :
      Edit true ⟨t, ps, limbo⟩
        ⟨t.put { d with links := d.links ++ [l] }, ps.put (numbered.addMember l d.key), limbo⟩
  | detach {t : Table} {d : Dialog} {chosen : Link → Bool} {l : Link}
      (h : t.find? d.key = some d) (hl : d.links.find? chosen = some l) (ps : Directory)
      (limbo : List (Key × Link)) :
      Edit true ⟨t, ps, limbo⟩
        ⟨t.put { d with links := d.links.eraseP chosen }, ps.removeMembers [l], limbo⟩

variable {tagging : Bool}

theorem Edit.wf {b b' : Books} (h : Edit tagging b b') (hwf : b.table.Wf) : b'.table.Wf := by
  cases h with
  | count t f => exact hwf.count f
  | link h => exact h.wf hwf
  | revise => exact hwf.put _
  | unlink => exact hwf.erase _
  | purge => exact hwf
  | takeBack => exact hwf
  | attach => exact hwf.put _
  | detach => exact hwf.put _

/-- Edits one after another. -/
abbrev Edits (tagging : Bool) : Books → Books → Prop := Relation.ReflTransGen (Edit tagging)

theorem Edits.wf {b b' : Books} (h : Edits tagging b b') (hwf : b.table.Wf) : b'.table.Wf := by
  induction h with
  | refl => exact hwf
  | tail _ hedit ih => exact hedit.wf ih

/-! ## Edits by operations -/

namespace Registry

/-- The table and the profiles of a registry, while these memberships are in limbo. -/
def books (r : Registry ε) (limbo : List (Key × Link)) : Books := ⟨r.table, r.profiles, limbo⟩

end Registry

/-- Surroundings that change the table and the profiles by edits only. -/
structure Environment.Orderly (tagging : Bool) (env : Environment ε) : Prop where
  observe : ∀ o s n (r : Registry ε) limbo, r.table.Wf →
    Edits tagging (r.books limbo) ((env.observe o s n r).2.books limbo)
  schedule : ∀ key ms (r : Registry ε) limbo, r.table.Wf →
    Edits tagging (r.books limbo) ((env.schedule key ms r).2.books limbo)
  cancel : ∀ handle (r : Registry ε) limbo, r.table.Wf →
    Edits tagging (r.books limbo) ((env.cancel handle r).2.books limbo)
  store : ∀ c (r : Registry ε) limbo, r.table.Wf →
    Edits tagging (r.books limbo) ((env.store c r).2.books limbo)

namespace Registry

variable {env : Environment ε} {r : Registry ε}

theorem revise_edit (hwf : r.table.Wf) {key : Key} {d e : Dialog}
    (h : r.table.find? key = some d) (he : d.Revises e) (limbo : List (Key × Link)) :
    Edits tagging (r.books limbo) ({ r with table := r.table.put e }.books limbo) := by
  obtain rfl : d.key = key := hwf.key_of_find? h
  exact .single (.revise h he r.profiles limbo)

theorem countAnomaly_edit (r : Registry ε) (limbo : List (Key × Link)) :
    Edits tagging (r.books limbo) ({ r with table := r.table.countAnomaly }.books limbo) :=
  .single (.count r.table (fun c => { c with refAnomalies := c.refAnomalies + 1 }) r.profiles limbo)

/-! ### Telling observers -/

theorem tell_edits (henv : env.Orderly tagging) (s : Snapshot) (told : Notice × Registry ε)
    (hwf : told.2.table.Wf) (o : Observer) (limbo : List (Key × Link)) :
    Edits tagging (told.2.books limbo) ((tell env s told o).2.books limbo) := by
  obtain ⟨n, r⟩ := told
  unfold tell
  dsimp only
  split
  · split <;> exact .refl
  · exact henv.observe o s n (r.record (.observed o s n)) limbo hwf

theorem notify_edits (henv : env.Orderly tagging) (hwf : r.table.Wf) (own : List Observer)
    (s : Snapshot) (n : Notice) (limbo : List (Key × Link)) :
    Edits tagging (r.books limbo) ((r.notify env own s n).2.books limbo) := by
  unfold notify
  generalize (r.observers ++ own).filter (·.wants [n.topic]) = observers
  induction observers generalizing n r with
  | nil => exact .refl
  | cons o observers ih =>
    have htell := tell_edits henv s (n, r) hwf o limbo
    exact htell.trans (ih (htell.wf hwf) _)

/-! ### The end of a dialog -/

theorem cancelTimer_edits (henv : env.Orderly tagging) (hwf : r.table.Wf) (d : Dialog)
    (limbo : List (Key × Link)) :
    Edits tagging (r.books limbo) ((r.cancelTimer env d).books limbo) := by
  unfold cancelTimer
  split
  next handle _ _ => exact henv.cancel handle (r.record (.cancelled handle)) limbo hwf
  next => exact .refl

/-- Tearing a dialog down takes its memberships out of limbo. -/
theorem destroy_edits (henv : env.Orderly tagging) (hwf : r.table.Wf) (d : Dialog)
    (limbo : List (Key × Link)) :
    Edits tagging (r.books (d.held ++ limbo)) ((r.destroy env d).books limbo) := by
  have hcancel := cancelTimer_edits henv hwf { d with version := d.version + 1 } (d.held ++ limbo)
  have hwf' := hcancel.wf hwf
  refine hcancel.trans ?_
  unfold destroy
  dsimp only
  generalize r.cancelTimer env _ = r' at hwf' ⊢
  have hpurge : ∀ r' : Registry ε, Edits tagging (r'.books (d.held ++ limbo))
      ({ r' with
        profiles := r'.profiles.removeMembers d.links
        table := r'.table.countDestroyed }.books limbo) := fun r' =>
    .tail (.single (.purge r'.table r'.profiles d.key d.links limbo))
      (.count r'.table (fun c => { c with destroyed := c.destroyed + 1 }) _ limbo)
  split
  · exact (notify_edits henv hwf' d.observers _ .destroyed (d.held ++ limbo)).trans (hpurge _)
  · exact hpurge r'

theorem release_edits (henv : env.Orderly tagging) (hwf : r.table.Wf) (key : Key) (count : Nat)
    (limbo : List (Key × Link)) :
    Edits tagging (r.books limbo) ((r.release env key count).books limbo) := by
  unfold release
  rcases Nat.eq_zero_or_pos count with rfl | hpos
  · exact .refl
  cases hfind : r.table.find? key with
  | none =>
    rw [Table.release_of_unlinked hfind hpos]
    exact countAnomaly_edit r limbo
  | some d =>
    obtain rfl : d.key = key := hwf.key_of_find? hfind
    rcases Nat.lt_or_ge count d.refs with hlt | hle
    · rw [Table.release_of_lt hfind hlt, if_neg (Nat.ne_of_gt hpos)]
      have hrevise : d.Revises { d with refs := d.refs - count } := ⟨rfl, rfl, rfl, rfl⟩
      exact revise_edit hwf hfind hrevise limbo
    · rw [Table.release_of_le hfind hpos hle]
      have hanomaly : Edits tagging (r.books limbo)
          ({ r with table := if d.refs < count then r.table.countAnomaly
                             else r.table }.books limbo) := by
        split
        · exact countAnomaly_edit r limbo
        · exact .refl
      have hfind' : (if d.refs < count then r.table.countAnomaly else r.table).find? d.key
          = some d := by
        split <;> exact hfind
      have hunlink := hanomaly.tail (.unlink hfind' r.profiles limbo)
      have hdestroy := destroy_edits henv (r := { r with table := _ }) (Edits.wf hunlink hwf)
        { d with refs := 0 } limbo
      exact hunlink.trans hdestroy

/-! ### New dialogs and lookups -/

/-- A new dialog is linked without memberships before any observer hears of it. -/
theorem insert_edits (henv : env.Orderly tagging) (hwf : r.table.Wf) (identity : Identity)
    (holders : Nat) (limbo : List (Key × Link)) :
    (r.insert env identity holders).2 = r ∨
    ∃ d t, r.table.Links d t ∧ d.links = [] ∧
      Edits tagging ({ r with table := t }.books limbo)
        ((r.insert env identity holders).2.books limbo) := by
  unfold insert
  cases hinsert : r.table.insert identity holders r.clock with
  | error e => exact .inl rfl
  | ok linked =>
    obtain ⟨d, t⟩ := linked
    obtain ⟨hlinks, hd⟩ := Table.insert_links hinsert
    refine .inr ⟨d, t, hlinks, by rw [hd]; rfl, ?_⟩
    dsimp only
    split
    · exact notify_edits henv (hlinks.wf hwf) [] _ .created limbo
    · exact .refl

theorem restore_edits (r : Registry ε) (s : Snapshot) :
    (r.restore s).2 = r ∨
    ∃ d t, r.table.Links d t ∧ d.links = [] ∧ (r.restore s).2 = { r with table := t } := by
  unfold restore
  cases hrestore : r.table.restore s with
  | error e => exact .inl rfl
  | ok linked =>
    obtain ⟨d, t⟩ := linked
    obtain ⟨hlinks, hd⟩ := Table.restore_links hrestore
    exact .inr ⟨d, t, hlinks, by rw [hd]; rfl, rfl⟩

theorem retain_edits (hwf : r.table.Wf) {d : Dialog} (h : r.table.find? d.key = some d)
    (limbo : List (Key × Link)) : Edits tagging (r.books limbo) ((r.retain d).books limbo) :=
  revise_edit hwf h d.revises_retain limbo

theorem lookup_edits (hwf : r.table.Wf) (key : Key) (limbo : List (Key × Link)) :
    Edits tagging (r.books limbo) ((r.lookup key).2.books limbo) := by
  unfold lookup
  split
  next d hd => exact revise_edit hwf (Table.of_lookup hd).1 d.revises_retain limbo
  next => exact .refl

theorem lookupIdentity_edits (hwf : r.table.Wf) (callId fromTag toTag : String)
    (limbo : List (Key × Link)) :
    Edits tagging (r.books limbo) ((r.lookupIdentity callId fromTag toTag).2.books limbo) := by
  unfold lookupIdentity
  split
  next d way hd => exact retain_edits hwf (hwf.of_lookupIdentity hd).1 limbo
  next => exact .refl

theorem lookupDownstream_edits (hwf : r.table.Wf) (callId : String) (fromTag : Option String)
    (limbo : List (Key × Link)) :
    Edits tagging (r.books limbo) ((r.lookupDownstream callId fromTag).2.books limbo) := by
  unfold lookupDownstream
  split
  next d hd => exact retain_edits hwf (hwf.of_lookupDownstream hd).1 limbo
  next => exact .refl

theorem addRefs_edits (hwf : r.table.Wf) (key : Key) (count : Nat) (limbo : List (Key × Link)) :
    Edits tagging (r.books limbo) ((r.addRefs key count).2.books limbo) := by
  unfold addRefs Table.addRefs
  cases hfind : r.table.find? key with
  | none => exact countAnomaly_edit r limbo
  | some d => exact revise_edit hwf hfind (d.revises_addRefs count) limbo

/-! ### Changes -/

theorem applyEvent_edits (hwf : r.table.Wf) (key : Key) (event : Event)
    (limbo : List (Key × Link)) :
    Edits tagging (r.books limbo)
      ({ r with table := (r.table.applyEvent key event).2 }.books limbo) := by
  unfold Table.applyEvent
  cases hfind : r.table.find? key with
  | none => exact .refl
  | some d =>
    dsimp only
    split
    · exact .single (.count r.table
        (fun c => { c with invalidTransitions := c.invalidTransitions + 1 }) r.profiles limbo)
    next move _ => exact revise_edit hwf hfind (d.move_eq move).1 limbo

theorem processEvent_edits (henv : env.Orderly tagging) (hwf : r.table.Wf) (key : Key)
    (event : Event) (limbo : List (Key × Link)) :
    Edits tagging (r.books limbo) ((r.processEvent env key event).2.books limbo) := by
  have happly : Edits tagging (r.books limbo)
      ({ r with table := (r.table.applyEvent key event).2 }.books limbo) :=
    applyEvent_edits hwf key event limbo
  have hwf' := happly.wf hwf
  unfold processEvent
  generalize r.table.applyEvent key event = applied at happly hwf'
  obtain ⟨_ | ⟨change, d⟩, t⟩ := applied
  · exact happly
  · refine happly.trans ?_
    dsimp only at hwf' ⊢
    split
    · have htold := notify_edits henv (r := { r with table := t }) hwf' d.observers d.snapshot
        (.stateChanged change.old change.new event) limbo
      exact htold.trans (release_edits henv (htold.wf hwf') key change.unref limbo)
    · exact release_edits henv (r := { r with table := t }) hwf' key change.unref limbo

theorem setLegInfo_edits (hwf : r.table.Wf) (key : Key) (side : Leg) (info : LegInfo)
    (limbo : List (Key × Link)) :
    Edits tagging (r.books limbo) ((r.setLegInfo key side info).2.books limbo) := by
  unfold setLegInfo Table.setLegInfo
  cases hfind : r.table.find? key with
  | none => exact .refl
  | some d =>
    dsimp only
    cases hset : d.setLegInfo side info with
    | error e => exact .refl
    | ok e => exact revise_edit hwf hfind (Dialog.setLegInfo_eq_ok hset).1 limbo

theorem updateCseq_edits (hwf : r.table.Wf) (key : Key) (side : Leg) (cseq : String)
    (limbo : List (Key × Link)) :
    Edits tagging (r.books limbo) ((r.updateCseq key side cseq).2.books limbo) := by
  unfold updateCseq Table.updateCseq
  cases hfind : r.table.find? key with
  | none => exact .refl
  | some d => exact revise_edit hwf hfind (d.revises_updateCseq side cseq) limbo

theorem observeDialog_edits (hwf : r.table.Wf) (key : Key) (name : String) (topics : List Topic)
    (limbo : List (Key × Link)) :
    Edits tagging (r.books limbo)
      (((r.observeDialog key name topics).toOption.getD r).books limbo) := by
  unfold observeDialog Table.addObserver
  cases hfind : r.table.find? key with
  | none => exact .refl
  | some d =>
    have hrevise : d.Revises
        { d with observers := d.observers ++ [{ serial := r.nextSerial, name, topics }] } :=
      ⟨rfl, rfl, rfl, rfl⟩
    exact revise_edit hwf hfind hrevise limbo

/-! ### Timers -/

theorem swapTimer_eq_some {t t' : Table} {key : Key} {expected : TimerSlot}
    {next : Option TimerSlot} (h : swapTimer t key expected next = some t') :
    ∃ d, t.find? key = some d ∧ d.timer = some expected ∧ t' = t.put { d with timer := next } := by
  unfold swapTimer at h
  split at h
  next d hfind =>
    split at h
    next htimer =>
      cases h
      exact ⟨d, hfind, htimer, rfl⟩
    · cases h
  · cases h

theorem swapTimer_edits (hwf : r.table.Wf) {t : Table} {key : Key} {expected : TimerSlot}
    {next : Option TimerSlot} (h : swapTimer r.table key expected next = some t)
    (limbo : List (Key × Link)) :
    Edits tagging (r.books limbo) ({ r with table := t }.books limbo) := by
  obtain ⟨d, hfind, -, rfl⟩ := swapTimer_eq_some h
  have hrevise : d.Revises { d with timer := next } := ⟨rfl, rfl, rfl, rfl⟩
  exact revise_edit hwf hfind hrevise limbo

theorem settleTimer_edits (henv : env.Orderly tagging) (hwf : r.table.Wf) (key : Key)
    (answer : Except String Handle) (limbo : List (Key × Link)) :
    Edits tagging (r.books limbo) ((r.settleTimer env key answer).2.books limbo) := by
  unfold settleTimer
  cases answer with
  | ok handle =>
    dsimp only
    split
    next t hswap => exact swapTimer_edits hwf hswap limbo
    next => exact .refl
  | error reason =>
    dsimp only
    split
    next t hswap =>
      have hedits : Edits tagging (r.books limbo) ({ r with table := t }.books limbo) :=
        swapTimer_edits hwf hswap limbo
      exact hedits.trans (release_edits henv (hedits.wf hwf) key 1 limbo)
    next => exact countAnomaly_edit r limbo

theorem startTimer_edits (henv : env.Orderly tagging) (hwf : r.table.Wf) (key : Key)
    (milliseconds : Option Nat) (limbo : List (Key × Link)) :
    Edits tagging (r.books limbo) ((r.startTimer env key milliseconds).2.books limbo) := by
  unfold startTimer
  split
  · exact .refl
  cases hfind : r.table.find? key with
  | none => exact .refl
  | some d =>
    dsimp only
    cases hprepare : prepareTimer d milliseconds with
    | error e => exact .refl
    | ok e =>
      have hmark : Edits tagging (r.books limbo)
          ({ r with table := r.table.put e }.books limbo) :=
        revise_edit hwf hfind (Dialog.prepareTimer_eq_ok hprepare).1 limbo
      have hask := henv.schedule key (milliseconds.getD (e.timeout.toNat * 1000))
        ({ r with table := r.table.put e }.record
          (.scheduled key (milliseconds.getD (e.timeout.toNat * 1000)))) limbo (hmark.wf hwf)
      have hasked := hmark.trans hask
      exact hasked.trans (settleTimer_edits henv (Edits.wf hasked hwf) key _ limbo)

theorem stopTimer_edits (henv : env.Orderly tagging) (hwf : r.table.Wf) (key : Key)
    (limbo : List (Key × Link)) :
    Edits tagging (r.books limbo) ((r.stopTimer env key).2.books limbo) := by
  unfold stopTimer
  split
  next handle _ _ =>
    have hask := henv.cancel handle (r.record (.cancelled handle)) limbo hwf
    refine Relation.ReflTransGen.trans hask ?_
    have hwf' := hask.wf hwf
    generalize env.cancel handle (r.record (.cancelled handle)) = asked at hwf' ⊢
    obtain ⟨answer, r'⟩ := asked
    dsimp only at hwf' ⊢
    split
    · split
      next t hswap =>
        have hedits : Edits tagging (r'.books limbo) ({ r' with table := t }.books limbo) :=
          swapTimer_edits hwf' hswap limbo
        exact hedits.trans (release_edits henv (hedits.wf hwf') key 1 limbo)
      next => exact countAnomaly_edit r' limbo
    · exact .refl
  next => exact .refl

theorem expire_edits (henv : env.Orderly tagging) (hwf : r.table.Wf) (key : Key)
    (limbo : List (Key × Link)) :
    Edits tagging (r.books limbo) ((r.expire env key).books limbo) := by
  unfold expire
  cases hfind : r.table.find? key with
  | none => exact countAnomaly_edit r limbo
  | some d =>
    dsimp only
    split
    · have hrevise : d.Revises { d with timer := none } := ⟨rfl, rfl, rfl, rfl⟩
      have hedits : Edits tagging (r.books limbo)
          ({ r with table := r.table.put { d with timer := none } }.books limbo) :=
        revise_edit hwf hfind hrevise limbo
      exact hedits.trans (release_edits henv (hedits.wf hwf) key 1 limbo)
    · exact countAnomaly_edit r limbo

/-! ### Views -/

theorem withContexts_edits (henv : env.Orderly tagging) (hwf : r.table.Wf) (ds : List Dialog)
    (limbo : List (Key × Link)) :
    Edits tagging (r.books limbo) ((withContexts env ds r).2.books limbo) := by
  induction ds generalizing r with
  | nil => exact .refl
  | cons d ds ih =>
    have hask := notify_edits henv hwf d.observers d.snapshot (.introspect []) limbo
    exact hask.trans (ih (hask.wf hwf))

theorem snapshot_edits (henv : env.Orderly tagging) (hwf : r.table.Wf) (key : Key)
    (context : Bool) (limbo : List (Key × Link)) :
    Edits tagging (r.books limbo) ((r.snapshot env key context).2.books limbo) := by
  unfold snapshot
  split
  · exact .refl
  · exact .refl
  next d _ => exact notify_edits henv hwf d.observers d.snapshot (.introspect []) limbo

theorem snapshotAll_edits (henv : env.Orderly tagging) (hwf : r.table.Wf) (context : Bool)
    (limbo : List (Key × Link)) :
    Edits tagging (r.books limbo) ((r.snapshotAll env context).2.books limbo) := by
  unfold snapshotAll
  split
  · exact withContexts_edits henv hwf _ limbo
  · exact .refl

theorem takeDirty_edits (hwf : r.table.Wf) (limbo : List (Key × Link)) :
    Edits tagging (r.books limbo) (r.takeDirty.2.books limbo) := by
  have hclean : ∀ {t : Table} {d : Dialog}, t.Wf → t.find? d.key = some d → d.isDirty = true →
      Edits tagging ⟨t, r.profiles, limbo⟩ ⟨t.put d.clean, r.profiles, limbo⟩ :=
    fun _ hfind _ => .single (.revise hfind (Dialog.revises_clean _) r.profiles limbo)
  exact hwf.of_takeDirty
    (P := fun t t' => Edits tagging ⟨t, r.profiles, limbo⟩ ⟨t', r.profiles, limbo⟩)
    (fun _ => .refl) (fun h h' => h.trans h') hclean

/-! ### Memberships -/

theorem attach_edits (hwf : r.table.Wf) (key : Key) (profile : String) (value : Option String)
    (limbo : List (Key × Link)) :
    Edits true (r.books limbo) ((r.attach key profile value).2.books limbo) := by
  unfold attach
  cases hget : r.profiles.get profile with
  | error e => exact .refl
  | ok p =>
    dsimp only
    cases hlink : p.newLink key value with
    | error e => exact .refl
    | ok linked =>
      obtain ⟨l, numbered⟩ := linked
      unfold Table.pushLink
      cases hfind : r.table.find? key with
      | none => exact .single (.takeBack hget hlink r.table limbo)
      | some d =>
        obtain rfl : d.key = key := hwf.key_of_find? hfind
        exact .single (.attach hfind hget hlink limbo)

theorem detach_edits (hwf : r.table.Wf) (key : Key) (profile : String) (value : Option String)
    (limbo : List (Key × Link)) :
    Edits true (r.books limbo) ((r.detach key profile value).2.books limbo) := by
  unfold detach
  split
  · exact .refl
  · split
    next l t htake =>
      obtain ⟨d, hfind, hl, rfl⟩ := Table.takeLink_eq_some htake
      obtain rfl : d.key = key := hwf.key_of_find? hfind
      exact .single (.detach hfind hl r.profiles limbo)
    next => exact .refl

/-! ## Edits by runs -/

/-- An operation in orderly surroundings is a chain of edits. -/
theorem perform_edits (henv : env.Orderly tagging) (hwf : r.table.Wf) (op : Operation)
    (hop : tagging = true ∨ op.isTagging = false) (limbo : List (Key × Link)) :
    Edits tagging (r.books limbo) ((r.perform env op).books limbo) := by
  cases op with
  | insert identity holders =>
    obtain rfl : tagging = true := by simpa [Operation.isTagging] using hop
    rw [perform]
    rcases insert_edits henv hwf identity holders limbo with hsame | ⟨d, t, hlinks, hd, hedits⟩
    · rw [hsame]
    · exact .head (.link hlinks hd r.profiles limbo) hedits
  | restore s =>
    obtain rfl : tagging = true := by simpa [Operation.isTagging] using hop
    rw [perform]
    rcases restore_edits r s with hsame | ⟨d, t, hlinks, hd, hrestored⟩
    · rw [hsame]
    · rw [hrestored]
      exact .single (.link hlinks hd r.profiles limbo)
  | lookup key => exact lookup_edits hwf key limbo
  | lookupIdentity callId fromTag toTag =>
    exact lookupIdentity_edits hwf callId fromTag toTag limbo
  | lookupDownstream callId fromTag => exact lookupDownstream_edits hwf callId fromTag limbo
  | addRefs key count => exact addRefs_edits hwf key count limbo
  | release key count => exact release_edits henv hwf key count limbo
  | nextPhase key event => exact applyEvent_edits hwf key event limbo
  | processEvent key event => exact processEvent_edits henv hwf key event limbo
  | setLegInfo key side info => exact setLegInfo_edits hwf key side info limbo
  | updateCseq key side cseq => exact updateCseq_edits hwf key side cseq limbo
  | startTimer key milliseconds => exact startTimer_edits henv hwf key milliseconds limbo
  | stopTimer key => exact stopTimer_edits henv hwf key limbo
  | expire key => exact expire_edits henv hwf key limbo
  | snapshot key context => exact snapshot_edits henv hwf key context limbo
  | snapshotAll context => exact snapshotAll_edits henv hwf context limbo
  | takeDirty => exact takeDirty_edits hwf limbo
  | observeDialog key name topics => exact observeDialog_edits hwf key name topics limbo
  | attach key profile value =>
    obtain rfl : tagging = true := by simpa [Operation.isTagging] using hop
    exact attach_edits hwf key profile value limbo
  | detach key profile value =>
    obtain rfl : tagging = true := by simpa [Operation.isTagging] using hop
    exact detach_edits hwf key profile value limbo

theorem Acts.edits {P : Environment ε → Operation → Prop}
    (hP : ∀ env op, P env op →
      env.Orderly tagging ∧ (tagging = true ∨ op.isTagging = false))
    {r r' : Registry ε} (h : Acts P r r') (hwf : r.table.Wf) (limbo : List (Key × Link)) :
    Edits tagging (r.books limbo) (r'.books limbo) := by
  induction h with
  | aside htable hprofiles =>
    unfold books
    rw [htable, hprofiles]
  | step hop r =>
    obtain ⟨henv, hop⟩ := hP _ _ hop
    exact perform_edits henv hwf _ hop limbo
  | trans _ _ ih ih' =>
    have hfirst := ih hwf
    exact hfirst.trans (ih' (hfirst.wf hwf))

end Registry

theorem Environment.Within.orderly {P : Environment ε → Operation → Prop}
    (hP : ∀ env op, P env op →
      env.Orderly tagging ∧ (tagging = true ∨ op.isTagging = false))
    {env : Environment ε} (h : env.Within P) : env.Orderly tagging where
  observe o s n r limbo hwf := (h.observe o s n r).edits hP hwf limbo
  schedule key ms r limbo hwf := (h.schedule key ms r).edits hP hwf limbo
  cancel handle r limbo hwf := (h.cancel handle r).edits hP hwf limbo
  store c r limbo hwf := (h.store c r).edits hP hwf limbo

/-- However deep surroundings call back, they do it by edits. -/
theorem Environment.CallsBack.orderly {Q : Operation → Prop}
    (hQ : ∀ op, Q op → tagging = true ∨ op.isTagging = false) {depth : Nat}
    {env : Environment ε} (h : env.CallsBack Q depth) : env.Orderly tagging := by
  induction depth generalizing env with
  | zero => exact Within.orderly (fun _ _ hfalse => hfalse.elim) h
  | succ depth ih => exact Within.orderly (fun _ op hinner => ⟨ih hinner.2, hQ op hinner.1⟩) h

theorem Environment.Lawful.orderly {depth : Nat} {env : Environment ε} (h : env.Lawful depth) :
    env.Orderly true := CallsBack.orderly (fun _ _ => .inl rfl) h

theorem Environment.Discreet.orderly {depth : Nat} {env : Environment ε}
    (h : env.Discreet depth) : env.Orderly false := CallsBack.orderly (fun _ => .inr) h

namespace Registry

theorem create_eq_ok {config : Config} {clock : Timestamp} {hasTimer : Bool} {e : ε}
    {r : Registry ε} (h : create config clock hasTimer e = .ok r) :
    Table.create config.hashSize config.defaultTimeout = .ok r.table ∧
      Directory.ofDefinitions config.profilesWithValue config.profilesNoValue
        config.profileHashSize = .ok r.profiles ∧ r.observers = [] ∧ r.mailboxes = #[] := by
  unfold create at h
  cases hvalid : config.validate with
  | error f => simp [hvalid, bind, Except.bind] at h
  | ok _ =>
    cases htable : Table.create config.hashSize config.defaultTimeout with
    | error f => simp [hvalid, htable, bind, Except.bind] at h
    | ok t =>
      cases hprofiles : Directory.ofDefinitions config.profilesWithValue config.profilesNoValue
          config.profileHashSize with
      | error f => simp [hvalid, htable, hprofiles, bind, Except.bind] at h
      | ok ps =>
        simp only [hvalid, htable, hprofiles, bind, Except.bind] at h
        cases h
        exact ⟨rfl, rfl, rfl, rfl⟩

/-- A reachable registry is edited from an empty one. -/
theorem Reachable.edits {r : Registry ε} (h : r.Reachable) :
    ∃ r₀ : Registry ε, (∃ config clock hasTimer e, create config clock hasTimer e = .ok r₀) ∧
      r₀.table.Wf ∧ Edits true (r₀.books []) (r.books []) := by
  obtain ⟨config, clock, hasTimer, e, r₀, hcreate, hacts⟩ := h
  have hwf : r₀.table.Wf := Table.wf_create (create_eq_ok hcreate).1
  exact ⟨r₀, ⟨config, clock, hasTimer, e, hcreate⟩, hwf,
    hacts.edits (fun _ _ ⟨_, henv⟩ => ⟨henv.orderly, .inl rfl⟩) hwf []⟩

theorem Reachable.wf {r : Registry ε} (h : r.Reachable) : r.table.Wf := by
  obtain ⟨r₀, -, hwf, hedits⟩ := h.edits
  exact hedits.wf hwf

end Registry

end SipDialogs
