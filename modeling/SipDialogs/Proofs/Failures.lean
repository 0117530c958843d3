-- SUMMARY: An operation that fails leaves everything as it was, but for a counter.
import SipDialogs.Proofs.Commuting
import SipDialogs.Proofs.Numbers
import SipDialogs.Proofs.Tagging

/-! # Failures

An operation may fail at several points, and at some of them a part of the work has been done: a
dialog that is gone is missed only when the profile's half of its membership is there, and a timer
that has gone off only when the service has been asked. Nothing of that is left behind. What is
missing or invalid is counted at most. -/

namespace SipDialogs

/-! ## What is filed -/

/-- A profile with all of its members, but without the number of the next membership. -/
def Profile.filing (p : Profile) : Profile := { p with nextLink := 0 }

/-- The profiles with all of their members. -/
def Directory.filings (ps : Directory) : List Profile := ps.profiles.map (·.filing)

namespace Profile

variable {p numbered : Profile} {held : Multiset (Key × Link)}

theorem Keeps.link_lt (h : p.Keeps held) {m : Member} (hm : m ∈ p.members) :
    m.link < p.nextLink := by
  have hmember : m ∈ (p.members : Multiset Member) := hm
  rw [h.members] at hmember
  obtain ⟨x, hx, rfl⟩ := Multiset.mem_map.1 hmember
  exact (h.made x hx).id

/-- A member is removed from its bucket right after it was added, and no other has its number. -/
theorem removeMember_addMember {l : Link} (hfresh : ∀ m ∈ p.members, m.link ≠ l.id) (key : Key) :
    (p.addMember l key).removeMember l = p := by
  have hbucket : ∀ b : List Member, b ∈ p.buckets →
      (b ++ [(⟨l.id, key, l.value⟩ : Member)]).eraseP (fun m => m.link == l.id) = b := by
    intro b hb
    have hnone : ∀ m ∈ b, ¬(m.link == l.id) = true := by
      intro m hm heq
      have hmem : m ∈ p.members := List.mem_flatten.2 ⟨b, Array.mem_toList_iff.2 hb, hm⟩
      exact hfresh m hmem (beq_iff_eq.1 heq)
    rw [List.eraseP_append_right _ hnone, List.eraseP_cons_of_pos (by simp), List.append_nil]
  have hbuckets : ((p.addMember l key).removeMember l).buckets = p.buckets :=
    calc ((p.addMember l key).removeMember l).buckets
      _ = p.buckets.modify l.bucket.toNat id :=
        Array.modify_modify fun b hb => hbucket b (Array.mem_of_getElem? hb)
      _ = p.buckets := Array.modify_eq_self fun _ _ => rfl
  exact congrArg (fun buckets => { p with buckets }) hbuckets

/-- A membership that is taken back has left nothing but its number. -/
theorem Keeps.filing_takeBack (h : p.Keeps held) {key : Key} {value : Option String} {l : Link}
    (hlink : p.newLink key value = .ok (l, numbered)) :
    ((numbered.addMember l key).removeMember l).filing = p.filing := by
  obtain ⟨-, hl, hnumbered⟩ := newLink_eq_ok hlink
  have hfresh : ∀ m ∈ numbered.members, m.link ≠ l.id := by
    rw [hnumbered, hl]
    exact fun m hm => Nat.ne_of_lt (h.link_lt hm)
  rw [removeMember_addMember hfresh, hnumbered]
  rfl

end Profile

/-- A profile that is put in the place of one with the same members changes nothing
that is filed. -/
theorem Directory.filings_put {ps : Directory} (hdistinct : ps.names.Nodup) {p p' : Profile}
    (hp : p ∈ ps.profiles) (hsame : p'.filing = p.filing) : (ps.put p').filings = ps.filings := by
  have hname : p'.name = p.name := (Profile.mk.inj hsame).1
  unfold filings put
  rw [List.map_map]
  refine List.map_congr_left fun q hq => ?_
  rw [Function.comp_apply]
  split
  next heq =>
    have hsamename : q.name = p.name := (beq_iff_eq.1 heq).trans hname
    obtain rfl : q = p := List.inj_on_of_nodup_map hdistinct hq hp hsamename
    exact hsame
  next => rfl

/-! ## Untouched registries -/

/-- One more event was invalid. -/
def Counters.invalid (c : Counters) : Counters :=
  { c with invalidTransitions := c.invalidTransitions + 1 }

/-- One more dialog was missed. -/
def Counters.anomaly (c : Counters) : Counters := { c with refAnomalies := c.refAnomalies + 1 }

namespace Registry

variable {r r' r'' : Registry ε} {f : Counters → Counters}

/-- Nothing has happened to a registry but that the counters have moved by `f`: the dialogs and
the numbers of their buckets, the members of the profiles in their order, the observers and the
mail are as they were, and nobody was told of anything. -/
structure Untouched (f : Counters → Counters) (r r' : Registry ε) : Prop where
  table : r'.table = r.table.count f
  filings : r'.profiles.filings = r.profiles.filings
  observers : r'.observers = r.observers
  nextSerial : r'.nextSerial = r.nextSerial
  mailboxes : r'.mailboxes = r.mailboxes
  untold : ∃ calls, r'.journal = r.journal ++ calls ∧ ∀ o s n, Call.observed o s n ∉ calls

theorem Idle.untouched (h : r.Idle r') : Untouched id r r' :=
  ⟨h.table, congrArg Directory.filings h.profiles, h.observers, h.nextSerial, h.mailboxes,
    h.journal⟩

theorem untouched_refl (r : Registry ε) : Untouched id r r := (Idle.refl r).untouched

/-- The counters of a registry move and nothing else does. -/
theorem untouched_count (r : Registry ε) (f : Counters → Counters) :
    Untouched f r { r with table := r.table.count f } :=
  ⟨rfl, rfl, rfl, rfl, rfl, [], (List.append_nil _).symm, fun _ _ _ h => by cases h⟩

/-! ## Operations that fail -/

/-- Operations fail if they say so, if they find nothing, or if an event is invalid in the phase
of its dialog. Then the counters move like this. -/
inductive Fails (env : Environment ε) (r : Registry ε) :
    Operation → (Counters → Counters) → Prop where
  | insert {identity : Identity} {holders : Nat} {e : Fault}
      (h : (r.insert env identity holders).1 = .error e) : Fails env r (.insert identity holders) id
  | restore {s : Snapshot} {e : Fault} (h : (r.restore s).1 = .error e) :
      Fails env r (.restore s) id
  | lookup {key : Key} (h : (r.lookup key).1 = none) : Fails env r (.lookup key) id
  | lookupIdentity {callId fromTag toTag : String}
      (h : (r.lookupIdentity callId fromTag toTag).1 = none) :
      Fails env r (.lookupIdentity callId fromTag toTag) id
  | lookupDownstream {callId : String} {fromTag : Option String}
      (h : (r.lookupDownstream callId fromTag).1 = none) :
      Fails env r (.lookupDownstream callId fromTag) id
  | addRefs {key : Key} {count : Nat} (h : (r.addRefs key count).1 = false) :
      Fails env r (.addRefs key count) Counters.anomaly
  | release {key : Key} {count : Nat} (h : r.table.find? key = none) (hpos : 0 < count) :
      Fails env r (.release key count) Counters.anomaly
  /-- Who gives back nothing is not missed. -/
  | releaseNothing {key : Key} (h : r.table.find? key = none) : Fails env r (.release key 0) id
  | nextPhase {key : Key} {event : Event} (h : (r.nextPhase key event).1 = none) :
      Fails env r (.nextPhase key event) id
  | nextPhaseInvalid {key : Key} {event : Event} {d : Dialog} (h : r.table.find? key = some d)
      (hinvalid : d.phase.next? d.flags event = none) :
      Fails env r (.nextPhase key event) Counters.invalid
  | processEvent {key : Key} {event : Event} (h : (r.processEvent env key event).1 = none) :
      Fails env r (.processEvent key event) id
  | processEventInvalid {key : Key} {event : Event} {d : Dialog} (h : r.table.find? key = some d)
      (hinvalid : d.phase.next? d.flags event = none) :
      Fails env r (.processEvent key event) Counters.invalid
  | setLegInfo {key : Key} {side : Leg} {info : LegInfo} {e : Fault}
      (h : (r.setLegInfo key side info).1 = .error e) : Fails env r (.setLegInfo key side info) id
  | updateCseq {key : Key} {side : Leg} {cseq : String} {e : Fault}
      (h : (r.updateCseq key side cseq).1 = .error e) : Fails env r (.updateCseq key side cseq) id
  | stopTimer {key : Key} (h : (r.stopTimer env key).1 = false) : Fails env r (.stopTimer key) id
  | expire {key : Key} (h : r.table.find? key = none) : Fails env r (.expire key) Counters.anomaly
  | expireUntimed {key : Key} {d : Dialog} (h : r.table.find? key = some d)
      (htimer : d.timer = none) : Fails env r (.expire key) Counters.anomaly
  | observeDialog {key : Key} {name : String} {topics : List Topic} {e : Fault}
      (h : r.observeDialog key name topics = .error e) :
      Fails env r (.observeDialog key name topics) id
  | attach {key : Key} {profile : String} {value : Option String} {e : Fault}
      (h : (r.attach key profile value).1 = .error e) : Fails env r (.attach key profile value) id
  | detach {key : Key} {profile : String} {value : Option String} {e : Fault}
      (h : (r.detach key profile value).1 = .error e) : Fails env r (.detach key profile value) id
  | detachNone {key : Key} {profile : String} {value : Option String}
      (h : (r.detach key profile value).1 = .ok false) : Fails env r (.detach key profile value) id

variable {env : Environment ε}

/-- When a dialog is gone, its profile has the members it had before, in the same order. -/
theorem Reachable.attach_untouched (h : r.Reachable) (key : Key) (profile : String)
    (value : Option String) {e : Fault} :
    (r.attach key profile value).1 = .error e → Untouched id r (r.attach key profile value).2 := by
  have hfiles := h.files
  unfold attach
  split
  · exact fun _ => untouched_refl r
  next p hget =>
    split
    · exact fun _ => untouched_refl r
    next l numbered hlink =>
      split
      · nofun
      · have hmem := (Directory.get_eq_ok hget).2.1
        have hsame := (hfiles.keeps p hmem).filing_takeBack hlink
        intro _
        exact { untouched_refl r with filings := Directory.filings_put hfiles.distinct hmem hsame }

/-- While the timer service does not call back, a timer that it does not stop leaves no trace. -/
theorem stopTimer_untouched (hcancel : ∀ handle (r : Registry ε), r.Idle (env.cancel handle r).2)
    (key : Key) :
    (r.stopTimer env key).1 = false → Untouched id r (r.stopTimer env key).2 := by
  unfold stopTimer
  split
  next handle _ htimer =>
    have hasked : r.Idle (env.cancel handle (r.record (.cancelled handle))).2 :=
      (Idle.record r fun _ _ _ => by simp).trans (hcancel handle _)
    obtain ⟨d, hfind, hslot⟩ := Option.bind_eq_some_iff.1 htimer
    have hswap : swapTimer r.table key (.armed handle) none
        = some (r.table.put { d with timer := none }) := by
      rw [swapTimer, hfind]
      exact if_pos hslot
    generalize env.cancel handle (r.record (.cancelled handle)) = asked at hasked ⊢
    obtain ⟨answer, r'⟩ := asked
    dsimp only at hasked ⊢
    split
    · -- the slot is as it was before the service was asked, so the timer is stopped
      rw [hasked.table, hswap]
      nofun
    · exact fun _ => hasked.untouched
  next => exact fun _ => untouched_refl r

/-! Operations that say at once that they fail do nothing else. -/

theorem restore_eq_error {s : Snapshot} {e : Fault} :
    (r.restore s).1 = .error e → r.restore s = (.error e, r) := by
  unfold restore
  split
  · rintro ⟨⟩
    rfl
  · nofun

theorem lookup_eq_none {key : Key} : (r.lookup key).1 = none → r.lookup key = (none, r) := by
  unfold lookup
  split
  · nofun
  · exact fun _ => rfl

theorem lookupIdentity_eq_none {callId fromTag toTag : String} :
    (r.lookupIdentity callId fromTag toTag).1 = none →
      r.lookupIdentity callId fromTag toTag = (none, r) := by
  unfold lookupIdentity
  split
  · nofun
  · exact fun _ => rfl

theorem lookupDownstream_eq_none {callId : String} {fromTag : Option String} :
    (r.lookupDownstream callId fromTag).1 = none →
      r.lookupDownstream callId fromTag = (none, r) := by
  unfold lookupDownstream
  split
  · nofun
  · exact fun _ => rfl

theorem addRefs_eq_false {key : Key} {count : Nat} : (r.addRefs key count).1 = false →
    r.addRefs key count = (false, { r with table := r.table.count Counters.anomaly }) := by
  unfold addRefs Table.addRefs
  cases r.table.find? key with
  | some d => nofun
  | none => exact fun _ => rfl

theorem setLegInfo_eq_error {key : Key} {side : Leg} {info : LegInfo} {e : Fault} :
    (r.setLegInfo key side info).1 = .error e → r.setLegInfo key side info = (.error e, r) := by
  unfold setLegInfo
  split
  · rintro ⟨⟩
    rfl
  · nofun

theorem updateCseq_eq_error {key : Key} {side : Leg} {cseq : String} {e : Fault} :
    (r.updateCseq key side cseq).1 = .error e → r.updateCseq key side cseq = (.error e, r) := by
  unfold updateCseq
  split
  · rintro ⟨⟩
    rfl
  · nofun

theorem detach_eq_error {key : Key} {profile : String} {value : Option String} {e : Fault} :
    (r.detach key profile value).1 = .error e → r.detach key profile value = (.error e, r) := by
  unfold detach
  split
  · rintro ⟨⟩
    rfl
  · split <;> nofun

theorem detach_eq_false {key : Key} {profile : String} {value : Option String} :
    (r.detach key profile value).1 = .ok false →
      r.detach key profile value = (.ok false, r) := by
  unfold detach
  split
  · nofun
  · split
    · nofun
    · exact fun _ => rfl

/-! An event that is invalid is counted, and one for a dialog that is not linked is not. -/

theorem nextPhase_eq_none {key : Key} {event : Event} :
    (r.nextPhase key event).1 = none → r.nextPhase key event = (none, r) := by
  unfold nextPhase
  rcases r.table.applyEvent_cases key event with
    ⟨-, happly⟩ | ⟨d, -, ⟨-, happly⟩ | ⟨m, -, happly⟩⟩ <;> rw [happly]
  · exact fun _ => rfl
  · nofun
  · nofun

theorem processEvent_eq_none {key : Key} {event : Event} :
    (r.processEvent env key event).1 = none → r.processEvent env key event = (none, r) := by
  unfold processEvent
  rcases r.table.applyEvent_cases key event with
    ⟨-, happly⟩ | ⟨d, -, ⟨-, happly⟩ | ⟨m, -, happly⟩⟩ <;> rw [happly]
  · exact fun _ => rfl
  · nofun
  · nofun

theorem nextPhase_of_invalid {key : Key} {event : Event} {d : Dialog}
    (hfind : r.table.find? key = some d) (hinvalid : d.phase.next? d.flags event = none) :
    (r.nextPhase key event).2 = { r with table := r.table.count Counters.invalid } := by
  rw [nextPhase, Table.applyEvent, hfind]
  dsimp only
  rw [hinvalid]
  rfl

theorem processEvent_of_invalid {key : Key} {event : Event} {d : Dialog}
    (hfind : r.table.find? key = some d) (hinvalid : d.phase.next? d.flags event = none) :
    (r.processEvent env key event).2 = { r with table := r.table.count Counters.invalid } := by
  rw [processEvent, Table.applyEvent, hfind]
  dsimp only
  rw [hinvalid]
  simp only [PhaseChange.changed, bne_self_eq_false, Bool.false_and, if_neg Bool.false_ne_true]
  rfl

theorem release_of_unlinked {key : Key} {count : Nat} (hfind : r.table.find? key = none)
    (hpos : 0 < count) :
    r.release env key count = { r with table := r.table.count Counters.anomaly } := by
  rw [release, Table.release_of_unlinked hfind hpos]
  rfl

theorem expire_of_unlinked {key : Key} (hfind : r.table.find? key = none) :
    r.expire env key = { r with table := r.table.count Counters.anomaly } := by
  rw [expire, hfind]
  rfl

theorem expire_of_untimed {key : Key} {d : Dialog} (hfind : r.table.find? key = some d)
    (htimer : d.timer = none) :
    r.expire env key = { r with table := r.table.count Counters.anomaly } := by
  rw [expire, hfind]
  dsimp only
  rw [htimer]
  rfl

/-- An operation that fails in a reachable registry leaves it as it was, but for a counter. -/
theorem Reachable.untouched (h : r.Reachable)
    (hcancel : ∀ handle (r : Registry ε), r.Idle (env.cancel handle r).2) {op : Operation}
    (hfails : r.Fails env op f) : Untouched f r (r.perform env op) := by
  have hsame : ∀ {α : Type} {a : α} {outcome : α × Registry ε}, outcome = (a, r) →
      Untouched id r outcome.2 := by
    rintro α a outcome rfl
    exact untouched_refl r
  cases hfails with
  | insert herror => exact hsame (insert_eq_error herror).2
  | restore herror => exact hsame (restore_eq_error herror)
  | lookup hnone => exact hsame (lookup_eq_none hnone)
  | lookupIdentity hnone => exact hsame (lookupIdentity_eq_none hnone)
  | lookupDownstream hnone => exact hsame (lookupDownstream_eq_none hnone)
  | addRefs hfalse =>
    rw [perform, addRefs_eq_false hfalse]
    exact untouched_count r _
  | release hfind hpos =>
    rw [perform, release_of_unlinked hfind hpos]
    exact untouched_count r _
  | releaseNothing => exact untouched_refl r
  | nextPhase hnone => exact hsame (nextPhase_eq_none hnone)
  | nextPhaseInvalid hfind hinvalid =>
    rw [perform, nextPhase_of_invalid hfind hinvalid]
    exact untouched_count r _
  | processEvent hnone => exact hsame (processEvent_eq_none hnone)
  | processEventInvalid hfind hinvalid =>
    rw [perform, processEvent_of_invalid hfind hinvalid]
    exact untouched_count r _
  | setLegInfo herror => exact hsame (setLegInfo_eq_error herror)
  | updateCseq herror => exact hsame (updateCseq_eq_error herror)
  | stopTimer hfalse => exact stopTimer_untouched hcancel _ hfalse
  | expire hfind =>
    rw [perform, expire_of_unlinked hfind]
    exact untouched_count r _
  | expireUntimed hfind htimer =>
    rw [perform, expire_of_untimed hfind htimer]
    exact untouched_count r _
  | observeDialog herror =>
    rw [perform, herror]
    exact untouched_refl r
  | attach herror => exact h.attach_untouched _ _ _ herror
  | detach herror => exact hsame (detach_eq_error herror)
  | detachNone hfalse => exact hsame (detach_eq_false hfalse)

/-! ## Request scopes -/

/-- A tag that is refused leaves the scope and the registry as they were. -/
theorem Reachable.setProfile_untouched (h : r.Reachable) (s : RequestScope) (profile : String)
    (value : Option String) {e : Fault} :
    (s.setProfile profile value r).1 = .error e →
      (s.setProfile profile value r).2.1 = s ∧
        Untouched id r (s.setProfile profile value r).2.2 := by
  have hattach := fun key => h.attach_untouched key profile value (e := e)
  unfold RequestScope.setProfile
  split
  · exact fun _ => ⟨rfl, untouched_refl r⟩
  · split
    · exact fun _ => ⟨rfl, untouched_refl r⟩
    · split
      next key _ => exact fun herror => ⟨rfl, hattach key herror⟩
      next => nofun

/-- A tag that is not removed leaves the registry as it was. -/
theorem unsetProfile_eq_self {s : RequestScope} {profile : String} {value : Option String}
    (h : (∃ e, (s.unsetProfile profile value r).1 = .error e) ∨
      (s.unsetProfile profile value r).1 = .ok false) :
    (s.unsetProfile profile value r).2 = r := by
  cases hcurrent : s.current with
  | none => exact unsetProfile_of_no_current hcurrent profile value
  | some key =>
    rw [unsetProfile_of_current hcurrent] at h ⊢
    rcases h with ⟨e, herror⟩ | hfalse
    · rw [detach_eq_error herror]
    · rw [detach_eq_false hfalse]

/-- Whatever fails in a reachable registry leaves no trace but in the counters, as long as the timer
service does not call back when it is asked to stop a timer. A request scope keeps its dialog and
its pending tags. -/
theorem Reachable.failures_leave_no_trace (h : r.Reachable)
    (hcancel : ∀ handle (r : Registry ε), r.Idle (env.cancel handle r).2) :
    (∀ op f, r.Fails env op f → Untouched f r (r.perform env op)) ∧
      ∀ (s : RequestScope) profile value,
        (∀ e, (s.setProfile profile value r).1 = .error e →
          (s.setProfile profile value r).2.1 = s ∧
            Untouched id r (s.setProfile profile value r).2.2) ∧
        ((∃ e, (s.unsetProfile profile value r).1 = .error e) ∨
            (s.unsetProfile profile value r).1 = .ok false →
          Untouched id r (s.unsetProfile profile value r).2) := by
  refine ⟨fun op f hfails => h.untouched hcancel hfails, fun s profile value => ⟨?_, ?_⟩⟩
  · exact fun e herror => h.setProfile_untouched s profile value herror
  · intro hfails
    rw [unsetProfile_eq_self hfails]
    exact untouched_refl r

/-- The dialog of this key is not there, and a profile that tags it in vain has passed on to the
next number. Its members are those of the dialog that was tagged before. -/
theorem Reachable.failures_leave_no_trace_missed :
    Untouched id tagged (tagged.perform .quiet (.attach ⟨0, 7⟩ "user" (some "bob"))) ∧
      Untouched Counters.anomaly tagged (tagged.perform .quiet (.release ⟨0, 7⟩ 1)) ∧
      (tagged.perform .quiet (.attach ⟨0, 7⟩ "user" (some "bob"))).profiles.profiles.map
        (fun p => (p.nextLink, p.members.map (·.dialog))) = [(4, [⟨0, 0⟩, ⟨0, 0⟩])] := by
  have hcancel : ∀ handle (r : Registry Unit), r.Idle (Environment.quiet.cancel handle r).2 :=
    fun _ r => .refl r
  obtain ⟨huntouched, -⟩ := Reachable.failures_leave_no_trace tagged_reachable hcancel
  have hmissed : (tagged.attach ⟨0, 7⟩ "user" (some "bob")).1
      = .error (.dialogNotFound ⟨0, 7⟩) := by decide +kernel
  have hgone : (tagged.table.find? ⟨0, 7⟩).isNone := by decide +kernel
  exact ⟨huntouched _ _ (.attach hmissed),
    huntouched _ _ (.release (Option.isNone_iff_eq_none.1 hgone) Nat.one_pos), by decide +kernel⟩

end Registry

end SipDialogs
