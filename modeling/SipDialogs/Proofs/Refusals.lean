-- SUMMARY: What is left of an attempt to arm a timer that fails.
import SipDialogs.Proofs.Commuting
import SipDialogs.Proofs.Timers

/-! # Refused timers

Arming a timer can fail before the service is asked, and then nothing has happened yet. If the
service is asked and refuses, the mark is taken off the slot and the reference is given back. An
explicit lifetime is not: it stays in the place of the dialog's own, and the dialog counts as
changed. -/

namespace SipDialogs

/-- A dialog under one key is put in the place of the other. -/
theorem Table.Wf.put_put {t : Table} (h : t.Wf) {d e : Dialog} (hkey : e.key = d.key) :
    (t.put d).put e = t.put e := by
  have hplace : (t.place d.key (some d)).place d.key (some e) = t.place d.key (some e) :=
    h.place_place (fun _ hd => by cases hd; rfl) (fun _ he => by cases he; exact hkey)
  rwa [place_some rfl, place_some hkey, place_some hkey] at hplace

theorem Table.Wf.put_self {t : Table} (h : t.Wf) {key : Key} {d : Dialog}
    (hfind : t.find? key = some d) : t.put d = t := by
  have hplace := h.place_self key
  rwa [hfind, place_some (h.key_of_find? hfind)] at hplace

/-- What is put in the place of a linked dialog is linked. -/
theorem Table.find?_put_same {t : Table} {d e : Dialog} (h : t.find? d.key = some e) :
    (t.put d).find? d.key = some d := by
  rw [find?_put_of_linked h, if_pos rfl]

/-- A dialog that is linked has references, and one more can be counted. -/
def Table.CountsOn (t : Table) (key : Key) : Prop :=
  ∀ d, t.find? key = some d → 0 < d.refs ∧ d.refs < Dialog.maxRefs

namespace Dialog

/-- A dialog with the lifetime that was asked for it, if one was. -/
def lasting (d : Dialog) : Option Nat → Dialog
  | some ms =>
    ({ d with timeout := .ofNat (min (ms / 1000) (UInt32.size - 1)) } : Dialog).touch
  | none => d

/-- A dialog whose timer is being armed, with the timer's reference. -/
def awaiting (d : Dialog) : Dialog := { d.retain with timer := some .arming }

variable {d e : Dialog} {milliseconds : Option Nat} {fault : Fault}

theorem awaiting_timer (d : Dialog) : d.awaiting.timer = some .arming := rfl

theorem lasting_refs (d : Dialog) (milliseconds : Option Nat) :
    (d.lasting milliseconds).refs = d.refs := by
  cases milliseconds <;> rfl

theorem lasting_timer (d : Dialog) (milliseconds : Option Nat) :
    (d.lasting milliseconds).timer = d.timer := by
  cases milliseconds <;> rfl

theorem lasting_key (d : Dialog) (milliseconds : Option Nat) :
    (d.lasting milliseconds).key = d.key := by
  cases milliseconds <;> rfl

/-- Whoever asks for a lifetime leaves a later version behind. -/
theorem snapshot_lasting_iff :
    (d.lasting milliseconds).snapshot = d.snapshot ↔ milliseconds = none := by
  constructor
  · intro h
    cases milliseconds with
    | none => rfl
    | some ms =>
      have hversion : d.version + 1 = d.version := congrArg Snapshot.version h
      omega
  · rintro rfl
    rfl

/-- What is ready for its timer has the lifetime, a reference for the timer and the mark. -/
theorem prepareTimer_eq (h : Registry.prepareTimer d milliseconds = .ok e) :
    d.phase ≠ .deleted ∧ d.timer = none ∧
      e = (d.lasting milliseconds).awaiting := by
  unfold Registry.prepareTimer at h
  split at h
  · cases h
  next hlive =>
    split at h
    · cases h
    next htimer =>
      refine ⟨by rintro hphase; simp [hphase, Phase.isDeleted] at hlive, by simpa using htimer, ?_⟩
      cases milliseconds with
      | none =>
        cases h
        rfl
      | some ms =>
        cases h
        have hsize : (if ms / 1000 < UInt32.size then ms / 1000 else UInt32.size - 1)
            = min (ms / 1000) (UInt32.size - 1) := by
          have hpos : 0 < UInt32.size := by decide
          split <;> omega
        simp only [hsize]
        rfl

theorem prepareTimer_eq_error (h : Registry.prepareTimer d milliseconds = .error fault) :
    d.phase = .deleted ∧ fault = .dialogNotFound d.key ∨
    d.timer.isSome ∧ fault = .timer ("dialog " ++ d.key.render ++ " already has a timer") := by
  unfold Registry.prepareTimer at h
  split at h
  next hdeleted =>
    cases h
    exact .inl ⟨by simpa [Phase.isDeleted] using hdeleted, rfl⟩
  · split at h
    next htimer =>
      cases h
      exact .inr ⟨htimer, rfl⟩
    · cases h

end Dialog

namespace Registry

variable {r r' : Registry ε} {env : Environment ε} {key : Key} {milliseconds : Option Nat}
  {e : Fault}

/-! ## Why a timer is not armed -/

/-- The reasons for which a timer is not armed, and how each of them is reported. -/
inductive Unarmed (env : Environment ε) (r : Registry ε) (key : Key) (milliseconds : Option Nat) :
    Fault → Prop where
  | noService (h : r.hasTimer = false) :
      Unarmed env r key milliseconds (.timer "no timer service configured")
  | unknown (h : r.table.find? key = none) :
      Unarmed env r key milliseconds (.dialogNotFound key)
  | deleted {d : Dialog} (h : r.table.find? key = some d) (hphase : d.phase = .deleted) :
      Unarmed env r key milliseconds (.dialogNotFound key)
  | present {d : Dialog} (h : r.table.find? key = some d) (htimer : d.timer.isSome) :
      Unarmed env r key milliseconds (.timer ("dialog " ++ key.render ++ " already has a timer"))
  | refused {ms : Nat} {s : Registry ε} {reason : String}
      (h : r.arming? key milliseconds = some (ms, s))
      (hanswer : (env.schedule key ms s).1 = .error reason) :
      Unarmed env r key milliseconds (.timer reason)

theorem unarmed_of_error (hwf : r.table.Wf)
    (h : (r.startTimer env key milliseconds).1 = .error e) :
    Unarmed env r key milliseconds e := by
  cases harming : r.arming? key milliseconds with
  | some asked =>
    obtain ⟨ms, s⟩ := asked
    rw [(Ledger.startTimer_of_some env harming).2, settleTimer_answer] at h
    cases hanswer : (env.schedule key ms s).1 with
    | ok handle =>
      rw [hanswer] at h
      cases h
    | error reason =>
      rw [hanswer] at h
      cases h
      exact .refused harming hanswer
  | none =>
    unfold arming? at harming
    unfold startTimer at h
    cases hservice : r.hasTimer with
    | false =>
      rw [hservice] at h
      cases h
      exact .noService hservice
    | true =>
      cases hfind : r.table.find? key with
      | none =>
        simp only [hservice, hfind] at h
        cases h
        exact .unknown hfind
      | some d =>
        cases hprepare : prepareTimer d milliseconds with
        | ok d' => simp [hservice, hfind, hprepare, Except.toOption] at harming
        | error fault =>
          simp only [hservice, hfind, hprepare] at h
          cases h
          have hkey := hwf.key_of_find? hfind
          rcases Dialog.prepareTimer_eq_error hprepare with ⟨hphase, rfl⟩ | ⟨htimer, rfl⟩
          · rw [hkey]
            exact .deleted hfind hphase
          · rw [hkey]
            exact .present hfind htimer

/-! ## What a refusal leaves -/

/-- A mark that is still there is taken off again, and the reference that was taken with it is given
back. It is not the last one. -/
theorem settleTimer_refused (hwf : r.table.Wf) {d : Dialog} (hpos : 0 < d.refs)
    (hroom : d.refs < Dialog.maxRefs) (hnone : d.timer = none)
    (hfind : r.table.find? d.key = some d.awaiting) (reason : String) :
    (r.settleTimer env d.key (.error reason)).2.table = r.table.put d := by
  have hswap : swapTimer r.table d.key .arming none = some (r.table.put d.retain) := by
    unfold swapTimer
    rw [hfind]
    dsimp only
    rw [if_pos d.awaiting_timer]
    cases d
    cases hnone
    rfl
  have hrelease : (r.table.put d.retain).release d.key 1
      = (none, (r.table.put d.retain).put d) := by
    have hheld : (r.table.put d.retain).find? d.key = some d.retain := Table.find?_put_same hfind
    have hrefs : d.retain.refs = d.refs + 1 := Dialog.nextRefs_of_lt hroom
    have hback : ({ d.retain with refs := d.retain.refs - 1 } : Dialog) = d := by
      rw [hrefs, Nat.add_sub_cancel]
      rfl
    rw [Table.release_of_lt hheld (hrefs ▸ Nat.succ_lt_succ hpos), if_neg Nat.one_ne_zero, hback]
  unfold settleTimer
  dsimp only
  rw [hswap]
  dsimp only
  unfold release
  dsimp only
  rw [hrelease]
  exact hwf.put_put rfl

/-- A dialog that a refused timer was asked for keeps the lifetime that it was asked with. -/
theorem startTimer_refused (hwf : r.table.Wf) (hcounts : r.table.CountsOn key)
    (h : r.startTimer env key milliseconds = (.error e, r')) {ms : Nat} {s : Registry ε}
    (harming : r.arming? key milliseconds = some (ms, s))
    (hkeeps : (env.schedule key ms s).2.table = s.table) :
    ∃ d, r.table.find? key = some d ∧ r'.table = r.table.put (d.lasting milliseconds) := by
  obtain ⟨⟨d, d', hfind, hprepare, hs⟩, heq⟩ := Ledger.startTimer_of_some env harming
  obtain ⟨-, hnone, rfl⟩ := Dialog.prepareTimer_eq hprepare
  obtain rfl : d.key = key := hwf.key_of_find? hfind
  obtain ⟨hpos, hroom⟩ := hcounts d hfind
  refine ⟨d, hfind, ?_⟩
  have hkey := d.lasting_key milliseconds
  have hasked := hkeeps.trans hs
  obtain ⟨reason, hanswer⟩ : ∃ reason, (env.schedule d.key ms s).1 = .error reason := by
    have hsettled := congrArg Prod.fst (heq.symm.trans h)
    rw [settleTimer_answer] at hsettled
    cases hanswer : (env.schedule d.key ms s).1 with
    | ok handle =>
      rw [hanswer] at hsettled
      cases hsettled
    | error reason => exact ⟨reason, rfl⟩
  have hmarked : (env.schedule d.key ms s).2.table.find? (d.lasting milliseconds).key
      = some (d.lasting milliseconds).awaiting := by
    rw [hasked]
    exact Table.find?_put_same (e := d) (hkey ▸ hfind)
  have hsettled : ((env.schedule d.key ms s).2.settleTimer env (d.lasting milliseconds).key
        (.error reason)).2.table
      = (env.schedule d.key ms s).2.table.put (d.lasting milliseconds) :=
    settleTimer_refused (hasked ▸ hwf.put _) (d.lasting_refs milliseconds ▸ hpos)
      (d.lasting_refs milliseconds ▸ hroom) ((d.lasting_timer milliseconds).trans hnone) hmarked
      reason
  rw [h, hanswer] at heq
  rw [hkey, ← heq, hasked] at hsettled
  exact hsettled.trans (hwf.put_put rfl)

/-- What is left when a timer was not armed. The dialog is as it was exactly if the service was not
asked, or was asked for no other lifetime than the dialog's own. -/
structure Remains (r : Registry ε) (key : Key) (milliseconds : Option Nat) (r' : Registry ε) :
    Prop where
  own : milliseconds = none → r'.table = r.table
  asked : r.arming? key milliseconds ≠ none →
    r'.table.find? key = (r.table.find? key).map (·.lasting milliseconds)
  others : ∀ k, k ≠ key → r'.table.find? k = r.table.find? k
  slots : ∀ k, r'.table.timer? k = r.table.timer? k
  refs : ∀ k, (r'.table.find? k).map (·.refs) = (r.table.find? k).map (·.refs)
  same_iff : (r'.table.find? key).map (·.snapshot) = (r.table.find? key).map (·.snapshot) ↔
    r.arming? key milliseconds = none ∨ milliseconds = none

theorem Remains.of_unasked (h : r.arming? key milliseconds = none) :
    Remains r key milliseconds r where
  own _ := rfl
  asked hasked := absurd h hasked
  others _ _ := rfl
  slots _ := rfl
  refs _ := rfl
  same_iff := iff_of_true rfl (.inl h)

theorem Remains.of_asked (hwf : r.table.Wf) {d : Dialog}
    (hasked : r.arming? key milliseconds ≠ none) (hfind : r.table.find? key = some d)
    (htable : r'.table = r.table.put (d.lasting milliseconds)) :
    Remains r key milliseconds r' := by
  have hlinked : r.table.find? (d.lasting milliseconds).key = some d := by
    rw [d.lasting_key, hwf.key_of_find? hfind]
    exact hfind
  have hfind' : ∀ k, r'.table.find? k
      = if k = key then some (d.lasting milliseconds) else r.table.find? k := by
    intro k
    rw [htable, Table.find?_put_of_linked hlinked, d.lasting_key, hwf.key_of_find? hfind]
  constructor
  case own =>
    rintro rfl
    rw [htable]
    exact hwf.put_self hfind
  case asked =>
    intro _
    rw [hfind', if_pos rfl, hfind, Option.map_some]
  case others =>
    intro k hk
    rw [hfind', if_neg hk]
  case slots =>
    intro k
    unfold Table.timer?
    rw [hfind']
    split
    next hk => rw [hk, hfind, Option.bind_some, Option.bind_some, d.lasting_timer]
    next => rfl
  case refs =>
    intro k
    rw [hfind']
    split
    next hk => rw [hk, hfind, Option.map_some, Option.map_some, d.lasting_refs]
    next => rfl
  case same_iff =>
    rw [hfind', if_pos rfl, hfind, Option.map_some, Option.map_some, Option.some_inj,
      Dialog.snapshot_lasting_iff]
    exact (or_iff_right hasked).symm

/-- How an attempt to arm a timer fails. If the service is not asked nothing happens at all; if it
is, the reference that was taken for the timer has to be one that can be counted and given back. -/
structure Refusal (env : Environment ε) (r : Registry ε) (key : Key) (milliseconds : Option Nat)
    (e : Fault) (r' : Registry ε) : Prop where
  reason : Unarmed env r key milliseconds e
  unasked : r.arming? key milliseconds = none → r' = r
  remains : r.table.CountsOn key → Remains r key milliseconds r'

/-- A timer that is not armed leaves the slots and the references of all dialogs as they were. -/
theorem Reachable.refusal {r : Registry ε} (h : r.Reachable) {env : Environment ε} {key : Key}
    {milliseconds : Option Nat}
    (hkeeps : ∀ ms s, r.arming? key milliseconds = some (ms, s) →
      (env.schedule key ms s).2.table = s.table) {e : Fault} {r' : Registry ε}
    (hfail : r.startTimer env key milliseconds = (.error e, r')) :
    Refusal env r key milliseconds e r' := by
  have hwf : r.table.Wf := h.wf
  have hreason := unarmed_of_error hwf (congrArg Prod.fst hfail)
  cases harming : r.arming? key milliseconds with
  | none =>
    obtain ⟨e', heq⟩ := Ledger.startTimer_of_none env harming
    obtain rfl : r' = r := congrArg Prod.snd (hfail.symm.trans heq)
    exact ⟨hreason, fun _ => rfl, fun _ => .of_unasked harming⟩
  | some asked =>
    obtain ⟨ms, s⟩ := asked
    have hasked : r.arming? key milliseconds ≠ none := harming ▸ Option.some_ne_none _
    refine ⟨hreason, fun hnone => absurd hnone hasked, fun hcounts => ?_⟩
    obtain ⟨d, hfind, htable⟩ :=
      startTimer_refused hwf hcounts hfail harming (hkeeps ms s harming)
    exact .of_asked hwf hasked hfind htable

end Registry

/-- A timer service whose list is full. -/
def Environment.refusing : Environment Unit :=
  { Environment.quiet with schedule := fun _ _ r => (.error "timer list full", r) }

namespace Registry

/-- The call after half a minute was asked for and refused. -/
def refusedCall : Registry Unit := (timedCall.startTimer .refusing ⟨0, 0⟩ (some 30000)).2

theorem timedCall_reachable : timedCall.Reachable :=
  timed_reachable.performAll Environment.quiet_lawful _

theorem refusedCall_eq :
    timedCall.startTimer .refusing ⟨0, 0⟩ (some 30000)
      = (.error (.timer "timer list full"), refusedCall) := rfl

/-- The call ends with half a minute in the place of its own twelve hours, and counts as changed. -/
theorem refusedCall_changed :
    timedCall.Reachable ∧ (∀ key ms s, (Environment.refusing.schedule key ms s).2 = s) ∧
      (timedCall.startTimer .refusing ⟨0, 0⟩ (some 30000)).1 = .error (.timer "timer list full") ∧
      (timedCall.table.find? ⟨0, 0⟩).map (fun d => (d.timeout, d.version, d.flags))
        = some (43200, 0, .new) ∧
      (refusedCall.table.find? ⟨0, 0⟩).map (fun d => (d.timeout, d.version, d.flags))
        = some (30, 1, Flags.new.union .changed) ∧
      (refusedCall.table.find? ⟨0, 0⟩).map (·.snapshot)
        ≠ (timedCall.table.find? ⟨0, 0⟩).map (·.snapshot) := by
  have hbefore : (timedCall.table.find? ⟨0, 0⟩).map (fun d => (d.timeout, d.version, d.flags))
      = some (43200, 0, .new) := by decide +kernel
  have hafter : (refusedCall.table.find? ⟨0, 0⟩).map (fun d => (d.timeout, d.version, d.flags))
      = some (30, 1, Flags.new.union .changed) := by decide +kernel
  refine ⟨timedCall_reachable, fun _ _ _ => rfl, rfl, hbefore, hafter, fun hsame => ?_⟩
  have hseen := congrArg (Option.map fun s : Snapshot => (s.timeout, s.version, s.flags)) hsame
  rw [Option.map_map, Option.map_map] at hseen
  exact absurd (hafter.symm.trans (hseen.trans hbefore)) (by decide)

theorem Reachable.refusal_refusedCall :
    timedCall.startTimer .refusing ⟨0, 0⟩ (some 30000)
        = (.error (.timer "timer list full"), refusedCall) ∧
      Refusal .refusing timedCall ⟨0, 0⟩ (some 30000) (.timer "timer list full") refusedCall ∧
      Remains timedCall ⟨0, 0⟩ (some 30000) refusedCall := by
  have hrefusal := Reachable.refusal timedCall_reachable (fun _ _ _ => rfl) refusedCall_eq
  have hcounts : timedCall.table.CountsOn ⟨0, 0⟩ := by
    rintro d hfind
    cases hfind
    decide
  exact ⟨refusedCall_eq, hrefusal, hrefusal.remains hcounts⟩

end Registry

end SipDialogs
