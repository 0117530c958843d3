-- SUMMARY: Timers own the references that they give back, and no others.
import SipDialogs.Proofs.Slots

/-! # Timers and their references

A timer takes a reference when its slot is marked and gives it back when the slot is emptied,
whoever empties it: the operation that armed it, the one that stops it, or the timer itself, which
may fire while the service is still being asked. All others keep the references they have, as long
as a timer's can be counted along with them. -/

namespace SipDialogs

/-- Whether an operation is about timers. -/
def Operation.isTimed : Operation → Bool
  | startTimer .. | stopTimer _ | expire _ => true
  | _ => false

/-- The references on a dialog that are not its timer's. -/
def Dialog.othersRefs (d : Dialog) : Int := d.refs - if d.timer.isSome then 1 else 0

namespace Table

/-- The references on a dialog that are not its timer's, none if it is not linked. -/
def othersRefs (t : Table) (key : Key) : Int := (t.find? key).elim 0 Dialog.othersRefs

/-- A timer's reference can be counted along with the others. -/
def HasRoom (t : Table) (key : Key) : Prop :=
  0 ≤ t.othersRefs key ∧ t.othersRefs key < Dialog.maxRefs

/-- Nobody but timers gains or loses a reference, where a timer's can be counted. -/
def Spares (t t' : Table) : Prop :=
  t.Wf → t'.Wf ∧ ∀ key, t.HasRoom key → t'.othersRefs key = t.othersRefs key

variable {t t' : Table} {key : Key} {d e : Dialog}

theorem othersRefs_of_some (h : t.find? key = some d) : t.othersRefs key = d.othersRefs := by
  rw [othersRefs, h, Option.elim_some]

namespace Spares

@[refl] theorem refl (t : Table) : t.Spares t := fun h => ⟨h, fun _ _ => rfl⟩

theorem trans {t'' : Table} (h : t.Spares t') (h' : t'.Spares t'') : t.Spares t'' := by
  intro hwf
  obtain ⟨hwf', hsame⟩ := h hwf
  obtain ⟨hwf'', hsame'⟩ := h' hwf'
  refine ⟨hwf'', fun key hroom => ?_⟩
  have hroom' : t'.HasRoom key := by
    rw [HasRoom, hsame key hroom]
    exact hroom
  exact (hsame' key hroom').trans (hsame key hroom)

theorem count (t : Table) (f : Counters → Counters) : t.Spares (t.count f) := fun h =>
  ⟨h.count f, fun _ _ => rfl⟩

theorem countAnomaly (t : Table) : t.Spares t.countAnomaly := count t _

/-- A slot that is filled comes with a reference of its own. -/
theorem put (hfind : t.find? key = some d) (hkey : e.key = d.key)
    (hothers : d.othersRefs < Dialog.maxRefs → e.othersRefs = d.othersRefs) :
    t.Spares (t.put e) := by
  intro hwf
  obtain rfl : d.key = key := hwf.key_of_find? hfind
  rw [← hkey] at hfind
  refine ⟨hwf.put e, fun k hroom => ?_⟩
  rw [othersRefs, find?_put_of_linked hfind]
  split
  next hk =>
    rw [hk] at hroom ⊢
    rw [HasRoom, othersRefs_of_some hfind] at hroom
    rw [othersRefs_of_some hfind]
    exact hothers hroom.2
  next => rfl

/-- A slot that is emptied gives its reference back. -/
theorem disarm (hfind : t.find? key = some d) (htimer : d.timer.isSome = true) :
    t.Spares ((t.put { d with timer := none }).release key 1).2 := by
  intro hwf
  obtain rfl : d.key = key := hwf.key_of_find? hfind
  have hput : ∀ k, (t.put { d with timer := none }).find? k
      = if k = d.key then some { d with timer := none } else t.find? k :=
    find?_put_of_linked (d := { d with timer := none }) hfind
  have hdisarmed :
      (t.put { d with timer := none }).find? d.key = some { d with timer := none } := by
    rw [hput, if_pos rfl]
  obtain ⟨hreleased, -⟩ := Unmarks.disarm hfind hwf
  refine ⟨hreleased, fun k hroom => ?_⟩
  have hbefore : t.othersRefs d.key = (d.refs : Int) - 1 := by
    rw [othersRefs_of_some hfind, Dialog.othersRefs, if_pos htimer]
  rcases Nat.lt_or_ge 1 d.refs with hlt | hle
  · rw [release_of_lt hdisarmed hlt, if_neg Nat.one_ne_zero, othersRefs,
      find?_put_of_linked (d := { d with timer := none, refs := d.refs - 1 }) hdisarmed, hput]
    by_cases hk : k = d.key
    · rw [if_pos hk, hk, hbefore]
      simp only [Option.elim_some, Dialog.othersRefs, Option.isSome_none, Bool.false_eq_true,
        if_false]
      omega
    · rw [if_neg hk, if_neg hk]
      rfl
  · -- no table keeps a dialog by a count, so counting an anomaly makes no difference to the others
    have hcounted : (if ({ d with timer := none } : Dialog).refs < 1
        then (t.put { d with timer := none }).countAnomaly
        else t.put { d with timer := none }).find? k
      = (t.put { d with timer := none }).find? k := by
      split <;> rfl
    rw [release_of_le hdisarmed Nat.one_pos hle, othersRefs, find?_erase, hcounted, hput]
    by_cases hk : k = d.key
    · obtain ⟨hleast, -⟩ := hroom
      rw [hk, hbefore] at hleast
      rw [if_pos hk, hk, hbefore, Option.elim_none]
      omega
    · rw [if_neg hk, if_neg hk]
      rfl

end Spares

theorem Lasting.spares : Lasting Spares where
  refl := .refl
  trans := .trans
  count := .count
  disarm := .disarm

end Table

/-! ## What timers do to references -/

namespace Registry

variable {env : Environment ε}

theorem settleTimer_spares (henv : env.Preserves Table.Spares) (r : Registry ε) (key : Key)
    (answer : Except String Handle) :
    r.table.Spares (r.settleTimer env key answer).2.table := by
  unfold settleTimer
  cases answer with
  | ok handle =>
    dsimp only
    rcases Ledger.swapTimer_cases r.table key .arming (some (.armed handle)) with
      ⟨d, hfind, htimer, -, heq⟩ | ⟨-, heq⟩
    · rw [heq]
      exact .put hfind rfl fun _ => by simp [Dialog.othersRefs, htimer]
    · rw [heq]
  | error reason =>
    dsimp only
    rcases Ledger.swapTimer_cases r.table key .arming none with
      ⟨d, hfind, htimer, -, heq⟩ | ⟨-, heq⟩
    · rw [heq]
      exact disarm_preserves .spares henv r hfind (by rw [htimer]; rfl)
    · rw [heq]
      exact .countAnomaly _

theorem startTimer_spares (henv : env.Preserves Table.Spares) (r : Registry ε) (key : Key)
    (milliseconds : Option Nat) :
    r.table.Spares (r.startTimer env key milliseconds).2.table := by
  cases harming : r.arming? key milliseconds with
  | none =>
    obtain ⟨e, heq⟩ := Ledger.startTimer_of_none env harming
    rw [heq]
  | some asked =>
    obtain ⟨ms, s⟩ := asked
    obtain ⟨⟨d, e, hfind, hprepare, hs⟩, heq⟩ := Ledger.startTimer_of_some env harming
    obtain ⟨hrevises, hnone, hmarked, hrefs, -⟩ := Dialog.prepareTimer_eq_ok hprepare
    have hothers : d.othersRefs < Dialog.maxRefs → e.othersRefs = d.othersRefs := by
      intro hroom
      have hlt : d.refs < Dialog.maxRefs := by simpa [Dialog.othersRefs, hnone] using hroom
      simp [Dialog.othersRefs, hnone, hmarked, hrefs, Dialog.nextRefs_of_lt hlt]
    have harm : r.table.Spares s.table := by
      rw [hs]
      exact .put hfind hrevises.key hothers
    rw [heq]
    exact (harm.trans (henv.schedule key ms s)).trans (settleTimer_spares henv _ key _)

theorem perform_spares (henv : env.Preserves Table.Spares) (r : Registry ε) {op : Operation}
    (hop : op.isTimed = true) : r.table.Spares (r.perform env op).table := by
  cases op with
  | startTimer key milliseconds => exact r.startTimer_spares henv key milliseconds
  | stopTimer key => exact stopTimer_preserves .spares henv r key
  | expire key => exact expire_preserves .spares henv r key
  | _ => cases hop

end Registry

theorem Environment.CallsBack.spares {depth : Nat} {env : Environment ε}
    (h : env.CallsBack (·.isTimed = true) depth) : env.Preserves Table.Spares :=
  h.preserves .spares fun henv _ hop r => r.perform_spares henv hop

/-! ## Slots after a timer was armed -/

namespace Table

theorem Wf.expired {t : Table} (h : t.Wf) (key : Key) : (t.expired key).Wf := by
  rcases t.expired_cases key with ⟨-, heq⟩ | ⟨d, hfind, htimer, -, heq⟩
  · rw [heq]
    exact h.count _
  · rw [heq]
    unfold released
    obtain ⟨hwf, -⟩ := Spares.disarm hfind htimer h
    generalize (t.put { d with timer := none }).release key 1 = released at hwf ⊢
    obtain ⟨_ | gone, t'⟩ := released
    · exact hwf
    · exact hwf.count _

theorem Wf.expiredAll {t : Table} (h : t.Wf) (keys : List Key) :
    (t.expiredAll keys).Wf := by
  induction keys generalizing t with
  | nil => exact h
  | cons key keys ih => exact ih (h.expired key)

end Table

namespace Registry

variable {env : Environment ε} {r r' : Registry ε} {key : Key} {milliseconds : Option Nat}

/-- The service's answer is the answer. -/
theorem settleTimer_answer (env : Environment ε) (r : Registry ε) (key : Key)
    (answer : Except String Handle) :
    (r.settleTimer env key answer).1 = answer.mapError .timer := by
  unfold settleTimer
  cases answer with
  | ok handle =>
    dsimp only
    split <;> rfl
  | error reason =>
    dsimp only
    split <;> rfl

end Registry

namespace Registry

/-- A call in a registry with a timer service. -/
def timedCall : Registry Unit :=
  timed.performAll .quiet
    [.insert { callId := "abc", fromUri := "sip:a", toUri := "sip:b", fromTag := "t1" } 0]

end Registry

end SipDialogs
