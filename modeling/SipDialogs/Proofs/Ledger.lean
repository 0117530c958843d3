-- SUMMARY: A ledger of who owns each reference, kept balanced by every operation on a table.
import SipDialogs.Proofs.Effects

/-! # The ledger of references

A dialog counts its references but does not say who has them. The ledger does: transactions that
have yet to be destroyed, and whoever looked the dialog up or took references on it. The timer slot
and the table own one more each; the table's is implicit in the phase. A ledger is balanced if it
accounts for every reference of every linked dialog. -/

namespace SipDialogs

/-- Who owns references on one dialog, apart from its timer and the table. -/
structure Account where
  /-- The transactions that have yet to be destroyed. -/
  holders : Nat := 0
  /-- The references taken and not given back. -/
  refs : Nat := 0
  deriving DecidableEq, Repr

def Account.total (a : Account) : Nat := a.holders + a.refs

/-- The references that the table has on a dialog in this phase. -/
def Phase.stake (p : Phase) : Nat := if p.isDeleted then 0 else 1

/-- The references that a dialog's timer slot and the table have. -/
def Dialog.stake (d : Dialog) : Nat := (if d.timer.isSome then 1 else 0) + d.phase.stake

theorem Dialog.stake_eq_zero_iff (d : Dialog) :
    d.stake = 0 ↔ d.timer = none ∧ d.phase = .deleted := by
  cases htimer : d.timer with
  | none => cases hphase : d.phase <;> simp [stake, Phase.stake, Phase.isDeleted, htimer, hphase]
  | some slot => simp [stake, htimer]

/-- The references that an event takes from the holders. -/
def Event.returned (e : Event) : Nat := if e = .transactionDestroyed then 1 else 0

/-- No transition makes or loses a reference: what it takes back and what the table and the holders
had before is what it gives up and what the table has after. -/
theorem Phase.next?_conserves {p : Phase} {flags : Flags} {e : Event} {m : Transition}
    (h : p.next? flags e = some m) :
    (if m.reclaim then 1 else 0) + p.stake + e.returned = m.unref + m.phase.stake := by
  cases p <;> cases e <;> simp only [next?, reduceCtorEq, Option.some.injEq] at h
  all_goals first
    | subst h; rfl
    | split at h <;> cases h; rfl

/-- A reference is taken back only by a success that comes late, and nothing is given up with it. -/
theorem Phase.next?_reclaims {p : Phase} {flags : Flags} {e : Event} {m : Transition}
    (h : p.next? flags e = some m) (hreclaim : m.reclaim = true) :
    p = .deleted ∧ e = .successResponse ∧ m.phase = .confirmedNa ∧ m.unref = 0 := by
  cases p <;> cases e <;> simp only [next?, reduceCtorEq, Option.some.injEq] at h
  all_goals first
    | subst h; cases hreclaim
    | split at h <;> cases h; exact ⟨rfl, rfl, rfl, rfl⟩

/-- The end of a transaction is valid in every phase. -/
theorem Phase.next?_transactionDestroyed (p : Phase) (flags : Flags) :
    ∃ m, p.next? flags .transactionDestroyed = some m := by
  cases p <;> exact ⟨_, rfl⟩

/-- Who owns references on each dialog. -/
abbrev Ledger := Key → Account

namespace Ledger

/-- The ledger with another account for one dialog. -/
def set (L : Ledger) (key : Key) (a : Account) : Ledger := fun k => if k = key then a else L k

@[simp] theorem set_self (L : Ledger) (key : Key) (a : Account) : L.set key a key = a :=
  if_pos rfl

theorem set_of_ne (L : Ledger) {key k : Key} (h : k ≠ key) (a : Account) :
    L.set key a k = L k := if_neg h

@[simp] theorem set_set (L : Ledger) (key : Key) (a b : Account) :
    (L.set key a).set key b = L.set key b := by
  funext k
  by_cases h : k = key <;> simp [set, h]

@[simp] theorem set_eq_self (L : Ledger) (key : Key) : L.set key (L key) = L := by
  funext k
  by_cases h : k = key <;> simp [set, h]

/-- A ledger that accounts for every reference on every linked dialog, and knows no others. -/
structure Balanced (L : Ledger) (t : Table) : Prop where
  wf : t.Wf
  refs : ∀ {key d}, t.find? key = some d → d.refs = (L key).total + d.stake
  pos : ∀ {key d}, t.find? key = some d → 0 < d.refs
  unlinked : ∀ {key}, t.find? key = none → L key = {}

namespace Balanced

variable {L : Ledger} {t t' : Table}

theorem empty (hwf : t.Wf) (hnone : ∀ key, t.find? key = none) : Balanced (fun _ => {}) t where
  wf := hwf
  refs := by simp [hnone]
  pos := by simp [hnone]
  unlinked _ := rfl

theorem count (h : Balanced L t) (f : Counters → Counters) : Balanced L (t.count f) :=
  ⟨h.wf.count f, h.refs, h.pos, h.unlinked⟩

theorem countAnomaly (h : Balanced L t) : Balanced L t.countAnomaly := h.count _

/-- A dialog may change as long as its account follows. -/
theorem of_set (h : Balanced L t) {d : Dialog} {a : Account} (hwf : t'.Wf)
    (hfind : ∀ key, t'.find? key = if key = d.key then some d else t.find? key)
    (hrefs : d.refs = a.total + d.stake) (hpos : 0 < d.refs) : Balanced (L.set d.key a) t' where
  wf := hwf
  refs := by
    intro key e he
    rw [hfind] at he
    split at he
    next heq =>
      cases he
      simp [heq, hrefs]
    next hne => rw [set_of_ne L hne, h.refs he]
  pos := by
    intro key e he
    rw [hfind] at he
    split at he
    · cases he
      exact hpos
    · exact h.pos he
  unlinked := by
    intro key hnone
    rw [hfind] at hnone
    split at hnone
    · cases hnone
    next hne => rw [set_of_ne L hne, h.unlinked hnone]

theorem link (h : Balanced L t) {d : Dialog} {a : Account} (hlinks : t.Links d t')
    (hrefs : d.refs = a.total + d.stake) (hpos : 0 < d.refs) : Balanced (L.set d.key a) t' :=
  h.of_set (hlinks.wf h.wf) hlinks.find? hrefs hpos

theorem put (h : Balanced L t) {key : Key} {d e : Dialog} {a : Account}
    (hfind : t.find? key = some d) (hkey : e.key = d.key) (hrefs : e.refs = a.total + e.stake)
    (hpos : 0 < e.refs) : Balanced (L.set key a) (t.put e) := by
  obtain rfl : e.key = key := hkey.trans (h.wf.key_of_find? hfind)
  exact h.of_set (h.wf.put e) (Table.find?_put_of_linked hfind) hrefs hpos

theorem erase (h : Balanced L t) (key : Key) : Balanced (L.set key {}) (t.erase key) where
  wf := h.wf.erase key
  refs := by
    intro k d hd
    rw [Table.find?_erase] at hd
    split at hd
    · cases hd
    next hne => rw [set_of_ne L hne, h.refs hd]
  pos := by
    intro k d hd
    rw [Table.find?_erase] at hd
    split at hd
    · cases hd
    · exact h.pos hd
  unlinked := by
    intro k hnone
    rw [Table.find?_erase] at hnone
    split at hnone
    next heq => rw [heq, set_self]
    next hne => rw [set_of_ne L hne, h.unlinked hnone]

end Balanced

/-! ## Taking and giving back -/

/-- Somebody takes references on a dialog. -/
def take (L : Ledger) (key : Key) (count : Nat) : Ledger :=
  L.set key { L key with refs := (L key).refs + count }

/-- Somebody gives references back. -/
def give (L : Ledger) (key : Key) (count : Nat) : Ledger :=
  L.set key { L key with refs := (L key).refs - count }

@[simp] theorem give_take (L : Ledger) (key : Key) (count : Nat) :
    (L.take key count).give key count = L := by
  simp [take, give]

@[simp] theorem give_zero (L : Ledger) (key : Key) : L.give key 0 = L := by simp [give]

end Ledger

namespace Table

/-- The table after references were given back and the dialog, if they were its last, was torn
down. -/
def released (t : Table) (key : Key) (count : Nat) : Table :=
  match t.release key count with
  | (none, t) => t
  | (some _, t) => t.countDestroyed

/-- No dialog is linked, none changes its phase, and only deleted ones are unlinked. -/
structure Fades (t t' : Table) : Prop where
  unlinked : ∀ {key}, t.find? key = none → t'.find? key = none
  phase : ∀ {key d e}, t.find? key = some d → t'.find? key = some e → e.phase = d.phase
  ends : ∀ {key d}, t.find? key = some d → t'.find? key = none → d.phase = .deleted

theorem Fades.refl (t : Table) : t.Fades t where
  unlinked h := h
  phase h h' := by rw [Option.some.inj (h.symm.trans h')]
  ends h h' := by cases h.symm.trans h'

theorem Fades.countAnomaly (t : Table) : t.Fades t.countAnomaly :=
  ⟨id, (refl t).phase, (refl t).ends⟩

theorem Fades.trans {t t' t'' : Table} (h : t.Fades t') (h' : t'.Fades t'') : t.Fades t'' where
  unlinked hnone := h'.unlinked (h.unlinked hnone)
  phase := by
    intro key d e hd he
    cases hmid : t'.find? key with
    | none => cases (h'.unlinked hmid).symm.trans he
    | some f => rw [h'.phase hmid he, h.phase hd hmid]
  ends := by
    intro key d hd hnone
    cases hmid : t'.find? key with
    | none => exact h.ends hd hmid
    | some f => rw [← h.phase hd hmid, h'.ends hmid hnone]

theorem Fades.put {t : Table} {key : Key} {d e : Dialog} (hwf : t.Wf) (hfind : t.find? key = some d)
    (hkey : e.key = d.key) (hphase : e.phase = d.phase) : t.Fades (t.put e) := by
  obtain rfl : e.key = key := hkey.trans (hwf.key_of_find? hfind)
  have hput := find?_put_of_linked hfind
  constructor
  · intro k hnone
    rw [hput]
    split
    next heq =>
      rw [heq, hfind] at hnone
      cases hnone
    next => exact hnone
  · intro k d' e' hd he
    rw [hput] at he
    split at he
    next heq =>
      cases he
      rw [heq, hfind] at hd
      cases hd
      exact hphase
    next => rw [Option.some.inj (hd.symm.trans he)]
  · intro k d' hd hnone
    rw [hput] at hnone
    split at hnone
    · cases hnone
    · cases hd.symm.trans hnone

theorem Fades.erase {t : Table} {key : Key} {d : Dialog} (hfind : t.find? key = some d)
    (hphase : d.phase = .deleted) : t.Fades (t.erase key) := by
  constructor
  · intro k hnone
    rw [find?_erase]
    split
    · rfl
    · exact hnone
  · intro k d' e' hd he
    rw [find?_erase] at he
    split at he
    · cases he
    · simp [Option.some.inj (hd.symm.trans he)]
  · intro k d' hd hnone
    rw [find?_erase] at hnone
    split at hnone
    next heq =>
      rw [heq, hfind] at hd
      cases hd
      exact hphase
    next => cases hd.symm.trans hnone

end Table

namespace Ledger.Balanced

variable {L : Ledger} {t : Table} {key : Key} {count : Nat}

/-- What giving back references comes to when somebody has them. -/
theorem released_cases (h : Balanced L t) (hle : count ≤ (L key).refs) :
    (count = 0 ∧ t.released key count = t) ∨
    (∃ d, t.find? key = some d ∧ 0 < count ∧ count < d.refs ∧
      t.release key count = (none, t.put { d with refs := d.refs - count }) ∧
      t.released key count = t.put { d with refs := d.refs - count }) ∨
    ∃ d, t.find? key = some d ∧ d.stake = 0 ∧ L.give key count key = {} ∧
      t.release key count = (some { d with refs := 0 }, t.erase key) ∧
      t.released key count = (t.erase key).countDestroyed := by
  unfold Table.released
  rcases Nat.eq_zero_or_pos count with rfl | hpos
  · exact .inl ⟨rfl, rfl⟩
  refine .inr ?_
  cases hfind : t.find? key with
  | none =>
    -- nobody has references on an unlinked dialog
    rw [h.unlinked hfind] at hle
    exact absurd hle (Nat.not_le_of_lt hpos)
  | some d =>
    have hrefs := h.refs hfind
    rcases Nat.lt_or_ge count d.refs with hlt | hge
    · refine .inl ⟨d, rfl, hpos, hlt, ?_⟩
      rw [Table.release_of_lt hfind hlt, if_neg (Nat.ne_of_gt hpos)]
      exact ⟨rfl, rfl⟩
    · have htotal : (L key).total = (L key).holders + (L key).refs := rfl
      have hcount : ¬d.refs < count := by omega
      refine .inr ⟨d, rfl, by omega, ?_, ?_⟩
      · have hholders : (L key).holders = 0 := by omega
        have hleft : (L key).refs - count = 0 := by omega
        simp [give, hholders, hleft]
      · rw [Table.release_of_le hfind hpos hge, if_neg hcount]
        exact ⟨rfl, rfl⟩

theorem released (h : Balanced L t) (hle : count ≤ (L key).refs) :
    Balanced (L.give key count) (t.released key count) := by
  rcases h.released_cases hle with
    ⟨rfl, heq⟩ | ⟨d, hfind, -, hlt, -, heq⟩ | ⟨d, hfind, hstake, hnone, -, heq⟩
  · rw [heq, give_zero]
    exact h
  · have hrefs := h.refs hfind
    simp only [Account.total] at hrefs
    rw [heq]
    refine h.put hfind rfl ?_ ?_
    · simp only [Account.total, Dialog.stake] at hrefs ⊢
      omega
    · simp only
      omega
  · rw [heq]
    rw [give, set_self] at hnone
    rw [give, hnone]
    exact (h.erase key).count _

theorem anomalies_released (h : Balanced L t) (hle : count ≤ (L key).refs) :
    (t.released key count).anomalies = t.anomalies := by
  rcases h.released_cases hle with ⟨-, heq⟩ | ⟨d, -, -, -, -, heq⟩ | ⟨d, -, -, -, -, heq⟩
  · simp [heq]
  · simp [heq]
  · simp [heq]

theorem fades_released (h : Balanced L t) (hle : count ≤ (L key).refs) :
    t.Fades (t.released key count) := by
  rcases h.released_cases hle with
    ⟨-, heq⟩ | ⟨d, hfind, -, -, -, heq⟩ | ⟨d, hfind, hstake, -, -, heq⟩
  · rw [heq]
    exact .refl t
  · rw [heq]
    exact .put h.wf hfind rfl rfl
  · rw [heq]
    have hfades := Table.Fades.erase hfind (d.stake_eq_zero_iff.1 hstake).2
    exact ⟨hfades.unlinked, hfades.phase, hfades.ends⟩

end Ledger.Balanced

/-! ## Expiry -/

namespace Table

/-- The timer slot of a linked dialog. -/
def timer? (t : Table) (key : Key) : Option TimerSlot := (t.find? key).bind (·.timer)

/-- The table after a timer fired: its reference is given back, if there is a timer. -/
def expired (t : Table) (key : Key) : Table :=
  match t.find? key with
  | some d =>
    if d.timer.isSome then (t.put { d with timer := none }).released key 1 else t.countAnomaly
  | none => t.countAnomaly

/-- The table after several timers fired. -/
def expiredAll (t : Table) (keys : List Key) : Table := keys.foldl expired t

/-- How many of these timers fire for a dialog that has none by then. -/
def strays : List Key → Table → Nat
  | [], _ => 0
  | key :: keys, t => (if (t.timer? key).isSome then 0 else 1) + strays keys (t.expired key)

theorem expired_cases (t : Table) (key : Key) :
    ((t.timer? key).isSome = false ∧ t.expired key = t.countAnomaly) ∨
    ∃ d, t.find? key = some d ∧ d.timer.isSome = true ∧ (t.timer? key).isSome = true ∧
      t.expired key = (t.put { d with timer := none }).released key 1 := by
  unfold timer? expired
  cases hfind : t.find? key with
  | none => exact .inl ⟨rfl, rfl⟩
  | some d =>
    cases htimer : d.timer with
    | none => exact .inl ⟨by simp [htimer], by simp [htimer]⟩
    | some slot => exact .inr ⟨d, rfl, by simp [htimer], by simp [htimer], by simp [htimer]⟩

end Table

namespace Ledger.Balanced

variable {L : Ledger} {t : Table} {key : Key}

/-- The reference of a timer slot that is emptied is for somebody else to give back. -/
theorem disarm (h : Balanced L t) {d : Dialog} (hfind : t.find? key = some d)
    (htimer : d.timer.isSome = true) :
    Balanced (L.take key 1) (t.put { d with timer := none }) := by
  have hrefs := h.refs hfind
  have hpos : 0 < d.refs := h.pos hfind
  simp only [Account.total, Dialog.stake, htimer, if_true] at hrefs
  refine h.put hfind rfl ?_ hpos
  simp only [Account.total, Dialog.stake, Option.isSome_none, Bool.false_eq_true, if_false]
  omega

theorem one_le_take (L : Ledger) (key : Key) : 1 ≤ (L.take key 1 key).refs := by
  simp [take]

theorem expired (h : Balanced L t) (key : Key) : Balanced L (t.expired key) := by
  rcases t.expired_cases key with ⟨-, heq⟩ | ⟨d, hfind, htimer, -, heq⟩
  · rw [heq]
    exact h.countAnomaly
  · have hreleased := (h.disarm hfind htimer).released (one_le_take L key)
    rwa [give_take, ← heq] at hreleased

theorem fades_expired (h : Balanced L t) (key : Key) : t.Fades (t.expired key) := by
  rcases t.expired_cases key with ⟨-, heq⟩ | ⟨d, hfind, htimer, -, heq⟩
  · rw [heq]
    exact .countAnomaly t
  · rw [heq]
    have hput : t.Fades (t.put { d with timer := none }) := .put h.wf hfind rfl rfl
    exact hput.trans ((h.disarm hfind htimer).fades_released (one_le_take L key))

/-- Only an expiry that finds no timer is an anomaly. -/
theorem anomalies_expired (h : Balanced L t) (key : Key) :
    (t.expired key).anomalies = t.anomalies + if (t.timer? key).isSome then 0 else 1 := by
  rcases t.expired_cases key with ⟨hstray, heq⟩ | ⟨d, hfind, htimer, hsome, heq⟩
  · rw [heq, hstray]
    rfl
  · rw [heq, hsome, (h.disarm hfind htimer).anomalies_released (one_le_take L key),
      Table.anomalies_put]
    rfl

/-- Whatever timers fire, the ledger stays as it is. -/
theorem expiredAll (h : Balanced L t) (keys : List Key) :
    Balanced L (t.expiredAll keys) ∧ t.Fades (t.expiredAll keys) ∧
      (t.expiredAll keys).anomalies = t.anomalies + Table.strays keys t := by
  induction keys generalizing t with
  | nil => exact ⟨h, .refl t, rfl⟩
  | cons key keys ih =>
    obtain ⟨hbalanced, hfades, hanomalies⟩ := ih (h.expired key)
    refine ⟨hbalanced, (h.fades_expired key).trans hfades, ?_⟩
    calc (t.expiredAll (key :: keys)).anomalies
        = (t.expired key).anomalies + Table.strays keys (t.expired key) := hanomalies
      _ = t.anomalies + Table.strays (key :: keys) t := by
        simp [h.anomalies_expired key, Table.strays, Nat.add_assoc]

end Ledger.Balanced

/-! ## What leaves the ledger as it is -/

/-- What the ledger can tell of a dialog. -/
def Dialog.standing (d : Dialog) : Nat × Bool × Phase := (d.refs, d.timer.isSome, d.phase)

theorem Dialog.stake_of_standing {d e : Dialog} (h : e.standing = d.standing) :
    e.refs = d.refs ∧ e.stake = d.stake ∧ e.phase = d.phase := by
  obtain ⟨hrefs, htimer, hphase⟩ : e.refs = d.refs ∧ e.timer.isSome = d.timer.isSome ∧
      e.phase = d.phase := by
    simpa [standing] using h
  exact ⟨hrefs, by rw [stake, stake, htimer, hphase], hphase⟩

/-- Two tables that a ledger cannot tell apart. -/
structure Table.Agrees (t t' : Table) : Prop where
  wf : t.Wf → t'.Wf
  standing : ∀ key, (t'.find? key).map Dialog.standing = (t.find? key).map Dialog.standing
  anomalies : t'.anomalies = t.anomalies

namespace Table.Agrees

variable {t t' t'' : Table}

theorem refl (t : Table) : t.Agrees t := ⟨id, fun _ => rfl, rfl⟩

theorem of_eq (h : t' = t) : t.Agrees t' := h ▸ refl t

theorem trans (h : t.Agrees t') (h' : t'.Agrees t'') : t.Agrees t'' where
  wf hwf := h'.wf (h.wf hwf)
  standing key := (h'.standing key).trans (h.standing key)
  anomalies := h'.anomalies.trans h.anomalies

theorem put (hwf : t.Wf) {key : Key} {d e : Dialog} (hfind : t.find? key = some d)
    (hkey : e.key = d.key) (hstanding : e.standing = d.standing) : t.Agrees (t.put e) where
  wf h := h.put e
  standing := by
    obtain rfl : e.key = key := hkey.trans (hwf.key_of_find? hfind)
    intro k
    rw [find?_put_of_linked hfind]
    split
    next heq => rw [heq, hfind, Option.map_some, Option.map_some, hstanding]
    next => rfl
  anomalies := anomalies_put t e

theorem find?_eq_none_iff (h : t.Agrees t') (key : Key) :
    t'.find? key = none ↔ t.find? key = none := by
  rw [← Option.map_eq_none_iff (f := Dialog.standing), h.standing, Option.map_eq_none_iff]

theorem of_find? (h : t.Agrees t') {key : Key} {e : Dialog} (he : t'.find? key = some e) :
    ∃ d, t.find? key = some d ∧ e.standing = d.standing := by
  have hstanding := h.standing key
  rw [he, Option.map_some] at hstanding
  obtain ⟨d, hd, heq⟩ := Option.map_eq_some_iff.1 hstanding.symm
  exact ⟨d, hd, heq.symm⟩

theorem fades (h : t.Agrees t') : t.Fades t' where
  unlinked hnone := (h.find?_eq_none_iff _).2 hnone
  phase hd he := by
    obtain ⟨d', hd', hstanding⟩ := h.of_find? he
    obtain rfl := Option.some.inj (hd.symm.trans hd')
    exact (Dialog.stake_of_standing hstanding).2.2
  ends hd hnone := by cases hd.symm.trans ((h.find?_eq_none_iff _).1 hnone)

end Table.Agrees

theorem Ledger.Balanced.of_agrees {L : Ledger} {t t' : Table} (h : Balanced L t)
    (hagrees : t.Agrees t') : Balanced L t' where
  wf := hagrees.wf h.wf
  refs he := by
    obtain ⟨d, hd, hstanding⟩ := hagrees.of_find? he
    obtain ⟨hrefs, hstake, -⟩ := Dialog.stake_of_standing hstanding
    simp [hrefs, hstake, h.refs hd]
  pos he := by
    obtain ⟨d, hd, hstanding⟩ := hagrees.of_find? he
    rw [(Dialog.stake_of_standing hstanding).1]
    exact h.pos hd
  unlinked hnone := h.unlinked ((hagrees.find?_eq_none_iff _).1 hnone)

/-! ## What the ledger follows -/

namespace Ledger

/-- An event reaches a dialog; the end of a transaction uses up what its holder had. -/
def finish (L : Ledger) (key : Key) (e : Event) : Ledger :=
  L.set key { L key with holders := (L key).holders - e.returned }

namespace Balanced

variable {L : Ledger} {t t' : Table} {key : Key} {d : Dialog}

/-- With what is outstanding below the greatest count, one reference more is one more. -/
theorem nextRefs (h : Balanced L t) (hfind : t.find? key = some d)
    (hbound : (L key).total + d.stake + 1 < UInt32.size) : d.nextRefs = d.refs + 1 := by
  refine Dialog.nextRefs_of_lt ?_
  rw [h.refs hfind, Dialog.maxRefs]
  omega

theorem retain (h : Balanced L t) (hfind : t.find? key = some d)
    (hbound : (L key).total + d.stake + 1 < UInt32.size) :
    Balanced (L.take key 1) (t.put d.retain) := by
  have hrefs : d.retain.refs = d.refs + 1 := h.nextRefs hfind hbound
  have hstake : d.retain.stake = d.stake := rfl
  refine h.put hfind rfl ?_ (hrefs ▸ Nat.succ_pos _)
  rw [hrefs, hstake, h.refs hfind]
  simp only [Account.total]
  omega

theorem addRefs (h : Balanced L t) (hfind : t.find? key = some d) {count : Nat}
    (hbound : (L key).total + count + d.stake < UInt32.size) :
    Balanced (L.take key count) (t.put (d.addRefs count)) := by
  have hrefs := h.refs hfind
  have hpos := h.pos hfind
  have hle : d.refs + count ≤ Dialog.maxRefs := by
    rw [Dialog.maxRefs]
    omega
  have hadd : (d.addRefs count).refs = d.refs + count := if_pos hle
  have hstake : (d.addRefs count).stake = d.stake := rfl
  refine h.put hfind rfl ?_ (by omega)
  rw [hadd, hstake, hrefs]
  simp only [Account.total]
  omega

/-- A timer that is being armed has a reference of its own. -/
theorem arm (h : Balanced L t) {e : Dialog} {milliseconds : Option Nat}
    (hfind : t.find? key = some d) (hprepare : Registry.prepareTimer d milliseconds = .ok e)
    (hbound : (L key).total + e.stake < UInt32.size) : Balanced L (t.put e) := by
  have hrefs := h.refs hfind
  obtain ⟨⟨hkey, -, -, -⟩, hnone, htimer, hrefs', hphase⟩ := Dialog.prepareTimer_eq_ok hprepare
  have hstake : e.stake = d.stake + 1 := by
    simp only [Dialog.stake, hnone, htimer, hphase, Option.isSome_none, Option.isSome_some,
      Bool.false_eq_true, if_false, if_true]
    omega
  rw [h.nextRefs hfind (by omega)] at hrefs'
  have hput := h.put (a := L key) hfind hkey (by omega) (by omega)
  rwa [set_eq_self] at hput

theorem insert (h : Balanced L t) {identity : Identity} {holders : Nat} {start : Timestamp}
    (hinsert : t.insert identity holders start = .ok (d, t'))
    (hbound : holders + 1 < UInt32.size) : Balanced (L.set d.key { holders }) t' := by
  obtain ⟨hlinks, hd⟩ := Table.insert_links hinsert
  have hle : holders + 1 ≤ Dialog.maxRefs := by
    rw [Dialog.maxRefs]
    omega
  have hrefs : d.refs = holders + 1 := by
    rw [hd]
    exact if_pos hle
  have hstake : d.stake = 1 := by
    rw [hd]
    rfl
  exact h.link hlinks (by rw [hrefs, hstake]; rfl) (by omega)

theorem restore (h : Balanced L t) {s : Snapshot} (hrestore : t.restore s = .ok (d, t'))
    (hphase : s.phase ≠ .deleted) : Balanced L t' := by
  obtain ⟨hlinks, hd⟩ := Table.restore_links hrestore
  have hstake : d.stake = 1 := by
    rw [hd]
    cases hs : s.phase <;> simp_all [Dialog.stake, Dialog.ofSnapshot, Phase.stake, Phase.isDeleted]
  have hrefs : d.refs = 1 := by rw [hd]; rfl
  have hlinked := h.link hlinks (a := {}) (by rw [hrefs, hstake]; rfl) (by omega)
  have hself : L.set d.key {} = L := by rw [← h.unlinked hlinks.fresh, set_eq_self]
  rwa [hself] at hlinked

/-- A transition moves references between the holders, the table and the caller. -/
theorem move (h : Balanced L t) (hfind : t.find? key = some d) {e : Event} {m : Transition}
    (hnext : d.phase.next? d.flags e = some m) (hown : e.returned ≤ (L key).holders)
    (hbound : m.reclaim = true → (L key).total + d.stake + 1 < UInt32.size) :
    Balanced ((L.finish key e).take key m.unref) (t.put (d.move m)) := by
  have hrefs := h.refs hfind
  have hpos := h.pos hfind
  have hconserves := Phase.next?_conserves hnext
  obtain ⟨⟨hkey, -, -, -⟩, hmoved, htimer, hphase⟩ := d.move_eq m
  have hmoved : (d.move m).refs = d.refs + if m.reclaim then 1 else 0 := by
    rw [hmoved]
    split
    next hreclaim => exact h.nextRefs hfind (hbound hreclaim)
    next => rfl
  have hstake : (d.move m).stake + d.phase.stake = d.stake + m.phase.stake := by
    simp only [Dialog.stake, htimer, hphase]
    omega
  simp only [finish, take, set_self, set_set]
  refine h.put hfind hkey ?_ (by omega)
  simp only [Account.total] at hrefs ⊢
  omega

end Balanced

end Ledger

end SipDialogs
