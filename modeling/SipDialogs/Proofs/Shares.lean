-- SUMMARY: What several owners have together, in surroundings whose observers own references too.
import SipDialogs.Proofs.Accounts
import Mathlib.Algebra.Notation.Pi.Defs

/-! # Shares

Whoever owns references on dialogs keeps a ledger of its own, and the sum of all of them accounts
for the table. Observers may take references and give them back while they are told something. As
long as they keep to their own, the shares of the others stay what they are. -/

namespace SipDialogs

/-! ## Sums of ledgers -/

instance : Add Account where
  add a b := ⟨a.holders + b.holders, a.refs + b.refs⟩

theorem Account.add_def (a b : Account) : a + b = ⟨a.holders + b.holders, a.refs + b.refs⟩ := rfl

namespace Ledger

variable {L : Ledger} {key : Key} {count : Nat}

/-- The share of whoever owns one reference on a dialog, or nothing at all. -/
def one (held : Option Key) : Ledger := fun key => if held = some key then { refs := 1 } else {}

/-- What one of several owners gives back is taken out of its own share. -/
theorem give_add (h : count ≤ (L key).refs) (M : Ledger) :
    (L + M).give key count = L.give key count + M := by
  funext k
  by_cases hk : k = key
  · subst hk
    simp [give, Account.add_def, Nat.sub_add_comm h]
  · simp [give, set_of_ne, hk]

/-- A share of one reference is given back. -/
theorem give_add_one (L : Ledger) (key : Key) : (L + one (some key)).give key 1 = L := by
  funext k
  by_cases hk : k = key
  · subst hk
    simp [give, one, Account.add_def]
  · have hother : one (some key) k = {} := if_neg fun heq => hk (Option.some.inj heq).symm
    simp [give, set_of_ne, hk, hother, Account.add_def]

/-- A reference that one owner gives to another. -/
theorem give_one_add (h : 1 ≤ (L key).refs) : L.give key 1 + one (some key) = L := by
  funext k
  by_cases hk : k = key
  · subst hk
    simp [give, one, Account.add_def, Nat.sub_add_cancel h]
  · have hother : one (some key) k = {} := if_neg fun heq => hk (Option.some.inj heq).symm
    simp [give, set_of_ne, hk, hother, Account.add_def]

/-- With what the surroundings own by now, the ledger accounts for the table. -/
def Covers (own : ε → Ledger) (L : Ledger) (r : Registry ε) : Prop :=
  (L + own r.env).Balanced r.table

end Ledger

/-! ## Surroundings that keep to their own -/

/-- Surroundings whose observers give back nothing but what they own. -/
structure Environment.Fair (own : ε → Ledger) (env : Environment ε) : Prop where
  observe : ∀ {L : Ledger} {r : Registry ε}, L.Covers own r →
    ∀ o s n, L.Covers own (env.observe o s n r).2

/-- Observers that leave the table alone own nothing. -/
theorem Environment.Calm.fair {env : Environment ε} (calm : env.Calm) :
    env.Fair fun _ _ => {} where
  observe {L r} h o s n := by
    unfold Ledger.Covers at h ⊢
    rwa [calm.observe_table]

namespace Ledger.Covers

variable {own : ε → Ledger} {env : Environment ε} {L : Ledger} {r : Registry ε} {key : Key}

theorem isLinked (h : L.Covers own r) (hpos : 0 < (L key).refs) :
    r.table.isLinked key = true := by
  unfold Table.isLinked
  cases hfind : r.table.find? key with
  | some d => rfl
  | none =>
    have hnobody : (L key + own r.env key).refs = 0 := congrArg Account.refs (h.unlinked hfind)
    rw [Account.add_def] at hnobody
    dsimp only at hnobody
    omega

theorem of_agrees {r' : Registry ε} (h : L.Covers own r) (hagrees : r.table.Agrees r'.table)
    (henv : r'.env = r.env) : L.Covers own r' := by
  unfold Covers
  rw [henv]
  exact Balanced.of_agrees h hagrees

theorem notify (h : L.Covers own r) (hfair : env.Fair own) (os : List Observer) (s : Snapshot)
    (n : Notice) : L.Covers own (r.notify env os s n).2 := by
  unfold Registry.notify
  generalize (r.observers ++ os).filter (·.wants [n.topic]) = told
  induction told generalizing n r with
  | nil => exact h
  | cons o told ih =>
    have htell : L.Covers own (Registry.tell env s (n, r) o).2 := by
      unfold Registry.tell
      dsimp only
      split
      · split <;> exact h
      · exact hfair.observe (r := r.record (.observed o s n)) h o s n
    exact ih htell _

/-- A dialog that nobody owns any longer is torn down. -/
theorem destroy (h : L.Covers own r) (hfair : env.Fair own) {d : Dialog} (htimer : d.timer = none) :
    L.Covers own (r.destroy env d) := by
  unfold Registry.destroy
  dsimp only
  rw [Registry.cancelTimer_of_none r (d := { d with version := d.version + 1 }) htimer]
  have hcounted : ∀ {r : Registry ε}, L.Covers own r → L.Covers own
      { r with
        profiles := r.profiles.removeMembers d.links
        table := r.table.countDestroyed } := fun h =>
    Balanced.count h fun c => { c with destroyed := c.destroyed + 1 }
  split
  · exact hcounted (h.notify hfair _ _ _)
  · exact hcounted h

/-- Whoever owns references may give them back. -/
theorem release (h : L.Covers own r) (hfair : env.Fair own) {count : Nat}
    (hle : count ≤ (L key).refs) : (L.give key count).Covers own (r.release env key count) := by
  have hall : count ≤ ((L + own r.env) key).refs := Nat.le_add_right_of_le hle
  have hreleased := Balanced.released h hall
  rw [give_add hle] at hreleased
  unfold Registry.release
  rcases Balanced.released_cases h hall with
    ⟨rfl, heq⟩ | ⟨d, -, -, -, hrelease, heq⟩ | ⟨d, -, hstake, -, hrelease, heq⟩
  · exact hreleased
  · rw [hrelease]
    rwa [heq] at hreleased
  · rw [hrelease]
    rw [heq] at hreleased
    have hunlinked : (L.give key count).Covers own { r with table := r.table.erase key } :=
      ⟨hreleased.wf, hreleased.refs, hreleased.pos, hreleased.unlinked⟩
    exact hunlinked.destroy hfair (d.stake_eq_zero_iff.1 hstake).1

theorem attach (h : L.Covers own r) (key : Key) (profile : String) (value : Option String) :
    L.Covers own (r.attach key profile value).2 := by
  refine h.of_agrees (Registry.attach_agrees h.wf key profile value) ?_
  unfold Registry.attach
  repeat' split
  all_goals rfl

theorem detach (h : L.Covers own r) (key : Key) (profile : String) (value : Option String) :
    L.Covers own (r.detach key profile value).2 := by
  refine h.of_agrees (Registry.detach_agrees h.wf key profile value) ?_
  unfold Registry.detach
  repeat' split
  all_goals rfl

end Ledger.Covers

end SipDialogs
