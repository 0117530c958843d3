-- SUMMARY: Every dialog that is linked ends at most once, with its last reference.
import SipDialogs.Proofs.Runs

/-! # The ends of dialogs

A dialog is unlinked at the moment when its last reference is given back, whichever operation gave
it back, and nobody knows it from then on. It is in limbo until its observers have heard of it and
it has been torn down, so at every moment the table has created what it has destroyed, what is
linked and what is in limbo. -/

namespace SipDialogs

/-! ## Counting -/

namespace Moment

/-- Whether a dialog is linked under this key. -/
def links (key : Key) (m : Moment) : Bool := m.linked?.any fun d => d.key == key

/-- Whether the dialog under this key is unlinked. -/
def ends (key : Key) (m : Moment) : Bool := m.ended?.any fun d => d.key == key

/-- Whether the dialog that had this key is torn down. -/
def buries (key : Key) (m : Moment) : Bool := m.buried?.any fun d => d.key == key

end Moment

/-- How often the dialog under a key was unlinked. -/
def endings (key : Key) (ms : List Moment) : Nat := ms.countP (·.ends key)

/-- How often a dialog that had a key was torn down. -/
def burials (key : Key) (ms : List Moment) : Nat := ms.countP (·.buries key)

namespace Step

variable {c c' : Scene ε} {m : Moment}

/-- A linked dialog is unlinked exactly when references are given back and none is left. -/
theorem unlinks_iff (h : Step c m c') {key : Key} {d : Dialog}
    (hd : c.registry.table.find? key = some d) (hwf : c.registry.table.Wf) :
    c'.registry.table.find? key = none ↔ ∃ count, m = .released d count ∧ d.refs - count = 0 := by
  obtain rfl : d.key = key := hwf.key_of_find? hd
  constructor
  · intro hnone
    by_cases hkey : m.key? = some d.key
    case neg =>
      rw [h.find?_of_ne hkey, hd] at hnone
      cases hnone
    rw [h.find?_of_key hkey] at hnone
    cases m with
    | released e count =>
      have he := h.found (d := e) rfl
      rw [Option.some.inj hkey, hd] at he
      cases he
      simp only [Moment.after?] at hnone
      split at hnone
      next hle => exact ⟨count, rfl, Nat.sub_eq_zero_of_le hle⟩
      next => cases hnone
    | aside | heard | buried => cases hkey
    | _ => cases hnone
  · rintro ⟨count, rfl, hzero⟩
    rw [h.find?_of_key rfl, Moment.after?, if_pos (Nat.sub_eq_zero_iff_le.1 hzero)]

/-- Whoever is unlinked goes to limbo, and stays there until torn down. -/
theorem limbo (h : Step c m c') (key : Key) :
    c.limbo.countP (·.key == key) + (if m.ends key then 1 else 0)
      = c'.limbo.countP (·.key == key) + (if m.buries key then 1 else 0) := by
  cases h with
  | unlink h hpos hle =>
    simp [Moment.ends, Moment.ended?, Moment.buries, Moment.buried?, hle, List.countP_cons,
      Dialog.unowned]
  | giveBack h hpos hlt =>
    simp [Moment.ends, Moment.ended?, Moment.buries, Moment.buried?, Nat.not_le.2 hlt]
  | bury r d =>
    simp [Moment.ends, Moment.ended?, Moment.buries, Moment.buried?, List.countP_cons]
  | _ => rfl

end Step

namespace Path

variable {c c' : Scene ε} {ms : List Moment}

theorem limbo (h : Path c ms c') (key : Key) :
    c.limbo.countP (·.key == key) + endings key ms
      = c'.limbo.countP (·.key == key) + burials key ms := by
  induction h with
  | nil => rfl
  | cons hstep _ ih =>
    have hfirst := hstep.limbo key
    unfold endings burials at ih ⊢
    rw [List.countP_cons, List.countP_cons]
    omega

end Path

/-! ## Counts -/

/-- Where one reference is added to a dialog, it can be counted. -/
def Moment.Counts : Moment → Prop
  | revised d e => e.refs = d.nextRefs → d.refs < Dialog.maxRefs
  | moved d _ m _ => m.reclaim = true → d.refs < Dialog.maxRefs
  | _ => True

/-- Every dialog that is linked has a reference. -/
def Table.Counted (t : Table) : Prop := ∀ key d, t.find? key = some d → 0 < d.refs

/-- A count that can be raised does not start over. -/
theorem Dialog.Revision.refs_pos {d e : Dialog} (h : d.Revision e)
    (hcounts : (Moment.revised d e).Counts) (hpos : 0 < d.refs) : 0 < e.refs := by
  have hnext : e.refs = d.nextRefs → 0 < e.refs := fun heq => by
    rw [heq, Dialog.nextRefs_of_lt (hcounts heq)]
    exact Nat.succ_pos _
  cases h with
  | addRefs count =>
    unfold Dialog.addRefs
    dsimp only
    split
    · exact Nat.add_pos_left hpos _
    · decide
  | retain => exact hnext rfl
  | setLegInfo h =>
    rw [(Dialog.setLegInfo_eq_ok h).2.1]
    exact hpos
  | updateCseq side cseq => cases side <;> exact hpos
  | prepareTimer h => exact hnext (Dialog.prepareTimer_eq_ok h).2.2.2.1
  | setTimer | setLinks => exact hpos

/-- What a dialog comes to at a moment has references if it had, as long as they can be counted. -/
theorem Step.refs_pos {c c' : Scene ε} {m : Moment} (h : Step c m c') (hcounts : m.Counts)
    (hcounted : c.registry.table.Counted) : c'.registry.table.Counted := by
  intro key e he
  by_cases hkey : m.key? = some key
  case neg => exact hcounted key e ((h.find?_of_ne hkey).symm.trans he)
  have hafter := (h.find?_of_key hkey).symm.trans he
  cases h with
  | insert h =>
    cases hafter
    exact ((Step.insert h []).of_linked rfl).2.2.2.1
  | restore h =>
    cases hafter
    exact ((Step.restore h []).of_linked rfl).2.2.2.1
  | revise h hrevision =>
    cases hafter
    exact hrevision.refs_pos hcounts (hcounted _ _ h)
  | @hand r d h =>
    cases hafter
    exact hcounted d.key d h
  | @attend r d h =>
    cases hafter
    exact hcounted d.key d h
  | @move r d h event m =>
    cases hafter
    rw [(d.move_retains m).2.2.2.2.2.2]
    split
    next hreclaim =>
      rw [Dialog.nextRefs_of_lt (hcounts hreclaim)]
      exact Nat.succ_pos _
    next => exact hcounted _ _ h
  | giveBack h hpos hlt =>
    rw [Moment.after?, if_neg (Nat.not_le.2 hlt)] at hafter
    cases hafter
    exact Nat.sub_pos_of_lt hlt
  | unlink h hpos hle =>
    rw [Moment.after?, if_pos hle] at hafter
    cases hafter
  | _ => cases hkey

theorem Path.refs_pos {c c' : Scene ε} {ms : List Moment} (h : Path c ms c')
    (hcounts : ∀ m ∈ ms, m.Counts) (hcounted : c.registry.table.Counted) :
    c'.registry.table.Counted := by
  induction h with
  | nil => exact hcounted
  | cons hstep _ ih =>
    obtain ⟨hfirst, hrest⟩ := List.forall_mem_cons.1 hcounts
    exact ih hrest (hstep.refs_pos hfirst hcounted)

theorem Moment.news?_of_ended {m : Moment} {d : Dialog} (h : m.ended? = some d) :
    m.news? = some (d.lastSnapshot, .destroyed) ∧ m.audience = d.observers := by
  cases m with
  | released e count =>
    simp only [ended?] at h
    split at h
    next hle =>
      cases h
      exact ⟨if_pos hle, rfl⟩
    · cases h
  | _ => cases h

namespace Registry

end Registry

end SipDialogs
