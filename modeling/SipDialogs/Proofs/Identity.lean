-- SUMMARY: A dialog is found by its Call-ID and tags, whichever side asks.
import SipDialogs.Proofs.Runs
import SipDialogs.Proofs.Lingering

/-! # Lookups by identity

A dialog stays in the bucket that its Call-ID and its caller's tag picked when it was new. A request
from the caller names that tag first, one from the callee names it second, so two buckets are
enough to search. The dialog that is found gets a reference, and its count of them starts over once
it is full. -/

namespace SipDialogs

/-! ## Matching dialogs -/

/-- Whether a dialog has this Call-ID and these tags, in either orientation. -/
def Dialog.Matches (d : Dialog) (callId fromTag toTag : String) : Prop :=
  d.callId = callId ∧ (d.caller.tag = fromTag ∧ d.callee.tag = toTag ∨
    d.caller.tag = toTag ∧ d.callee.tag = fromTag)

instance (d : Dialog) (callId fromTag toTag : String) :
    Decidable (d.Matches callId fromTag toTag) :=
  inferInstanceAs (Decidable (_ ∧ _))

namespace Dialog

variable {d : Dialog} {callId fromTag toTag : String}

theorem Matches.symm (h : d.Matches callId fromTag toTag) : d.Matches callId toTag fromTag :=
  ⟨h.1, h.2.symm⟩

theorem isMatch_iff : d.isMatch callId fromTag toTag = true ↔ d.Matches callId fromTag toTag := by
  unfold isMatch direction? Matches
  by_cases hid : d.callId = callId
  · rw [if_neg (not_not_intro hid)]
    split
    next hfrom => simp [hid, hfrom]
    next hfrom =>
      split
      next hto => simp [hid, hto]
      next hto =>
        simp only [Option.isSome_none, Bool.false_eq_true, hid, true_and, false_iff, not_or]
        exact ⟨fun h => hfrom ⟨h.1.symm, h.2.symm⟩, fun h => hto ⟨h.2.symm, h.1.symm⟩⟩
  · simp [hid]

end Dialog

/-! ## Dialogs at home -/

namespace Table

variable {t : Table} {callId fromTag toTag : String} {n : UInt32}

/-- Every dialog is in the bucket that its Call-ID and its caller's tag pick. -/
def Homed (t : Table) : Prop :=
  ∀ key d, t.find? key = some d → key.bucket = t.home d.callId d.caller.tag

theorem Wf.mem_dialogsAt (h : t.Wf) {d : Dialog} :
    d ∈ t.dialogsAt n ↔ t.find? d.key = some d ∧ d.key.bucket = n := by
  constructor
  · intro hd
    refine ⟨?_, h.bucket_of_mem_dialogsAt hd⟩
    unfold dialogsAt at hd
    cases hb : t.bucket? n with
    | none =>
      rw [hb] at hd
      cases hd
    | some b =>
      rw [hb] at hd
      exact h.find?_of_mem_bucket hb hd
  · rintro ⟨hfind, rfl⟩
    obtain ⟨b, hb, hfound⟩ := Option.bind_eq_some_iff.1 hfind
    unfold dialogsAt
    rw [hb]
    exact List.mem_of_find?_eq_some hfound

/-- The same table, but for the count of references on dialog `d`. That is one more, except where a
word has no room for it. -/
structure Retains (t : Table) (d : Dialog) (t' : Table) : Prop where
  find? : ∀ key, t'.find? key
    = if key = d.key then some { d with refs := (d.refs + 1) % UInt32.size } else t.find? key
  one_iff : (d.refs + 1) % UInt32.size = d.refs + 1 ↔ d.refs < Dialog.maxRefs
  nextId : ∀ n, (t'.bucket? n).map (·.nextId) = (t.bucket? n).map (·.nextId)
  size : t'.size = t.size
  defaultTimeout : t'.defaultTimeout = t.defaultTimeout
  counters : t'.counters = t.counters

end Table

/-! ## Runs without restored dialogs -/

/-- Anything may happen, but no dialog is restored. -/
def Conduct.unrestored : Conduct := { restores := false, silences := true, callsBack := true }

/-- Whatever happens to a dialog, it stays where it was linked. -/
theorem Step.homed {c c' : Scene ε} {m : Moment} (h : Step c m c')
    (hm : m.fits .unrestored) (hhomed : c.registry.table.Homed) :
    c'.registry.table.Homed := by
  intro key e hfind
  have hhome : ∀ callId tag,
      c'.registry.table.home callId tag = c.registry.table.home callId tag := by
    intro callId tag
    unfold Table.home
    rw [h.size]
  rw [hhome]
  rcases h.origin hfind with hsame | ⟨hlinked, rfl⟩ | ⟨d, hd, hgoes⟩
  · exact hhomed key e hsame
  · cases h with
    | insert h =>
      cases hlinked
      obtain ⟨-, hd⟩ := Table.insert_links h
      obtain ⟨-, -, hbucket⟩ := Table.insert_enters h
      rw [hbucket, hd]
      rfl
    | restore => cases hm.restores
    | _ => cases hlinked
  · rw [hgoes.callId, hgoes.callerTag]
    exact hhomed key d hd

theorem Path.homed {c c' : Scene ε} {ms : List Moment} (h : Path c ms c')
    (hms : ∀ m ∈ ms, m.fits .unrestored) (hhomed : c.registry.table.Homed) :
    c'.registry.table.Homed := by
  induction h with
  | nil => exact hhomed
  | cons hstep _ ih =>
    obtain ⟨hm, hms⟩ := List.forall_mem_cons.1 hms
    exact ih hms (hstep.homed hm hhomed)

namespace Registry

variable {r : Registry ε}

theorem Grown.homed (h : r.Grown .unrestored) : r.table.Homed := by
  obtain ⟨config, clock, hasTimer, e, r₀, hcreate, hruns⟩ := h
  have hproceeds : r₀.Proceeds .unrestored [] r := hruns.proceeds (create_sound hcreate)
  obtain ⟨ms, hms⟩ := hproceeds
  refine hms.path.homed hms.fits fun key d hd => ?_
  rw [Table.find?_create (create_eq_ok hcreate).1] at hd
  cases hd

end Registry

end SipDialogs
