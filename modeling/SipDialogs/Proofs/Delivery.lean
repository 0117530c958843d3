-- SUMMARY: Writes that reach the store in any order, and what is stored in the end.
import SipDialogs.Proofs.Operation
import SipDialogs.Proofs.Ordered
import SipDialogs.Node
import Mathlib.Data.List.Basic
import Mathlib.Data.List.Pairwise
import Mathlib.Data.List.Perm.Basic

/-! # Delivery of writes

The writes of one dialog may reach the worker in any order, and the registry moves on between
them. Versions keep the late ones out: while the dialog stays linked the newest write wins, and
once it is destroyed nothing of it is stored. -/

namespace SipDialogs

/-! ## Finite maps -/

namespace Assoc

variable {κ α : Type} [DecidableEq κ]

theorem get?_erase (m : Assoc κ α) (k k' : κ) :
    (m.erase k).get? k' = if k' = k then none else m.get? k' := by
  simp only [get?, erase, List.find?_filter]
  by_cases h : k' = k
  · simp [h]
  · rw [if_neg h]
    congr 2
    funext e
    by_cases he : e.1 = k'
    · simp [he, h]
    · simp [he]

theorem get?_set (m : Assoc κ α) (k k' : κ) (a : α) :
    (m.set k a).get? k' = if k' = k then some a else m.get? k' := by
  by_cases h : k' = k
  · simp [get?, set, h]
  · have hne : (k == k') = false := beq_false_of_ne fun heq => h heq.symm
    have herase : (m.erase k).get? k' = m.get? k' := by rw [get?_erase, if_neg h]
    rw [if_neg h, ← herase]
    simp only [get?, set, List.find?_cons, hne]

end Assoc

/-! ## Stores -/

/-- What a write leaves under its key. -/
def Write.effect : Write → Option Record
  | .save record _ => some record
  | .remove _ _ _ => none

/-- Whether a write is the removal of a destroyed dialog. -/
def Write.isFinal : Write → Bool
  | .save _ _ => false
  | .remove _ _ destroyed => destroyed

theorem Store.get?_put (s : Store) (record : Record) (k : Key) :
    (s.put record).get? k = if k = record.key then some record else s.get? k :=
  Ordered.find?_insert Record.key Ordered.isStrict_key record s.records k

theorem Store.get?_erase (s : Store) (key k : Key) :
    (s.erase key).get? k = if k = key then none else s.get? k := by
  simp only [get?, erase, List.find?_filter]
  by_cases h : k = key
  · simp [h]
  · rw [if_neg h]
    congr 1
    funext record
    by_cases hr : record.key = k
    · simp [hr, h]
    · simp [hr]

/-- A write changes what is stored under its own key only. -/
theorem Store.get?_write (s : Store) (w : Write) (k : Key) :
    (s.write w).get? k = if k = w.key then w.effect else s.get? k := by
  cases w with
  | save record version => exact s.get?_put record k
  | remove key version destroyed => exact s.get?_erase key k

/-! ## One write

A worker whose store does not fail carries every write that it accepts. -/

/-- A store that does what it is asked for. -/
def Environment.Stores (env : Environment ε) : Prop := ∀ c r, (env.store c r).1 = .done

namespace Versions

/-- The removal of a destroyed dialog is always let through. -/
theorem accept_final (v : Versions) (linked : Bool) {w : Write} (h : w.isFinal = true) :
    (v.accept linked w).1 = true := by
  cases w with
  | save record version => cases h
  | remove key version destroyed =>
    obtain rfl : destroyed = true := h
    rfl

/-- A save is not let through once its dialog is unlinked. -/
theorem accept_save_unlinked (v : Versions) (record : Record) (version : Nat) :
    (v.accept false (.save record version)).1 = false := rfl

/-- While its dialog is linked, a write is let through unless it is stale, and its version is
remembered. -/
theorem accept_linked (v : Versions) {w : Write} (h : w.isFinal = false) :
    v.accept true w = if v.isStale w then (false, v) else (true, v.set w.key w.version) := by
  cases w with
  | save record version => rfl
  | remove key version destroyed =>
    obtain rfl : destroyed = false := h
    rfl

end Versions

namespace Node

variable {env : Environment ε}

theorem carry_applied (w : Write) (worker : Worker) (n : Node ε) :
    (carry env w worker n).1.applied
      = (worker.applied.accept (n.registry.table.isLinked w.key) w).2 := by
  unfold carry
  dsimp only
  split
  · split <;> rfl
  · rfl

/-- The store changes if the write is let through and the store does it. -/
theorem carry_store_cases (env : Environment ε) (w : Write) (worker : Worker) (n : Node ε) :
    (carry env w worker n).2.store
      = if (worker.applied.accept (n.registry.table.isLinked w.key) w).1 = true ∧
            (n.callStore env w.call).1 = .done then n.store.write w
        else n.store := by
  have hstore : (n.callStore env w.call).2.store = n.store := rfl
  unfold carry
  dsimp only
  split
  next haccepted =>
    generalize n.callStore env w.call = called at hstore ⊢
    obtain ⟨outcome, m⟩ := called
    dsimp only at hstore
    cases outcome <;> simp [haccepted, hstore]
  next hrefused => rw [if_neg fun h => hrefused h.1]

theorem carry_store (henv : env.Stores) (w : Write) (worker : Worker) (n : Node ε) :
    (carry env w worker n).2.store
      = if (worker.applied.accept (n.registry.table.isLinked w.key) w).1 then n.store.write w
        else n.store := by
  have hdone : (n.callStore env w.call).1 = .done := henv ..
  rw [carry_store_cases]
  simp only [hdone, and_true]

theorem carry_alive (henv : env.Stores) (w : Write) (worker : Worker) (n : Node ε) :
    (carry env w worker n).1.alive = worker.alive := by
  have hdone : (n.callStore env w.call).1 = .done := henv ..
  unfold carry
  dsimp only
  split
  · generalize n.callStore env w.call = called at hdone
    obtain ⟨outcome, m⟩ := called
    obtain rfl : outcome = .done := hdone
    rfl
  · rfl

/-- Records of other dialogs are left alone, also by a store that fails. -/
theorem carry_get?_of_ne {w : Write} (worker : Worker) (n : Node ε) {k : Key}
    (hne : k ≠ w.key) : (carry env w worker n).2.store.get? k = n.store.get? k := by
  rw [carry_store_cases]
  split
  · rw [Store.get?_write, if_neg hne]
  · rfl

end Node

/-! ## Arrivals

Between two writes anything may happen to the registry, so each write arrives with the registry as
it is by then. -/

namespace Node

variable {env : Environment ε}

/-- Carries writes as they arrive. -/
def deliver (env : Environment ε) :
    List (Registry ε × Write) → Worker → Node ε → Worker × Node ε
  | [], worker, n => (worker, n)
  | (r, w) :: arrivals, worker, n =>
    let (worker, n) := carry env w worker { n with registry := r }
    deliver env arrivals worker n

theorem deliver_append (before after : List (Registry ε × Write)) (worker : Worker)
    (n : Node ε) :
    deliver env (before ++ after) worker n
      = deliver env after (deliver env before worker n).1 (deliver env before worker n).2 := by
  induction before generalizing worker n with
  | nil => rfl
  | cons arrival before ih => exact ih ..

/-- What a worker carries in a row arrives with the registries that the store leaves behind. -/
theorem carryAll_eq_deliver (henv : env.Stores) (ws : List Write) (worker : Worker) (n : Node ε)
    (halive : worker.alive = true) :
    ∃ arrivals, arrivals.map (·.2) = ws ∧
      carryAll env ws worker n = deliver env arrivals worker n := by
  induction ws generalizing worker n with
  | nil => exact ⟨[], rfl, rfl⟩
  | cons w ws ih =>
    have hcarry : (carry env w worker n).1.alive = true := by rw [carry_alive henv, halive]
    obtain ⟨arrivals, hws, harrivals⟩ := ih (carry env w worker n).1 (carry env w worker n).2 hcarry
    refine ⟨(n.registry, w) :: arrivals, by simp [hws], ?_⟩
    rw [carryAll, deliver]
    dsimp only
    simp [if_pos hcarry, harrivals]

/-- Writes of one dialog leave the records of the others alone. -/
theorem deliver_get?_of_ne {key k : Key} (hne : k ≠ key)
    {arrivals : List (Registry ε × Write)} (hkey : ∀ a ∈ arrivals, a.2.key = key)
    (worker : Worker) (n : Node ε) :
    (deliver env arrivals worker n).2.store.get? k = n.store.get? k := by
  induction arrivals generalizing worker n with
  | nil => rfl
  | cons arrival arrivals ih =>
    obtain ⟨r, w⟩ := arrival
    have hw : k ≠ w.key := by
      rw [hkey (r, w) (by simp)]
      exact hne
    calc (deliver env ((r, w) :: arrivals) worker n).2.store.get? k
        = (carry env w worker { n with registry := r }).2.store.get? k :=
          ih (fun a ha => hkey a (by simp [ha])) ..
      _ = n.store.get? k := carry_get?_of_ne worker { n with registry := r } hw

/-! ### After destruction -/

/-- No write stores a record of a dialog that is unlinked. -/
theorem carry_get?_unlinked (henv : env.Stores) {key : Key} {w : Write} {n : Node ε}
    (hlinked : n.registry.table.isLinked key = false) (hnone : n.store.get? key = none)
    (worker : Worker) : (carry env w worker n).2.store.get? key = none := by
  by_cases hkey : key = w.key
  · subst hkey
    rw [carry_store henv, hlinked]
    cases w with
    | save record version =>
      rw [if_neg (by simp [Versions.accept_save_unlinked])]
      exact hnone
    | remove key version destroyed =>
      split
      · rw [Store.get?_write, if_pos rfl]
        rfl
      · exact hnone
  · rw [carry_get?_of_ne worker n hkey]
    exact hnone

theorem deliver_get?_unlinked (henv : env.Stores) {key : Key}
    {arrivals : List (Registry ε × Write)}
    (hlinked : ∀ a ∈ arrivals, a.1.table.isLinked key = false) {n : Node ε}
    (hnone : n.store.get? key = none) (worker : Worker) :
    (deliver env arrivals worker n).2.store.get? key = none := by
  induction arrivals generalizing worker n with
  | nil => exact hnone
  | cons arrival arrivals ih =>
    obtain ⟨r, w⟩ := arrival
    refine ih (fun a ha => hlinked a (by simp [ha])) ?_ _
    exact carry_get?_unlinked henv (n := { n with registry := r }) (hlinked (r, w) (by simp))
      hnone worker

theorem carry_get?_final (henv : env.Stores) (key : Key) (version : Nat) (worker : Worker)
    (n : Node ε) :
    (carry env (.remove key version true) worker n).2.store.get? key = none := by
  rw [carry_store henv, if_pos (Versions.accept_final _ _ rfl), Store.get?_write]
  exact if_pos rfl

/-- The removal of a destroyed dialog is the end of it, whatever came before and whatever comes
after. -/
theorem deliver_get?_final (henv : env.Stores) {key : Key} {version : Nat}
    {before after : List (Registry ε × Write)} {r : Registry ε}
    (hlinked : ∀ a ∈ after, a.1.table.isLinked key = false) (worker : Worker) (n : Node ε) :
    (deliver env (before ++ (r, .remove key version true) :: after) worker n).2.store.get? key
      = none := by
  rw [deliver_append]
  exact deliver_get?_unlinked henv hlinked (carry_get?_final henv key version ..) _

/-! ### While the dialog is linked -/

/-- What holds once `done` has been carried for a linked dialog: the newest of it is remembered and
stored. -/
def Settled (key : Key) (done : List Write) (applied : Versions) (store : Store) : Prop :=
  done = [] ∧ applied.get? key = none ∨
  ∃ newest ∈ done, (∀ w ∈ done, w.version ≤ newest.version) ∧
    applied.get? key = some newest.version ∧ store.get? key = newest.effect

theorem Settled.carry (henv : env.Stores) {key : Key} {done : List Write} {worker : Worker}
    {n : Node ε} {w : Write} (h : Settled key done worker.applied n.store) (hkey : w.key = key)
    (hfinal : w.isFinal = false) (hlinked : n.registry.table.isLinked key = true) :
    Settled key (w :: done) (carry env w worker n).1.applied
      (carry env w worker n).2.store := by
  subst hkey
  rw [carry_applied, carry_store henv, hlinked, Versions.accept_linked _ hfinal]
  rcases h with ⟨rfl, hnone⟩ | ⟨newest, hmem, hmax, happlied, hstore⟩
  · refine .inr ⟨w, by simp, by simp, ?_⟩
    simp [Versions.isStale, hnone, Assoc.get?_set, Store.get?_write]
  · by_cases hstale : w.version < newest.version
    · refine .inr ⟨newest, by simp [hmem], ?_, ?_⟩
      · intro q hq
        rcases List.mem_cons.1 hq with rfl | hq
        · exact Nat.le_of_lt hstale
        · exact hmax q hq
      · simp [Versions.isStale, happlied, hstale, hstore]
    · refine .inr ⟨w, by simp, ?_, ?_⟩
      · intro q hq
        rcases List.mem_cons.1 hq with rfl | hq
        · exact Nat.le_refl _
        · exact Nat.le_trans (hmax q hq) (Nat.le_of_not_lt hstale)
      · simp [Versions.isStale, happlied, hstale, Assoc.get?_set, Store.get?_write]

theorem Settled.deliver (henv : env.Stores) {key : Key} {arrivals : List (Registry ε × Write)}
    (hkey : ∀ a ∈ arrivals, a.2.key = key) (hfinal : ∀ a ∈ arrivals, a.2.isFinal = false)
    (hlinked : ∀ a ∈ arrivals, a.1.table.isLinked key = true) {done : List Write}
    {worker : Worker} {n : Node ε} (h : Settled key done worker.applied n.store) :
    Settled key ((arrivals.map (·.2)).reverse ++ done)
      (deliver env arrivals worker n).1.applied (deliver env arrivals worker n).2.store := by
  induction arrivals generalizing done worker n with
  | nil => exact h
  | cons arrival arrivals ih =>
    obtain ⟨r, w⟩ := arrival
    have hstep := Settled.carry henv (n := { n with registry := r }) h (hkey (r, w) (by simp))
      (hfinal (r, w) (by simp)) (hlinked (r, w) (by simp))
    have hrest := ih (fun a ha => hkey a (by simp [ha])) (fun a ha => hfinal a (by simp [ha]))
      (fun a ha => hlinked a (by simp [ha])) hstep
    rw [List.map_cons, List.reverse_cons, List.append_assoc]
    exact hrest

end Node

/-! ## Lives

What is told of a dialog during one linked life queues its writes. Their versions are distinct,
except for the removal at its end. -/

/-- The writes that a realtime worker is left, one for each notice that asks for one. -/
def queued (life : List (Snapshot × Notice)) : List Write :=
  life.filterMap fun told => Write.ofNotice? true told.1 told.2

/-- Notices of one dialog, as they are given while it is linked once. -/
structure Life (key : Key) (life : List (Snapshot × Notice)) : Prop where
  key : ∀ told ∈ life, told.1.key = key
  versions : (queued life).Pairwise fun w q =>
    w.isFinal = false → q.isFinal = false → w.version ≠ q.version

theorem Write.key_of_ofNotice? {realtime : Bool} {s : Snapshot} {n : Notice} {w : Write}
    (h : Write.ofNotice? realtime s n = some w) : w.key = s.key := by
  cases n with
  | created =>
    simp only [ofNotice?] at h
    split at h <;> cases h
    rfl
  | stateChanged old new event =>
    simp only [ofNotice?] at h
    split at h <;> cases h
    split <;> rfl
  | destroyed =>
    cases h
    rfl
  | introspect context => cases h

theorem Life.key_of_queued {key : Key} {life : List (Snapshot × Notice)} (h : Life key life)
    {w : Write} (hw : w ∈ queued life) : w.key = key := by
  obtain ⟨told, htold, hnotice⟩ := List.mem_filterMap.1 hw
  rw [Write.key_of_ofNotice? hnotice]
  exact h.key told htold

/-- Two writes of a life that is not over are told apart by their versions. -/
theorem Life.eq_of_version {key : Key} {life : List (Snapshot × Notice)} (h : Life key life)
    {w q : Write} (hw : w ∈ queued life) (hq : q ∈ queued life) (hwf : w.isFinal = false)
    (hqf : q.isFinal = false) (hversion : w.version = q.version) : w = q := by
  have hsymm : Std.Symm fun w q : Write =>
      w.isFinal = false → q.isFinal = false → w.version ≠ q.version :=
    ⟨fun _ _ hne hqf hwf heq => hne hwf hqf heq.symm⟩
  by_contra hne
  exact h.versions.forall hw hq hne hwf hqf hversion

/-- The order of arrival makes no difference. While the dialog stays linked and is not destroyed,
what is stored in the end is the effect of the newest write; once its removal has been carried and
it stays unlinked, nothing is. Records of other dialogs are never touched. -/
theorem Node.deliver_queued {env : Environment ε} (henv : env.Stores) {key : Key}
    {life : List (Snapshot × Notice)} (hlife : Life key life)
    {arrivals : List (Registry ε × Write)} (hperm : (arrivals.map (·.2)).Perm (queued life))
    {worker : Worker} (hfresh : worker.applied.get? key = none) (n : Node ε) :
    ((∀ a ∈ arrivals, a.1.table.isLinked key = true) → (∀ w ∈ queued life, w.isFinal = false) →
      ∀ newest ∈ queued life, (∀ w ∈ queued life, w.version ≤ newest.version) →
        (deliver env arrivals worker n).2.store.get? key = newest.effect) ∧
    (∀ before r version after, arrivals = before ++ (r, .remove key version true) :: after →
      (∀ a ∈ (r, .remove key version true) :: after, a.1.table.isLinked key = false) →
        (deliver env arrivals worker n).2.store.get? key = none) ∧
    ∀ k, k ≠ key → (deliver env arrivals worker n).2.store.get? k = n.store.get? k := by
  have hqueued : ∀ a ∈ arrivals, a.2 ∈ queued life := fun a ha =>
    hperm.mem_iff.1 (List.mem_map_of_mem ha)
  have hkey : ∀ a ∈ arrivals, a.2.key = key := fun a ha => hlife.key_of_queued (hqueued a ha)
  refine ⟨?_, ?_, ?_⟩
  · intro hlinked hfinal newest hnewest hmax
    have hstart : Settled key [] worker.applied n.store := .inl ⟨rfl, hfresh⟩
    have hsettled := hstart.deliver henv hkey (fun a ha => hfinal a.2 (hqueued a ha)) hlinked
    have hdone : ∀ w, w ∈ (arrivals.map (·.2)).reverse ++ [] ↔ w ∈ queued life := fun w => by
      simp [List.append_nil, List.mem_reverse, hperm.mem_iff]
    rcases hsettled with ⟨hnil, -⟩ | ⟨w, hw, hwmax, -, hstore⟩
    · have hmem := (hdone newest).2 hnewest
      rw [hnil] at hmem
      cases hmem
    · have hw := (hdone w).1 hw
      have hle := hwmax newest ((hdone newest).2 hnewest)
      have heq : w = newest := hlife.eq_of_version hw hnewest (hfinal w hw)
        (hfinal newest hnewest) (Nat.le_antisymm (hmax w hw) hle)
      simp [hstore, heq]
  · rintro before r version after rfl hlinked
    exact deliver_get?_final henv (fun a ha => hlinked a (by simp [ha])) worker n
  · intro k hne
    exact deliver_get?_of_ne hne hkey worker n

/-! A save that comes late, before the end of its dialog and after it. -/

/-- A dialog that saw a final response, as it is after `version` changes. -/
def answeredDialog (version : Nat) : Dialog where
  key := ⟨0, 0⟩
  callId := "call"
  fromUri := "sip:a"
  toUri := "sip:b"
  phase := if version = 0 then .unconfirmed else .confirmedNa
  refs := 1
  start := .epoch
  timeout := 60
  version := version

/-- A registry of one bucket with these dialogs. -/
def oneBucket (dialogs : List Dialog) : Registry Unit :=
  { Registry.blank with
    table := { Registry.blank.table with stripes := ⟨#[#[{ dialogs, nextId := 1 }]]⟩ } }

/-- What is told of the dialog up to its answer. -/
def answeredLife : List (Snapshot × Notice) :=
  [((answeredDialog 0).snapshot, .created),
    ((answeredDialog 1).snapshot, .stateChanged .unconfirmed .confirmedNa .successResponse)]

/-- What is told of the dialog up to its end. -/
def endedLife : List (Snapshot × Notice) :=
  answeredLife ++ [((answeredDialog 2).snapshot, .destroyed)]

theorem Node.deliver_queued_late :
    let created := Write.ofSnapshot (answeredDialog 0).snapshot
    let answered := Write.ofSnapshot (answeredDialog 1).snapshot
    let linked := oneBucket [answeredDialog 1]
    let unlinked := oneBucket []
    let worker : Worker := { mailbox := 0, mode := .realtime, period := 1, due := 1 }
    (deliver .quiet [(linked, answered), (linked, created)] worker
        { registry := linked }).2.store.get? ⟨0, 0⟩ = answered.effect ∧
      (deliver .quiet [(linked, answered), (unlinked, .remove ⟨0, 0⟩ 2 true), (unlinked, created)]
        worker { registry := linked }).2.store.get? ⟨0, 0⟩ = none := by
  intro created answered linked unlinked worker
  constructor
  · have hlife : Life ⟨0, 0⟩ answeredLife := ⟨by decide, by decide⟩
    have hperm : ([(linked, answered), (linked, created)].map (·.2)).Perm
        (queued answeredLife) := .swap created answered []
    refine (deliver_queued (fun _ _ => rfl) hlife hperm rfl { registry := linked }).1 ?_ ?_
      answered ?_ ?_
    · decide
    · decide
    · decide
    · decide
  · have hlife : Life ⟨0, 0⟩ endedLife := ⟨by decide, by decide⟩
    have hperm : ([(linked, answered), (unlinked, .remove ⟨0, 0⟩ 2 true), (unlinked, created)].map
        (·.2)).Perm (queued endedLife) := by decide
    exact (deliver_queued (fun _ _ => rfl) hlife hperm rfl { registry := linked }).2.1
      [(linked, answered)] unlinked 2 [(unlinked, created)] rfl (by decide)

end SipDialogs
