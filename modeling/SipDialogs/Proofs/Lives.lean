-- SUMMARY: What a dialog can live through between the moments when it is linked and unlinked.
import SipDialogs.Proofs.Endings

/-! # Lives

From the moment when it is linked to the moment when it is unlinked, a dialog is changed by one
moment after another. Phases and the BYE flag together make up six stages, and every change of phase
leads on to a later one: no life has more than five of them, and a dialog that a BYE has ended has
no stage left to go to. -/

namespace SipDialogs

/-! ## Going through moments -/

namespace Dialog

/-- What one moment makes of a linked dialog that it is about. -/
inductive Change (d : Dialog) : Moment → Dialog → Prop where
  | revise {e : Dialog} (h : d.Revision e) : Change d (.revised d e) e
  | hand (h : d.isDirty = true) : Change d (.handed d) d.clean
  | attend (o : Observer) : Change d (.revised d (d.watchedBy o)) (d.watchedBy o)
  | move {event : Event} {m : Transition} (h : d.phase.next? d.flags event = some m)
      (silently : Bool) : Change d (.moved d event m silently) (d.move m)
  | giveBack {count : Nat} (h : count < d.refs) :
      Change d (.released d count) { d with refs := d.refs - count }

/-- A linked dialog goes through these moments and is still linked. -/
inductive Lives : Dialog → List Moment → Dialog → Prop where
  | nil (d : Dialog) : Lives d [] d
  | aside {d e : Dialog} {m : Moment} {ms : List Moment} (hm : m.key? ≠ some d.key)
      (h : Lives d ms e) : Lives d (m :: ms) e
  | change {d d' e : Dialog} {m : Moment} {ms : List Moment} (hm : d.Change m d')
      (h : Lives d' ms e) : Lives d (m :: ms) e

variable {d e : Dialog} {m : Moment}

theorem Change.key (h : d.Change m e) : e.key = d.key ∧ m.key? = some d.key := by
  cases h with
  | revise h => exact ⟨h.retains.key, rfl⟩
  | hand | attend => exact ⟨rfl, rfl⟩
  | @move _ t => exact ⟨(d.move_retains t).1, rfl⟩
  | giveBack => exact ⟨rfl, rfl⟩

theorem Lives.key {ms : List Moment} (h : d.Lives ms e) : e.key = d.key := by
  induction h with
  | nil => rfl
  | aside _ _ ih => exact ih
  | change hm _ ih => exact ih.trans hm.key.1

end Dialog

/-- A linked dialog that is not unlinked is changed, or the moment is about something else. -/
theorem Step.change {c c' : Scene ε} {m : Moment} (h : Step c m c') {d : Dialog}
    (hd : c.registry.table.find? d.key = some d) (hend : m.ends d.key = false) :
    (m.key? ≠ some d.key ∧ c'.registry.table.find? d.key = some d) ∨
      ∃ e, c'.registry.table.find? d.key = some e ∧ d.Change m e := by
  by_cases hkey : m.key? = some d.key
  case neg => exact .inl ⟨hkey, (h.find?_of_ne hkey).trans hd⟩
  have hafter := h.find?_of_key hkey
  have hlinked : ∀ {x}, m.linked? = some x → x.key ≠ d.key := fun hx heq => by
    have hfresh := (h.of_linked hx).1
    rw [heq, hd] at hfresh
    cases hfresh
  have hsame : ∀ {x : Dialog}, c.registry.table.find? x.key = some x → some x.key = some d.key →
      x = d := fun hx heq => by
    rw [Option.some.inj heq, hd] at hx
    exact (Option.some.inj hx).symm
  right
  cases h with
  | insert | restore => exact absurd (Option.some.inj hkey) (hlinked rfl)
  | @revise _ x e hx he =>
    obtain rfl := hsame hx hkey
    exact ⟨e, hafter, .revise he⟩
  | @hand _ x hx hdirty =>
    obtain rfl := hsame hx hkey
    exact ⟨_, hafter, .hand hdirty⟩
  | @attend _ x hx o =>
    obtain rfl := hsame hx hkey
    exact ⟨_, hafter, .attend o⟩
  | @move _ x hx _ t hm silently =>
    obtain rfl := hsame hx hkey
    exact ⟨_, hafter, .move hm silently⟩
  | @giveBack _ x hx count _ hlt =>
    obtain rfl := hsame hx hkey
    rw [Moment.after?, if_neg (Nat.not_le.2 hlt)] at hafter
    exact ⟨_, hafter, .giveBack hlt⟩
  | @unlink _ x hx count _ hle =>
    obtain rfl := hsame hx hkey
    simp [Moment.ends, Moment.ended?, hle] at hend
  | _ => cases hkey

/-- As long as it is not unlinked, a linked dialog goes through the moments of a path. -/
theorem Path.lives {c c' : Scene ε} {ms : List Moment} (h : Path c ms c') {d : Dialog}
    (hd : c.registry.table.find? d.key = some d) (hend : ∀ m ∈ ms, m.ends d.key = false) :
    ∃ e, c'.registry.table.find? d.key = some e ∧ d.Lives ms e := by
  induction h generalizing d with
  | nil => exact ⟨d, hd, .nil d⟩
  | cons hstep _ ih =>
    obtain ⟨hfirst, hrest⟩ := List.forall_mem_cons.1 hend
    rcases hstep.change hd hfirst with ⟨hm, hd'⟩ | ⟨d', hd', hm⟩
    · obtain ⟨e, he, hlives⟩ := ih hd' hrest
      exact ⟨e, he, .aside hm hlives⟩
    · rw [← hm.key.1] at hd' hrest
      obtain ⟨e, he, hlives⟩ := ih hd' hrest
      rw [hm.key.1] at he
      exact ⟨e, he, .change hm hlives⟩

/-! ## Stages -/

namespace Flags

theorem contains_union_hasBye (f : Flags) : (f.union .hasBye).contains .hasBye = true := by
  have hbits : (f.bits ||| 4) &&& 4 = 4 := by
    apply UInt32.toNat_inj.1
    apply Nat.eq_of_testBit_eq
    intro i
    cases hi : Nat.testBit 4 i <;> simp [hi]
  exact beq_iff_eq.2 hbits

theorem contains_union_changed (f : Flags) :
    (f.union .changed).contains .hasBye = f.contains .hasBye := by
  have hbits : (f.bits ||| 2) &&& 4 = f.bits &&& 4 := by
    apply UInt32.toNat_inj.1
    simp [Nat.and_or_distrib_right]
  exact congrArg (· == 4) hbits

theorem contains_remove_dirty (f : Flags) :
    (f.remove .dirty).contains .hasBye = f.contains .hasBye := by
  have hbits : (f.bits &&& ~~~3) &&& 4 = f.bits &&& 4 := by
    rw [UInt32.and_assoc]
    rfl
  exact congrArg (· == 4) hbits

end Flags

namespace Dialog

variable {d e : Dialog}

/-- No revision is a BYE. -/
theorem Revision.hasBye (h : d.Revision e) :
    e.flags.contains .hasBye = d.flags.contains .hasBye := by
  rcases h.shown with hsame | ⟨-, htouched⟩
  · exact congrArg (·.flags.contains .hasBye) hsame
  · rw [htouched, Flags.contains_union_changed]

/-- A transition sets the BYE flag if it says so. -/
theorem move_hasBye (d : Dialog) (m : Transition) :
    (d.move m).flags.contains .hasBye = (m.setBye || d.flags.contains .hasBye) := by
  have hbye : (if m.setBye then d.flags.union .hasBye else d.flags).contains .hasBye
      = (m.setBye || d.flags.contains .hasBye) := by
    cases m.setBye with
    | true => exact Flags.contains_union_hasBye _
    | false => rfl
  unfold move
  dsimp only
  split
  · exact hbye
  · exact (Flags.contains_union_changed _).trans hbye

end Dialog

/-- How far a dialog has come. -/
inductive Stage where
  | invited
  | early
  /-- Deleted without a BYE. A late success response is still accepted. -/
  | failed
  | answered
  | confirmed
  /-- Deleted by a BYE. -/
  | ended
  deriving DecidableEq

namespace Stage

def phase : Stage → Phase
  | invited => .unconfirmed
  | early => .early
  | failed => .deleted
  | answered => .confirmedNa
  | confirmed => .confirmed
  | ended => .deleted

def rank : Stage → Nat
  | invited => 0
  | early => 1
  | failed => 2
  | answered => 3
  | confirmed => 4
  | ended => 5

/-- The stage that a valid event leads to. -/
def after : Stage → Event → Stage
  | invited, .provisionalResponse => early
  | invited, .transactionDestroyed | invited, .failureResponse => failed
  | early, .transactionDestroyed | early, .failureResponse => failed
  | invited, .successResponse | early, .successResponse | failed, .successResponse => answered
  | answered, .requestAck => confirmed
  | answered, .requestBye | confirmed, .requestBye => ended
  | x, _ => x

theorem rank_le (x : Stage) : x.rank ≤ 5 := by cases x <;> decide

/-- There is no way back, and no two stages in a row have the same phase. -/
theorem after_cases (x : Stage) (event : Event) :
    x.after event = x ∨ x.rank < (x.after event).rank ∧ x.phase ≠ (x.after event).phase := by
  cases x <;> cases event <;> decide

theorem rank_of_early {x : Stage} (h : x.phase = .early) : x.rank = 1 := by
  cases x <;> first | rfl | cases h

theorem rank_of_confirmed {x : Stage} (h : x.phase = .confirmed) : x.rank = 4 := by
  cases x <;> first | rfl | cases h

theorem phase_of_rank {x : Stage} (h : 4 < x.rank) : x.phase = .deleted := by
  cases x <;> first | rfl | exact absurd h (by decide)

/-- Only deletion with and without a BYE have a phase in common. -/
theorem eq_of_phase {x y : Stage} (h : x.phase = y.phase) (hx : x.rank < 5) (hy : y.rank < 5) :
    x = y := by
  cases x <;> cases y <;> simp_all [phase, rank]

end Stage

/-- The stage of a dialog. Nothing but a BYE sets the BYE flag. -/
structure Dialog.At (d : Dialog) (x : Stage) : Prop where
  phase : d.phase = x.phase
  hasBye : d.flags.contains .hasBye = decide (x = .ended)

/-- Transitions follow the stages. The last one is reached by a BYE for a dialog that has been
answered, and by nothing else. -/
theorem Phase.next?_stage {x : Stage} {flags : Flags} {event : Event} {m : Transition}
    (hbye : flags.contains .hasBye = decide (x = .ended))
    (h : x.phase.next? flags event = some m) :
    m.phase = (x.after event).phase ∧
      (m.setBye || decide (x = .ended)) = decide (x.after event = .ended) ∧
      m.setBye = (event == .requestBye && x.phase.isConfirmed) := by
  cases x <;> cases event <;> simp [Stage.phase, next?, hbye] at h <;> subst h <;> decide

/-! ## Changes of phase -/

/-- A phase, and the one that follows on it. -/
abbrev Turn := Phase × Phase

namespace Moment

/-- The change of phase that the dialog under this key goes through. -/
def turn? (key : Key) : Moment → Option Turn
  | moved d _ m _ => if d.key = key ∧ d.phase ≠ m.phase then some (d.phase, m.phase) else none
  | _ => none

/-- Whether the dialog under this key accepts a BYE for a call that has been answered. -/
def hangsUp (key : Key) : Moment → Bool
  | moved d event _ _ => d.key == key && event == .requestBye && d.phase.isConfirmed
  | _ => false

variable {m : Moment} {key : Key}

theorem turn?_of_ne (h : m.key? ≠ some key) : m.turn? key = none := by
  cases m with
  | moved d event m silently => exact if_neg fun hturn => h (congrArg some hturn.1)
  | _ => rfl

theorem hangsUp_of_ne (h : m.key? ≠ some key) : m.hangsUp key = false := by
  cases m with
  | moved d event m silently =>
    have hne : d.key ≠ key := fun heq => h (congrArg some heq)
    simp [hangsUp, hne]
  | _ => rfl

end Moment

/-- The changes of phase of the dialog under this key, in order. -/
def turns (key : Key) (ms : List Moment) : List Turn := ms.filterMap (·.turn? key)

/-- What the moments of its life make of the stage of a dialog. -/
inductive Stage.Walk : Stage → List Turn → Stage → Prop where
  | nil (x : Stage) : Walk x [] x
  | step {x z : Stage} {ts : List Turn} (event : Event) (hrank : x.rank < (x.after event).rank)
      (h : Walk (x.after event) ts z) : Walk x ((x.phase, (x.after event).phase) :: ts) z

/-- What one moment makes of the stage of a dialog. -/
theorem Dialog.Change.stage {d e : Dialog} {m : Moment} (h : d.Change m e) {x : Stage}
    (hx : d.At x) :
    (e.At x ∧ m.turn? d.key = none ∧ m.hangsUp d.key = false) ∨
      ∃ event, e.At (x.after event) ∧
        m.turn? d.key = (if x.phase = (x.after event).phase then none
          else some (x.phase, (x.after event).phase)) ∧
        (m.hangsUp d.key || decide (x = .ended)) = decide (x.after event = .ended) := by
  cases h with
  | revise h => exact .inl ⟨⟨h.retains.phase.trans hx.phase, h.hasBye.trans hx.hasBye⟩, rfl, rfl⟩
  | hand =>
    exact .inl ⟨⟨hx.phase, (Flags.contains_remove_dirty d.flags).trans hx.hasBye⟩, rfl, rfl⟩
  | attend => exact .inl ⟨⟨hx.phase, hx.hasBye⟩, rfl, rfl⟩
  | giveBack => exact .inl ⟨⟨hx.phase, hx.hasBye⟩, rfl, rfl⟩
  | @move event t ht =>
    rw [hx.phase] at ht
    obtain ⟨hphase, hended, hset⟩ := Phase.next?_stage hx.hasBye ht
    refine .inr ⟨event, ⟨?_, ?_⟩, ?_, ?_⟩
    · rw [(d.move_retains t).2.2.2.1, hphase]
    · rw [d.move_hasBye, hx.hasBye, hended]
    · simp only [Moment.turn?, hx.phase, hphase, true_and, ne_eq, ite_not]
    · rw [← hended, hset]
      simp [Moment.hangsUp, hx.phase]

/-- Stage by stage, a dialog goes through its changes of phase. It comes to its end with a BYE that
it accepts. -/
theorem Dialog.Lives.walk {d e : Dialog} {ms : List Moment} (h : d.Lives ms e) {x : Stage}
    (hx : d.At x) :
    ∃ y, e.At y ∧ x.Walk (turns d.key ms) y ∧
      (ms.any (·.hangsUp d.key) || decide (x = .ended)) = decide (y = .ended) := by
  induction h generalizing x with
  | nil => exact ⟨x, hx, .nil x, rfl⟩
  | @aside d e m ms hm _ ih =>
    obtain ⟨y, hy, hwalk, hended⟩ := ih hx
    refine ⟨y, hy, ?_, ?_⟩
    · rwa [turns, List.filterMap_cons_none (Moment.turn?_of_ne hm)]
    · rwa [List.any_cons, Moment.hangsUp_of_ne hm, Bool.false_or]
  | @change d d' e m ms hm _ ih =>
    rcases hm.stage hx with ⟨hx', hturn, hbye⟩ | ⟨event, hx', hturn, hbye⟩
    · obtain ⟨y, hy, hwalk, hended⟩ := ih hx'
      rw [hm.key.1] at hwalk hended
      refine ⟨y, hy, ?_, ?_⟩
      · rwa [turns, List.filterMap_cons_none hturn]
      · rwa [List.any_cons, hbye, Bool.false_or]
    · obtain ⟨y, hy, hwalk, hended⟩ := ih hx'
      rw [hm.key.1] at hwalk hended
      refine ⟨y, hy, ?_, ?_⟩
      · rcases x.after_cases event with hsame | ⟨hrank, hphase⟩
        · rw [hsame] at hwalk hturn
          rwa [turns, List.filterMap_cons_none (by simpa using hturn)]
        · rw [if_neg hphase] at hturn
          rw [turns, List.filterMap_cons_some hturn]
          exact .step event hrank hwalk
      · rw [List.any_cons, Bool.or_comm (m.hangsUp d.key), Bool.or_assoc, hbye, hended]

namespace Stage.Walk

variable {x y : Stage} {ts : List Turn}

/-- Every change of phase takes a dialog further. -/
theorem length_le (h : x.Walk ts y) : x.rank + ts.length ≤ y.rank := by
  induction h with
  | nil => exact Nat.le_refl _
  | step event hrank _ ih =>
    rw [List.length_cons]
    omega

theorem rank_le (h : x.Walk ts y) : x.rank ≤ y.rank :=
  Nat.le_trans (Nat.le_add_right _ _) h.length_le

/-- A change of phase is a step from one stage to a later one. -/
theorem split {xs ys : List Turn} {t : Turn} (h : x.Walk (xs ++ t :: ys) y) :
    ∃ (u : Stage) (event : Event), x.Walk xs u ∧ u.rank < (u.after event).rank ∧
      t = (u.phase, (u.after event).phase) ∧ (u.after event).Walk ys y := by
  induction xs generalizing x with
  | nil =>
    cases h with
    | step event hrank h => exact ⟨x, event, .nil x, hrank, rfl, h⟩
  | cons s xs ih =>
    cases h with
    | step event hrank h =>
      obtain ⟨u, event', hbefore, hrank', ht, hafter⟩ := ih h
      exact ⟨u, event', .step event hrank hbefore, hrank', ht, hafter⟩

theorem of_mem (h : x.Walk ts y) {t : Turn} (ht : t ∈ ts) :
    ∃ (u : Stage) (event : Event), x.rank ≤ u.rank ∧ u.rank < (u.after event).rank ∧
      t = (u.phase, (u.after event).phase) := by
  obtain ⟨xs, ys, rfl⟩ := List.append_of_mem ht
  obtain ⟨u, event, hbefore, hrank, ht, -⟩ := h.split
  exact ⟨u, event, hbefore.rank_le, hrank, ht⟩

/-- The last change of phase leads to the stage that is reached. -/
theorem last (h : x.Walk ts y) (hts : ts ≠ []) :
    ∃ (zs : List Turn) (u : Stage) (event : Event),
      ts = zs ++ [(u.phase, (u.after event).phase)] ∧ y = u.after event ∧ u.rank < y.rank := by
  obtain ⟨zs, t, rfl⟩ := List.eq_nil_or_concat ts |>.resolve_left hts
  rw [List.concat_eq_append] at h ⊢
  obtain ⟨u, event, -, hrank, rfl, hend⟩ := h.split
  cases hend with
  | nil => exact ⟨zs, u, event, rfl, rfl, hrank⟩

end Stage.Walk

/-! ## The shape of a life -/

/-- Changes of phase that follow on each other lead from one phase to another. -/
def Leads : Phase → List Turn → Phase → Prop
  | p, [], q => p = q
  | p, t :: ts, q => p = t.1 ∧ t.1 ≠ t.2 ∧ Leads t.2 ts q

namespace Stage.Walk

variable {x y : Stage} {ts : List Turn}

theorem leads (h : x.Walk ts y) : Leads x.phase ts y.phase := by
  induction h with
  | nil => rfl
  | @step x _ _ event hrank _ ih =>
    rcases x.after_cases event with hsame | ⟨-, hphase⟩
    · rw [hsame] at hrank
      exact absurd hrank (Nat.lt_irrefl _)
    · exact ⟨rfl, hphase, ih⟩

theorem nodup (h : x.Walk ts y) : ts.Nodup := by
  induction h with
  | nil => exact .nil
  | @step x _ _ event hrank h ih =>
    refine List.nodup_cons.2 ⟨fun hmem => ?_, ih⟩
    obtain ⟨u, event', hlater, hrank', heq⟩ := h.of_mem hmem
    have hu := Nat.lt_of_lt_of_le hrank' (u.after event').rank_le
    obtain rfl := Stage.eq_of_phase (congrArg Prod.fst heq) (by omega) hu
    omega

/-- The only way from deletion leads to an answered call, and to deletion it was not from one. -/
theorem revived {vs us : List Turn} {q : Phase}
    (h : Stage.invited.Walk (vs ++ (.deleted, q) :: us) y) :
    q = .confirmedNa ∧ ∃ ws p, vs = ws ++ [(p, .deleted)] ∧ (p = .unconfirmed ∨ p = .early) := by
  obtain ⟨u, event, hbefore, hrank, heq, -⟩ := h.split
  have hu : u.phase = Stage.failed.phase := congrArg Prod.fst heq.symm
  have hlast := Nat.lt_of_lt_of_le hrank (u.after event).rank_le
  obtain rfl := Stage.eq_of_phase hu hlast (by decide)
  refine ⟨?_, ?_⟩
  · obtain rfl : q = (Stage.failed.after event).phase := congrArg Prod.snd heq
    cases event <;> first | rfl | exact absurd hrank (by decide)
  · have hvs : vs ≠ [] := by
      rintro rfl
      cases hbefore
    obtain ⟨ws, w, event', rfl, hw, hrank'⟩ := hbefore.last hvs
    refine ⟨ws, w.phase, by rw [← hw]; rfl, ?_⟩
    cases w with
    | invited => exact .inl rfl
    | early => exact .inr rfl
    | _ => exact absurd hrank' (by decide)

/-- Whatever follows on a change of phase starts from where it led to, or later. -/
theorem rank_le_of_mem {vs us : List Turn} {t t' : Turn} (h : x.Walk (vs ++ t :: us) y)
    (ht' : t' ∈ us) :
    ∃ (u v w : Stage), u.rank < v.rank ∧ v.rank < w.rank ∧ t = (u.phase, v.phase) ∧
      t'.2 = w.phase := by
  obtain ⟨u, event, -, hrank, rfl, hafter⟩ := h.split
  obtain ⟨v, event', hle, hrank', rfl⟩ := hafter.of_mem ht'
  exact ⟨u, u.after event, v.after event', hrank, Nat.lt_of_le_of_lt hle hrank', rfl, rfl⟩

end Stage.Walk

/-- The shape of a life up to the moment when the dialog is as it is here. -/
structure Biography (key : Key) (life : List Moment) (d : Dialog) : Prop where
  /-- The changes of phase follow on each other, from the first phase to the present one. -/
  leads : Leads .unconfirmed (turns key life) d.phase
  five : (turns key life).length ≤ 5
  /-- The dialog comes back from deletion once at most, -/
  revivedOnce : (turns key life).count (.deleted, .confirmedNa) ≤ 1
  /-- namely by an answer, and only if it had not been answered before it was deleted. -/
  revived : ∀ ts q us, turns key life = ts ++ (.deleted, q) :: us →
    q = .confirmedNa ∧ ∃ vs p, ts = vs ++ [(p, .deleted)] ∧ (p = .unconfirmed ∨ p = .early)
  neverNew : ∀ t ∈ turns key life, t.2 ≠ .unconfirmed
  earlyOnce : ∀ ts t us, turns key life = ts ++ t :: us → t.1 = .early → ∀ t' ∈ us, t'.2 ≠ .early
  settled : ∀ ts t us, turns key life = ts ++ t :: us → t.2 = .confirmed →
    ∀ t' ∈ us, t'.2 = .confirmed ∨ t'.2 = .deleted
  /-- The BYE flag is set from the moment on when a BYE has been accepted for an answered call, -/
  hasBye : d.flags.contains .hasBye = life.any (·.hangsUp key)
  /-- and the dialog stays deleted from then on. -/
  final : d.flags.contains .hasBye = true → d.phase = .deleted

/-- A dialog that was invited lives a life of this shape. -/
theorem Dialog.Lives.shape {d e : Dialog} {ms : List Moment} (h : d.Lives ms e)
    (hd : d.At .invited) : Biography d.key ms e := by
  obtain ⟨y, hy, hwalk, hended⟩ := h.walk hd
  have hbye : ms.any (·.hangsUp d.key) = decide (y = .ended) := by simpa using hended
  refine ⟨?_, ?_, ?_, ?_, ?_, ?_, ?_, hy.hasBye.trans hbye.symm, ?_⟩
  · rw [hy.phase]
    exact hwalk.leads
  · have hlength := Nat.le_trans hwalk.length_le y.rank_le
    simpa [Stage.rank] using hlength
  · exact List.nodup_iff_count_le_one.1 hwalk.nodup _
  · intro ts q us hsplit
    rw [hsplit] at hwalk
    exact hwalk.revived
  · intro t ht
    obtain ⟨u, event, -, hrank, rfl⟩ := hwalk.of_mem ht
    generalize u.after event = v at hrank ⊢
    cases v with
    | invited => exact absurd hrank (Nat.not_lt_zero _)
    | _ => exact Phase.noConfusion
  · intro ts t us hsplit hearly t' ht'
    rw [hsplit] at hwalk
    obtain ⟨u, v, w, huv, hvw, rfl, hw⟩ := hwalk.rank_le_of_mem ht'
    rw [hw]
    intro hphase
    have hu := Stage.rank_of_early (x := u) hearly
    have hw := Stage.rank_of_early hphase
    omega
  · intro ts t us hsplit hconfirmed t' ht'
    rw [hsplit] at hwalk
    obtain ⟨u, v, w, -, hvw, rfl, hw⟩ := hwalk.rank_le_of_mem ht'
    have hv := Stage.rank_of_confirmed (x := v) hconfirmed
    exact .inr (hw.trans (Stage.phase_of_rank (by omega)))
  · intro hset
    rw [hy.hasBye, decide_eq_true_eq] at hset
    rw [hy.phase, hset]
    rfl

/-! ## Runs -/

namespace Registry

/-- A held dialog that fails, is answered late, acknowledged and hung up. Events that are invalid in
its phase come between. -/
def revived : Registry Unit :=
  blank.performAll .quiet
    [.insert { callId := "abc", fromUri := "sip:a", toUri := "sip:b", fromTag := "t1" } 1,
      .processEvent ⟨0, 0⟩ .provisionalResponse, .processEvent ⟨0, 0⟩ .requestBye,
      .processEvent ⟨0, 0⟩ .failureResponse, .nextPhase ⟨0, 0⟩ .successResponse,
      .processEvent ⟨0, 0⟩ .provisionalResponse, .processEvent ⟨0, 0⟩ .requestAck,
      .processEvent ⟨0, 0⟩ .requestBye, .processEvent ⟨0, 0⟩ .successResponse]

end Registry

end SipDialogs
