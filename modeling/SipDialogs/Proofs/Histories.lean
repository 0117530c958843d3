-- SUMMARY: The versions of a dialog order all that is ever seen of it.
import SipDialogs.Proofs.Lives
import SipDialogs.Proofs.Marks

/-! # Histories

While a dialog is linked, each change that can be seen raises its version and marks it as changed,
and nothing else that happens to it can be seen, but for the marks. So of two snapshots that were
taken of it, in whatever way, the one with the greater version is the later one, and two snapshots
of one version differ in their marks and in their context at most. -/

namespace SipDialogs

/-! ## Bits -/

namespace Flags

theorem contains_changed (f : Flags) : (f.union .changed).contains .changed = true := by
  have hbits : (f.bits ||| 2) &&& 2 = 2 := by
    apply UInt32.toNat_inj.1
    apply Nat.eq_of_testBit_eq
    intro i
    cases hi : Nat.testBit 2 i <;> simp [hi]
  exact beq_iff_eq.2 hbits

theorem remove_dirty_remove_dirty (f : Flags) :
    (f.remove .dirty).remove .dirty = f.remove .dirty := by
  have hbits : (f.bits &&& ~~~3) &&& ~~~3 = f.bits &&& ~~~3 := by
    rw [UInt32.and_assoc, UInt32.and_self]
  exact congrArg Flags.mk hbits

end Flags

/-- Only a transition to another phase sets the BYE flag. -/
theorem Phase.setBye_of_stays {p : Phase} {flags : Flags} {event : Event} {m : Transition}
    (h : p.next? flags event = some m) (hphase : p = m.phase) : m.setBye = false := by
  have hcases : ∀ m', some m' = some m → m'.setBye = false ∨ m'.phase ≠ p → m.setBye = false := by
    rintro m' heq (hset | hmoves)
    · rwa [← Option.some.inj heq]
    · exact absurd ((congrArg Transition.phase (Option.some.inj heq)).trans hphase.symm) hmoves
  unfold next? at h
  split at h <;> first
    | exact hcases _ h (by decide)
    | (split at h <;> first | exact hcases _ h (by decide) | cases h)
    | cases h

/-! ## Changes -/

/-- A snapshot without its marks and its context. -/
def Snapshot.bare (s : Snapshot) : Snapshot :=
  { s with flags := s.flags.remove .dirty, context := none }

/-- Whether somebody is handed the dialog under this key at this moment, to store it. -/
def Moment.Hands (key : Key) (m : Moment) : Prop :=
  ∃ d : Dialog, m = .handed d ∧ d.key = key

namespace Dialog

/-- A linked dialog goes on. Its version is never lowered, and as long as it is not raised, nothing
can be seen of a change but the marks. -/
structure Ascends (d e : Dialog) : Prop where
  version : d.version ≤ e.version
  bare : e.version = d.version → e.snapshot.bare = d.snapshot.bare

/-- Its mark stays with a changed dialog, and every new version is marked. -/
structure Marks (d e : Dialog) : Prop where
  raised : d.version < e.version → e.flags.contains .changed = true
  kept : d.flags.contains .changed = true → e.flags.contains .changed = true

variable {d e e' : Dialog}

@[refl] theorem Ascends.refl (d : Dialog) : d.Ascends d := ⟨Nat.le_refl _, fun _ => rfl⟩

theorem Ascends.trans (h : d.Ascends e) (h' : e.Ascends e') : d.Ascends e' where
  version := Nat.le_trans h.version h'.version
  bare hsame := by
    have hfirst := h.version
    have hsecond := h'.version
    rw [h'.bare (by omega), h.bare (by omega)]

@[refl] theorem Marks.refl (d : Dialog) : d.Marks d :=
  ⟨fun hlt => absurd hlt (Nat.lt_irrefl _), id⟩

theorem Marks.trans (h : d.Marks e) (h' : e.Marks e') : d.Marks e' where
  raised hlt := by
    rcases Nat.lt_or_ge e.version e'.version with hsecond | hsecond
    · exact h'.raised hsecond
    · exact h'.kept (h.raised (Nat.lt_of_lt_of_le hlt hsecond))
  kept hmarked := h'.kept (h.kept hmarked)

/-- Nothing can be seen of a change. -/
theorem ascends_of_snapshot (h : e.snapshot = d.snapshot) : d.Ascends e ∧ d.Marks e := by
  have hversion : e.version = d.version := congrArg Snapshot.version h
  have hflags : e.flags = d.flags := congrArg Snapshot.flags h
  refine ⟨⟨Nat.le_of_eq hversion.symm, fun _ => congrArg Snapshot.bare h⟩, fun hlt => ?_, ?_⟩
  · exact absurd hversion (Nat.ne_of_gt hlt)
  · rw [hflags]
    exact id

/-- A touched dialog has a new version, which is marked. -/
theorem Touches.ascends (h : d.Touches e) : d.Ascends e ∧ d.Marks e := by
  have hmarked : e.flags.contains .changed = true := by
    rw [h.2]
    exact Flags.contains_changed _
  refine ⟨⟨by rw [h.1]; exact Nat.le_succ _, fun hsame => ?_⟩, fun _ => hmarked, fun _ => hmarked⟩
  rw [h.1] at hsame
  exact absurd hsame (Nat.succ_ne_self _)

/-- Whoever takes the marks off changes nothing else. -/
theorem ascends_clean (d : Dialog) : d.Ascends d.clean := by
  refine ⟨Nat.le_refl _, fun _ => ?_⟩
  have hflags : (d.flags.remove .dirty).remove .dirty = d.flags.remove .dirty :=
    Flags.remove_dirty_remove_dirty _
  simp [Snapshot.bare, snapshot, clean, hflags]

theorem move_ascends {event : Event} {m : Transition}
    (h : d.phase.next? d.flags event = some m) : d.Ascends (d.move m) ∧ d.Marks (d.move m) := by
  by_cases hphase : d.phase = m.phase
  · refine ascends_of_snapshot ?_
    simp [move, snapshot, hphase, Phase.setBye_of_stays h hphase]
  · have hmarked : (d.move m).flags.contains .changed = true := by
      rw [move, if_neg hphase]
      exact Flags.contains_changed _
    have hversion : d.version < (d.move m).version := by
      rw [(d.move_retains m).2.2.2.2.2.1, if_neg hphase]
      exact Nat.lt_succ_self _
    refine ⟨⟨Nat.le_of_lt hversion, fun hsame => ?_⟩, fun _ => hmarked, fun _ => hmarked⟩
    exact absurd hsame (Nat.ne_of_gt hversion)

/-- A moment of its life takes a dialog on. It is marked as before, unless it is handed out. -/
theorem Change.ascends {m : Moment} (h : d.Change m e) :
    d.Ascends e ∧ (m.Hands d.key ∨ d.Marks e) := by
  cases h with
  | revise h =>
    rcases h.shown with hsame | htouched
    · exact (ascends_of_snapshot hsame).imp id .inr
    · exact htouched.ascends.imp id .inr
  | hand => exact ⟨ascends_clean d, .inl ⟨d, rfl, rfl⟩⟩
  | attend o =>
    have hsame : (d.watchedBy o).snapshot = d.snapshot := rfl
    exact (ascends_of_snapshot hsame).imp id .inr
  | move h => exact (move_ascends h).imp id .inr
  | @giveBack count h =>
    have hsame : ({ d with refs := d.refs - count } : Dialog).snapshot = d.snapshot := rfl
    exact (ascends_of_snapshot hsame).imp id .inr

/-- All its life takes a dialog on. Once marked, it is marked until it is handed out. -/
theorem Lives.ascends {ms : List Moment} (h : d.Lives ms e) :
    d.Ascends e ∧ ((∀ m ∈ ms, ¬m.Hands d.key) → d.Marks e) := by
  induction h with
  | nil d => exact ⟨.refl d, fun _ => .refl d⟩
  | aside _ _ ih =>
    obtain ⟨hascends, hmarks⟩ := ih
    exact ⟨hascends, fun hnobody => hmarks (List.forall_mem_cons.1 hnobody).2⟩
  | change hm _ ih =>
    obtain ⟨hascends, hmarks⟩ := ih
    obtain ⟨hascends', hmarks'⟩ := hm.ascends
    rw [hm.key.1] at hmarks
    refine ⟨hascends'.trans hascends, fun hnobody => ?_⟩
    obtain ⟨hnobody, hnobody'⟩ := List.forall_mem_cons.1 hnobody
    exact (hmarks'.resolve_left hnobody).trans (hmarks hnobody')

end Dialog

/-! ## What is seen of a dialog -/

/-- A snapshot of the dialog under this key that a registry shows as it is, if it is asked. -/
inductive Registry.Displays (r : Registry ε) (key : Key) : Snapshot → Prop where
  | one {env : Environment ε} {context : Bool} {s : Snapshot}
      (h : (r.snapshot env key context).1 = some s) : Displays r key s
  | all {env : Environment ε} {context : Bool} {s : Snapshot}
      (h : s ∈ (r.snapshotAll env context).1) (hkey : s.key = key) : Displays r key s
  | dirty {s : Snapshot} (h : s ∈ r.takeDirty.1) (hkey : s.key = key) : Displays r key s

theorem Registry.mem_withContexts {env : Environment ε} {ds : List Dialog} {r : Registry ε}
    {s : Snapshot} (h : s ∈ (withContexts env ds r).1) :
    ∃ d ∈ ds, s = { d.snapshot with context := s.context } := by
  induction ds generalizing r with
  | nil => cases h
  | cons d ds ih =>
    rcases List.mem_cons.1 h with rfl | h
    · exact ⟨d, List.mem_cons_self, rfl⟩
    · obtain ⟨e, he, hs⟩ := ih h
      exact ⟨e, List.mem_cons_of_mem _ he, hs⟩

/-- All that is shown of a dialog is what it is, with some context. -/
theorem Registry.Displays.of_linked {r : Registry ε} {key : Key} {s : Snapshot}
    (h : r.Displays key s) (hwf : r.table.Wf) {d : Dialog} (hd : r.table.find? key = some d) :
    s = { d.snapshot with context := s.context } := by
  have hsame : ∀ {e : Dialog}, r.table.find? e.key = some e → e.key = key → e = d := by
    rintro e he rfl
    rw [hd] at he
    exact (Option.some.inj he).symm
  cases h with
  | @one env context s h =>
    unfold Registry.snapshot at h
    rw [hd] at h
    cases context <;> cases h <;> rfl
  | @all env context s h hkey =>
    unfold Registry.snapshotAll at h
    split at h
    · obtain ⟨e, he, hs⟩ := mem_withContexts h
      rw [hs] at hkey
      obtain rfl := hsame (hwf.mem_dialogs.1 he) hkey
      exact hs
    · obtain ⟨e, he, rfl⟩ := List.mem_map.1 h
      obtain rfl := hsame (hwf.mem_dialogs.1 he) hkey
      rfl
  | dirty h hkey =>
    obtain ⟨e, he, -, rfl⟩ := hwf.mem_takeDirty.1 h
    obtain rfl := hsame he hkey
    rfl

/-- A snapshot of the dialog under this key that is taken once these moments have gone by: somebody
asks for it, or it goes with the news of the last of them. -/
inductive Seen (c : Scene ε) (key : Key) : List Moment → Snapshot → Prop where
  | shown {ms : List Moment} {c' : Scene ε} {s : Snapshot} (h : Path c ms c')
      (hs : c'.registry.Displays key s) : Seen c key ms s
  | told {ms : List Moment} {m : Moment} {s : Snapshot} {n : Notice}
      (hnews : m.news? = some (s, n)) (hkey : s.key = key) : Seen c key (ms ++ [m]) s

/-- The moments decide what is linked. -/
theorem Path.find?_eq {c₁ c₂ c₁' c₂' : Scene ε} {ms : List Moment} (h : Path c₁ ms c₁')
    (h' : Path c₂ ms c₂') {key : Key}
    (hsame : c₁.registry.table.find? key = c₂.registry.table.find? key) :
    c₁'.registry.table.find? key = c₂'.registry.table.find? key := by
  induction h generalizing c₂ with
  | nil =>
    cases h'
    exact hsame
  | cons hstep _ ih =>
    cases h' with
    | cons hstep' hrest' =>
      refine ih hrest' ?_
      rw [hstep.find?, hstep'.find?, hsame]

/-- Whatever is seen of a linked dialog shows it as it is. -/
theorem Seen.of_linked {c c' : Scene ε} {key : Key} {ms : List Moment} {s : Snapshot}
    (h : Seen c key ms s) (hsound : c.registry.Sound) (hpath : Path c ms c') {d : Dialog}
    (hd : c'.registry.table.find? key = some d) : s = { d.snapshot with context := s.context } := by
  cases h with
  | shown h hs =>
    rw [hpath.find?_eq h rfl] at hd
    exact hs.of_linked (h.sound hsound).wf hd
  | @told ms m s n hnews hkey =>
    obtain ⟨c₁, -, hlast⟩ := hpath.split
    cases hlast with
    | cons hstep hnil =>
      cases hnil
      have hm := Moment.key_of_news? hnews
      have hafter := hstep.find?_of_key hm
      dsimp only at hafter
      rw [hkey, hd] at hafter
      cases Moment.tells_of_news? hnews with
      | created | changed =>
        cases hafter
        rfl
      | destroyed hle =>
        rw [Moment.after?, if_pos hle] at hafter
        cases hafter

/-! ## Runs -/

/-- A dialog is linked under this key at the last moment of `before`, and it is not unlinked in
`life`. -/
structure Lifetime (key : Key) (before life : List Moment) : Prop where
  linked : ∃ earlier m d, before = earlier ++ [m] ∧ m.linked? = some d ∧ d.key = key
  lasts : ∀ m ∈ life, m.ends key = false

/-- At any two points of its lifetime a dialog is linked, and it lives from the one to the other. -/
theorem Lifetime.lives {c c' : Scene ε} {key : Key} {before early late : List Moment}
    (h : Lifetime key before (early ++ late)) (hpath : Path c (before ++ early ++ late) c') :
    ∃ c₁ d e, Path c (before ++ early) c₁ ∧ c₁.registry.table.find? key = some d ∧
      c'.registry.table.find? key = some e ∧ d.key = key ∧ d.Lives late e := by
  obtain ⟨earlier, m, d₀, rfl, hm, rfl⟩ := h.linked
  obtain ⟨hearly, hlate⟩ := List.forall_mem_append.1 h.lasts
  obtain ⟨c₁, hfirst, hsecond⟩ := hpath.split
  obtain ⟨c₀, hbefore, hbetween⟩ := hfirst.split
  obtain ⟨c₀', -, hlast⟩ := hbefore.split
  have hd₀ : c₀.registry.table.find? d₀.key = some d₀ := by
    cases hlast with
    | cons hstep hnil =>
      cases hnil
      rcases Moment.of_linked? hm with rfl | rfl
      · exact hstep.find?_of_key rfl
      · exact hstep.find?_of_key rfl
  obtain ⟨d, hd, hlives⟩ := hbetween.lives hd₀ hearly
  have hkey := hlives.key
  rw [← hkey] at hd hlate
  obtain ⟨e, he, hlives'⟩ := hsecond.lives hd hlate
  rw [hkey] at hd he
  exact ⟨c₁, d, e, hfirst, hd, he, hkey, hlives'⟩

/-- What the moments of a run say about two snapshots that are taken of a dialog in one lifetime. -/
structure Chronology (C : Conduct) (r : Registry ε) (ms : List Moment) : Prop where
  /-- The later one has at least the version of the earlier one, and if it is the same, they differ
  in their marks and their context at most. -/
  ordered : ∀ key before early late s s', before ++ early ++ late <+: ms →
    Lifetime key before (early ++ late) → Seen ⟨r, []⟩ key (before ++ early) s →
      Seen ⟨r, []⟩ key (before ++ early ++ late) s' →
        s.version ≤ s'.version ∧ (s'.version = s.version → s'.bare = s.bare)
  /-- The one that goes with the news of the dialog's end outranks all others. -/
  last : ∀ key before early late m s s', before ++ early ++ late ++ [m] <+: ms →
    Lifetime key before (early ++ late) → Seen ⟨r, []⟩ key (before ++ early) s →
      m.news? = some (s', .destroyed) → s'.key = key → s.version < s'.version
  /-- If the later one has the greater version, it is marked, unless somebody was handed the dialog
  in between to store it. -/
  marked : ∀ key before early late s s', before ++ early ++ late <+: ms →
    Lifetime key before (early ++ late) → Seen ⟨r, []⟩ key (before ++ early) s →
      Seen ⟨r, []⟩ key (before ++ early ++ late) s' → (∀ m ∈ late, ¬m.Hands key) →
        s.version < s'.version → s'.flags.contains .changed = true
  /-- A dialog is handed out to nobody but one who takes all that are to be stored, -/
  handed : ∀ m ∈ ms, ∀ key, m.Hands key → C.allows .takeDirty = true
  /-- and who does so at any moment is given exactly those dialogs that he takes the marks off. -/
  taken : ∀ before c, before <+: ms → Path ⟨r, []⟩ before c → ∀ key,
    (c.registry.takeDirty.2.table.find? key
      = (c.registry.table.find? key).map fun d => if d.isDirty then d.clean else d) ∧
    ∀ s, s.key = key → (s ∈ c.registry.takeDirty.1 ↔
      ∃ d, c.registry.table.find? key = some d ∧ d.isDirty = true ∧ d.snapshot = s)

theorem Procession.chronology {C : Conduct} {r r' : Registry ε} {ms : List Moment}
    (h : Procession C [] r ms r') (hsound : r.Sound) : Chronology C r ms where
  ordered := by
    rintro key before early late s s' ⟨rest, rfl⟩ hlife hs hs'
    obtain ⟨c, hpath, -⟩ := h.path.split
    obtain ⟨c₁, d, e, hpath₁, hd, he, hkey, hlives⟩ := hlife.lives hpath
    obtain ⟨hascends, -⟩ := hlives.ascends
    rw [hs.of_linked hsound hpath₁ hd, hs'.of_linked hsound hpath he]
    exact ⟨hascends.version, fun hsame => hascends.bare hsame⟩
  last := by
    rintro key before early late m s s' ⟨rest, rfl⟩ hlife hs hnews rfl
    obtain ⟨c, hpath, -⟩ := h.path.split
    obtain ⟨c', hpath, hlast⟩ := hpath.split
    obtain ⟨c₁, d, e, hpath₁, hd, he, hkey, hlives⟩ := hlife.lives hpath
    obtain ⟨hascends, -⟩ := hlives.ascends
    rw [hs.of_linked hsound hpath₁ hd]
    cases Moment.tells_of_news? hnews with
    | destroyed hle =>
      cases hlast with
      | cons hstep _ =>
        -- what is unlinked is what the lifetime came to
        rw [Dialog.key_lastSnapshot, hstep.found rfl] at he
        cases he
        exact Nat.lt_succ_of_le hascends.version
  marked := by
    rintro key before early late s s' ⟨rest, rfl⟩ hlife hs hs' hnobody hlt
    obtain ⟨c, hpath, -⟩ := h.path.split
    obtain ⟨c₁, d, e, hpath₁, hd, he, rfl, hlives⟩ := hlife.lives hpath
    obtain ⟨-, hmarks⟩ := hlives.ascends
    rw [hs.of_linked hsound hpath₁ hd, hs'.of_linked hsound hpath he] at hlt
    rw [hs'.of_linked hsound hpath he]
    exact (hmarks hnobody).raised hlt
  handed := by
    rintro m hm key ⟨d, rfl, rfl⟩
    exact (h.fits _ hm).hands
  taken := by
    intro before c _ hpath key
    have hwf := (hpath.sound hsound).wf
    refine ⟨hwf.find?_takeDirty key, fun s hs => hwf.mem_takeDirty.trans ?_⟩
    constructor
    · rintro ⟨d, hd, hdirty, rfl⟩
      obtain rfl : d.key = key := hs
      exact ⟨d, hd, hdirty, rfl⟩
    · rintro ⟨d, hd, hdirty, rfl⟩
      obtain rfl : d.key = key := hs
      exact ⟨d, hd, hdirty, rfl⟩

namespace Registry

/-- Along every run, whatever operations it is made of and whatever observers and the timer service
do meanwhile, the versions of a dialog order all that is seen of it from the moment when it is
linked to its end. -/
theorem Grown.ordered_by_version {C C' : Conduct} {r r' : Registry ε} (h : r.Grown C)
    (hruns : RunsIn C' r r') : ∃ ms, Procession C' [] r ms r' ∧ Chronology C' r ms := by
  obtain ⟨ms, hms⟩ := hruns.proceeds h.sound
  exact ⟨ms, hms, hms.chronology h.sound⟩

/-- A dialog under observation. Its callee becomes known, it is answered, asked about, sent a
request, and hung up. -/
def observed : Registry Unit :=
  (blank.observe "watch" Topic.all .client).performAll .quiet
    [.insert { callId := "abc", fromUri := "sip:a", toUri := "sip:b", fromTag := "t1" } 0,
      .setLegInfo ⟨0, 0⟩ .callee { tag := "t2" },
      .processEvent ⟨0, 0⟩ .successResponse, .snapshot ⟨0, 0⟩ true,
      .processEvent ⟨0, 0⟩ .request, .updateCseq ⟨0, 0⟩ .caller "2",
      .processEvent ⟨0, 0⟩ .requestBye]

/-- The versions that an observer is called with. -/
def seenVersions (r : Registry ε) : List Nat :=
  r.journal.filterMap fun
    | .observed _ s _ => some s.version
    | _ => none

/-- Its observer sees it when it is new, answered, asked about, hung up and gone. -/
theorem Grown.ordered_by_version_observed :
    (∃ ms, Procession Conduct.free.handsOff [] blank ms observed ∧
      Chronology Conduct.free.handsOff blank ms) ∧
      observed.seenVersions = [0, 2, 2, 4, 5] := by
  have hruns : RunsIn Conduct.free.handsOff blank observed :=
    (Runs.enlist blank "watch" Topic.all).trans
      (runsIn_performAll (Environment.quiet_honest _) _ (by decide))
  exact ⟨(blank_grown .free).ordered_by_version hruns, by decide +kernel⟩

end Registry

end SipDialogs
