-- SUMMARY: Which changes of a dialog make its stored copy stale, and how the marks are taken.
import SipDialogs.Proofs.Lingering
import SipDialogs.Proofs.Restarts

/-! # Marks

A dialog is marked when its stored copy is missing or stale. Whatever changes what is stored of it
marks it and raises its version, in every phase; the marks come off only when somebody takes the
marked dialogs. -/

namespace SipDialogs

/-! ## Bits -/

namespace Flags

theorem intersects_union_changed (f : Flags) : (f.union .changed).intersects .dirty = true := by
  have hbits : (f.bits ||| 2) &&& 3 ≠ 0 := by
    intro h
    have hsecond := congrArg (fun w : UInt32 => w.toBitVec.getLsbD 1) h
    simp at hsecond
  exact bne_iff_ne.2 hbits

theorem intersects_union_hasBye (f : Flags) :
    (f.union .hasBye).intersects .dirty = f.intersects .dirty := by
  have hbits : (f.bits ||| 4) &&& 3 = f.bits &&& 3 := by
    apply UInt32.toNat_inj.1
    simp [Nat.and_or_distrib_right]
  exact congrArg (· != 0) hbits

theorem intersects_remove_dirty (f : Flags) : (f.remove .dirty).intersects .dirty = false := by
  have hbits : (f.bits &&& ~~~3) &&& 3 = 0 := by
    rw [UInt32.and_assoc]
    exact UInt32.and_zero
  exact bne_eq_false_iff_eq.2 hbits

end Flags

/-! ## Changes of one dialog -/

namespace Dialog

/-- Whether the stored copy is marked as missing or stale, in whatever phase the dialog is. -/
abbrev marked (d : Dialog) : Bool := d.flags.intersects .dirty

/-- The write that saves a dialog as it is. -/
def save (d : Dialog) : Write := .save d.record d.version

@[simp] theorem marked_clean (d : Dialog) : d.clean.marked = false :=
  Flags.intersects_remove_dirty d.flags

/-- A new dialog has no stored copy. -/
theorem marked_create (key : Key) (identity : Identity) (holders : Nat) (start : Timestamp)
    (timeout : UInt32) : (create key identity holders start timeout).marked = true := by
  have hnew : Flags.new.intersects .dirty = true := by decide
  exact hnew

/-- What a change means for the stored copy: nothing that is stored has changed, or the copy is
marked, with a higher version. -/
inductive Ages (d e : Dialog) : Prop where
  | keeps (hrecord : e.record = d.record) (hversion : e.version = d.version)
      (hmarked : e.marked = d.marked)
  | touches (hversion : d.version < e.version) (hmarked : e.marked = true)

variable {d e : Dialog}

theorem Ages.touch {d e : Dialog} (h : e.version = d.version) : d.Ages e.touch :=
  .touches (by rw [← h]; exact Nat.lt_succ_self _) (Flags.intersects_union_changed _)

theorem ages_of_setLegInfo {side : Leg} {info : LegInfo} (h : d.setLegInfo side info = .ok e) :
    d.Ages e := by
  obtain ⟨info', rfl, -⟩ := setLegInfo_cases h
  cases side <;> exact .touch rfl

/-- The record has the lifetime, but nothing of the timer. -/
theorem ages_of_prepareTimer {milliseconds : Option Nat}
    (h : Registry.prepareTimer d milliseconds = .ok e) : d.Ages e := by
  obtain ⟨-, rfl | ⟨timeout, rfl⟩⟩ := prepareTimer_cases h
  · exact .keeps rfl rfl rfl
  · exact .touches (Nat.lt_succ_self _) (Flags.intersects_union_changed _)

/-- A change without notice marks the copy where it has to. -/
theorem Revision.ages (h : d.Revision e) : d.Ages e := by
  cases h with
  | addRefs | retain | setTimer | setLinks => exact .keeps rfl rfl rfl
  | setLegInfo h => exact ages_of_setLegInfo h
  | updateCseq side cseq =>
    cases side with
    | caller | callee => exact .touch rfl
  | prepareTimer h => exact ages_of_prepareTimer h

/-- A transition to the same phase may set the BYE flag, which is not stored. -/
theorem move_ages (d : Dialog) (m : Transition) : d.Ages (d.move m) := by
  have hbye : (if m.setBye then d.flags.union .hasBye else d.flags).intersects .dirty
      = d.marked := by
    split
    · exact Flags.intersects_union_hasBye _
    · rfl
  unfold move
  dsimp only
  split
  next hphase =>
    refine .keeps ?_ rfl hbye
    simp [record, Record.ofSnapshot, snapshot, hphase]
  next => exact .touch rfl

end Dialog

/-- What a moment makes of a linked dialog. -/
theorem Step.ages {c c' : Scene ε} {m : Moment} (h : Step c m c') {key : Key} {d : Dialog}
    (hd : c.registry.table.find? key = some d) :
    c'.registry.table.find? key = none ∨
      ∃ e, c'.registry.table.find? key = some e ∧
        (d.Ages e ∨ e = d.clean ∧ m = .handed d) := by
  by_cases hkey : m.key? = some key
  case neg => exact .inr ⟨d, (h.find?_of_ne hkey).trans hd, .inl (.keeps rfl rfl rfl)⟩
  have hafter := h.find?_of_key hkey
  cases m with
  | inserted e | restored e =>
    obtain ⟨hfresh, -⟩ := h.of_linked (d := e) rfl
    cases hkey
    rw [hfresh] at hd
    cases hd
  | revised d₀ e =>
    have hfound := h.found rfl
    cases hkey
    obtain rfl : d₀ = d := Option.some.inj (hfound.symm.trans hd)
    refine .inr ⟨e, hafter, .inl ?_⟩
    cases h with
    | revise _ he => exact he.ages
    | attend => exact .keeps rfl rfl rfl
  | handed d₀ =>
    have hfound := h.found rfl
    cases hkey
    obtain rfl : d₀ = d := Option.some.inj (hfound.symm.trans hd)
    exact .inr ⟨d₀.clean, hafter, .inr ⟨rfl, rfl⟩⟩
  | moved d₀ event move silently =>
    have hfound := h.found rfl
    cases hkey
    obtain rfl : d₀ = d := Option.some.inj (hfound.symm.trans hd)
    exact .inr ⟨d₀.move move, hafter, .inl (d₀.move_ages move)⟩
  | released d₀ count =>
    have hfound := h.found rfl
    cases hkey
    obtain rfl : d₀ = d := Option.some.inj (hfound.symm.trans hd)
    rw [Moment.after?] at hafter
    split at hafter
    · exact .inl hafter
    · exact .inr ⟨_, hafter, .inl (.keeps rfl rfl rfl)⟩
  | aside | heard | buried => cases hkey

/-! ## Taking the marks -/

namespace Table

variable {t : Table}

/-- Cleaning distinct dialogs changes what is found under their keys, and nothing else. -/
theorem find?_clean_each {ds : List Dialog} (hfind : ∀ d ∈ ds, t.find? d.key = some d)
    (hne : ds.Pairwise fun d e => d.key ≠ e.key) (key : Key) :
    (ds.foldl (fun t d => t.put d.clean) t).find? key
      = ((ds.find? (·.key = key)).map (·.clean)).or (t.find? key) := by
  induction ds generalizing t with
  | nil => rfl
  | cons d ds ih =>
    obtain ⟨hd, hds⟩ := List.pairwise_cons.1 hne
    have hfirst : ∀ key, (t.put d.clean).find? key
        = if key = d.key then some d.clean else t.find? key :=
      find?_put_of_linked (d := d.clean) (hfind d List.mem_cons_self)
    have hrest : ∀ e ∈ ds, (t.put d.clean).find? e.key = some e := by
      intro e he
      rw [hfirst, if_neg (Ne.symm (hd e he))]
      exact hfind e (List.mem_cons_of_mem _ he)
    rw [List.foldl_cons, ih hrest hds, hfirst, List.find?_cons]
    by_cases hkey : key = d.key
    · subst hkey
      have hnone : ds.find? (·.key = d.key) = none := by
        rw [List.find?_eq_none]
        intro e he
        simpa using Ne.symm (hd e he)
      simp [hnone]
    · simp [hkey, Ne.symm hkey]

/-- Whoever takes the marked dialogs takes the marks off the live ones. -/
theorem Wf.find?_takeDirty (h : t.Wf) (key : Key) :
    t.takeDirty.2.find? key
      = (t.find? key).map fun d => if d.isDirty then d.clean else d := by
  have hfind : ∀ d ∈ t.dialogs.filter (·.isDirty), t.find? d.key = some d := fun d hd =>
    h.mem_dialogs.1 (List.mem_filter.1 hd).1
  have hclean := find?_clean_each hfind (h.dialogs_pairwise.filter _) key
  unfold takeDirty
  dsimp only
  rw [hclean]
  cases hd : t.find? key with
  | none =>
    have hnone : (t.dialogs.filter (·.isDirty)).find? (·.key = key) = none := by
      rw [List.find?_eq_none]
      intro e he hkey
      have hfound := hfind e he
      rw [of_decide_eq_true hkey, hd] at hfound
      cases hfound
    rw [hnone]
    rfl
  | some d =>
    have hkey : d.key = key := h.key_of_find? hd
    have hmem : d ∈ t.dialogs.filter (·.isDirty) ↔ d.isDirty = true := by
      rw [← hkey] at hd
      rw [List.mem_filter, h.mem_dialogs]
      exact and_iff_right hd
    have hthere : (t.dialogs.filter (·.isDirty)).find? (·.key = key)
        = if d.isDirty = true then some d else none := by
      apply find?_of_only
      · exact decide_eq_true hkey
      · intro e he hsame
        have hfound := hfind e he
        rw [of_decide_eq_true hsame, hd] at hfound
        exact (Option.some.inj hfound).symm
      · exact hmem
    rw [hthere, Option.map_some]
    by_cases hdirty : d.isDirty = true
    · rw [if_pos hdirty, if_pos hdirty]
      rfl
    · rw [if_neg hdirty, if_neg hdirty]
      rfl

/-- What is taken are the live marked dialogs, as they were. -/
theorem Wf.mem_takeDirty (h : t.Wf) {s : Snapshot} :
    s ∈ t.takeDirty.1 ↔ ∃ d, t.find? d.key = some d ∧ d.isDirty = true ∧ d.snapshot = s := by
  unfold takeDirty
  dsimp only
  rw [List.mem_map]
  constructor
  · rintro ⟨d, hd, rfl⟩
    obtain ⟨hmem, hdirty⟩ := List.mem_filter.1 hd
    exact ⟨d, h.mem_dialogs.1 hmem, hdirty, rfl⟩
  · rintro ⟨d, hd, hdirty, rfl⟩
    exact ⟨d, List.mem_filter.2 ⟨h.mem_dialogs.2 hd, hdirty⟩, rfl⟩

/-- Where nothing is marked there is nothing to take, and nothing changes. -/
theorem Wf.takeDirty_of_clean (h : t.Wf)
    (hclean : ∀ key d, t.find? key = some d → d.isDirty = false) : t.takeDirty = ([], t) := by
  have hnone : t.dialogs.filter (·.isDirty) = [] := by
    rw [List.filter_eq_nil_iff]
    intro d hd
    rw [hclean d.key d (h.mem_dialogs.1 hd)]
    exact Bool.false_ne_true
  unfold takeDirty
  rw [hnone]
  rfl

theorem Wf.spent_takeDirty (h : t.Wf) {key : Key} (hspent : t.Spent key) :
    t.takeDirty.2.Spent key := by
  refine h.of_takeDirty (P := fun t t' => t.Spent key → t'.Spent key) (fun _ => id) ?_ ?_ hspent
  · intro t t' t'' hfirst hsecond hspent
    exact hsecond (hfirst hspent)
  · intro t d _ _ _ hspent
    exact hspent.put _

end Table

/-- The conduct in which nobody takes the marks but the worker. -/
def Conduct.handsOff (C : Conduct) : Conduct :=
  C.only fun
    | .takeDirty => false
    | _ => true

/-! ## Records of restored dialogs -/

/-- A restored dialog is stored as it is. -/
theorem Record.record_of_dialog? {record : Record} {d : Dialog} (h : record.dialog? = some d) :
    d.record = record := by
  obtain ⟨-, s, hs, rfl⟩ := dialog?_eq_some.1 h
  have hcolumns : (Dialog.ofSnapshot s).record = ofSnapshot s := rfl
  rw [hcolumns, ofSnapshot_of_toSnapshot hs]

end SipDialogs
