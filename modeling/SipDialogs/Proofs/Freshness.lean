-- SUMMARY: In delayed mode a dialog is marked, or was last saved as it is.
import SipDialogs.Proofs.Endings
import SipDialogs.Proofs.Flushes
import SipDialogs.Proofs.Realtime

/-! # Marked or saved

The marks come off a dialog in one step, the version is remembered in a second one, and the record
is stored in a third. What holds all the while is that an unmarked dialog was shown to the store as
it is by the last save that was tried. If the store made that save, the stored copy is fresh; if it
did not, the copy stays stale until the dialog changes again. The marks may also be taken by others
than the worker, who then have to save the dialog themselves. -/

namespace SipDialogs

/-- Each key has one record. -/
def Store.Keyed (s : Store) : Prop := ∀ r ∈ s.records, ∀ q ∈ s.records, r.key = q.key → r = q

theorem Store.Keyed.get? {s : Store} (h : s.Keyed) {record : Record}
    (hrecord : record ∈ s.records) : s.get? record.key = some record := by
  have hthere : s.get? record.key = if record ∈ s.records then some record else none := by
    apply find?_of_only
    · exact beq_self_eq_true _
    · intro other hother hkey
      exact h other hother record hrecord (eq_of_beq hkey)
    · rfl
  rw [hthere, if_pos hrecord]

/-- So it is in every store that was empty once, whatever has been written to it. -/
theorem Store.keyed_written (ws : List Write) : (ws.foldl Store.write {}).Keyed := by
  -- the records stay in ascending order
  have hascending : ∀ (s : Store), s.records.Pairwise (fun r q => r.key.lt q.key = true) →
      (ws.foldl Store.write s).records.Pairwise fun r q => r.key.lt q.key = true := by
    induction ws with
    | nil => exact fun _ h => h
    | cons w ws ih =>
      intro s h
      apply ih
      cases w with
      | save record version => exact Ordered.pairwise_insert Record.key Ordered.isStrict_key h
      | remove key version destroyed => exact h.filter _
  have hkeys := hascending {} .nil
  intro r hr q hq hkey
  have hfind := (Ordered.find?_eq_some_iff Record.key Ordered.isStrict_key hkeys).2 ⟨hr, hkey⟩
  have hfind' := (Ordered.find?_eq_some_iff Record.key Ordered.isStrict_key hkeys).2 ⟨hq, rfl⟩
  rw [hfind] at hfind'
  exact Option.some.inj hfind'

/-! ## What a store was last shown -/

/-- No dialog was restored under this key. -/
def Unrestored (ms : List Moment) (key : Key) : Prop := ∀ d, .restored d ∈ ms → d.key ≠ key

/-- A dialog was handed out to be stored by others than the worker, and has not changed since. -/
def Taken (ms : List Moment) (d : Dialog) : Prop :=
  ∃ e, .handed e ∈ ms ∧ e.key = d.key ∧ e.version = d.version

/-- The last save under a key that was tried. -/
def lastTry? (key : Key) (log : List Attempt) : Option Attempt :=
  (log.filter (·.record.key = key)).getLast?

/-- What a store that was `before` at first has under a key once it has made these saves. -/
def Store.kept (before : Store) (log : List Attempt) (key : Key) : Option Record :=
  ((lastTry? key log).map (·.record)).or (before.get? key)

theorem Store.kept_append_of_key (before : Store) (log : List Attempt) {record : Record}
    (made : Bool) {key : Key} (h : record.key = key) :
    before.kept (log ++ [⟨record, made⟩]) key = some record := by
  unfold kept lastTry?
  rw [List.filter_append, List.filter_cons, if_pos (decide_eq_true h), List.filter_nil,
    List.getLast?_concat]
  rfl

/-- Saves of other dialogs leave what is kept of this one as it is. -/
theorem Store.kept_append_of_ne (before : Store) (log : List Attempt) {tried : List Attempt}
    {key : Key} (h : ∀ a ∈ tried, a.record.key ≠ key) :
    before.kept (log ++ tried) key = before.kept log key := by
  have hnone : tried.filter (·.record.key = key) = [] := by
    rw [List.filter_eq_nil_iff]
    intro a ha
    simpa using h a ha
  unfold kept lastTry?
  rw [List.filter_append, hnone, List.append_nil]

/-- A save counts for what is stored if the store made it. -/
theorem Store.kept_made_append (before : Store) (log : List Attempt) {record : Record}
    (made : Bool) {key : Key} (h : record.key = key) :
    before.kept ((log ++ [(⟨record, made⟩ : Attempt)]).filter (·.made)) key
      = if made then some record else before.kept (log.filter (·.made)) key := by
  rw [List.filter_append]
  cases made with
  | true => exact before.kept_append_of_key _ true h
  | false => rw [List.filter_singleton, cond_false, List.append_nil, if_neg Bool.false_ne_true]

/-- What a log shows was stored, unless the last save that was tried has failed. -/
theorem Store.kept_made {before : Store} {log : List Attempt} {key : Key} {record : Record}
    (h : before.kept log key = some record) :
    before.kept (log.filter (·.made)) key = some record ∨
      lastTry? key log = some ⟨record, false⟩ := by
  have hswap : (log.filter (·.made)).filter (·.record.key = key)
      = (log.filter (·.record.key = key)).filter (·.made) := by
    rw [List.filter_filter, List.filter_filter]
    simp only [Bool.and_comm]
  unfold kept lastTry? at h ⊢
  rw [hswap]
  rcases List.eq_nil_or_concat (log.filter (·.record.key = key)) with hnone | ⟨earlier, last, hlast⟩
  · rw [hnone] at h ⊢
    exact .inl h
  · rw [List.concat_eq_append] at hlast
    rw [hlast, List.getLast?_concat] at h
    obtain ⟨shown, made⟩ := last
    cases h
    rw [hlast, List.filter_append]
    cases made with
    | true => exact .inl (by simp)
    | false => exact .inr (by simp)

theorem Unrestored.of_append {ms ms' : List Moment} {key : Key} (h : Unrestored (ms ++ ms') key) :
    Unrestored ms key ∧ Unrestored ms' key :=
  ⟨fun d hd => h d (List.mem_append_left _ hd), fun d hd => h d (List.mem_append_right _ hd)⟩

/-- What was taken is still taken while neither the key nor the version changes. -/
theorem Taken.mono {ms ms' : List Moment} {d e : Dialog} (h : Taken ms d) (hms : ms ⊆ ms')
    (hkey : e.key = d.key) (hversion : e.version = d.version) : Taken ms' e := by
  obtain ⟨taken, hmem, hsame, hstays⟩ := h
  exact ⟨taken, hms hmem, hsame.trans hkey.symm, hstays.trans hversion.symm⟩

/-- The save of a linked dialog is let through if no later version of it was. -/
theorem Versions.accept_save {v : Versions} {d : Dialog}
    (h : ∀ version, v.get? d.key = some version → version ≤ d.version) :
    v.accept true d.save = (true, v.set d.key d.version) := by
  have hfresh : v.isStale d.save = false := by
    unfold isStale
    rw [show d.save.key = d.key from rfl]
    cases hknown : v.get? d.key with
    | none => rfl
    | some version => exact decide_eq_false (Nat.not_lt.2 (h version hknown))
  rw [accept_linked _ rfl, hfresh]
  rfl

/-! ## One dialog -/

/-- It has not been told that a dialog under this key is gone. -/
def Unended (ms : List Moment) (key : Key) : Prop :=
  ∀ s, (s, Notice.destroyed) ∈ tidings ms → s.key ≠ key

theorem Unended.step {c c' : Scene ε} {m : Moment} {ms : List Moment} {key : Key}
    (h : Unended ms key) (hstep : Step c m c')
    (hstays : m.key? = some key → ∃ d, c'.registry.table.find? key = some d) :
    Unended (ms ++ [m]) key := by
  intro s hs hkey
  rw [tidings_append] at hs
  rcases List.mem_append.1 hs with hs | hs
  · exact h s hs hkey
  · have hnews : m.news? = some (s, .destroyed) := by simpa [tidings] using hs
    cases Moment.tells_of_news? hnews with
    | @destroyed e _ hle =>
      obtain rfl : e.key = key := hkey
      obtain ⟨d, hd⟩ := hstays rfl
      rw [hstep.find?_of_key rfl, Moment.after?, if_pos hle] at hd
      cases hd

/-- Since its marks were last taken, a dialog has no marks until its version is a higher one. -/
def CleanSince (ms : List Moment) (d : Dialog) : Prop :=
  ∀ e, .handed e ∈ ms → e.key = d.key →
    e.version ≤ d.version ∧ (e.version = d.version → d.marked = false)

theorem CleanSince.unmarked {ms : List Moment} {d : Dialog} (h : CleanSince ms d)
    (htaken : Taken ms d) : d.marked = false := by
  obtain ⟨e, hmem, hkey, hversion⟩ := htaken
  exact (h e hmem hkey).2 hversion

theorem CleanSince.step {c c' : Scene ε} {m : Moment} {ms : List Moment} {d e : Dialog}
    (h : CleanSince ms d) (hstep : Step c m c')
    (he : c'.registry.table.find? d.key = some e) (hkey : e.key = d.key)
    (hchange : d.Ages e ∨ e = d.clean) : CleanSince (ms ++ [m]) e := by
  intro taken hmem hsame
  rw [hkey] at hsame
  rcases List.mem_append.1 hmem with hmem | hmem
  · obtain ⟨hle, hclean⟩ := h taken hmem hsame
    rcases hchange with (⟨-, hversion, hmarked⟩ | ⟨hversion, -⟩) | rfl
    · rw [hversion, hmarked]
      exact ⟨hle, hclean⟩
    · have hlt := Nat.lt_of_le_of_lt hle hversion
      exact ⟨Nat.le_of_lt hlt, fun heq => absurd heq (Nat.ne_of_lt hlt)⟩
    · exact ⟨hle, fun _ => d.marked_clean⟩
  · -- the marks are taken at this very moment
    obtain rfl := List.mem_singleton.1 hmem
    have hafter := hstep.find?_of_key (congrArg some hsame)
    rw [he] at hafter
    cases hafter
    exact ⟨Nat.le_refl _, fun _ => taken.marked_clean⟩

/-- How the dialog of a key, what is remembered of it and what is stored of it go together, now that
these saves have been tried and these writes are pending. The store was `before` at first. -/
inductive Held (key : Key) (before : Store) (ms : List Moment) (log : List Attempt)
    (pending : List Write) (applied : Versions) (store : Store) (t : Table) : Prop where
  | unborn (hfind : t.find? key = none) (hunended : Unended ms key)
      (huntaken : ∀ e, .handed e ∈ ms → e.key ≠ key)
      (happlied : applied.get? key = none) (hpending : ∀ w ∈ pending, w.key ≠ key)
      (hstored : store.get? key = before.kept (log.filter (·.made)) key) :
      Held key before ms log pending applied store t
  | linked {d : Dialog} (hfind : t.find? key = some d) (hkey : d.key = key)
      (hunended : Unended ms key) (hclean : CleanSince ms d)
      (happlied : ∀ version, applied.get? key = some version → version ≤ d.version)
      (hpending : ∀ w ∈ pending, w.key = key → w = d.save)
      (hstored : store.get? key = before.kept (log.filter (·.made)) key)
      (hshown : d.marked = true ∨ Taken ms d ∨ d.save ∈ pending ∨
        before.kept log key = some d.record) :
      Held key before ms log pending applied store t
  | gone (hfind : t.find? key = none) (hspent : t.Spent key) :
      Held key before ms log pending applied store t

namespace Held

variable {key : Key} {before : Store} {ms : List Moment} {log : List Attempt}
  {pending : List Write} {applied : Versions} {store : Store} {t : Table}

/-- A new dialog is marked, and no write of it waits yet. -/
theorem born {c c' : Scene ε} {m : Moment} {d : Dialog}
    (h : Held d.key before ms log [] applied store c.registry.table) (hstep : Step c m c')
    (hunlinked : c.registry.table.find? d.key = none) (hlinked : m.linked? = some d)
    (hrestored : m ≠ .restored d) :
    Held d.key before (ms ++ [m]) log [] applied store c'.registry.table := by
  obtain rfl : m = .inserted d := (Moment.of_linked? hlinked).resolve_right hrestored
  have hafter : c'.registry.table.find? d.key = some d := hstep.find?_of_key rfl
  cases h with
  | gone _ hspent =>
    obtain ⟨-, -, hnew, -⟩ := hstep.of_linked rfl
    exact absurd hspent (hnew rfl)
  | linked hfind =>
    rw [hunlinked] at hfind
    cases hfind
  | unborn _ hunended huntaken happlied _ hstored =>
    have hmarked : d.marked = true := by
      cases hstep with
      | insert hinsert =>
        rw [(Table.insert_links hinsert).2]
        exact Dialog.marked_create ..
    refine .linked hafter rfl (hunended.step hstep fun _ => ⟨d, hafter⟩) ?_ ?_ ?_ hstored
      (.inl hmarked)
    · intro e he hsame
      rcases List.mem_append.1 he with he | he
      · exact absurd hsame (huntaken e he)
      · cases List.mem_singleton.1 he
    · intro version hversion
      rw [happlied] at hversion
      cases hversion
    · exact fun w hw => absurd hw List.not_mem_nil

/-- A linked dialog is marked when it gets older, or else its marks are taken. -/
theorem aged {c c' : Scene ε} {m : Moment} {d e : Dialog}
    (h : Held d.key before ms log [] applied store c.registry.table) (hstep : Step c m c')
    (hfind : c.registry.table.find? d.key = some d)
    (he : c'.registry.table.find? d.key = some e) (hkey : e.key = d.key)
    (hchange : d.Ages e ∨ e = d.clean ∧ m = .handed d) :
    Held d.key before (ms ++ [m]) log [] applied store c'.registry.table := by
  cases h with
  | unborn hnone | gone hnone =>
    rw [hnone] at hfind
    cases hfind
  | linked hfind' _ hunended hclean happlied _ hstored hshown =>
    rw [hfind] at hfind'
    cases hfind'
    have hunended' := hunended.step hstep fun _ => ⟨e, he⟩
    have hclean' := hclean.step hstep he hkey (hchange.imp id And.left)
    have hnothing : ∀ w ∈ ([] : List Write), w.key = d.key → w = e.save :=
      fun w hw => absurd hw List.not_mem_nil
    rcases hchange with (⟨hrecord, hversion, hmarked⟩ | ⟨hversion, hmarked⟩) | ⟨rfl, rfl⟩
    · refine .linked he hkey hunended' hclean' ?_ hnothing hstored ?_
      · rw [hversion]
        exact happlied
      · -- neither the version nor the record changes, so what was shown is still shown
        rw [hmarked, hrecord]
        refine hshown.imp_right (Or.imp ?_ (Or.imp_left ?_))
        · exact fun htaken => htaken.mono (List.subset_append_left _ _) hkey hversion
        · exact fun hsave => absurd hsave List.not_mem_nil
    · refine .linked he hkey hunended' hclean' ?_ hnothing hstored (.inl hmarked)
      intro version hknown
      exact Nat.le_of_lt (Nat.lt_of_le_of_lt (happlied version hknown) hversion)
    · exact .linked he hkey hunended' hclean' happlied hnothing hstored
        (.inr (.inl ⟨d, by simp, rfl, rfl⟩))

/-- What operations do to a dialog happens between flushes. -/
theorem step {c c' : Scene ε} {m : Moment}
    (h : Held key before ms log [] applied store c.registry.table) (hstep : Step c m c')
    (hsound : c.registry.Sound) (hrestored : ∀ d, m = .restored d → d.key ≠ key) :
    Held key before (ms ++ [m]) log [] applied store c'.registry.table := by
  cases hlinked : c.registry.table.find? key with
  | some d =>
    obtain rfl : d.key = key := hsound.wf.key_of_find? hlinked
    rcases hstep.ages hlinked with hnone | ⟨e, he, hchange⟩
    · exact .gone hnone (hstep.spent (hsound.spent hlinked))
    · have hkey : e.key = d.key := (hstep.wf hsound.wf).key_of_find? he
      exact h.aged hstep hlinked he hkey hchange
  | none =>
    by_cases hkey : m.key? = some key
    · rcases hstep.of_key? hkey with ⟨d, hnew, rfl⟩ | ⟨d, hd, -⟩
      · exact h.born hstep hlinked hnew fun hm => hrestored d hm rfl
      · rw [hlinked] at hd
        cases hd
    · cases h with
      | gone _ hspent => exact .gone ((hstep.find?_of_ne hkey).trans hlinked) (hstep.spent hspent)
      | linked hfind =>
        rw [hlinked] at hfind
        cases hfind
      | unborn _ hunended huntaken happlied hpending hstored =>
        refine .unborn ((hstep.find?_of_ne hkey).trans hlinked)
          (hunended.step hstep fun habout => absurd habout hkey) ?_ happlied hpending hstored
        intro e he hsame
        rcases List.mem_append.1 he with he | he
        · exact huntaken e he hsame
        · rw [← List.mem_singleton.1 he] at hkey
          exact hkey (congrArg some hsame)

theorem path {c c' : Scene ε} {ms' : List Moment} (hpath : Path c ms' c')
    (h : Held key before ms log [] applied store c.registry.table) (hsound : c.registry.Sound)
    (hrestored : Unrestored ms' key) :
    Held key before (ms ++ ms') log [] applied store c'.registry.table := by
  induction hpath generalizing ms with
  | nil =>
    rw [List.append_nil]
    exact h
  | @cons c₀ c₁ c₂ m ms' hstep _ ih =>
    have hfirst := h.step hstep hsound fun d hm =>
      hrestored d (by rw [hm]; exact List.mem_cons_self)
    have hrest := ih hfirst (hstep.sound hsound) fun d hd =>
      hrestored d (List.mem_cons_of_mem _ hd)
    rw [← List.singleton_append, ← List.append_assoc]
    exact hrest

/-- A flush has all that it takes the marks off before it. -/
theorem take (h : Held key before ms log [] applied store t) (hwf : t.Wf) :
    Held key before ms log (t.takeDirty.1.map Write.ofSnapshot) applied store t.takeDirty.2 := by
  have hafter := hwf.find?_takeDirty key
  have hpending : ∀ w ∈ t.takeDirty.1.map Write.ofSnapshot, ∃ d, t.find? w.key = some d ∧
      d.isDirty = true ∧ w = d.save := by
    intro w hw
    obtain ⟨s, hs, rfl⟩ := List.mem_map.1 hw
    obtain ⟨d, hd, hdirty, rfl⟩ := hwf.mem_takeDirty.1 hs
    exact ⟨d, hd, hdirty, rfl⟩
  cases h with
  | gone hfind hspent =>
    rw [hfind] at hafter
    exact .gone hafter (hwf.spent_takeDirty hspent)
  | unborn hfind hunended huntaken happlied _ hstored =>
    rw [hfind] at hafter
    refine .unborn hafter hunended huntaken happlied ?_ hstored
    rintro w hw rfl
    obtain ⟨d, hd, -⟩ := hpending w hw
    rw [hfind] at hd
    cases hd
  | @linked d hfind hkey hunended hclean happlied _ hstored hshown =>
    rw [hfind, Option.map_some] at hafter
    have hsaves : ∀ w ∈ t.takeDirty.1.map Write.ofSnapshot, w.key = key → w = d.save := by
      rintro w hw rfl
      obtain ⟨e, he, -, rfl⟩ := hpending w hw
      rw [hfind] at he
      cases he
      rfl
    by_cases hdirty : d.isDirty = true
    · rw [if_pos hdirty] at hafter
      have hsave : d.clean.save ∈ t.takeDirty.1.map Write.ofSnapshot := by
        refine List.mem_map.2 ⟨d.snapshot, hwf.mem_takeDirty.2 ⟨d, ?_, hdirty, rfl⟩, rfl⟩
        rw [hkey]
        exact hfind
      exact .linked hafter hkey hunended
        (fun e he hsame => ⟨(hclean e he hsame).1, fun _ => d.marked_clean⟩) happlied hsaves hstored
        (.inr (.inr (.inl hsave)))
    · rw [if_neg hdirty] at hafter
      refine .linked hafter hkey hunended hclean happlied hsaves hstored ?_
      rcases hshown with hmarked | htaken | hsave | hrecorded
      · exact .inl hmarked
      · exact .inr (.inl htaken)
      · exact absurd hsave List.not_mem_nil
      · exact .inr (.inr (.inr hrecorded))

/-- What is known of a linked dialog between flushes. -/
theorem of_find? (h : Held key before ms log [] applied store t) {d : Dialog}
    (hfind : t.find? key = some d) :
    CleanSince ms d ∧ store.get? key = before.kept (log.filter (·.made)) key ∧
      (d.marked = true ∨ Taken ms d ∨ before.kept log key = some d.record) := by
  cases h with
  | unborn hnone | gone hnone =>
    rw [hnone] at hfind
    cases hfind
  | linked hfind' _ _ hclean _ _ hstored hshown =>
    rw [hfind] at hfind'
    cases hfind'
    refine ⟨hclean, hstored, hshown.imp_right (Or.imp_right ?_)⟩
    exact fun hrest => hrest.resolve_left List.not_mem_nil

/-- Nothing is carried for the dialog. -/
theorem congr {tried : List Attempt} {pending' : List Write} {applied' : Versions}
    {store' : Store} {t' : Table} (h : Held key before ms log pending applied store t)
    (htried : ∀ a ∈ tried, a.record.key ≠ key)
    (hpending : ∀ w, w.key = key → (w ∈ pending' ↔ w ∈ pending))
    (happlied : applied'.get? key = applied.get? key) (hstore : store'.get? key = store.get? key)
    (htable : t' = t) : Held key before ms (log ++ tried) pending' applied' store' t' := by
  subst htable
  have hmade : before.kept ((log ++ tried).filter (·.made)) key
      = before.kept (log.filter (·.made)) key := by
    rw [List.filter_append]
    exact before.kept_append_of_ne _ fun a ha => htried a (List.mem_filter.1 ha).1
  have hlog : before.kept (log ++ tried) key = before.kept log key :=
    before.kept_append_of_ne log htried
  cases h with
  | gone hfind hspent => exact .gone hfind hspent
  | unborn hfind hunended huntaken hnone hothers hstored =>
    refine .unborn hfind hunended huntaken (happlied.trans hnone) ?_ ?_
    · intro w hw hkey
      exact hothers w ((hpending w hkey).1 hw) hkey
    · rw [hmade, hstore]
      exact hstored
  | @linked d hfind hkey hunended hclean hversions hsaves hstored hshown =>
    refine .linked hfind hkey hunended hclean ?_ ?_ ?_ ?_
    · rw [happlied]
      exact hversions
    · intro w hw hsame
      exact hsaves w ((hpending w hsame).1 hw) hsame
    · rw [hmade, hstore]
      exact hstored
    · rw [hlog, hpending d.save hkey]
      exact hshown

variable {env : Environment ε} {worker : Worker} {n : Node ε} {q : Write}

/-- A write of another dialog is carried. -/
theorem carry_other {pending' : List Write} (henv : env.Steady)
    (h : Held key before ms log pending worker.applied n.store n.registry.table)
    (hne : q.key ≠ key) (hpending : ∀ w, w.key = key → (w ∈ pending' ↔ w ∈ pending)) :
    Held key before ms (log ++ (Node.attempt? env q worker n).toList) pending'
      (Node.carry env q worker n).1.applied (Node.carry env q worker n).2.store
      (Node.carry env q worker n).2.registry.table := by
  refine h.congr ?_ hpending ?_ (Node.carry_get?_of_ne worker n (Ne.symm hne))
    (Node.carry_carried henv q worker n).idle.table
  · intro a ha
    obtain ⟨⟨version, rfl⟩, -⟩ := Node.of_attempt? (Option.mem_toList.1 ha)
    exact hne
  · rw [Node.carry_applied]
    exact Versions.accept_get?_of_ne _ _ (Ne.symm hne)

/-- A save that a flush has taken is carried: it is let through, whatever the store makes of it. -/
theorem save (henv : env.Steady)
    (h : Held key before ms log (q :: pending) worker.applied n.store n.registry.table) :
    Held key before ms (log ++ (Node.attempt? env q worker n).toList) pending
      (Node.carry env q worker n).1.applied (Node.carry env q worker n).2.store
      (Node.carry env q worker n).2.registry.table := by
  by_cases hne : q.key ≠ key
  · refine h.carry_other henv hne fun w hw => ?_
    rw [List.mem_cons, or_iff_right]
    rintro rfl
    exact hne hw
  have hsame : q.key = key := not_not.1 hne
  have htable : (Node.carry env q worker n).2.registry.table = n.registry.table :=
    (Node.carry_carried henv q worker n).idle.table
  cases h with
  | gone hfind hspent =>
    rw [htable]
    exact .gone hfind hspent
  | unborn _ _ _ _ hothers _ => exact absurd hsame (hothers q List.mem_cons_self)
  | @linked d hfind hkey hunended hclean hversions hsaves hstored hshown =>
    obtain rfl : q = d.save := hsaves q List.mem_cons_self hsame
    have hlinked : n.registry.table.isLinked d.save.key = true := by
      simp [Table.isLinked, hsame, hfind]
    have hrecord : d.record.key = key := hkey
    have haccepted : worker.applied.accept (n.registry.table.isLinked d.save.key) d.save
        = (true, worker.applied.set d.save.key d.version) := by
      rw [hlinked]
      exact Versions.accept_save (hkey ▸ hversions)
    have htried : (Node.attempt? env d.save worker n).toList
        = [⟨d.record, (n.callStore env d.save.call).1 = .done⟩] := by
      have hattempt : Node.attempt? env d.save worker n
          = some ⟨d.record, (n.callStore env d.save.call).1 = .done⟩ :=
        if_pos (congrArg Prod.fst haccepted)
      rw [hattempt]
      rfl
    have hstore := Node.carry_store_cases env d.save worker n
    rw [haccepted] at hstore
    rw [htried, htable, Node.carry_applied, haccepted]
    refine .linked hfind hkey hunended hclean ?_ ?_ ?_ (.inr (.inr (.inr ?_)))
    · intro version hknown
      rw [Assoc.get?_set, if_pos hsame.symm] at hknown
      cases hknown
      exact Nat.le_refl _
    · exact fun w hw => hsaves w (List.mem_cons_of_mem _ hw)
    · rw [hstore, before.kept_made_append log _ hrecord]
      by_cases hdone : (n.callStore env d.save.call).1 = .done
      · rw [if_pos ⟨rfl, hdone⟩, if_pos (decide_eq_true hdone), Store.get?_write,
          if_pos hsame.symm]
        rfl
      · rw [if_neg fun h => hdone h.2, if_neg fun h => hdone (of_decide_eq_true h)]
        exact hstored
    · exact before.kept_append_of_key log _ hrecord

/-- The removal of a destroyed dialog is carried. It is about no dialog that is linked. -/
theorem removal (henv : env.Steady)
    (h : Held key before ms log [] worker.applied n.store n.registry.table)
    (hq : ∃ s, (s, Notice.destroyed) ∈ tidings ms ∧ q = .remove s.key s.version true) :
    Held key before ms (log ++ (Node.attempt? env q worker n).toList) []
      (Node.carry env q worker n).1.applied (Node.carry env q worker n).2.store
      (Node.carry env q worker n).2.registry.table := by
  obtain ⟨s, hs, rfl⟩ := hq
  cases h with
  | gone hfind hspent =>
    rw [(Node.carry_carried henv _ worker n).idle.table]
    exact .gone hfind hspent
  | unborn hfind hunended huntaken happlied hpending hstored =>
    exact (Held.unborn hfind hunended huntaken happlied hpending hstored).carry_other henv
      (hunended s hs) fun _ _ => Iff.rfl
  | linked hfind hkey hunended hclean happlied hpending hstored hshown =>
    exact (Held.linked hfind hkey hunended hclean happlied hpending hstored hshown).carry_other henv
      (hunended s hs) fun _ _ => Iff.rfl

end Held

/-! ## The writer -/

/-- In delayed mode a writer asks for removals only, one for each destruction that it hears of. -/
theorem mem_asked_false {heard : List News} {q : Write} :
    q ∈ asked false heard ↔
      ∃ s, (s, Notice.destroyed) ∈ heard ∧ q = .remove s.key s.version true := by
  unfold asked
  rw [List.mem_filterMap]
  constructor
  · rintro ⟨⟨s, notice⟩, hmem, hasked⟩
    cases notice with
    | destroyed =>
      cases hasked
      exact ⟨s, hmem, rfl⟩
    | created | stateChanged | introspect => cases hasked
  · rintro ⟨s, hmem, rfl⟩
    exact ⟨(s, .destroyed), hmem, rfl⟩

namespace Node

variable {before : Store} {w : Observer} {ms ms' : List Moment} {log : List Attempt}
  {waiting waiting' pending : List Write} {worker worker' : Worker} {n n' : Node ε}
  {E : Environment ε → Prop} {C : Conduct} {env : Environment ε}

/-- `w` is the only writer of a node in delayed mode, and what waits for the worker are removals of
dialogs that have been destroyed. -/
structure Removes (w : Observer) (ms : List Moment) (waiting : List Write) (worker : Worker)
    (n : Node ε) : Prop where
  delayed : worker.mode = .delayed
  role : w.role = .writer worker.mailbox false
  topics : w.topics = writerTopics
  registered : w ∈ n.registry.observers ∧ w.serial < n.registry.nextSerial
  only : n.registry.OnlyWriter w
  posted : ∀ q ∈ waiting, ∃ s, (s, Notice.destroyed) ∈ tidings ms ∧
    q = .remove s.key s.version true

namespace Removes

theorem congr (h : Removes w ms waiting worker n) (hwaiting : waiting' ⊆ waiting)
    (hmode : worker'.mode = worker.mode) (hmailbox : worker'.mailbox = worker.mailbox)
    (hobservers : n'.registry.observers = n.registry.observers)
    (hserial : n'.registry.nextSerial = n.registry.nextSerial) :
    Removes w ms waiting' worker' n' := by
  refine ⟨hmode.trans h.delayed, ?_, h.topics, ?_, ?_, fun q hq => h.posted q (hwaiting hq)⟩
  · rw [hmailbox]
    exact h.role
  · rw [hobservers, hserial]
    exact h.registered
  · unfold Registry.OnlyWriter
    rw [hobservers]
    exact h.only

theorem carried (h : Removes w ms waiting worker n) (hwaiting : waiting' ⊆ waiting)
    (hcarried : Carried worker n worker' n') : Removes w ms waiting' worker' n' :=
  h.congr hwaiting hcarried.mode hcarried.mailbox hcarried.idle.observers hcarried.idle.nextSerial

/-- Operations leave the removals of what they destroy. -/
theorem mem_waiting (h : Removes w ms waiting worker n) (hemployed : Employs worker waiting n)
    {r : Registry ε} (hms : Course C [] n.registry ms' r)
    (hbox : r.mailboxes[worker.mailbox]? = some ⟨waiting', true⟩) (q : Write) :
    q ∈ waiting' ↔ q ∈ waiting ∨
      ∃ s, (s, Notice.destroyed) ∈ tidings ms' ∧ q = .remove s.key s.version true := by
  have hposted := hms.path.posted h.only h.role hemployed.mailbox
  rw [hbox] at hposted
  obtain rfl : waiting' = waiting ++ asked false (w.heard ms') := by simpa using hposted
  have htold := hms.told w h.registered.2
  have hglobal : n.registry.isGlobal w = true := decide_eq_true h.registered.1
  rw [hglobal, Observer.owed_writer h.topics] at htold
  rw [List.mem_append, mem_asked_false]
  simp only [htold.mem_iff]

theorem act (h : Removes w ms waiting worker n) (hemployed : Employs worker waiting n)
    {r : Registry ε} (hms : Course C [] n.registry ms' r)
    (hbox : r.mailboxes[worker.mailbox]? = some ⟨waiting', true⟩) :
    Removes w (ms ++ ms') waiting' worker { n with registry := r } := by
  have hlater := hms.path.later
  refine ⟨h.delayed, h.role, h.topics, ⟨hlater.kept w h.registered.1,
    hlater.serial h.registered.2⟩, h.only.later hlater, ?_⟩
  intro q hq
  rw [tidings_append]
  rcases (h.mem_waiting hemployed hms hbox q).1 hq with hq | ⟨s, hs, heq⟩
  · obtain ⟨s, hs, heq⟩ := h.posted q hq
    exact ⟨s, List.mem_append_left _ hs, heq⟩
  · exact ⟨s, List.mem_append_right _ hs, heq⟩

end Removes

/-! ## Whole runs -/

/-- The invariant of a node in delayed mode, dialog by dialog. -/
structure Tidy (before : Store) (w : Observer) (ms : List Moment) (log : List Attempt)
    (waiting pending : List Write) (worker : Worker) (n : Node ε) : Prop
    extends Removes w ms waiting worker n where
  held : ∀ key, Unrestored ms key →
    Held key before ms log pending worker.applied n.store n.registry.table

theorem tidy_upkeep (hE : ∀ env, E env → env.Steady) :
    Upkeep E C (@Tidy ε before w) where
  act := by
    intro ms log waiting worker n ms' r waiting' h hemployed hms hbox
    refine ⟨h.toRemoves.act hemployed hms hbox, ?_⟩
    intro key hkey
    obtain ⟨hfirst, hrest⟩ := hkey.of_append
    exact (h.held key hfirst).path hms.path hemployed.sound hrest
  mail := by
    intro env ms log q waiting worker n henv h
    have hsteady := hE env henv
    refine ⟨h.toRemoves.carried (List.subset_cons_self _ _) (carry_carried hsteady q worker n), ?_⟩
    intro key hkey
    exact (h.held key hkey).removal hsteady (h.posted q List.mem_cons_self)
  take := by
    intro ms log waiting worker n h hsound
    refine ⟨h.toRemoves.congr (fun _ => id) rfl rfl rfl rfl, ?_⟩
    intro key hkey
    exact (h.held key hkey).take hsound.wf
  save := by
    intro env ms log waiting q pending worker n henv h
    have hsteady := hE env henv
    refine ⟨h.toRemoves.carried (fun _ => id) (carry_carried hsteady q worker n), ?_⟩
    intro key hkey
    exact (h.held key hkey).save hsteady
  aside := by
    intro ms log waiting pending worker n worker' n' h halike
    refine ⟨h.toRemoves.congr (fun _ => id) halike.mode halike.mailbox halike.observers
      halike.nextSerial, ?_⟩
    intro key hkey
    rw [halike.applied, halike.store, halike.table]
    exact h.held key hkey

theorem Ready.removes {count : Nat} (h : Ready .delayed before count worker n) :
    ∃ w, Removes w [] [] worker n := by
  obtain ⟨w, hw, hrole, htopics, hserial, honly⟩ := h.writer rfl
  exact ⟨w, h.works, hrole, htopics, ⟨hw, hserial⟩, honly, fun q hq => absurd hq List.not_mem_nil⟩

theorem Ready.tidy {count : Nat} (h : Ready .delayed before count worker n)
    (hbefore : before.Keyed) : ∃ w, Tidy before w [] [] [] [] worker n := by
  obtain ⟨w, hw⟩ := h.removes
  refine ⟨w, hw, ?_⟩
  intro key _
  have hunended : Unended [] key := fun s hs => absurd hs List.not_mem_nil
  have hstored : n.store.get? key = before.kept [] key := by
    rw [h.stored]
    rfl
  rw [h.applied]
  cases hfind : n.registry.table.find? key with
  | none =>
    exact .unborn hfind hunended (fun e he => absurd he List.not_mem_nil) rfl
      (fun q hq => absurd hq List.not_mem_nil) hstored
  | some d =>
    obtain ⟨record, hrecord, rfl, hd⟩ := h.source key d hfind
    refine .linked hfind (h.sound.wf.key_of_find? hfind) hunended
      (fun e he => absurd he List.not_mem_nil) (fun version hknown => ?_)
      (fun q hq => absurd hq List.not_mem_nil) hstored (.inr (.inr (.inr ?_)))
    · cases hknown
    · have hget : before.kept [] record.key = before.get? record.key := rfl
      rw [hget, hbefore.get? hrecord, Record.record_of_dialog? hd]

/-- However a node in delayed mode was opened and tended, its worker is employed and the invariant
holds. -/
theorem Opened.tidy (hE : ∀ env, E env → env.Steady) (hbefore : before.Keyed) {count : Nat}
    (hopened : Opened .delayed before count n) (h : Tended E C n ms log n') :
    ∃ w worker waiting, Employs worker waiting n' ∧ Tidy before w ms log waiting [] worker n' := by
  obtain ⟨worker, hready⟩ := hopened.ready
  obtain ⟨w, htidy⟩ := hready.tidy hbefore
  obtain ⟨worker', waiting', hemployed, htidy'⟩ :=
    (tidy_upkeep hE).tended hE h hready.employs htidy
  exact ⟨w, worker', waiting', hemployed, htidy'⟩

/-! ## When saves fail -/

theorem Tended.allows_takeDirty (h : Tended E C n ms log n') {d : Dialog} (htaken : Taken ms d) :
    C.allows .takeDirty = true := by
  obtain ⟨e, he, -⟩ := htaken
  exact h.hands he

/-- In delayed mode every linked dialog that was not restored meanwhile is marked or is stored as it
is, unless others than the worker took it to store it, or the last save that was tried has failed,
and it has not changed since. The former is so only where there is room for that in a run, and in
the latter case it was shown to the store as it is. -/
theorem Opened.marked_or_stored (hE : ∀ env, E env → env.Steady) (hbefore : before.Keyed)
    {count : Nat} (hopened : Opened .delayed before count n) (h : Tends E C n n') :
    (∃ ms log, Tended E C n ms log n') ∧
      ∀ ms log, Tended E C n ms log n' → ∀ key d, n'.registry.table.find? key = some d →
        Unrestored ms key →
        d.marked = true ∨ n'.store.get? key = some d.record ∨
          (C.allows .takeDirty = true ∧ Taken ms d) ∨
            lastTry? key log = some ⟨d.record, false⟩ := by
  obtain ⟨worker, hready⟩ := hopened.ready
  refine ⟨h.tended hE hready.employs hready.works, ?_⟩
  intro ms log htended key d hfind hkey
  obtain ⟨w, worker', waiting, -, htidy⟩ := hopened.tidy hE hbefore htended
  obtain ⟨-, hstored, hmarked | htaken | hrecord⟩ := (htidy.held key hkey).of_find? hfind
  · exact .inl hmarked
  · exact .inr (.inr (.inl ⟨htended.allows_takeDirty htaken, htaken⟩))
  · rcases Store.kept_made hrecord with hmade | hfailed
    · exact .inr (.inl (hstored.trans hmade))
    · exact .inr (.inr (.inr hfailed))

end Node

/-- Quiet surroundings with a store that fails to save. -/
def Environment.full : Environment Unit :=
  { Environment.quiet with
    store := fun c r =>
      match c with
      | .saved _ => (.failed "store is full", r)
      | _ => (.done, r) }

theorem Environment.full_steady : Environment.full.Steady where
  answers c r := by cases c <;> exact Outcome.noConfusion
  idle c r := by cases c <;> exact .refl r

namespace Node

/-- The node after operations in quiet surroundings. -/
def quietly (n : Node Unit) (ops : List Operation) : Node Unit :=
  { n with registry := n.registry.performAll .quiet ops }

theorem quietly_tends {E : Environment Unit → Prop} (n : Node Unit) {ops : List Operation}
    (hfits : ∀ op ∈ ops, op.fits C = true) : Tends E C n (n.quietly ops) :=
  .act (Registry.runsIn_performAll (Environment.quiet_honest C) n.registry hfits)

/-- A call comes in. -/
def incoming : Operation :=
  .insert { callId := "abc", fromUri := "sip:a", toUri := "sip:b", fromTag := "t1" } 0

/-- A dialog is inserted. -/
def ringing : Node Unit := (quietNode .delayed {}).quietly [incoming]

theorem ringing_tends (E : Environment Unit → Prop) (hfits : incoming.fits C = true) :
    Tends E C (quietNode .delayed {}) ringing :=
  quietly_tends _ (by simpa using hfits)

/-- The store is full when the dialog is saved. The next flush finds a store that would save it, and
nothing to save. -/
def unsaved : Node Unit := (ringing.settle .full 60).settle .quiet 60

theorem unsaved_tends :
    Tends Environment.Steady Conduct.told.handsOff (quietNode .delayed {}) unsaved :=
  (ringing_tends _ rfl).trans
    (.trans (.settle _ Environment.full_steady 60) (.settle _ Environment.quiet_serves.steady 60))

/-- The dialog is live, its marks are gone, and nothing is stored of it. -/
theorem unsaved_lost :
    Opened .delayed {} 0 (quietNode .delayed {}) ∧
      Tends Environment.Steady Conduct.told.handsOff (quietNode .delayed {}) unsaved ∧
      unsaved.registry.mailboxes = #[⟨[], true⟩] ∧
      (∃ d, unsaved.registry.table.find? ⟨0, 0⟩ = some d ∧ d.phase ≠ .deleted ∧
        d.marked = false) ∧
      unsaved.store.get? ⟨0, 0⟩ = none := by
  have hlive : (unsaved.registry.table.find? ⟨0, 0⟩).map (fun d => (d.phase, d.marked))
      = some (.unconfirmed, false) := by decide +kernel
  obtain ⟨d, hd, hphase⟩ := Option.map_eq_some_iff.1 hlive
  obtain ⟨hunconfirmed, hmarked⟩ := Prod.mk.inj hphase
  refine ⟨quietNode_opened .delayed {}, unsaved_tends, by decide +kernel,
    ⟨d, hd, by simp [hunconfirmed], hmarked⟩, by decide +kernel⟩

/-- Its last save was tried with the dialog as it is, and failed. -/
theorem unsaved_tried :
    ∃ ms log,
      Tended Environment.Steady Conduct.told.handsOff (quietNode .delayed {}) ms log unsaved ∧
    ∃ d, unsaved.registry.table.find? ⟨0, 0⟩ = some d ∧
      lastTry? ⟨0, 0⟩ log = some ⟨d.record, false⟩ := by
  have hempty : Store.Keyed {} := Store.keyed_written []
  obtain ⟨⟨ms, log, htended⟩, hall⟩ := Opened.marked_or_stored (fun _ => id) hempty
    (quietNode_opened .delayed {}) unsaved_tends
  have hclean : (unsaved.registry.table.find? ⟨0, 0⟩).map (·.marked) = some false := by
    decide +kernel
  have hnone : unsaved.store.get? ⟨0, 0⟩ = none := by decide +kernel
  obtain ⟨d, hd, hmarked⟩ := Option.map_eq_some_iff.1 hclean
  refine ⟨ms, log, htended, d, hd, ?_⟩
  rcases hall ms log htended _ d hd fun e he => absurd he (htended.not_restored rfl e) with
    hmarked' | hstored | ⟨hallows, -⟩ | hfailed
  · rw [hmarked] at hmarked'
    cases hmarked'
  · rw [hnone] at hstored
    cases hstored
  · cases hallows
  · exact hfailed

/-! ## After a flush -/

variable {before : Store} {w : Observer} {ms : List Moment} {log : List Attempt}
  {waiting pending : List Write} {worker : Worker} {n n' : Node ε} {C : Conduct}
  {env : Environment ε}

/-- A node whose live dialogs have fresh copies in the store. -/
structure Fresh (C : Conduct) (ms : List Moment) (n : Node ε) : Prop where
  /-- A live dialog is stored as it is, unless it was restored meanwhile, or others than the worker
  took it to store it, if there is room for that in a run, and it has not changed since. -/
  stored : ∀ key d, n.registry.table.find? key = some d → d.phase ≠ .deleted →
    Unrestored ms key → ¬(C.allows .takeDirty = true ∧ Taken ms d) →
      n.store.get? key = some d.record
  /-- No live dialog is marked. -/
  clean : ∀ key d, n.registry.table.find? key = some d → d.phase ≠ .deleted → d.marked = false
  /-- A flush has nothing to do. -/
  still : ∀ (env : Environment ε) (worker : Worker), flush env worker n = (worker, n)

theorem flush_of_clean (hwf : n.registry.table.Wf)
    (hclean : ∀ key d, n.registry.table.find? key = some d → d.phase ≠ .deleted →
      d.marked = false) (env : Environment ε) (worker : Worker) :
    flush env worker n = (worker, n) := by
  have hnone : n.registry.table.takeDirty = ([], n.registry.table) := by
    refine hwf.takeDirty_of_clean fun key d hfind => ?_
    cases hdeleted : d.phase.isDeleted with
    | true => simp [Dialog.isDirty, hdeleted]
    | false =>
      have hlive : d.phase ≠ .deleted := by
        intro hphase
        rw [hphase] at hdeleted
        cases hdeleted
      have hunmarked : d.flags.intersects .dirty = false := hclean key d hfind hlive
      simp [Dialog.isDirty, hunmarked]
  rw [flush_eq, flushWrites, unmarked, Registry.takeDirty, hnone]
  rfl

theorem Fresh.congr (h : Fresh C ms n) (hwf : n.registry.table.Wf) (hstore : n'.store = n.store)
    (htable : n'.registry.table = n.registry.table) : Fresh C ms n' := by
  have hclean : ∀ key d, n'.registry.table.find? key = some d → d.phase ≠ .deleted →
      d.marked = false := by
    rw [htable]
    exact h.clean
  refine ⟨?_, hclean, ?_⟩
  · rw [htable, hstore]
    exact h.stored
  · rw [← htable] at hwf
    exact flush_of_clean hwf hclean

/-- Right after a flush nothing live is marked, so what was shown to the store has been stored. -/
theorem Opened.fresh_sweep (hbefore : before.Keyed) {count : Nat}
    (hopened : Opened .delayed before count n) (h : Tended Environment.Serves C n ms log n')
    (hemployed : Employs worker waiting n') (henv : env.Serves) : Fresh C ms (n'.sweep env) := by
  have hswept := h.trans_nil (.sweep hemployed henv)
  have hmade := hswept.made fun _ hserves => hserves.stores
  obtain ⟨w, worker', waiting', hemployed', htidy⟩ :=
    hopened.tidy (fun _ hserves => hserves.steady) hbefore hswept
  have hwf := hemployed'.sound.wf
  have hclean : ∀ key d, (n'.sweep env).registry.table.find? key = some d → d.phase ≠ .deleted →
      d.marked = false := by
    intro key d hfind hlive
    rw [hemployed.table_sweep henv.steady, hemployed.sound.wf.find?_takeDirty] at hfind
    obtain ⟨e, -, he⟩ := Option.map_eq_some_iff.1 hfind
    split at he
    · rw [← he]
      exact e.marked_clean
    next hdirty =>
      subst he
      have hphase : e.phase.isDeleted = false := by
        simpa [Phase.isDeleted] using hlive
      simpa [Dialog.isDirty, hphase] using hdirty
  refine ⟨?_, hclean, flush_of_clean hwf hclean⟩
  intro key d hfind hlive hkey htaken
  obtain ⟨-, hstored, hmarked | htaken' | hrecord⟩ := (htidy.held key hkey).of_find? hfind
  · rw [hclean key d hfind hlive] at hmarked
    cases hmarked
  · exact absurd ⟨hswept.allows_takeDirty htaken', htaken'⟩ htaken
  · rw [List.filter_eq_self.2 hmade] at hstored
    exact hstored.trans hrecord

/-- However a node in delayed mode was tended, its live dialogs have fresh copies right after every
flush: one that comes when it likes, one that is due while the worker settles, and the last one
before the worker stops. What others took to store it, and has not changed since, is not marked when
the flush comes. -/
theorem Opened.fresh_after_flush (hbefore : before.Keyed) {count : Nat}
    (hopened : Opened .delayed before count n) (h : Tends Environment.Serves C n n')
    (henv : env.Serves) :
    (∃ ms log, Tended Environment.Serves C n ms log n') ∧
      ∃ worker, n'.worker = some worker ∧ ∀ ms log, Tended Environment.Serves C n ms log n' →
        (∀ key d, n'.registry.table.find? key = some d → Unrestored ms key → Taken ms d →
          d.marked = false) ∧
        Fresh C ms (n'.sweep env) ∧
        (∀ seconds, worker.due ≤ n'.clock + seconds → Fresh C ms (n'.settle env seconds)) ∧
        (n'.stop env).1 = .ok () ∧ Fresh C ms (n'.stop env).2 := by
  have hsteady := fun (env : Environment ε) (hserves : env.Serves) => hserves.steady
  obtain ⟨worker, hready⟩ := hopened.ready
  obtain ⟨ms, log, htended⟩ := h.tended hsteady hready.employs hready.works
  obtain ⟨w, worker', waiting, hemployed, htidy⟩ := hopened.tidy hsteady hbefore htended
  have hdelayed := htidy.delayed
  refine ⟨⟨ms, log, htended⟩, worker', hemployed.employed, ?_⟩
  clear htidy
  intro ms log htended
  obtain ⟨w, worker₀, waiting₀, -, htidy⟩ := hopened.tidy hsteady hbefore htended
  have hworked := hemployed.work henv.steady waiting.length
  have hcarried := htended.trans_nil (.work hemployed henv waiting.length)
  refine ⟨?_, hopened.fresh_sweep hbefore htended hemployed henv, ?_, ?_⟩
  · intro key d hfind hkey htaken
    exact ((htidy.held key hkey).of_find? hfind).1.unmarked htaken
  · intro seconds hdue
    have hwaited := hcarried.trans_nil (.wait _ seconds)
    rw [hemployed.settle_delayed henv.steady hdelayed, if_pos hdue]
    exact hopened.fresh_sweep hbefore hwaited (hworked.wait seconds) henv
  · obtain ⟨hclean, hstore, htable⟩ := hemployed.stop_delayed henv.steady hdelayed
    have hfresh := hopened.fresh_sweep hbefore hcarried hworked henv
    exact ⟨hclean, hfresh.congr (hworked.sweep henv.steady).sound.wf hstore htable⟩

/-- The dialog that rings is marked, so the flush that is due next leaves a fresh copy of it. -/
theorem ringing_fresh : ∃ d, (ringing.settle .quiet 60).registry.table.find? ⟨0, 0⟩ = some d ∧
    d.phase = .unconfirmed ∧ (ringing.settle .quiet 60).store.get? ⟨0, 0⟩ = some d.record := by
  have hempty : Store.Keyed {} := Store.keyed_written []
  have hfits : incoming.fits Conduct.told.handsOff = true := rfl
  obtain ⟨⟨ms, log, htended⟩, worker, hworker, hall⟩ := Opened.fresh_after_flush hempty
    (quietNode_opened .delayed {}) (ringing_tends _ hfits) Environment.quiet_serves
  obtain ⟨-, -, hsettled, -⟩ := hall ms log htended
  have hdue : ringing.worker.map (·.due) = some 60 := by decide +kernel
  have hclock : ringing.clock = 0 := by decide +kernel
  have hlive : ((ringing.settle .quiet 60).registry.table.find? ⟨0, 0⟩).map (·.phase)
      = some .unconfirmed := by decide +kernel
  obtain ⟨d, hd, hphase⟩ := Option.map_eq_some_iff.1 hlive
  have hkey : Unrestored ms ⟨0, 0⟩ := fun f hf => absurd hf (htended.not_restored rfl f)
  rw [hworker] at hdue
  have hwhen : worker.due = 60 := Option.some.inj hdue
  have hnow : worker.due ≤ ringing.clock + 60 := Nat.le_of_eq (by rw [hclock, hwhen])
  refine ⟨d, hd, hphase, (hsettled 60 hnow).stored _ d hd (by simp [hphase]) hkey ?_⟩
  rintro ⟨hallows, -⟩
  cases hallows

/-- An operation takes the marks of the dialog before the flush is due. -/
def collected : Node Unit := ringing.quietly [.takeDirty]

theorem collected_tends (E : Environment Unit → Prop) :
    Tends E .told (quietNode .delayed {}) collected :=
  (ringing_tends E rfl).trans (quietly_tends _ (by decide))

/-- The flush then does not save the dialog, though it is live and was inserted in this run. -/
theorem collected_missed :
    Opened .delayed {} 0 (quietNode .delayed {}) ∧
      Tends Environment.Serves .told (quietNode .delayed {}) collected ∧
      collected.worker.map (·.due) = some 60 ∧ collected.clock = 0 ∧
      (∃ d, (collected.settle .quiet 60).registry.table.find? ⟨0, 0⟩ = some d ∧
        d.phase ≠ .deleted) ∧
      (collected.settle .quiet 60).store.get? ⟨0, 0⟩ = none := by
  have hlinked : ((collected.settle .quiet 60).registry.table.find? ⟨0, 0⟩).map (·.phase)
      = some .unconfirmed := by decide +kernel
  obtain ⟨d, hd, hphase⟩ := Option.map_eq_some_iff.1 hlinked
  exact ⟨quietNode_opened .delayed {}, collected_tends _, by decide +kernel, by decide +kernel,
    ⟨d, hd, by simp [hphase]⟩, by decide +kernel⟩

end Node

end SipDialogs
