-- SUMMARY: How many references of a dialog are granted, and what becomes of those it cannot count.
import SipDialogs.Proofs.Runs

/-! # Grants

References are granted in any number as long as a dialog is linked, but its count ends at a limit.
What would take the count past it is granted and not counted, and nobody notices until the dialog is
unlinked under those who still have references on it. A tally has no limit. Its peak tells how many
references are lost in this way, and so it tells when the dialog ends. -/

namespace SipDialogs

theorem Dialog.maxRefs_pos : 0 < maxRefs := by decide

/-! ## How calls are answered -/

/-- References are granted on a linked dialog, whatever their number. On any other they are an
anomaly. -/
theorem Table.addRefs_answers (t : Table) (key : Key) (count : Nat) :
    (t.addRefs key count).1 = t.isLinked key ∧
      (t.addRefs key count).2.anomalies = t.anomalies + if t.isLinked key then 0 else 1 := by
  unfold addRefs isLinked
  cases t.find? key with
  | none => exact ⟨rfl, rfl⟩
  | some d => exact ⟨rfl, anomalies_put ..⟩

namespace Registry

variable {r : Registry ε} {key : Key} {count : Nat}

/-- A release that unlinks nothing ends with the table. -/
theorem release_of_none (env : Environment ε) (h : (r.table.release key count).1 = none) :
    r.release env key count = { r with table := (r.table.release key count).2 } := by
  unfold release
  generalize r.table.release key count = released at h
  obtain ⟨_ | d, t⟩ := released
  · rfl
  · cases h

theorem release_of_some (env : Environment ε) {d : Dialog} {t : Table}
    (h : r.table.release key count = (some d, t)) :
    r.release env key count = Registry.destroy { r with table := t } env d := by
  unfold release
  rw [h]

end Registry

/-! ## Tallies -/

/-- What was granted of the references of a dialog, and what was returned. -/
structure Tally where
  granted : Nat
  returned : Nat := 0
  /-- The most references that were outstanding at one time. -/
  peak : Nat
  deriving DecidableEq, Repr

namespace Tally

/-- A new dialog has a reference for the table and one for each holder. -/
def opened (holders : Nat) : Tally where
  granted := holders + 1
  peak := holders + 1

/-- More references are granted. -/
def grant (T : Tally) (count : Nat) : Tally :=
  { T with
    granted := T.granted + count
    peak := max T.peak (T.granted + count - T.returned) }

/-- References are returned. -/
def giveBack (T : Tally) (count : Nat) : Tally := { T with returned := T.returned + count }

/-- The references that were granted and not counted: what the peak has beyond the limit. -/
def lost (T : Tally) : Nat := T.peak - Dialog.maxRefs

variable {T : Tally} {key : Key} {count : Nat}

theorem lost_eq_zero_iff : T.lost = 0 ↔ T.peak ≤ Dialog.maxRefs := Nat.sub_eq_zero_iff_le

@[simp] theorem granted_giveBack (T : Tally) (count : Nat) :
    (T.giveBack count).granted = T.granted := rfl

@[simp] theorem returned_giveBack (T : Tally) (count : Nat) :
    (T.giveBack count).returned = T.returned + count := rfl

@[simp] theorem lost_giveBack (T : Tally) (count : Nat) : (T.giveBack count).lost = T.lost := rfl

/-- A count agrees with a tally if it is what was granted and neither returned nor lost, and more
than nothing. -/
def Agrees (T : Tally) (refs : Nat) : Prop := 0 < refs ∧ refs + T.returned + T.lost = T.granted

theorem agrees_create (key : Key) (identity : Identity) (holders : Nat) (start : Timestamp)
    (timeout : UInt32) :
    (opened holders).Agrees (Dialog.create key identity holders start timeout).refs := by
  have hmax := Dialog.maxRefs_pos
  unfold Agrees Dialog.create lost opened
  dsimp only
  split <;> omega

/-- The references that are granted and not counted are those by which the peak rises beyond the
limit. -/
theorem Agrees.addRefs {d : Dialog} (h : T.Agrees d.refs) (count : Nat) :
    (T.grant count).Agrees (d.addRefs count).refs := by
  have hmax := Dialog.maxRefs_pos
  unfold Agrees lost at h
  unfold Agrees Dialog.addRefs lost grant
  dsimp only
  split <;> omega

theorem Agrees.sub {refs : Nat} (h : T.Agrees refs) (hlt : count < refs) :
    (T.giveBack count).Agrees (refs - count) := by
  unfold Agrees at h ⊢
  rw [granted_giveBack, returned_giveBack, lost_giveBack]
  omega

/-! ## Counting -/

/-- The count of a linked dialog agrees with the tally. One that is no longer linked has nothing
left to count. -/
structure Counted (T : Tally) (key : Key) (t : Table) : Prop where
  wf : t.Wf
  linked : ∀ {d}, t.find? key = some d → T.Agrees d.refs
  unlinked : t.find? key = none → T.granted ≤ T.returned + T.lost

namespace Counted

variable {t t' : Table}

/-- It is enough to look at the count. -/
theorem of_refs (h : T.Counted key t) (hwf : t'.Wf)
    (hrefs : (t'.find? key).map (·.refs) = (t.find? key).map (·.refs)) : T.Counted key t' where
  wf := hwf
  linked := by
    intro e he
    rw [he, Option.map_some] at hrefs
    obtain ⟨d, hd, hsame⟩ := Option.map_eq_some_iff.1 hrefs.symm
    rw [← hsame]
    exact h.linked hd
  unlinked hnone := by
    rw [hnone, Option.map_none, eq_comm, Option.map_eq_none_iff] at hrefs
    exact h.unlinked hrefs

theorem of_some (hwf : t.Wf) {d : Dialog} (hfind : t.find? key = some d) (h : T.Agrees d.refs) :
    T.Counted key t where
  wf := hwf
  linked hd := by
    cases hfind.symm.trans hd
    exact h
  unlinked hnone := by cases hfind.symm.trans hnone

theorem of_none (hwf : t.Wf) (hfind : t.find? key = none) (h : T.granted ≤ T.returned + T.lost) :
    T.Counted key t where
  wf := hwf
  linked hd := by cases hfind.symm.trans hd
  unlinked _ := h

theorem put (hwf : t.Wf) {d e : Dialog} (hd : t.find? e.key = some d) (h : T.Agrees e.refs) :
    T.Counted e.key (t.put e) := by
  refine of_some (hwf.put e) (d := e) ?_ h
  rw [Table.find?_put_of_linked hd, if_pos rfl]

/-- A dialog is linked as long as anything is left that it counts. -/
theorem isLinked_iff (h : T.Counted key t) :
    t.isLinked key = true ↔ T.returned + T.lost < T.granted := by
  cases hfind : t.find? key with
  | none =>
    have hended := h.unlinked hfind
    simp only [Table.isLinked, hfind, Option.isSome_none, Bool.false_eq_true, false_iff]
    omega
  | some d =>
    obtain ⟨hpos, hrefs⟩ := h.linked hfind
    simp only [Table.isLinked, hfind, Option.isSome_some, true_iff]
    omega

theorem insert (hwf : t.Wf) {identity : Identity} {holders : Nat} {start : Timestamp} {d : Dialog}
    (hinsert : t.insert identity holders start = .ok (d, t')) :
    (opened holders).Counted d.key t' := by
  obtain ⟨hlinks, hd⟩ := Table.insert_links hinsert
  refine of_some (hlinks.wf hwf) (d := d) ?_ ?_
  · rw [hlinks.find?, if_pos rfl]
  · rw [hd]
    exact agrees_create ..

theorem addRefs (h : T.Counted key t) (count : Nat) :
    (if (t.addRefs key count).1 then T.grant count else T).Counted key (t.addRefs key count).2 := by
  unfold Table.addRefs
  cases hfind : t.find? key with
  | none => exact h.of_refs (h.wf.count _) rfl
  | some d =>
    obtain rfl : d.key = key := h.wf.key_of_find? hfind
    exact put (e := d.addRefs count) h.wf hfind ((h.linked hfind).addRefs count)

/-- A release that leaves a dialog references is no anomaly. -/
theorem release_within (h : T.Counted key t)
    (hwithin : T.returned + count + T.lost < T.granted) :
    (t.release key count).1 = none ∧ (T.giveBack count).Counted key (t.release key count).2 ∧
      (t.release key count).2.anomalies = t.anomalies := by
  obtain ⟨d, hfind⟩ := Option.isSome_iff_exists.1 (h.isLinked_iff.2 (by omega))
  obtain rfl : d.key = key := h.wf.key_of_find? hfind
  have hagrees := h.linked hfind
  have hlt : count < d.refs := by
    obtain ⟨-, hrefs⟩ := hagrees
    omega
  rw [Table.release_of_lt hfind hlt]
  rcases Nat.eq_zero_or_pos count with rfl | hpos
  · exact ⟨rfl, h, rfl⟩
  · rw [if_neg (Nat.ne_of_gt hpos)]
    exact ⟨rfl, put (e := { d with refs := d.refs - count }) h.wf hfind (hagrees.sub hlt),
      Table.anomalies_put ..⟩

/-- A dialog is unlinked once nothing is left that it counts, and returning more is an anomaly. -/
theorem release_last (h : T.Counted key t) (hlinked : t.isLinked key = true)
    (hlast : T.granted ≤ T.returned + count + T.lost) :
    ∃ d t', t.release key count = (some d, t') ∧ d.key = key ∧ t'.Wf ∧ t'.find? key = none ∧
      t'.anomalies = t.anomalies + if T.granted < T.returned + count + T.lost then 1 else 0 := by
  obtain ⟨d, hfind⟩ := Option.isSome_iff_exists.1 hlinked
  obtain ⟨hpos, hrefs⟩ := h.linked hfind
  have hkey : d.key = key := h.wf.key_of_find? hfind
  have hle : d.refs ≤ count := by omega
  have hmore : d.refs < count ↔ T.granted < T.returned + count + T.lost := by omega
  refine ⟨_, _, Table.release_of_le hfind (Nat.lt_of_lt_of_le hpos hle) hle, hkey, ?_, ?_, ?_⟩
  · split
    · exact (h.wf.count _).erase key
    · exact h.wf.erase key
  · rw [Table.find?_erase, if_pos rfl]
  · simp only [hmore]
    split
    · simp
    · simp

theorem release (h : T.Counted key t) (count : Nat) :
    (T.giveBack count).Counted key (t.release key count).2 := by
  rcases Nat.lt_or_ge (T.returned + count + T.lost) T.granted with hwithin | hlast
  · exact (h.release_within hwithin).2.1
  cases hlinked : t.isLinked key with
  | true =>
    obtain ⟨d, t', hrelease, -, hwf, hnone, -⟩ := h.release_last hlinked hlast
    rw [hrelease]
    exact of_none hwf hnone hlast
  | false =>
    have hnone : t.find? key = none := by simpa [Table.isLinked] using hlinked
    rcases Nat.eq_zero_or_pos count with rfl | hpos
    · exact h
    · rw [Table.release_of_unlinked hnone hpos]
      exact of_none (h.wf.count _) hnone hlast

/-- Exactly if nothing was lost, a dialog stays linked until all that was granted is returned. -/
theorem kept_iff (h : T.Counted key t) (hlinked : t.isLinked key = true) :
    T.peak ≤ Dialog.maxRefs ↔ ∀ count, T.returned + count < T.granted →
      (t.release key count).2.isLinked key = true := by
  rw [← lost_eq_zero_iff]
  constructor
  · intro hnone count hwithin
    rw [(h.release count).isLinked_iff, lost_giveBack, hnone]
    exact hwithin
  · intro hkept
    by_contra hlost
    -- with all but what was lost returned, nothing is left that the dialog counts
    have hleft := h.isLinked_iff.1 hlinked
    have hstill := hkept (T.granted - T.returned - T.lost) (by omega)
    rw [(h.release _).isLinked_iff, granted_giveBack, returned_giveBack, lost_giveBack] at hstill
    omega

end Counted

/-! ## Runs -/

/-- Runs from the moment at which a dialog is linked under this key, with the tally of its
references. A call for them is entered when it reaches the table. Observers may make such calls too,
while they are told of something. Whatever else is done meanwhile, to this dialog or to others,
leaves its references alone. -/
inductive Run : Key → Tally → Registry ε → Prop where
  | insert {r : Registry ε} (hwf : r.table.Wf) {identity : Identity} {holders : Nat} {d : Dialog}
      {t : Table} (hinsert : r.table.insert identity holders r.clock = .ok (d, t)) :
      Run d.key (opened holders) { r with table := t }
  | aside {key : Key} {T : Tally} {r r' : Registry ε} (hrun : Run key T r) (hwf : r'.table.Wf)
      (hrefs : (r'.table.find? key).map (·.refs) = (r.table.find? key).map (·.refs)) :
      Run key T r'
  | addRefs {key : Key} {T : Tally} {r : Registry ε} (hrun : Run key T r) (count : Nat) :
      Run key (if (r.addRefs key count).1 then T.grant count else T) (r.addRefs key count).2
  | release {key : Key} {T : Tally} {r : Registry ε} (hrun : Run key T r) (count : Nat) :
      Run key (T.giveBack count) { r with table := (r.table.release key count).2 }

theorem Run.counted {r : Registry ε} (h : Run key T r) : T.Counted key r.table := by
  induction h with
  | insert hwf hinsert => exact .insert hwf hinsert
  | aside _ hwf hrefs ih => exact ih.of_refs hwf hrefs
  | addRefs _ count ih => exact ih.addRefs count
  | release _ count ih => exact ih.release count

/-- What becomes of the tally during these moments, if the dialog is only changed by calls for its
references. -/
inductive Follows (key : Key) : Tally → List Moment → Tally → Prop where
  | nil (T : Tally) : Follows key T [] T
  | aside {T T' : Tally} {m : Moment} {ms : List Moment} (hother : m.key? ≠ some key)
      (hrest : Follows key T ms T') : Follows key T (m :: ms) T'
  | addRefs {T T' : Tally} {d : Dialog} {ms : List Moment} (hkey : d.key = key) (count : Nat)
      (hrest : Follows key (T.grant count) ms T') :
      Follows key T (.revised d (d.addRefs count) :: ms) T'
  | release {T T' : Tally} {d : Dialog} {ms : List Moment} (hkey : d.key = key) (count : Nat)
      (hrest : Follows key (T.giveBack count) ms T') : Follows key T (.released d count :: ms) T'

namespace Run

variable {c c' : Scene ε}

/-- At a moment of another dialog, nothing is called for. -/
theorem other (h : Run key T c.registry) {m : Moment} (hstep : Step c m c')
    (hother : m.key? ≠ some key) : Run key T c'.registry :=
  h.aside (hstep.wf h.counted.wf) (congrArg _ (hstep.find?_of_ne hother))

theorem revised (h : Run key T c.registry) {d : Dialog}
    (hstep : Step c (.revised d (d.addRefs count)) c') (hkey : d.key = key) :
    Run key (T.grant count) c'.registry := by
  subst hkey
  have hfind : c.registry.table.find? d.key = some d := hstep.found rfl
  have hcalled := h.addRefs count
  simp only [Registry.addRefs, Table.addRefs, hfind, if_true] at hcalled
  have hput : (c.registry.table.put (d.addRefs count)).find? d.key = some (d.addRefs count) :=
    (Table.find?_put_of_linked (d := d.addRefs count) hfind d.key).trans (if_pos rfl)
  -- profiles may change at the same moment
  refine hcalled.aside (hstep.wf h.counted.wf) ?_
  rw [hstep.find?_of_key rfl]
  exact congrArg _ hput.symm

theorem released (h : Run key T c.registry) {d : Dialog}
    (hstep : Step c (.released d count) c') (hkey : d.key = key) :
    Run key (T.giveBack count) c'.registry := by
  subst hkey
  have hwf := hstep.wf h.counted.wf
  have hcalled := h.release count
  cases hstep with
  | giveBack hfind hpos hlt =>
    rw [Table.release_of_lt hfind hlt, if_neg (Nat.ne_of_gt hpos)] at hcalled
    exact hcalled
  | unlink hfind hpos hle =>
    rw [Table.release_of_le hfind hpos hle] at hcalled
    refine hcalled.aside hwf ?_
    -- the anomaly, if there is one, was counted before
    simp only [Table.find?_erase, if_true]

/-- The tally goes along on every path. -/
theorem follows {ms : List Moment} {T' : Tally} (h : Run key T c.registry) (hpath : Path c ms c')
    (hfollows : Follows key T ms T') : Run key T' c'.registry := by
  induction hfollows generalizing c with
  | nil T =>
    cases hpath
    exact h
  | aside hother hrest ih =>
    cases hpath with
    | cons hstep hpath => exact ih (h.other hstep hother) hpath
  | addRefs hkey count hrest ih =>
    cases hpath with
    | cons hstep hpath => exact ih (h.revised hstep hkey) hpath
  | release hkey count hrest ih =>
    cases hpath with
    | cons hstep hpath => exact ih (h.released hstep hkey) hpath

/-- Whatever is done to a registry, in whatever surroundings, the tally of a dialog goes along as
long as it is only called for references of it. -/
theorem runsIn {r r' : Registry ε} (h : Run key T r) (hsound : r.Sound)
    (hruns : Registry.RunsIn .free r r') :
    ∃ ms, Path ⟨r, []⟩ ms ⟨r', []⟩ ∧ ∀ T', Follows key T ms T' → Run key T' r' := by
  have hsome : ∃ ms, Course .free [] r ms r' := hruns.course hsound
  obtain ⟨ms, hcourse⟩ := hsome
  exact ⟨ms, hcourse.path, fun _ hfollows => h.follows hcourse.path hfollows⟩

end Run

/-- What the tally of a dialog says about the calls for its references. -/
structure Governs (T : Tally) (key : Key) (r : Registry ε) : Prop where
  /-- The dialog is linked until what was returned and what was lost come to what was granted. -/
  linked_iff : r.table.isLinked key = true ↔ T.returned + T.lost < T.granted
  refs : ∀ d, r.table.find? key = some d → d.refs + T.returned + T.lost = T.granted
  /-- As long as it is linked, references are granted in any number, and this is no anomaly. -/
  grants : ∀ count, (r.addRefs key count).1 = r.table.isLinked key ∧
    (r.addRefs key count).2.table.anomalies
      = r.table.anomalies + if r.table.isLinked key then 0 else 1
  /-- Until then, references are returned without further ado. -/
  stays : ∀ env count, T.returned + count + T.lost < T.granted →
    r.release env key count = { r with table := (r.table.release key count).2 } ∧
      (r.release env key count).table.isLinked key = true ∧
      (r.release env key count).table.anomalies = r.table.anomalies
  /-- With the release that brings it there, the dialog is unlinked and torn down. It is an anomaly
  if more is returned than is left. -/
  ends : ∀ env count, r.table.isLinked key = true → T.granted ≤ T.returned + count + T.lost →
    ∃ d t, r.release env key count = Registry.destroy { r with table := t } env d ∧ d.key = key ∧
      t.find? key = none ∧
      t.anomalies = r.table.anomalies + if T.granted < T.returned + count + T.lost then 1 else 0
  /-- Exactly if there never were more references outstanding than the dialog can count, it takes
  all of them to unlink it. -/
  kept_iff : r.table.isLinked key = true →
    (T.peak ≤ Dialog.maxRefs ↔ ∀ count, T.returned + count < T.granted →
      (r.table.release key count).2.isLinked key = true)

/-- A dialog is linked exactly as long as fewer references were returned than were granted, if those
beyond what it can count are taken for returned. Until then no call for its references is an
anomaly, and it ends with the release that brings it there. -/
theorem Run.governs {r : Registry ε} (h : Run key T r) : T.Governs key r where
  linked_iff := h.counted.isLinked_iff
  refs d hd := (h.counted.linked hd).2
  grants count := r.table.addRefs_answers key count
  stays env count hwithin := by
    obtain ⟨hstays, hcounted, hanomalies⟩ := h.counted.release_within hwithin
    rw [Registry.release_of_none env hstays]
    exact ⟨rfl, hcounted.isLinked_iff.2 hwithin, hanomalies⟩
  ends env count hlinked hlast := by
    obtain ⟨d, t, hrelease, hkey, -, hnone, hanomalies⟩ := h.counted.release_last hlinked hlast
    exact ⟨d, t, Registry.release_of_some env hrelease, hkey, hnone, hanomalies⟩
  kept_iff := h.counted.kept_iff

end Tally

/-! A dialog on which more references are granted than it can count. -/

namespace Registry

/-- A dialog without holders. -/
def solitary : Registry Unit :=
  blank.perform .quiet
    (.insert { callId := "abc", fromUri := "sip:a", toUri := "sip:b", fromTag := "t1" } 0)

/-- The dialog, once somebody has taken as many references on it as one call can ask for. -/
def overdrawn : Registry Unit := (solitary.addRefs ⟨0, 0⟩ 4294967295).2

theorem overdrawn_run : Tally.Run ⟨0, 0⟩ ⟨4294967296, 0, 4294967296⟩ overdrawn := by
  have hinsert : blank.table.insert
      { callId := "abc", fromUri := "sip:a", toUri := "sip:b", fromTag := "t1" } 0 blank.clock
        = .ok (_, solitary.table) := rfl
  exact (Tally.Run.insert blank_reachable.wf hinsert).addRefs 4294967295

/-- The registry after all of them but one have been returned. -/
def underpaid : Registry Unit := overdrawn.release .quiet ⟨0, 0⟩ 4294967295

theorem underpaid_reachable : underpaid.Reachable :=
  ((blank_reachable.step Environment.quiet_lawful _).step Environment.quiet_lawful
    (.addRefs ⟨0, 0⟩ 4294967295)).step Environment.quiet_lawful (.release ⟨0, 0⟩ 4294967295)

/-- The dialog has ended under whoever has the last reference, and returning that one is taken for
an anomaly. -/
theorem underpaid_ended :
    (solitary.addRefs ⟨0, 0⟩ 4294967295).1 = true ∧
      Tally.Run ⟨0, 0⟩ ⟨4294967296, 4294967295, 4294967296⟩ underpaid ∧
      underpaid.table.isLinked ⟨0, 0⟩ = false ∧ underpaid.table.counters.destroyed = 1 ∧
      underpaid.table.anomalies = 0 ∧
      (underpaid.release .quiet ⟨0, 0⟩ 1).table.anomalies = 1 := by
  have hunlinked : underpaid.table.isLinked ⟨0, 0⟩ = false := by decide +kernel
  have hreturned : Tally.Run ⟨0, 0⟩ ⟨4294967296, 4294967295, 4294967296⟩ underpaid :=
    (overdrawn_run.release 4294967295).aside underpaid_reachable.wf (by decide +kernel)
  exact ⟨rfl, hreturned, hunlinked, by decide +kernel, by decide +kernel, by decide +kernel⟩

end Registry

/-- Before anything is returned, the dialog counts one reference less than were granted. -/
theorem Tally.Run.governs_overdrawn :
    Tally.Run ⟨0, 0⟩ ⟨4294967296, 0, 4294967296⟩ Registry.overdrawn ∧
      Tally.Governs ⟨4294967296, 0, 4294967296⟩ ⟨0, 0⟩ Registry.overdrawn ∧
      (Registry.overdrawn.table.find? ⟨0, 0⟩).map (·.refs) = some 4294967295 :=
  ⟨Registry.overdrawn_run, Tally.Run.governs Registry.overdrawn_run, by decide +kernel⟩

end SipDialogs
